import ImageCatalog.Value.Entries
import Mathlib.Data.List.Basic
import Mathlib.Data.List.Induction
import Mathlib.Data.List.Nodup

/-!
# One entry for every key

Gathering a row of entries keeps every key once, at the place where it first occurs, with the
content that is given last. `ofList_eq_onePerKey` states this for the whole result: entries with
distinct keys are determined by the row of their keys and by what is found under each.
-/

namespace ImageCatalog.Entries

variable {Key : Type} [DecidableEq Key] {Content : Type}

/-- The content that a row of entries gives last for a key. -/
def lastOf? (key : Key) (entries : List (Key × Content)) : Option Content :=
  find? key entries.reverse

/-- One entry for every key, at the place of the first entry of the key and with the content of the
last one. -/
def onePerKey (entries : List (Key × Content)) : List (Key × Content) :=
  (keys entries).eraseDups.filterMap fun key => (lastOf? key entries).map fun content => (key, content)

theorem lastOf?_concat (key : Key) (entries : List (Key × Content)) (entry : Key × Content) :
    lastOf? key (entries ++ [entry]) =
      if entry.1 = key then some entry.2 else lastOf? key entries := by
  rw [lastOf?, List.reverse_append, List.reverse_singleton, List.singleton_append, find?]
  rfl

theorem mem_keys_put {key other : Key} {content : Content} {entries : List (Key × Content)} :
    other ∈ keys (put key content entries) ↔ other = key ∨ other ∈ keys entries := by
  rw [keys_put]
  split
  · next known =>
      constructor
      · exact .inr
      · rintro (rfl | member)
        · exact known
        · exact member
  · simp [or_comm]

theorem keys_ofList (entries : List (Key × Content)) :
    keys (ofList entries) = (keys entries).eraseDups := by
  induction entries using List.reverseRecOn with
  | nil => rfl
  | append_singleton entries entry hypothesis =>
      have row : keys (entries ++ [entry]) = keys entries ++ [entry.1] := by simp [keys]
      rw [ofList_concat, keys_put, hypothesis, row, List.eraseDups_append]
      by_cases known : entry.1 ∈ keys entries
      · simp [List.mem_eraseDups, known, List.removeAll]
      · simp [List.mem_eraseDups, known, List.removeAll, List.eraseDups_cons]

theorem find?_ofList (key : Key) (entries : List (Key × Content)) :
    find? key (ofList entries) = lastOf? key entries := by
  induction entries using List.reverseRecOn with
  | nil => rfl
  | append_singleton entries entry hypothesis =>
      rw [ofList_concat, find?_put, lastOf?_concat, hypothesis]
      simp [eq_comm]

/-- Entries with distinct keys are determined by their keys and by what is found under them. -/
theorem eq_filterMap_keys {entries : List (Key × Content)} (distinct : (keys entries).Nodup) :
    entries = (keys entries).filterMap fun key =>
      (find? key entries).map fun content => (key, content) := by
  induction entries with
  | nil => rfl
  | cons entry rest hypothesis =>
      obtain ⟨name, content⟩ := entry
      rw [keys, List.map_cons, List.nodup_cons] at distinct
      have others : ∀ key ∈ keys rest,
          ((find? key ((name, content) :: rest)).map fun content => (key, content)) =
            (find? key rest).map fun content => (key, content) := by
        intro key member
        have differs : name ≠ key := by
          rintro rfl
          exact distinct.1 member
        rw [find?, if_neg differs]
      have found : find? name ((name, content) :: rest) = some content := if_pos rfl
      have later := hypothesis distinct.2
      simp only [keys, List.map_cons, List.filterMap_cons, found, Option.map_some]
      exact congrArg ((name, content) :: ·) (later.trans (List.filterMap_congr others).symm)

theorem ofList_eq_onePerKey (entries : List (Key × Content)) :
    ofList entries = onePerKey entries := by
  rw [eq_filterMap_keys (nodup_keys_ofList entries), keys_ofList]
  simp only [find?_ofList]
  rfl

/-- Entries with distinct keys are kept as they are. -/
theorem ofList_eq_self {entries : List (Key × Content)} (distinct : (keys entries).Nodup) :
    ofList entries = entries := by
  induction entries using List.reverseRecOn with
  | nil => rfl
  | append_singleton entries entry hypothesis =>
      rw [keys, List.map_append, List.nodup_append] at distinct
      have absent : entry.1 ∉ keys entries := fun member =>
        distinct.2.2 _ member _ List.mem_cons_self rfl
      rw [ofList_concat, hypothesis distinct.1, put_of_not_mem absent]

theorem find?_of_mem {entry : Key × Content} {entries : List (Key × Content)}
    (distinct : (keys entries).Nodup) (member : entry ∈ entries) :
    find? entry.1 entries = some entry.2 := by
  induction entries with
  | nil => cases member
  | cons first rest hypothesis =>
      rw [keys, List.map_cons, List.nodup_cons] at distinct
      rw [find?]
      rcases List.mem_cons.mp member with rfl | later
      · rw [if_pos rfl]
      · have differs : first.1 ≠ entry.1 := by
          intro same
          exact distinct.1 (same ▸ List.mem_map_of_mem later)
        rw [if_neg differs]
        exact hypothesis distinct.2 later

/-- Entries with distinct keys that hold the same are the same up to their order. -/
theorem perm_of_find?_eq {entries others : List (Key × Content)} (distinct : (keys entries).Nodup)
    (distinctToo : (keys others).Nodup) (same : ∀ key, find? key entries = find? key others) :
    entries.Perm others := by
  have mem_iff {row : List (Key × Content)} (nodup : (keys row).Nodup) (entry : Key × Content) :
      entry ∈ row ↔ find? entry.1 row = some entry.2 := by
    constructor
    · exact find?_of_mem nodup
    · exact mem_of_find?
  have nodup : entries.Nodup := .of_map Prod.fst distinct
  have nodupToo : others.Nodup := .of_map Prod.fst distinctToo
  apply (List.perm_ext_iff_of_nodup nodup nodupToo).mpr
  intro entry
  rw [mem_iff distinct, mem_iff distinctToo, same]

/-- What is given for a key is given last if no key is given twice. -/
theorem lastOf?_of_mem {entry : Key × Content} {entries : List (Key × Content)}
    (distinct : (keys entries).Nodup) (member : entry ∈ entries) :
    lastOf? entry.1 entries = some entry.2 := by
  rw [← find?_ofList, ofList_eq_self distinct]
  exact find?_of_mem distinct member

theorem onePerKey_eq_nil_iff (entries : List (Key × Content)) :
    onePerKey entries = [] ↔ entries = [] := by
  rw [← ofList_eq_onePerKey]
  constructor
  · intro empty
    have none : (keys entries).eraseDups = [] := by rw [← keys_ofList, empty]; rfl
    cases entries with
    | nil => rfl
    | cons entry rest =>
        have member : entry.1 ∈ (keys (entry :: rest)).eraseDups :=
          List.mem_eraseDups.mpr (by simp [keys])
        rw [none] at member
        exact absurd member List.not_mem_nil
  · rintro rfl
    rfl

/-! ## As list operations -/

theorem find?_eq_find? (key : Key) (entries : List (Key × Content)) :
    find? key entries = (entries.find? fun entry => entry.1 = key).map Prod.snd := by
  induction entries with
  | nil => rfl
  | cons entry rest hypothesis =>
      obtain ⟨name, content⟩ := entry
      by_cases same : name = key <;> simp [find?, same, hypothesis]

/-- Among entries with distinct keys a key that is there is overwritten in its place. -/
theorem put_eq_map {key : Key} {entries : List (Key × Content)} (distinct : (keys entries).Nodup)
    (member : key ∈ keys entries) (content : Content) :
    put key content entries =
      entries.map fun entry => if entry.1 = key then (key, content) else entry := by
  induction entries with
  | nil => cases member
  | cons entry rest hypothesis =>
      obtain ⟨name, old⟩ := entry
      rw [keys, List.map_cons, List.nodup_cons] at distinct
      by_cases same : name = key
      · subst same
        have others : ∀ entry ∈ rest,
            (if entry.1 = name then (name, content) else entry) = entry := by
          intro entry entryMem
          apply if_neg
          intro equal
          exact distinct.1 (List.mem_map.mpr ⟨entry, entryMem, equal⟩)
        rw [put, if_pos rfl, List.map_cons, if_pos rfl, List.map_congr_left others, List.map_id']
      · have later : key ∈ keys rest := (List.mem_cons.mp member).resolve_left (Ne.symm same)
        rw [put, if_neg same, List.map_cons, if_neg same, hypothesis distinct.2 later]

/-- Among entries with distinct keys deleting leaves those with other keys. -/
theorem drop_eq_filter {entries : List (Key × Content)} (distinct : (keys entries).Nodup)
    (key : Key) : drop key entries = entries.filter fun entry => entry.1 ≠ key := by
  induction entries with
  | nil => rfl
  | cons entry rest hypothesis =>
      obtain ⟨name, old⟩ := entry
      rw [keys, List.map_cons, List.nodup_cons] at distinct
      by_cases same : name = key
      · subst same
        have others : ∀ entry ∈ rest, decide (entry.1 ≠ name) = true := by
          intro entry entryMem
          rw [decide_eq_true_eq]
          intro equal
          exact distinct.1 (List.mem_map.mpr ⟨entry, entryMem, equal⟩)
        rw [drop, if_pos rfl, List.filter_cons_of_neg (by simp), List.filter_eq_self.mpr others]
      · rw [drop, if_neg same, List.filter_cons_of_pos (by simpa using same),
          hypothesis distinct.2]

theorem mem_of_mem_drop {key : Key} {entry : Key × Content} {entries : List (Key × Content)}
    (member : entry ∈ drop key entries) : entry ∈ entries := by
  induction entries with
  | nil => cases member
  | cons first rest hypothesis =>
      unfold drop at member
      split at member
      · exact List.mem_cons_of_mem _ member
      · rcases List.mem_cons.mp member with rfl | later
        · exact List.mem_cons_self
        · exact List.mem_cons_of_mem _ (hypothesis later)

end ImageCatalog.Entries
