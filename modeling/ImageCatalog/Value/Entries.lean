/-!
# Ordered entries

Objects, value maps and the saved settings are lists of entries in the order in which their keys
were first written. `find?` looks an entry up, `put` overwrites an entry in its place or appends a
new one, and `drop` deletes one. The small lemmas say what each operation does to `find?` and to the
row of keys.
-/

namespace ImageCatalog.Entries

variable {Key : Type} [DecidableEq Key] {Content : Type}

/-- The content of the first entry with the given key. -/
def find? (key : Key) : List (Key × Content) → Option Content
  | [] => none
  | (name, content) :: rest => if name = key then some content else find? key rest

/-- Overwrite the content of a key in its place, or append a new entry. -/
def put (key : Key) (content : Content) : List (Key × Content) → List (Key × Content)
  | [] => [(key, content)]
  | (name, old) :: rest =>
    if name = key then (name, content) :: rest else (name, old) :: put key content rest

/-- Delete the entry of a key. -/
def drop (key : Key) : List (Key × Content) → List (Key × Content)
  | [] => []
  | (name, content) :: rest => if name = key then rest else (name, content) :: drop key rest

/-- The keys in order. -/
def keys (entries : List (Key × Content)) : List Key :=
  entries.map Prod.fst

/-- Keep, for a row of entries with repeated keys, the place of the first and the content of the
last entry of each key. -/
def ofList (entries : List (Key × Content)) : List (Key × Content) :=
  entries.foldl (fun made entry => put entry.1 entry.2 made) []

theorem mem_of_find? {key : Key} {content : Content} {entries : List (Key × Content)}
    (found : find? key entries = some content) : (key, content) ∈ entries := by
  induction entries with
  | nil => simp [find?] at found
  | cons entry rest step =>
    obtain ⟨name, old⟩ := entry
    by_cases same : name = key
    · simp only [find?, same, if_true, Option.some.injEq] at found
      simp [same, found]
    · simp only [find?, same, if_false] at found
      exact List.mem_cons_of_mem _ (step found)

theorem find?_put_self (key : Key) (content : Content) (entries : List (Key × Content)) :
    find? key (put key content entries) = some content := by
  induction entries with
  | nil => simp [put, find?]
  | cons entry rest step =>
    by_cases same : entry.1 = key <;> simp [put, find?, same, step]

theorem find?_put_of_ne {key other : Key} (differs : other ≠ key) (content : Content)
    (entries : List (Key × Content)) :
    find? other (put key content entries) = find? other entries := by
  induction entries with
  | nil => simp [put, find?, Ne.symm differs]
  | cons entry rest step =>
    obtain ⟨name, old⟩ := entry
    by_cases same : name = key
    · subst same
      simp [put, find?, Ne.symm differs]
    · simp [put, find?, same, step]

/-- Writing changes what is found under its own key only. -/
theorem find?_put (key other : Key) (content : Content) (entries : List (Key × Content)) :
    find? other (put key content entries) =
      if other = key then some content else find? other entries := by
  by_cases same : other = key
  · subst same
    simp [find?_put_self]
  · simp [same, find?_put_of_ne same]

theorem find?_drop_of_ne {key other : Key} (differs : other ≠ key)
    (entries : List (Key × Content)) : find? other (drop key entries) = find? other entries := by
  induction entries with
  | nil => rfl
  | cons entry rest step =>
    obtain ⟨name, old⟩ := entry
    by_cases same : name = key
    · subst same
      simp [drop, find?, Ne.symm differs]
    · simp [drop, find?, same, step]

/-- Writing keeps the row of keys, to which a new key is appended. -/
theorem keys_put (key : Key) (content : Content) (entries : List (Key × Content)) :
    keys (put key content entries) =
      if key ∈ keys entries then keys entries else keys entries ++ [key] := by
  induction entries with
  | nil => simp [put, keys]
  | cons entry rest step =>
    obtain ⟨name, old⟩ := entry
    by_cases same : name = key
    · simp [put, keys, same]
    · have other : ¬key = name := fun equal => same equal.symm
      simp only [keys] at step
      by_cases found : key ∈ rest.map Prod.fst <;>
        simp_all [put, keys]

/-- Deleting removes the first occurrence of a key. -/
theorem keys_drop (key : Key) (entries : List (Key × Content)) :
    keys (drop key entries) = (keys entries).erase key := by
  induction entries with
  | nil => rfl
  | cons entry rest step =>
    obtain ⟨name, old⟩ := entry
    simp only [keys] at step
    by_cases same : name = key <;> simp_all [drop, keys]

theorem find?_eq_none_iff (key : Key) (entries : List (Key × Content)) :
    find? key entries = none ↔ key ∉ keys entries := by
  induction entries with
  | nil => simp [find?, keys]
  | cons entry rest step =>
    obtain ⟨name, content⟩ := entry
    simp only [keys] at step
    by_cases same : name = key
    · simp [find?, keys, same]
    · simp [find?, keys, same, step, Ne.symm same]

theorem nodup_keys_put {entries : List (Key × Content)} (distinct : (keys entries).Nodup)
    (key : Key) (content : Content) : (keys (put key content entries)).Nodup := by
  rw [keys_put]
  split
  · exact distinct
  · next absent =>
    refine List.nodup_append.mpr ⟨distinct, by simp, fun name nameMem other otherMem => ?_⟩
    rintro rfl
    exact absent (List.mem_singleton.mp otherMem ▸ nameMem)

theorem nodup_keys_drop {entries : List (Key × Content)} (distinct : (keys entries).Nodup)
    (key : Key) : (keys (drop key entries)).Nodup := by
  rw [keys_drop]
  exact distinct.erase key

/-- Among entries with distinct keys nothing is found under a deleted key. -/
theorem find?_drop_self {entries : List (Key × Content)} (distinct : (keys entries).Nodup)
    (key : Key) : find? key (drop key entries) = none := by
  rw [find?_eq_none_iff, keys_drop]
  exact distinct.not_mem_erase

/-- Writing an entry brings in no other one. -/
theorem mem_put {key : Key} {content : Content} {entry : Key × Content}
    {entries : List (Key × Content)} (member : entry ∈ put key content entries) :
    entry = (key, content) ∨ entry ∈ entries := by
  induction entries with
  | nil => exact .inl (List.mem_singleton.mp member)
  | cons first rest step =>
    obtain ⟨name, old⟩ := first
    by_cases same : name = key
    · simp only [put, same, if_true, List.mem_cons] at member ⊢
      exact member.imp_right .inr
    · simp only [put, same, if_false, List.mem_cons] at member ⊢
      rcases member with head | tail
      · exact .inr (.inl head)
      · exact (step tail).imp_right .inr

/-- A key that is not there is appended. -/
theorem put_of_not_mem {key : Key} {entries : List (Key × Content)} (absent : key ∉ keys entries)
    (content : Content) : put key content entries = entries ++ [(key, content)] := by
  induction entries with
  | nil => rfl
  | cons entry rest step =>
    obtain ⟨name, old⟩ := entry
    simp only [keys, List.map_cons, List.mem_cons, not_or] at absent
    rw [put, if_neg (Ne.symm absent.1), step absent.2, List.cons_append]

theorem ofList_concat (entries : List (Key × Content)) (entry : Key × Content) :
    ofList (entries ++ [entry]) = put entry.1 entry.2 (ofList entries) := by
  simp [ofList]

theorem nodup_keys_ofList (entries : List (Key × Content)) : (keys (ofList entries)).Nodup := by
  have distinct (made : List (Key × Content)) (nodup : (keys made).Nodup) :
      (keys (entries.foldl (fun made entry => put entry.1 entry.2 made) made)).Nodup := by
    induction entries generalizing made with
    | nil => exact nodup
    | cons entry rest step => exact step _ (nodup_keys_put nodup entry.1 entry.2)
  exact distinct [] List.nodup_nil

/-- Every entry that is kept is one of the given ones. -/
theorem mem_of_mem_ofList {entry : Key × Content} {entries : List (Key × Content)}
    (member : entry ∈ ofList entries) : entry ∈ entries := by
  have origin (others made : List (Key × Content))
      (found : entry ∈ others.foldl (fun made entry => put entry.1 entry.2 made) made) :
      entry ∈ made ∨ entry ∈ others := by
    induction others generalizing made with
    | nil => exact .inl found
    | cons first rest step =>
      rcases step _ found with early | late
      · rcases mem_put early with rfl | older
        · exact .inr List.mem_cons_self
        · exact .inl older
      · exact .inr (List.mem_cons_of_mem _ late)
  exact (origin entries [] member).resolve_left List.not_mem_nil

end ImageCatalog.Entries
