import ImageCatalog.Proofs.Catalog.Rounds
import Mathlib.Data.List.Forall2
import Mathlib.Data.List.Induction
import Mathlib.Data.List.Nodup

/-!
# The whole catalog

Of configurations with one name the catalog keeps the one that is offered first, and it keeps the
order of the offers. `IsCatalog` says so in terms of the places where configurations are offered.
Together with the independence of the order of arrival this gives the main result: whatever the
network answers and in whichever order, asking for the catalog ends with the catalog of the selected
backend.
-/

namespace ImageCatalog.Catalog

open Http

/-- Whether a row of configurations is the catalog of a backend: their names are distinct, they
stand in the order of the places where they are offered first, and no offered name is missing. -/
structure IsCatalog (network : Network) (backend : Backend) (catalog : List Config) : Prop where
  distinct : (catalog.map Config.name).Nodup
  first : ∃ places : List Place, places.Pairwise Place.Precedes ∧
    List.Forall₂ (OffersFirst network backend) places catalog
  complete : ∀ place config, Offers network backend place config →
    ∃ kept ∈ catalog, kept.name = config.name

/-! ## The first of each name -/

theorem Place.Precedes.asymm {place other : Place} (precedes : place.Precedes other) :
    ¬other.Precedes place := by
  rcases precedes with before | ⟨same, before⟩
  · rintro (after | ⟨_, _⟩) <;> omega
  · rintro (after | ⟨_, after⟩) <;> omega

theorem firstOfEachName_concat (configs : List Config) (config : Config) :
    firstOfEachName (configs ++ [config]) =
      if (firstOfEachName configs).any (fun other => other.name == config.name) then
        firstOfEachName configs
      else firstOfEachName configs ++ [config] := by
  simp [firstOfEachName]

/-- Whether some entries are the first of each name among a row of entries. -/
structure IsFirstOfEach (entries kept : List (Place × Config)) : Prop where
  sublist : kept.Sublist entries
  distinct : (kept.map fun entry => entry.2.name).Nodup
  covers : ∀ entry ∈ entries, ∃ first ∈ kept, first.2.name = entry.2.name
  first : ∀ first ∈ kept, ∀ entry ∈ entries, entry.2.name = first.2.name →
    ¬entry.1.Precedes first.1

namespace IsFirstOfEach

variable {entries kept : List (Place × Config)} {last : Place × Config}

theorem skip (isFirst : IsFirstOfEach entries kept)
    (later : ∀ entry ∈ entries, entry.1.Precedes last.1)
    (taken : ∃ entry ∈ kept, entry.2.name = last.2.name) :
    IsFirstOfEach (entries ++ [last]) kept where
  sublist := isFirst.sublist.trans (List.sublist_append_left entries [last])
  distinct := isFirst.distinct
  covers := by
    intro entry entryMem
    rcases List.mem_append.mp entryMem with earlier | isLast
    · exact isFirst.covers entry earlier
    · rw [List.mem_singleton.mp isLast]
      exact taken
  first := by
    intro first firstMem entry entryMem sameName
    rcases List.mem_append.mp entryMem with earlier | isLast
    · exact isFirst.first first firstMem entry earlier sameName
    · rw [List.mem_singleton.mp isLast]
      exact (later first (isFirst.sublist.subset firstMem)).asymm

theorem keep (isFirst : IsFirstOfEach entries kept)
    (later : ∀ entry ∈ entries, entry.1.Precedes last.1)
    (untaken : ¬∃ entry ∈ kept, entry.2.name = last.2.name) :
    IsFirstOfEach (entries ++ [last]) (kept ++ [last]) where
  sublist := isFirst.sublist.append_right [last]
  distinct := by
    rw [List.map_append, List.map_cons, List.map_nil, ← List.concat_eq_append]
    refine List.Nodup.concat (fun taken => ?_) isFirst.distinct
    exact untaken (List.mem_map.mp taken)
  covers := by
    intro entry entryMem
    rcases List.mem_append.mp entryMem with earlier | isLast
    · rcases isFirst.covers entry earlier with ⟨first, firstMem, sameName⟩
      exact ⟨first, by simp [firstMem], sameName⟩
    · exact ⟨last, by simp, by rw [List.mem_singleton.mp isLast]⟩
  first := by
    intro first firstMem entry entryMem sameName
    rcases List.mem_append.mp entryMem with earlier | isLast
    · rcases List.mem_append.mp firstMem with firstEarlier | firstLast
      · exact isFirst.first first firstEarlier entry earlier sameName
      · rw [List.mem_singleton.mp firstLast] at sameName
        rcases isFirst.covers entry earlier with ⟨kept, keptMem, keptName⟩
        exact (untaken ⟨kept, keptMem, keptName.trans sameName⟩).elim
    · rw [List.mem_singleton.mp isLast]
      rcases List.mem_append.mp firstMem with firstEarlier | firstLast
      · exact (later first (isFirst.sublist.subset firstEarlier)).asymm
      · rw [List.mem_singleton.mp firstLast]
        exact fun precedes => precedes.asymm precedes

end IsFirstOfEach

/-- Of entries in the order of their places the first of each name are kept. -/
theorem exists_isFirstOfEach {entries : List (Place × Config)}
    (inOrder : entries.Pairwise fun entry later => entry.1.Precedes later.1) :
    ∃ kept, IsFirstOfEach entries kept ∧
      kept.map Prod.snd = firstOfEachName (entries.map Prod.snd) := by
  induction entries using List.reverseRecOn with
  | nil => exact ⟨[], ⟨.slnil, by simp, by simp, by simp⟩, rfl⟩
  | append_singleton entries last hypothesis =>
      rw [List.pairwise_append] at inOrder
      rcases inOrder with ⟨earlierInOrder, _, lastLater⟩
      have later : ∀ entry ∈ entries, entry.1.Precedes last.1 :=
        fun entry entryMem => lastLater entry entryMem last (by simp)
      rcases hypothesis earlierInOrder with ⟨kept, isFirst, same⟩
      have any_iff : ((kept.map Prod.snd).any fun other => other.name == last.2.name) = true ↔
          ∃ entry ∈ kept, entry.2.name = last.2.name := by simp
      rw [List.map_append, List.map_cons, List.map_nil, firstOfEachName_concat, ← same]
      by_cases taken : ∃ entry ∈ kept, entry.2.name = last.2.name
      · exact ⟨kept, isFirst.skip later taken, by rw [if_pos (any_iff.mpr taken)]⟩
      · refine ⟨kept ++ [last], isFirst.keep later taken, ?_⟩
        rw [if_neg (mt any_iff.mp taken), List.map_append]
        rfl

/-! ## The catalog -/

/-- The first of each name among all that a backend offers are its catalog. -/
theorem isCatalog_firstOfEachName (network : Network) (backend : Backend) :
    IsCatalog network backend (firstOfEachName (backend.offered network)) := by
  have inOrder : (placed network backend).Pairwise fun entry later => entry.1.Precedes later.1 :=
    pairwise_placed
  rcases exists_isFirstOfEach inOrder with ⟨kept, isFirst, same⟩
  rw [map_placed] at same
  rw [← same]
  have offered : ∀ entry ∈ kept, OffersFirst network backend entry.1 entry.2 := by
    intro entry entryMem
    refine ⟨mem_placed_iff.mp (isFirst.sublist.subset entryMem), fun other rival offers named => ?_⟩
    exact isFirst.first entry entryMem (other, rival) (mem_placed_iff.mpr offers) named
  refine ⟨?_, ⟨kept.map Prod.fst, ?_, ?_⟩, ?_⟩
  · simpa [Function.comp_def] using isFirst.distinct
  · exact List.pairwise_map.mpr (inOrder.sublist isFirst.sublist)
  · rw [List.forall₂_map_left_iff, List.forall₂_map_right_iff, List.forall₂_same]
    exact offered
  · intro place config offers
    rcases isFirst.covers (place, config) (mem_placed_iff.mpr offers) with
      ⟨first, firstMem, sameName⟩
    exact ⟨first.2, List.mem_map_of_mem firstMem, sameName⟩

/-- Whatever the network answers, asking for the catalog without a kept one ends with the catalog
of the selected backend: without overlap, and with replies that arrive in any order. -/
theorem loads_catalog (network : Network) {source : Source} {backend : Backend}
    (selected : source.backend = .ok backend) (unloaded : source.cache.isLoaded = false) :
    ∃ catalog, IsCatalog network backend catalog ∧
      (source.listCategories network).1 = .ok (backend.categories network) ∧
      (source.getAll network).result = .ok catalog ∧
      source.startLoad = .ok (.load (.waiting backend)) ∧
      (∀ load, Load.Reaches network backend (.waiting backend) load →
        (∃ final, Load.Reaches network backend load final ∧ final.pending = []) ∧
        (load.pending = [] → (source.finishLoad load).1 = .ok catalog)) ∧
      ∀ loads : Nat → Load Source.Fault, loads 0 = .waiting backend →
        ¬∀ time, Load.Arrives network source.backend (loads time) (loads (time + 1)) := by
  refine ⟨firstOfEachName (backend.offered network), isCatalog_firstOfEachName network backend,
    ?_, (Source.getAll_of_unloaded selected unloaded).1,
    Source.startLoad_of_unloaded selected unloaded, ?_, ?_⟩
  · simp only [Source.listCategories, selected]
    rfl
  · intro load reaches
    have started : (Load.waiting backend : Load Source.Fault).Agrees network backend := rfl
    have agrees := Load.agrees_reaches started reaches
    refine ⟨Load.exists_reaches_idle agrees, fun idle => ?_⟩
    have ended : Source.outcome load = .ok (backend.offered network) := by
      rw [← Load.configs_of_reaches reaches idle]
      cases load with
      | stopped fault => exact agrees.elim
      | waiting other => rfl
      | reading categories => rfl
    rw [Source.finishLoad_of_outcome source ended]
  · intro loads first
    have started : (loads 0).Agrees network backend := by
      rw [first]
      rfl
    rw [selected]
    exact Load.not_endless started

/-- An anchor of a page of a static index. -/
def anchorText (classes label : String) : String :=
  "<a href=\"\" class=\"" ++ classes ++ "\">" ++ label ++ "</a>"

/-- A document that describes a service. -/
def serviceText : String :=
  "\x7b\"friendly_name\":\"\",\"link\":\"s\",\"func\":\"get\"," ++
    "\"response\":\x7b\"image\":\x7b\"content_type\":\"URL\"\x7d\x7d\x7d"

/-- A static index with two categories that have a file of the same name, of which the first one
cannot be read. -/
def twiceOffered : Network := fun request =>
  if request.url = "i/" then
    .answered ⟨200, [], Text.Utf8.encode (anchorText "folder" "a" ++ anchorText "folder" "b")⟩
  else if request.url = "i/a/x.api.json" then .failed "ReadTimeout" ""
  else if request.url = "i/b/x.api.json" then .answered ⟨200, [], Text.Utf8.encode serviceText⟩
  else .answered ⟨200, [], Text.Utf8.encode (anchorText "file" "x.api.json")⟩

/-- A source of which the settings select a static index. -/
def indexSource : Source :=
  .start (.own (.ofText "/home"))
    (.ok ⟨"i", "", true, none, .ofText "d", Settings.defaultTimeout, .ofText "s"⟩) (.inMemory [])

theorem loads_catalog_twiceOffered :
    indexSource.backend = .ok (.staticIndex "i/") ∧ indexSource.cache.isLoaded = false ∧
    (indexSource.getAll twiceOffered).result.toOption.map
      (List.map fun config => (config.name, config.category)) = some [("x", "b")] ∧
    ∃ catalog, IsCatalog twiceOffered (.staticIndex "i/") catalog ∧
      (indexSource.getAll twiceOffered).result = .ok catalog := by
  have selected : indexSource.backend = .ok (.staticIndex "i/") := rfl
  have unloaded : indexSource.cache.isLoaded = false := rfl
  rcases loads_catalog twiceOffered selected unloaded with
    ⟨catalog, isCatalog, _, got, _⟩
  exact ⟨selected, unloaded, by decide +kernel, catalog, isCatalog, got⟩

end ImageCatalog.Catalog
