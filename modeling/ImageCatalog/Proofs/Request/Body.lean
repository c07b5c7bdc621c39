import ImageCatalog.Proofs.Json.RoundTrip
import ImageCatalog.Request.Build

/-!
# The body of a request

A service that is asked neither with GET nor with HEAD gets the named values as a JSON object in the
body, and its address as it is. The main result reads the body back: it is the object with one field
for every name under which the map holds a value. Null is a value like any other here; values
without a parameter and values of positional parameters are not sent.
-/

namespace ImageCatalog.PreparedRequest

open Config Results

/-- The values that a map holds for parameters with a name, under these names and in the order of
the parameters. -/
def namedHeld (description : Description) (values : ValueMap) : List (String × Value) :=
  (numbered description).filterMap fun entry =>
    entry.2.sentName?.bind fun name => (values.find? entry.1).map fun value => (name, value)

variable {description : Description} {values : ValueMap}

theorem namedValues_eq (rows : List (Nat × Parameter)) :
    namedValues values rows = rows.filterMap fun entry =>
      entry.2.sentName?.bind fun name =>
        (values.find? entry.1).map fun value => (name, value) := by
  induction rows with
  | nil => rfl
  | cons row rest hypothesis =>
      rw [namedValues, List.filterMap_cons, hypothesis]
      cases row.2.sentName? with
      | none => rfl
      | some name => cases values.find? row.1 <;> rfl

theorem bodyFields_eq : bodyFields description values =
    Entries.onePerKey (namedHeld description values) := by
  rw [bodyFields, namedValues_eq, Entries.ofList_eq_onePerKey]
  rfl

theorem exists_of_mem_namedHeld {field : String × Value}
    (member : field ∈ namedHeld description values) : ∃ index, (index, field.2) ∈ values := by
  rcases List.mem_filterMap.mp member with ⟨entry, _, found⟩
  rcases Option.bind_eq_some_iff.mp found with ⟨name, _, named⟩
  rcases Option.map_eq_some_iff.mp named with ⟨value, held, rfl⟩
  exact ⟨entry.1, Entries.mem_of_find? held⟩

/-- The object in a body has distinct names, and its values are values of the map. -/
theorem isDocument_bodyFields (description : Description)
    (documents : ∀ entry ∈ values, entry.2.IsDocument) :
    (Value.object (bodyFields description values)).IsDocument := by
  refine .object _ (Entries.nodup_keys_ofList _) fun field member => ?_
  have held : field ∈ namedHeld description values := by
    have sent := Entries.mem_of_mem_ofList member
    rwa [namedValues_eq] at sent
  rcases exists_of_mem_namedHeld held with ⟨index, indexMem⟩
  exact documents _ indexMem

/-- Only the values of parameters with a name make a difference to a body. -/
theorem bodyFields_congr {others : ValueMap}
    (same : ∀ entry ∈ numbered description, entry.2.isPositional = false →
      others.find? entry.1 = values.find? entry.1) :
    bodyFields description others = bodyFields description values := by
  rw [bodyFields_eq, bodyFields_eq, namedHeld, namedHeld]
  refine congrArg Entries.onePerKey (List.filterMap_congr fun entry member => ?_)
  cases named : entry.2.sentName? with
  | none => rfl
  | some name =>
      have notPositional : entry.2.isPositional = false := by
        rw [Parameter.isPositional, named]
        rfl
      rw [same entry member notPositional]

theorem build_of_body (asked : isQueryMethod description.method = false) :
    build description values =
      (Json.write (.object (bodyFields description values))).map fun body =>
        ⟨description.link, description.method, some body,
          [("Content-Type", "application/json")]⟩ := by
  simp only [build, asked, Bool.false_eq_true, if_false]

/-- A request with a body is built unless a whole number in it is too long. It goes to the unchanged
address of the service, and its body reads as the object with one field for every name that has a
value, where the first parameter of the name gives the place and the last one gives the value. Other
values in the map make no difference. -/
theorem read_body (asked : isQueryMethod description.method = false)
    (documents : ∀ entry ∈ values, entry.2.IsDocument) :
    ((∃ request, build description values = .ok request) ↔
      ∀ field ∈ Entries.onePerKey (namedHeld description values), field.2.WithinLimit) ∧
    (∀ request, build description values = .ok request →
      request.url = description.link ∧ request.method = description.method ∧
      request.headers = [("Content-Type", "application/json")] ∧
      ∃ body, request.body = some body ∧
        Json.read body = .ok (.object (Entries.onePerKey (namedHeld description values)))) ∧
    ∀ others : ValueMap,
      (∀ entry ∈ numbered description, entry.2.isPositional = false →
        others.find? entry.1 = values.find? entry.1) →
      build description others = build description values := by
  have document := isDocument_bodyFields description documents
  refine ⟨?_, fun request built => ?_, fun others same => ?_⟩
  · rw [build_of_body asked, ← bodyFields_eq]
    constructor
    · rintro ⟨request, built⟩
      rcases map_ok built with ⟨body, written, _⟩
      rcases map_ok written with ⟨chars, writes, _⟩
      exact ((Json.writeValue_ok_iff document .line).mp ⟨chars, writes⟩).field
    · intro within
      rcases (Json.writeValue_ok_iff document .line).mpr (.object _ within) with ⟨chars, writes⟩
      exact ⟨_, by rw [Json.write, writes]; rfl⟩
  · rw [build_of_body asked] at built
    rcases map_ok built with ⟨body, written, rfl⟩
    refine ⟨rfl, rfl, rfl, body, rfl, ?_⟩
    rw [← bodyFields_eq]
    exact Json.read_of_write document written
  · rw [build_of_body asked, build_of_body asked, bodyFields_congr same]

/-- A service that is asked with POST, with a positional parameter and two of one name. -/
def paintService : Description :=
  { title := "", intro := "", icon := none, link := "https://paint.test/?/", verb := "post"
    parameters :=
      [⟨some "tags", "", true, .list ⟨[], none⟩⟩, ⟨some "", "", true, .text none⟩,
        ⟨some "seed", "", true, .number ⟨none, none, none, by simp⟩⟩,
        ⟨some "size", "", true, .text none⟩, ⟨some "tags", "", true, .list ⟨[], none⟩⟩]
    image := ⟨.base64, none⟩ }

/-- Values for all parameters but one, and one value without a parameter. -/
def paintValues : ValueMap :=
  [(4, .list [.text "é\"", .bool true]), (2, .null), (1, .text "cats"), (0, .int 1), (9, .int 2)]

theorem read_body_paint :
    isQueryMethod paintService.method = false ∧
    (∀ entry ∈ paintValues, entry.2.IsDocument) ∧
    build paintService paintValues =
      .ok ⟨"https://paint.test/?/", "POST",
        some "\x7b\"tags\": [\"é\\\"\", true], \"seed\": null\x7d",
        [("Content-Type", "application/json")]⟩ ∧
    Json.read "\x7b\"tags\": [\"é\\\"\", true], \"seed\": null\x7d" =
      .ok (.object [("tags", .list [.text "é\"", .bool true]), ("seed", .null)]) := by
  have asked : isQueryMethod paintService.method = false := by decide +kernel
  have documents : ∀ entry ∈ paintValues, entry.2.IsDocument := by
    simp only [paintValues, List.forall_mem_cons, List.not_mem_nil, false_imp_iff, implies_true,
      and_true]
    refine ⟨.list _ ?_, .null, .text _, .int _, .int _⟩
    simp only [List.forall_mem_cons, List.not_mem_nil, false_imp_iff, implies_true, and_true]
    exact ⟨.text _, .bool _⟩
  have built : build paintService paintValues =
      .ok ⟨"https://paint.test/?/", "POST",
        some "\x7b\"tags\": [\"é\\\"\", true], \"seed\": null\x7d",
        [("Content-Type", "application/json")]⟩ := by decide +kernel
  rcases (read_body asked documents).2.1 _ built with ⟨_, _, _, body, sent, reads⟩
  cases sent
  exact ⟨asked, documents, built, reads⟩

end ImageCatalog.PreparedRequest
