import ImageCatalog.Proofs.Path.Number

/-!
# Overlong numbers in paths

A number can stand in a path in three ways: as a segment, in a bracket, and as a part of a slice. In
brackets and slices a number with too many digits is like a word that is no number, and the path
leads to null. As a segment that meets a list it makes following the path fail instead, although
the same segment leads to null where it meets anything else.
-/

namespace ImageCatalog.Path

open Json Number Results Text

variable {name : String}

theorem isDigits_ofList_replicate (count : Nat) :
    isDigits (String.ofList (List.replicate (count + 1) '1')) = true := by
  rw [isDigits_iff]
  constructor
  · simp [← String.toList_inj, List.replicate_succ]
  · intro char member
    rw [String.toList_ofList] at member
    rw [List.eq_of_mem_replicate member]
    rfl

/-- A number that is too long fails as a segment for a list; in a bracket it selects nothing. -/
theorem resolve_digits_of_beyond (digits : isDigits name = true)
    (beyond : digitLimit < name.toList.length) (items : List Value) :
    resolve (.list items) name = .error (.reading name.toList.length) ∧
      resolve (.list items) ("[" ++ name ++ "]") = .ok .null := by
  constructor
  · have fails : (Step.key name).reach (.list items) = .error (.reading name.toList.length) :=
      reach_error_iff.mpr ⟨name, items, rfl, rfl, digits, beyond, rfl⟩
    rw [resolve, parse_digits digits, follow_cons, fails]
    rfl
  · have nothing : Selector.read? name = none := by rw [read?_digits digits, if_pos beyond]
    have parsed : parse ("[" ++ name ++ "]") = [.index name] :=
      parse_bracket (isExpression_of_isDigits digits)
    simp [resolve, parsed, follow, nothing]

/-! ## All paths -/

/-- A path has no value in a document exactly if a segment with too many digits is followed into a
list somewhere on the way; it is this segment that is reported. No other step can fail, and a step
that leads nowhere leads to null. -/
theorem resolve_error_iff (document : Value) (path : String) :
    ((∃ fault, resolve document path = .error fault) ↔
      ∃ count, Overruns (parse path) document count) ∧
    ((∃ fault, resolveFlat document path = .error fault) ↔
      ∃ count, Overruns (parse path) document count) ∧
    (∀ fault, resolve document path = .error fault →
      ∃ count, fault = .reading count ∧ digitLimit < count ∧
        Overruns (parse path) document count) ∧
    (∀ step value, (∃ fault, follow [step] value = .error fault) ↔
      ∃ name items, step = .key name ∧ value = .list items ∧ isDigits name = true ∧
        digitLimit < name.toList.length) ∧
    ∀ step rest value, step.reach value = .ok .nowhere → follow (step :: rest) value = .ok .null := by
  refine ⟨follow_error_iff, ?_, ?_, ?_, ?_⟩
  · rw [← follow_error_iff]
    apply exists_congr
    intro fault
    exact map_error_iff
  · intro fault fails
    rcases overruns_of_follow fails with ⟨count, isCount, overruns⟩
    exact ⟨count, isCount, overruns.beyond, overruns⟩
  · intro step value
    rw [follow_error_iff]
    constructor
    · rintro ⟨count, overruns⟩
      cases overruns with
      | here digits beyond => exact ⟨_, _, rfl, rfl, digits, beyond⟩
      | place _ later => cases later
      | item _ _ later => cases later
    · rintro ⟨name, items, rfl, rfl, digits, beyond⟩
      exact ⟨_, .here digits beyond [] items⟩
  · intro step rest value nowhere
    rw [follow_cons, nowhere]
    rfl

/-- A number with one digit too many. -/
def overlong : String :=
  String.ofList (List.replicate (digitLimit + 1) '1')

/-- The number fails as a segment for a list. In a bracket, or for an object, it leads to null. -/
theorem resolve_overlong :
    resolve (.list [.int 1]) overlong = .error (.reading 4301) ∧
    resolveFlat (.list [.int 1]) overlong = .error (.reading 4301) ∧
    resolve (.list [.int 1]) ("[" ++ overlong ++ "]") = .ok .null ∧
    resolve (.object []) overlong = .ok .null := by
  have digits : isDigits overlong = true := isDigits_ofList_replicate digitLimit
  have length : overlong.toList.length = 4301 := by
    rw [overlong, String.toList_ofList, List.length_replicate]
    rfl
  have beyond : digitLimit < overlong.toList.length := by
    rw [length]
    decide
  rcases resolve_digits_of_beyond digits beyond [.int 1] with ⟨fails, null⟩
  rw [length] at fails
  refine ⟨fails, ?_, null, ?_⟩
  · rw [resolveFlat, fails]
    rfl
  · rw [resolve, parse_digits digits]
    rfl

end ImageCatalog.Path
