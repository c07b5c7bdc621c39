import ImageCatalog.Path.Step

/-!
# Segments of a path

The field name of a segment ends at its first bracket. An opening bracket that is closed on the same
line contributes the expression up to the first closing bracket, and what stands behind that bracket
is looked through in the same way.
-/

namespace ImageCatalog.Path

open Text

/-! ## Brackets -/

theorem bracketed?_append {inner : List Char} (unclosed : ']' ∉ inner) (inLine : '\n' ∉ inner)
    (rest : List Char) : bracketed? (inner ++ ']' :: rest) = some (inner, inner.length + 1) := by
  induction inner with
  | nil => rfl
  | cons char inner hypothesis =>
      rw [List.mem_cons, not_or] at unclosed inLine
      rw [List.cons_append, bracketed?, hypothesis unclosed.2 inLine.2]
      · rfl
      · exact Ne.symm unclosed.1
      · exact Ne.symm inLine.1

theorem expressionsFrom_append (skipped rest : List Char) :
    expressionsFrom skipped.length (skipped ++ rest) = expressionsFrom 0 rest := by
  induction skipped with
  | nil => rfl
  | cons char skipped hypothesis => simpa [expressionsFrom] using hypothesis

/-- What stands in a bracket is an expression, and the search goes on behind the bracket. -/
theorem expressionsFrom_bracket {inner : List Char} (unclosed : ']' ∉ inner)
    (inLine : '\n' ∉ inner) (rest : List Char) :
    expressionsFrom 0 ('[' :: (inner ++ ']' :: rest)) = inner :: expressionsFrom 0 rest := by
  have behind : expressionsFrom (inner.length + 1) (inner ++ ']' :: rest) =
      expressionsFrom 0 rest := by
    have skips := expressionsFrom_append (inner ++ [']']) rest
    simpa using skips
  simp [expressionsFrom, bracketed?_append unclosed inLine, behind]

/-! ## Names -/

theorem fieldOf_append {name : List Char} (absent : '[' ∉ name) (rest : List Char) :
    fieldOf (name ++ rest) = name ++ fieldOf rest := by
  induction name with
  | nil => rfl
  | cons char name hypothesis =>
      rw [List.mem_cons, not_or] at absent
      simp [fieldOf, Ne.symm absent.1, hypothesis absent.2]

theorem fieldOf_bracket {inner : List Char} (unclosed : ']' ∉ inner) (inLine : '\n' ∉ inner)
    (rest : List Char) : fieldOf ('[' :: (inner ++ ']' :: rest)) = [] := by
  simp [fieldOf, bracketed?_append unclosed inLine]

theorem expressionsFrom_name {name : List Char} (absent : '[' ∉ name) (rest : List Char) :
    expressionsFrom 0 (name ++ rest) = expressionsFrom 0 rest := by
  induction name with
  | nil => rfl
  | cons char name hypothesis =>
      rw [List.mem_cons, not_or] at absent
      simp [expressionsFrom, Ne.symm absent.1, hypothesis absent.2]

end ImageCatalog.Path
