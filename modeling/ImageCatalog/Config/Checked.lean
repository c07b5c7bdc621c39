import ImageCatalog.Config.Issue

/-!
# Checks that report everything

A check of a document either succeeds with a result or fails with all the issues that it found, of
which there is at least one. Checks that stand side by side are combined so that the issues of all
of them are kept, in order; `andThen` runs a check only if the one before it succeeded.
-/

namespace ImageCatalog.Config

/-- The outcome of a check: a result, or one or more issues. -/
inductive Checked (Result : Type)
  | valid (result : Result)
  | invalid (first : Issue) (others : List Issue)

namespace Checked

variable {Source Result : Type}

/-- A check that fails at the place where it stands. -/
def fail (cause : Cause) : Checked Result :=
  .invalid ⟨[], cause⟩ []

/-- The issues of a check. -/
def issues : Checked Result → List Issue
  | .valid _ => []
  | .invalid first others => first :: others

/-- Apply a function to the result of a check. -/
def map (change : Source → Result) : Checked Source → Checked Result
  | .valid source => .valid (change source)
  | .invalid first others => .invalid first others

/-- Combine two checks that stand side by side. -/
def apply (change : Checked (Source → Result)) (source : Checked Source) : Checked Result :=
  match change, source with
  | .valid function, .valid argument => .valid (function argument)
  | .valid _, .invalid first others => .invalid first others
  | .invalid first others, .valid _ => .invalid first others
  | .invalid first others, .invalid next more => .invalid first (others ++ next :: more)

instance : Functor Checked where
  map := Checked.map

instance : Seq Checked where
  seq change source := apply change (source ())

/-- Run a check on the result of another one. -/
def andThen (source : Checked Source) (next : Source → Checked Result) : Checked Result :=
  match source with
  | .valid result => next result
  | .invalid first others => .invalid first others

/-- The same check, seen from one step further up. -/
def under (part : Part) : Checked Result → Checked Result
  | .valid result => .valid result
  | .invalid first others => .invalid (first.under part) (others.map (Issue.under part))

/-- Check the items of a list from the given number on. -/
def itemsFrom (check : Source → Checked Result) (index : Nat) : List Source → Checked (List Result)
  | [] => .valid []
  | item :: rest =>
    apply (((check item).under (.item index)).map List.cons) (itemsFrom check (index + 1) rest)

/-- Check every item of a list. -/
def items (check : Source → Checked Result) (list : List Source) : Checked (List Result) :=
  itemsFrom check 0 list

@[simp]
theorem issues_map (change : Source → Result) (check : Checked Source) :
    (check.map change).issues = check.issues := by
  cases check <;> rfl

@[simp]
theorem issues_apply (change : Checked (Source → Result)) (source : Checked Source) :
    (apply change source).issues = change.issues ++ source.issues := by
  cases change <;> cases source <;> simp [apply, issues]

@[simp]
theorem issues_under (part : Part) (check : Checked Result) :
    (check.under part).issues = check.issues.map (Issue.under part) := by
  cases check <;> rfl

/-- A check succeeds exactly if it has no issues. -/
theorem issues_eq_nil_iff (check : Checked Result) :
    check.issues = [] ↔ ∃ result, check = .valid result := by
  cases check <;> simp [issues]

end Checked

end ImageCatalog.Config
