import ImageCatalog.Proofs.Number.Literal
import ImageCatalog.Proofs.Path.Failure
import ImageCatalog.Proofs.Path.Written

/-!
# Numbers in paths

A number can stand in a path as a segment, in a bracket, and as a part of a slice. Its digits, its
sign and the colons of a slice are ink, so that nothing of it is trimmed and nothing ends it early,
and it is read as the number that was written.
-/

namespace ImageCatalog.Path

open Json Number Results Text

/-- Whether a number is within the limit on the digits of number texts. -/
def IsShort (number : Int) : Prop :=
  number.natAbs < Nat.pow 10 digitLimit

theorem isShort_of_lt_ten {number : Int} (small : number.natAbs < 10) : IsShort number := by
  have many {limit : Nat} (some : limit ≠ 0) : 10 ≤ Nat.pow 10 limit := by
    rw [Nat.pow_eq]
    exact Nat.le_self_pow some 10
  exact Nat.lt_of_lt_of_le small (many (by decide))

def decimal (number : Int) : String :=
  String.ofList (intChars number)

/-! ## Ink -/

variable {name : String}

theorem isExpression_of_isInk (ink : ∀ char ∈ name.toList, IsInk char)
    (pointless : '.' ∉ name.toList) (unclosed : ']' ∉ name.toList) : IsExpression name where
  trimmed := trim_of_isInk ink
  pointless := pointless
  unclosed := unclosed
  inLine := fun member => absurd (ink _ member) (by decide)

theorem isFieldName_of_isInk (filled : name ≠ "") (ink : ∀ char ∈ name.toList, IsInk char)
    (pointless : '.' ∉ name.toList) (bracketless : '[' ∉ name.toList) : IsFieldName name where
  filled := filled
  trimmed := trim_of_isInk ink
  pointless := pointless
  bracketless := bracketless

/-! ## Rows of digits -/

theorem isDigits_iff : isDigits name = true ↔ name ≠ "" ∧ AreDigits name.toList := by
  simp [isDigits, AreDigits]

theorem parse_digits (digits : isDigits name = true) : parse name = [.key name] := by
  rcases isDigits_iff.mp digits with ⟨filled, areDigits⟩
  apply parse_name
  apply isFieldName_of_isInk filled (isInk_of_areDigits areDigits)
  · exact not_mem_of_areDigits areDigits rfl
  · exact not_mem_of_areDigits areDigits rfl

theorem isExpression_of_isDigits (digits : isDigits name = true) : IsExpression name := by
  have areDigits := (isDigits_iff.mp digits).2
  apply isExpression_of_isInk (isInk_of_areDigits areDigits)
  · exact not_mem_of_areDigits areDigits rfl
  · exact not_mem_of_areDigits areDigits rfl

/-! ## Decimal texts -/

theorem not_mem_intChars {char : Char} (number : Int) (other : char.isDigit = false)
    (unsigned : char ≠ '-') : char ∉ intChars number := by
  have absent : char ∉ natDigits number.natAbs :=
    not_mem_of_areDigits (areDigits_natDigits _) other
  unfold intChars
  split <;> simp [unsigned, absent]

theorem isExpression_decimal (number : Int) : IsExpression (decimal number) := by
  apply isExpression_of_isInk <;> rw [decimal, String.toList_ofList]
  · exact isInk_intChars number
  · exact not_mem_intChars number rfl (by decide)
  · exact not_mem_intChars number rfl (by decide)

theorem intChars_ne_nil (number : Int) : intChars number ≠ [] := by
  have digits : natDigits number.natAbs ≠ [] := Nat.toDigits_ne_nil
  unfold intChars
  split <;> simp [digits]

theorem isDigits_decimal (place : Nat) : isDigits (decimal place) = true := by
  have unsigned : intChars place = natDigits place := if_neg (by omega)
  have nonempty := intChars_ne_nil place
  rw [isDigits_iff, decimal, String.toList_ofList, ne_eq, String.ofList_eq_empty_iff, unsigned]
  rw [unsigned] at nonempty
  exact ⟨nonempty, areDigits_natDigits place⟩

/-! ## Selectors -/

/-- A bracket without a star and colons selects the item at the place that it spells. -/
theorem read?_of_place (starless : '*' ∉ name.toList) (colonless : ':' ∉ name.toList) :
    Selector.read? name = (readWhole? name.toList).map .place := by
  have noStar : name.toList ≠ ['*'] := by
    intro star
    simp [star] at starless
  simp [Selector.read?, noStar, colonless]

theorem read?_digits (digits : isDigits name = true) :
    Selector.read? name =
      if digitLimit < name.toList.length then none
      else some (.place (digitsToNat name.toList)) := by
  rcases isDigits_iff.mp digits with ⟨filled, areDigits⟩
  have nonempty : name.toList ≠ [] := by simpa using filled
  rw [read?_of_place (not_mem_of_areDigits areDigits rfl) (not_mem_of_areDigits areDigits rfl),
    readWhole?_of_areDigits areDigits nonempty]
  split <;> rfl

theorem read?_decimal {number : Int} (short : IsShort number) :
    Selector.read? (decimal number) = some (.place number) := by
  have chars : (decimal number).toList = intChars number := String.toList_ofList
  rw [read?_of_place, chars, readWhole?_intChars short]
  · rfl
  · rw [chars]
    exact not_mem_intChars number rfl (by decide)
  · rw [chars]
    exact not_mem_intChars number rfl (by decide)

end ImageCatalog.Path
