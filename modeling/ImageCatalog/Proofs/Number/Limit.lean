import ImageCatalog.Number.Literal
import ImageCatalog.Proofs.Json.Reading

/-!
# Numbers within the limit

Texts of whole numbers have a limited number of digits, whether a user types them or they stand in a
document. So no whole number that is read from a text is too long to be written as one.
-/

namespace ImageCatalog.Number

open Text

theorem isDigit_of_ungroup? {chars plain : List Char} (read : ungroup? chars = some plain) :
    ∀ digit ∈ plain, digit.isDigit = true := by
  fun_induction ungroup? chars generalizing plain with
  | case1 => cases read
  | case2 digit isDigit =>
      cases read
      simpa using isDigit
  | case3 => cases read
  | case4 digit rest isDigit hypothesis =>
      rcases Option.map_eq_some_iff.mp read with ⟨others, later, rfl⟩
      exact List.forall_mem_cons.mpr ⟨isDigit, hypothesis later⟩
  | case5 => cases read
  | case6 digit rest _ _ isDigit hypothesis =>
      rcases Option.map_eq_some_iff.mp read with ⟨others, later, rfl⟩
      exact List.forall_mem_cons.mpr ⟨isDigit, hypothesis later⟩
  | case7 => cases read

/-- A sign does not make a number longer. -/
theorem natAbs_signed (negative : Prop) [Decidable negative] (size : Nat) :
    (if negative then -(size : Int) else size).natAbs = size := by
  split
  · rw [Int.natAbs_neg, Int.natAbs_natCast]
  · rw [Int.natAbs_natCast]

theorem natAbs_lt_of_readWhole? {chars : List Char} {number : Int}
    (read : readWhole? chars = some number) : number.natAbs < Nat.pow 10 digitLimit := by
  unfold readWhole? at read
  split at read
  rcases Option.bind_eq_some_iff.mp read with ⟨plain, digits, within⟩
  split at within
  · cases within
  · next short =>
      cases within
      rw [natAbs_signed]
      exact Json.digitsToNat_lt (isDigit_of_ungroup? digits) (Nat.not_lt.mp short)

theorem natAbs_lt_of_readFieldWhole {chars : List Char} {number : Int}
    (read : readFieldWhole chars = .value number) : number.natAbs < Nat.pow 10 digitLimit := by
  have short {digits : List Char} (decimal : (!digits.isEmpty && digits.all Char.isDigit) = true)
      (within : digits.length ≤ digitLimit) : digitsToNat digits < Nat.pow 10 digitLimit := by
    rw [Bool.and_eq_true, List.all_eq_true] at decimal
    exact Json.digitsToNat_lt decimal.2 within
  unfold readFieldWhole at read
  split at read
  · cases read
  · next plain _ =>
      split at read
      · cases read
      · next within =>
          rw [Nat.not_lt] at within
          split at read
          simp only at read
          split at read
          · next negative digits parted decimal =>
              cases read
              have fewer : digits.length ≤ digitLimit := by
                split at parted
                · cases parted
                  exact Nat.le_of_succ_le within
                · cases parted
                  exact within
              rw [natAbs_signed]
              exact short decimal fewer
          · cases read

end ImageCatalog.Number
