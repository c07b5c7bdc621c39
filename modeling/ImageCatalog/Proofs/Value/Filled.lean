import ImageCatalog.Proofs.Results
import ImageCatalog.Value.Print

/-!
# Texts that show something

A value never prints as nothing, except for the empty text, which prints as itself. So a value that
counts as present has a text on the wire that is not empty.
-/

namespace ImageCatalog

open Number Results Text

/-! ## Numbers -/

theorem Number.magnitudeChars_ne_nil (layout : Layout) (number : Finite) :
    magnitudeChars layout number ≠ [] := by
  have positional (digits : List Char) (leading : Int) : positional digits leading ≠ [] := by
    unfold Number.positional
    split
    · simp
    · simp
  have scientific (digits : List Char) (leading : Int) : scientific layout digits leading ≠ [] := by
    simp [Number.scientific]
  unfold magnitudeChars
  split
  · simp
  · simp only
    split
    · exact positional _ _
    · exact scientific _ _

theorem Number.write_printed_ne_empty (number : Binary64) : Layout.printed.write number ≠ "" := by
  cases number with
  | notANumber => decide
  | infinite negative => cases negative <;> decide
  | finite number =>
      simp only [Layout.write, ne_eq, String.ofList_eq_empty_iff]
      split
      · exact List.cons_ne_nil _ _
      · exact magnitudeChars_ne_nil _ number

theorem Text.intText_ne_empty {number : Int} {text : String} (spelt : intText number = .ok text) :
    text ≠ "" := by
  unfold intText at spelt
  split at spelt
  · cases spelt
    rw [ne_eq, String.ofList_eq_empty_iff, intChars]
    split
    · exact List.cons_ne_nil _ _
    · exact Nat.toDigits_ne_nil
  · cases spelt

/-! ## Days and times -/

theorem Date.print_ne_empty (day : Date) : day.print ≠ "" := by
  simp [Date.print]

theorem Timestamp.print_ne_empty (time : Timestamp) : time.print ≠ "" := by
  unfold Timestamp.print
  intro empty
  exact time.date.print_ne_empty (String.append_eq_empty_iff.mp empty).1

theorem Text.closed_ne_empty (front : String) : front ++ ")" ≠ "" := by
  intro empty
  have closing : ")" = "" := (String.append_eq_empty_iff.mp empty).2
  revert closing
  decide

theorem Date.quote_ne_empty (day : Date) : day.quote ≠ "" :=
  closed_ne_empty _

theorem Timestamp.quote_ne_empty (time : Timestamp) : time.quote ≠ "" :=
  closed_ne_empty _

/-! ## Values -/

namespace Value

variable {value : Value} {text : String}

theorem quote_ne_empty (quoted : value.quote = .ok text) : text ≠ "" := by
  cases value with
  | null =>
      cases quoted
      decide
  | bool flag =>
      cases quoted
      cases flag <;> decide
  | int number => exact intText_ne_empty quoted
  | float number =>
      cases quoted
      exact write_printed_ne_empty number
  | text chars =>
      cases quoted
      simp [Quoted.quote]
  | bytes content =>
      cases quoted
      simp [Quoted.quoteBytes]
  | date day =>
      rw [quote, Except.ok.injEq] at quoted
      rw [← quoted]
      exact day.quote_ne_empty
  | timestamp time =>
      rw [quote, Except.ok.injEq] at quoted
      rw [← quoted]
      exact time.quote_ne_empty
  | pair first second =>
      rw [quote] at quoted
      rcases bind_ok quoted with ⟨left, _, further⟩
      rcases bind_ok further with ⟨right, _, made⟩
      cases made
      simp
  | set items =>
      rcases bind_ok quoted with ⟨pieces, _, made⟩
      cases made
      split
      · decide
      · simp
  | _ =>
      rcases bind_ok quoted with ⟨pieces, _, made⟩
      cases made
      simp

theorem print_ne_empty (truthy : value.isTruthy = true) (printed : value.print = .ok text) :
    text ≠ "" := by
  cases value with
  | text chars =>
      cases printed
      simpa [isTruthy] using truthy
  | date day =>
      cases printed
      exact day.print_ne_empty
  | timestamp time =>
      cases printed
      exact time.print_ne_empty
  | _ => exact quote_ne_empty printed

/-- A value that counts as present shows on the wire. -/
theorem stringify_ne_empty (truthy : value.isTruthy = true) (spelt : value.stringify = .ok text) :
    text ≠ "" := by
  cases value with
  | bool flag =>
      cases spelt
      cases flag <;> decide
  | float number =>
      cases number with
      | finite number =>
          -- Without a fraction it is written as a whole number.
          simp only [stringify] at spelt
          split at spelt
          · exact intText_ne_empty spelt
          · cases spelt
            exact write_printed_ne_empty (.finite number)
      | _ => exact quote_ne_empty spelt
  | _ => exact print_ne_empty truthy spelt

end Value

end ImageCatalog
