import ImageCatalog.Proofs.Config.Rebuilt
import ImageCatalog.Proofs.Number.Comparison
import ImageCatalog.Proofs.Number.Limit
import ImageCatalog.Proofs.Number.Overflow
import ImageCatalog.Proofs.Value.Document
import ImageCatalog.Request.Override

/-!
# Typed numbers

An override of a number should be refused, or give a finite number that is within the bounds of the
parameter by the exact values of all three. It does neither for two kinds of texts: those that spell
a decimal so large that it is read as an infinity, where no bound keeps it out, and those whose
number is out of bounds where the bound itself is too long to be printed in the refusal.
-/

namespace ImageCatalog

open Config Number Text

/-! ## Texts of real numbers -/

namespace Number

/-- The exact value of the decimal that a real number is written as, without its sign. -/
def RealText.exact (text : RealText) : ℚ :=
  digitsToNat (text.whole ++ text.fraction) * 10 ^ (text.exponent - text.fraction.length)

theorem RealText.isFinite_value (text : RealText) (negative : Bool) :
    (text.value negative).isFinite = true ↔ text.exact < overflowBound := by
  have infinite (sign : Bool) : text.value negative = .infinite sign ↔
      sign = negative ∧ overflowBound ≤ text.exact :=
    Binary64.ofDecimal_eq_infinite_iff
  have someNumber : text.value negative ≠ .notANumber := Binary64.ofDecimal_ne_notANumber _ _ _
  rw [← not_le]
  cases value : text.value negative with
  | notANumber => exact absurd value someNumber
  | infinite sign => simp [Binary64.isFinite, ((infinite sign).mp value).2]
  | finite number =>
      have within : ¬overflowBound ≤ text.exact := by
        intro reaches
        have := (infinite negative).mpr ⟨rfl, reaches⟩
        rw [value] at this
        cases this
      simp [Binary64.isFinite, within]

/-- The sign and the parts of the real number that a typed text denotes. -/
def readParts? (text : List Char) : Option (Bool × RealText) :=
  let chars := toAsciiDigits (trimBy isUnicodeSpace text)
  if underscoresFit ' ' chars then
    let (negative, rest) := splitSign (chars.filter (· != '_'))
    (readUnsigned? rest).map fun written => (negative, written)
  else none

theorem readReal?_eq (text : List Char) :
    readReal? text = (readParts? text).map fun (negative, written) => written.value negative := by
  simp only [readReal?, readParts?]
  split
  · cases readUnsigned? (splitSign _).2 <;> rfl
  · rfl

end Number

/-! ## Bounds -/

/-- The number is on the wrong side of a bound of the field. -/
inductive Config.NumberField.Excludes (field : NumberField) (number bound : Quantity) : Prop where
  | below (least : bound ∈ field.least) (less : number.isLess bound = true)
  | above (greatest : bound ∈ field.greatest) (greater : bound.isLess number = true)

/-- No number is both below the least and above the greatest, since these do not cross. -/
theorem Config.NumberField.not_isLess_of_isLess {field : NumberField} {number low high : Quantity}
    (least : low ∈ field.least) (greatest : high ∈ field.greatest)
    (less : number.isLess low = true) : high.isLess number = false := by
  apply Bool.eq_false_iff.mpr
  intro greater
  have crossed := Quantity.isLess_trans greater less
  rw [field.ordered low least high greatest] at crossed
  cases crossed

/-- A number is on the wrong side of at most one bound. -/
theorem Config.NumberField.Excludes.unique {field : NumberField} {number first second : Quantity}
    (firstExcludes : field.Excludes number first) (secondExcludes : field.Excludes number second) :
    first = second := by
  cases firstExcludes with
  | below firstLeast less =>
      cases secondExcludes with
      | below secondLeast _ => exact Option.some.inj (firstLeast.symm.trans secondLeast)
      | above greatest greater =>
          rw [field.not_isLess_of_isLess firstLeast greatest less] at greater
          cases greater
  | above firstGreatest greater =>
      cases secondExcludes with
      | below least less =>
          rw [field.not_isLess_of_isLess least firstGreatest less] at greater
          cases greater
      | above secondGreatest _ => exact Option.some.inj (firstGreatest.symm.trans secondGreatest)

namespace Override

/-- The text has a point and spells a decimal that reaches the bound beyond which numbers are read
as infinities. -/
def Overflows (raw : String) : Prop :=
  '.' ∈ raw.toList ∧ ∃ parts ∈ readParts? raw.toList, overflowBound ≤ parts.2.exact

/-- An override of a number that is refused or gives a finite number within the bounds. -/
inductive StaysWithin (field : NumberField) : Except Fault Value → Prop where
  | refused (refusal : Refusal) : StaysWithin field (refuse refusal)
  | taken (number : Quantity) (value : ℚ) (exact : number.exactValue? = some (value : WithTop ℚ))
      (least : ∀ bound ∈ field.least, ∀ low ∈ bound.exactValue?, low ≤ (value : WithTop ℚ))
      (greatest : ∀ bound ∈ field.greatest, ∀ high ∈ bound.exactValue?,
        (value : WithTop ℚ) ≤ high) :
      StaysWithin field (.ok (quantityValue number))

variable {raw : String} {field : NumberField} {number bound : Quantity}

/-- A typed number is finite unless its text overflows. -/
theorem isFinite_iff_of_readNumber? (read : readNumber? raw = some number) :
    number.isFinite = true ↔ ¬Overflows raw := by
  unfold readNumber? at read
  split at read
  · next point =>
      have hasPoint : '.' ∈ raw.toList := by simpa using point
      rw [readReal?_eq, Option.map_map] at read
      rcases Option.map_eq_some_iff.mp read with ⟨⟨negative, written⟩, parts, rfl⟩
      have finite := written.isFinite_value negative
      simp [Overflows, hasPoint, parts, Quantity.isFinite, finite]
  · next point =>
      have noPoint : '.' ∉ raw.toList := by simpa using point
      rcases Option.map_eq_some_iff.mp read with ⟨whole, _, rfl⟩
      simp [Overflows, noPoint, Quantity.isFinite]

theorem print_ok_of_readNumber? (read : readNumber? raw = some number) :
    ∃ text, number.print = .ok text := by
  unfold readNumber? at read
  split at read
  · rcases Option.map_eq_some_iff.mp read with ⟨real, _, rfl⟩
    exact ⟨_, rfl⟩
  · rcases Option.map_eq_some_iff.mp read with ⟨whole, spelt, rfl⟩
    exact ⟨_, Value.intText_ok (natAbs_lt_of_readWhole? spelt)⟩

/-! ## Overrides of numbers -/

theorem coerceNumber_of_unread (label : String) (unread : readNumber? raw = none) :
    coerceNumber label field raw = refuse (.notNumber label raw) := by
  simp [coerceNumber, unread]

/-- A number is not beyond a bound that does not exclude it. -/
theorem isLess_least (within : ∀ bound, ¬field.Excludes number bound) :
    ∀ low ∈ field.least, number.isLess low = false := by
  intro low given
  apply Bool.eq_false_iff.mpr
  intro less
  exact within low (.below given less)

theorem isLess_greatest (within : ∀ bound, ¬field.Excludes number bound) :
    ∀ high ∈ field.greatest, high.isLess number = false := by
  intro high given
  apply Bool.eq_false_iff.mpr
  intro greater
  exact within high (.above given greater)

theorem coerceNumber_of_within (label : String) (read : readNumber? raw = some number)
    (within : ∀ bound, ¬field.Excludes number bound) :
    coerceNumber label field raw = .ok (quantityValue number) := by
  have least := isLess_least within
  have greatest := isLess_greatest within
  simp only [coerceNumber, read]
  cases low : field.least with
  | none =>
      cases high : field.greatest with
      | none => rfl
      | some bound => simp only [greatest bound high]; rfl
  | some bound =>
      cases high : field.greatest with
      | none => simp only [least bound low]; rfl
      | some other => simp only [least bound low, greatest other high]; rfl

/-- A number on the wrong side of a bound is refused if the bound can be printed. -/
theorem coerceNumber_of_excludes (label : String) (read : readNumber? raw = some number)
    (excludes : field.Excludes number bound) :
    ∃ refusal : String → Refusal, coerceNumber label field raw =
      (withinLimit bound.print).bind fun text => refuse (refusal text) := by
  rcases print_ok_of_readNumber? read with ⟨text, prints⟩
  cases excludes with
  | below least less =>
      refine ⟨.belowLeast label text, ?_⟩
      simp only [coerceNumber, read, Option.mem_def.mp least, less, prints]
      cases bound.print <;> rfl
  | above greatest greater =>
      refine ⟨.aboveGreatest label text, ?_⟩
      have inside (low : Quantity) (least : low ∈ field.least) : number.isLess low = false := by
        apply Bool.eq_false_iff.mpr
        intro less
        rw [field.not_isLess_of_isLess least greatest less] at greater
        cases greater
      simp only [coerceNumber, read, Option.mem_def.mp greatest, greater, prints]
      cases low : field.least with
      | none => cases bound.print <;> rfl
      | some other =>
          simp only [inside other low]
          cases bound.print <;> rfl

theorem quantityValue_inj {other : Quantity} (same : quantityValue number = quantityValue other) :
    number = other := by
  cases number <;> cases other <;> cases same <;> rfl

/-- A number that no bound excludes stays within them exactly if it is finite. -/
theorem staysWithin_ok_iff (within : ∀ bound, ¬field.Excludes number bound) :
    StaysWithin field (.ok (quantityValue number)) ↔ number.isFinite = true := by
  rw [Quantity.isFinite_iff]
  constructor
  · intro stays
    generalize same : quantityValue number = value at stays
    cases stays with
    | taken other value exact _ _ =>
        rw [quantityValue_inj same]
        exact ⟨value, exact⟩
  · rintro ⟨value, exact⟩
    refine .taken number value exact ?_ ?_
    · intro bound given low lowExact
      exact Quantity.isLess_eq_false_iff.mp (isLess_least within bound given) _ exact _ lowExact
    · intro bound given high highExact
      exact Quantity.isLess_eq_false_iff.mp (isLess_greatest within bound given) _ highExact _ exact

/-- An override of a number is refused or gives a finite number within the bounds, unless its text
overflows to an infinity that no bound keeps out, or its number is out of bounds and the bound has
no text for the refusal to name. -/
theorem coerce_number_staysWithin_iff {parameter : Parameter} {field : NumberField}
    (isNumber : parameter.kind = .number field) (raw : String) :
    StaysWithin field (coerce parameter raw) ↔
      ∀ number, readNumber? raw = some number →
        (Overflows raw → ∃ bound, field.Excludes number bound) ∧
        ∀ bound, field.Excludes number bound → ∃ text, bound.print = .ok text := by
  simp only [coerce, isNumber]
  cases read : readNumber? raw with
  | none =>
      rw [coerceNumber_of_unread _ read]
      simp only [reduceCtorEq, false_implies, implies_true, iff_true]
      exact .refused _
  | some number =>
      simp only [Option.some.injEq, forall_eq']
      by_cases excluded : ∃ bound, field.Excludes number bound
      · rcases excluded with ⟨bound, excludes⟩
        rcases coerceNumber_of_excludes (labelOf parameter) read excludes with
          ⟨refusal, coerced⟩
        rw [coerced]
        cases prints : bound.print with
        | ok text =>
            refine iff_of_true (.refused (refusal text)) ⟨fun _ => ⟨bound, excludes⟩, ?_⟩
            intro other otherExcludes
            rw [← excludes.unique otherExcludes]
            exact ⟨text, prints⟩
        | error overflow =>
            refine iff_of_false (by rintro ⟨⟩) ?_
            rintro ⟨_, printed⟩
            rcases printed bound excludes with ⟨text, printsText⟩
            rw [prints] at printsText
            cases printsText
      · have within : ∀ bound, ¬field.Excludes number bound := by simpa using excluded
        rw [coerceNumber_of_within _ read within, staysWithin_ok_iff within,
          isFinite_iff_of_readNumber? read]
        simp [within]

/-- A parameter with a name and the given field. -/
def namedNumber (field : NumberField) : Parameter :=
  ⟨some "n", "", true, .number field⟩

/-- A number in groups of digits with blanks around it, between a whole and a real bound. -/
theorem coerce_number_staysWithin_grouped :
    ∃ field : NumberField,
      checkParameter (namedNumber field).toValue = .valid (namedNumber field) ∧
      field.least = some (.whole 1) ∧ field.greatest = some (.real (.infinite false)) ∧
      StaysWithin field (coerce (namedNumber field) " 1_0.50 ") := by
  have ordered : ∀ low ∈ some (Quantity.whole 1),
      ∀ high ∈ some (Quantity.real (.infinite false)), high.isLess low = false := by decide +kernel
  refine ⟨⟨none, _, _, ordered⟩, checkParameter_toValue _, rfl, rfl, ?_⟩
  refine (coerce_number_staysWithin_iff rfl " 1_0.50 ").mpr ?_
  intro number read
  have finite : number.isFinite = true := by
    have known : (readNumber? " 1_0.50 ").all Quantity.isFinite = true := by decide +kernel
    rw [read] at known
    exact known
  refine ⟨fun overflows => absurd overflows ((isFinite_iff_of_readNumber? read).mp finite), ?_⟩
  rintro bound (⟨least, _⟩ | ⟨greatest, _⟩)
  · cases least
    exact ⟨_, Value.intText_ok (by decide +kernel)⟩
  · cases greatest
    exact ⟨_, rfl⟩

/-- A number with at most a least bound. -/
def atLeast (least : Option Quantity) : NumberField :=
  ⟨none, least, none, by rintro low _ high ⟨⟩⟩

theorem coerce_namedNumber (field : NumberField) (raw : String) :
    coerce (namedNumber field) raw = coerceNumber "n" field raw :=
  rfl

/-- A decimal beyond all numbers is taken as an infinity where there is no bound, and a number below
a least number of 4301 digits is not refused, since the refusal cannot be written. -/
theorem number_not_within :
    (checkParameter (namedNumber (atLeast none)).toValue = .valid (namedNumber (atLeast none)) ∧
      coerce (namedNumber (atLeast none)) "1.0e400" = .ok (.float (.infinite false)) ∧
      ¬StaysWithin (atLeast none) (coerce (namedNumber (atLeast none)) "1.0e400")) ∧
    ∃ least, least = .whole (Nat.pow 10 digitLimit) ∧
      checkParameter (namedNumber (atLeast (some least))).toValue =
        .valid (namedNumber (atLeast (some least))) ∧
      coerce (namedNumber (atLeast (some least))) "5" = .error (.overlong .writing) ∧
      ¬StaysWithin (atLeast (some least)) (coerce (namedNumber (atLeast (some least))) "5") := by
  constructor
  · have read : readNumber? "1.0e400" = some (.real (.infinite false)) := by decide +kernel
    have within (bound : Quantity) : ¬(atLeast none).Excludes (.real (.infinite false)) bound := by
      rintro (⟨⟨⟩, _⟩ | ⟨⟨⟩, _⟩)
    refine ⟨checkParameter_toValue _, ?_⟩
    rw [coerce_namedNumber, coerceNumber_of_within _ read within, staysWithin_ok_iff within]
    exact ⟨rfl, nofun⟩
  · have read : readNumber? "5" = some (.whole 5) := by decide +kernel
    have below : Quantity.isLess (.whole 5) (.whole (Nat.pow 10 digitLimit)) = true := by
      decide +kernel
    have unprinted : Quantity.print (.whole (Nat.pow 10 digitLimit)) = .error .writing := by
      decide +kernel
    refine ⟨_, rfl, checkParameter_toValue _, ?_⟩
    generalize Quantity.whole (Nat.pow 10 digitLimit) = least at below unprinted
    have excludes : (atLeast (some least)).Excludes (.whole 5) least := .below rfl below
    rcases coerceNumber_of_excludes "n" read excludes with ⟨refusal, coerced⟩
    rw [coerce_namedNumber, coerced, unprinted]
    exact ⟨rfl, nofun⟩

end Override

end ImageCatalog
