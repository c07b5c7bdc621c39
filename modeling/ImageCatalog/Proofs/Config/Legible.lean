import ImageCatalog.Proofs.Config.Report
import ImageCatalog.Proofs.Text.Surrogate

/-!
# Reports without halves

A report repeats little of its document: an unknown kind, a method and two bounds. What it repeats
is printed so that no half is left of it, and all other words in it are its own. So every line of a
report can be written, whatever halves the document has.
-/

namespace ImageCatalog

open Json Number Text

/-! ## Printed texts -/

namespace Text

theorem isHalf_of_isPrintable {char : Char} (printable : isPrintable char = true) :
    isHalf char = false := by
  have table : (printableRanges.all fun range => range.2 < 0xD800 + standInOffset) = true := by
    decide +kernel
  refine isHalf_of_lt ?_
  unfold isPrintable at printable
  split at printable
  · next small =>
      unfold standInOffset
      omega
  · rcases List.any_eq_true.mp printable with ⟨range, member, inside⟩
    have below := of_decide_eq_true (List.all_eq_true.mp table range member)
    simp only [Bool.and_eq_true, decide_eq_true_eq] at inside
    omega

theorem all_noHalf_escapeChar {mark : Char} (whole : isHalf mark = false) (char : Char) :
    ((Quoted.escapeChar mark char).all fun written => !isHalf written) = true := by
  have field := all_noHalf_hexField
  unfold Quoted.escapeChar Quoted.escapeCode
  split_ifs with special tab line carriage printable short middle
  · rw [Bool.or_eq_true, decide_eq_true_eq, decide_eq_true_eq] at special
    rcases special with rfl | rfl
    · simp only [List.all_cons, List.all_nil, whole]
      rfl
    · rfl
  · rfl
  · rfl
  · rfl
  · simp only [List.all_cons, List.all_nil, isHalf_of_isPrintable printable]
    rfl
  all_goals
    simp only [List.all_cons, field]
    rfl

theorem isWhole_quote (text : String) : isWhole (Quoted.quote text) = true := by
  have mark : isHalf (Quoted.quoteFor text.toList) = false := by
    unfold Quoted.quoteFor
    split <;> rfl
  have inside : (text.toList.all fun char => (Quoted.escapeChar (Quoted.quoteFor text.toList)
      char).all fun written => !isHalf written) = true :=
    List.all_eq_true.mpr fun char _ => all_noHalf_escapeChar mark char
  rw [Quoted.quote, isWhole_ofList, List.all_append, List.all_cons, List.all_flatMap, inside,
    List.all_cons, mark]
  rfl

theorem isWhole_replaceHalves (text : String) : isWhole (replaceHalves text) = true := by
  rw [replaceHalves, isWhole_ofList, List.all_flatMap, List.all_eq_true]
  intro char _
  split
  · rfl
  · next whole => simpa using whole

theorem all_noHalf_of_areDigits {digits : List Char} (areDigits : AreDigits digits) :
    (digits.all fun char => !isHalf char) = true := by
  rw [List.all_eq_true]
  intro char member
  rw [isHalf_of_isDigit (areDigits char member)]
  rfl

theorem isWhole_message (overflow : DigitOverflow) : isWhole overflow.message = true := by
  cases overflow with
  | reading digits =>
      have number : isWhole (toString digits) = true := by
        change isWhole (String.ofList (natDigits digits)) = true
        rw [isWhole_ofList, all_noHalf_of_areDigits (areDigits_natDigits digits)]
      exact isWhole_append_of
        (isWhole_append_of (isWhole_of_bytes (by decide +kernel)) number)
        (isWhole_of_bytes (by decide +kernel))
  | writing => exact isWhole_of_bytes (by decide +kernel)

end Text

namespace Number

section Magnitude

variable {digits : List Char} (areDigits : AreDigits digits) (leading : Int)

include areDigits

theorem all_noHalf_of_subset {part : List Char} (subset : part ⊆ digits) :
    (part.all fun char => !isHalf char) = true :=
  all_noHalf_of_areDigits fun char member => areDigits char (subset member)

theorem all_noHalf_positional :
    ((positional digits leading).all fun char => !isHalf char) = true := by
  have zeros (count : Nat) := all_noHalf_of_areDigits (areDigits_zeros count)
  have front := all_noHalf_of_subset areDigits (List.take_subset (leading.toNat + 1) digits)
  have back := all_noHalf_of_subset areDigits (List.drop_subset (leading.toNat + 1) digits)
  unfold positional
  split_ifs with below
  · simp only [List.all_cons, List.all_append, zeros, all_noHalf_of_areDigits areDigits]
    rfl
  · simp only [List.all_cons, List.all_append, zeros, front]
    split_ifs
    · rfl
    · rw [back]
      rfl

theorem all_noHalf_scientific (layout : Layout) :
    ((scientific layout digits leading).all fun char => !isHalf char) = true := by
  have front := all_noHalf_of_subset areDigits (List.take_subset 1 digits)
  have back := all_noHalf_of_subset areDigits (List.drop_subset 1 digits)
  have padded := all_noHalf_of_areDigits (areDigits_append
    (areDigits_zeros (layout.exponentWidth - (natDigits leading.natAbs).length))
    (areDigits_natDigits leading.natAbs))
  have exponent : ((paddedDigits layout.exponentWidth leading.natAbs).all
      fun char => !isHalf char) = true := padded
  unfold scientific
  simp only [List.all_cons, List.all_append, front, exponent]
  split_ifs <;> simp only [List.all_cons, List.all_nil, back] <;> rfl

end Magnitude

theorem all_noHalf_magnitudeChars (layout : Layout) (value : Finite) :
    ((magnitudeChars layout value).all fun char => !isHalf char) = true := by
  have areDigits : AreDigits (significant (natDigits (shortest value).digits)) :=
    fun char member => areDigits_natDigits _ char (mem_of_mem_significant member)
  unfold magnitudeChars
  split
  · rfl
  · simp only
    split
    · exact all_noHalf_positional areDigits _
    · exact all_noHalf_scientific areDigits _ layout

theorem isWhole_write_printed (number : Binary64) :
    isWhole (Layout.printed.write number) = true := by
  cases number with
  | notANumber => decide
  | infinite negative => cases negative <;> decide
  | finite value =>
      have magnitude := all_noHalf_magnitudeChars .printed value
      rw [Layout.write, isWhole_ofList]
      split
      · rw [List.all_cons, magnitude]
        rfl
      · exact magnitude

theorem isWhole_of_print {quantity : Quantity} {text : String}
    (prints : quantity.print = .ok text) : isWhole text = true := by
  cases quantity with
  | real number =>
      cases prints
      exact isWhole_write_printed number
  | whole number =>
      have digits := all_noHalf_of_areDigits (areDigits_natDigits number.natAbs)
      simp only [Quantity.print, intText] at prints
      split at prints
      · cases prints
        rw [isWhole_ofList, intChars]
        split
        · rw [List.all_cons, digits]
          rfl
        · exact digits
      · cases prints

end Number

/-! ## Issues without halves -/

namespace Config

/-- The causes that repeat nothing of a document. -/
def plainCauses : List Cause :=
  [.notInstance .config, .notInstance .content, .notInstance .response, .notInstance .image,
    .notParameter, .missing, .notText, .textUndecodable, .notList, .emptyList, .notFlag,
    .flagUnreadable, .notWhole, .wholeUnreadable, .wholeTooLong, .notReal, .realUnreadable,
    .notContentType, .tagMissing, .linkEmpty, .labelCount, .notPositive, .notPermitted]

theorem isWhole_of_mem_plainCauses {cause : Cause} (plain : cause ∈ plainCauses) :
    isWhole cause.message = true := by
  have bytes : (plainCauses.all fun cause =>
      cause.message.toByteArray.data.toList.all fun byte => byte.toNat < 0xF4) = true := by
    decide +kernel
  exact isWhole_of_bytes (List.all_eq_true.mp bytes cause plain)

/-- No half is in the line about the issue. -/
structure Issue.IsWhole (issue : Issue) : Prop where
  place : ∀ part ∈ issue.place, isWhole part.print = true
  cause : isWhole issue.cause.message = true

theorem Part.isWhole_item (index : Nat) : isWhole (Part.item index).print = true :=
  (isWhole_ofList _).trans (all_noHalf_of_areDigits (areDigits_natDigits index))

theorem Issue.IsWhole.line {issue : Issue} (whole : issue.IsWhole) :
    isWhole issue.line = true := by
  have place : isWhole (printPlace issue.place) = true := by
    unfold printPlace
    split
    · decide
    · have inside : (((issue.place.map Part.print).map String.toList).all fun part =>
          part.all fun char => !isHalf char) = true := by
        rw [List.map_map, List.all_map, List.all_eq_true]
        exact whole.place
      rw [joinText, isWhole_ofList, all_joinChars _ (by decide), inside]
  have colon : isWhole ": " = true := by decide
  exact isWhole_append_of (isWhole_append_of place colon) whole.cause

namespace Checked

variable {Source Result : Type}

/-- No half is in any line about the issues of the check. -/
def IsWhole (check : Checked Result) : Prop :=
  ∀ issue ∈ check.issues, issue.IsWhole

namespace IsWhole

variable {check : Checked Source}

theorem valid (result : Result) : IsWhole (.valid result) :=
  fun _ member => absurd member List.not_mem_nil

theorem fail {cause : Cause} (whole : isWhole cause.message = true) :
    IsWhole (Checked.fail cause : Checked Result) := by
  intro issue member
  rw [List.mem_singleton.mp member]
  exact ⟨nofun, whole⟩

theorem fail_plain {cause : Cause} (plain : cause ∈ plainCauses) :
    IsWhole (Checked.fail cause : Checked Result) :=
  fail (isWhole_of_mem_plainCauses plain)

theorem map (change : Source → Result) (whole : check.IsWhole) : (check.map change).IsWhole := by
  rwa [IsWhole, issues_map]

theorem fmap (change : Source → Result) (whole : check.IsWhole) : (change <$> check).IsWhole :=
  whole.map change

theorem apply {change : Checked (Source → Result)} (first : change.IsWhole)
    (second : check.IsWhole) : (Checked.apply change check).IsWhole := by
  rw [IsWhole, issues_apply]
  exact List.forall_mem_append.mpr ⟨first, second⟩

theorem seq {change : Checked (Source → Result)} (first : change.IsWhole)
    (second : check.IsWhole) : (change <*> check).IsWhole :=
  first.apply second

theorem andThen {next : Source → Checked Result} (first : check.IsWhole)
    (second : ∀ result, (next result).IsWhole) : (check.andThen next).IsWhole := by
  cases check with
  | valid result => exact second result
  | invalid issue others => exact first

theorem under {part : Part} (printed : isWhole part.print = true) (whole : check.IsWhole) :
    (check.under part).IsWhole := by
  rw [IsWhole, issues_under, List.forall_mem_map]
  intro issue member
  exact ⟨List.forall_mem_cons.mpr ⟨printed, (whole issue member).place⟩, (whole issue member).cause⟩

theorem items {check : Source → Checked Result} (each : ∀ item, (check item).IsWhole)
    (list : List Source) : (Checked.items check list).IsWhole := by
  unfold Checked.items
  generalize 0 = index
  induction list generalizing index with
  | nil => exact valid []
  | cons item rest hypothesis =>
      exact (((each item).under (Part.isWhole_item index)).map _).apply (hypothesis (index + 1))

variable {check : Value → Checked Result} (each : ∀ content, (check content).IsWhole)
  {name : String} (printed : isWhole name = true) (record : Value)

include each

theorem nullable (value : Value) : (Checked.nullable check value).IsWhole := by
  unfold Checked.nullable
  split
  · exact valid none
  · exact (each _).map _

theorem list (value : Value) : (checkList check value).IsWhole := by
  unfold checkList
  split
  · exact items each _
  · exact items each _
  · exact items each _
  · exact fail_plain (by decide)

include printed

theorem required : (Checked.required name check record).IsWhole := by
  refine under printed ?_
  split
  · exact each _
  · exact fail_plain (by decide)

theorem optional (fallback : Result) : (Checked.optional name fallback check record).IsWhole := by
  unfold Checked.optional
  split
  · exact under printed (each _)
  · exact valid fallback

end IsWhole

end Checked

/-! ## Checks without halves -/

open Checked

theorem isWhole_checkText (value : Value) : (checkText value).IsWhole := by
  unfold checkText
  split
  · exact .valid _
  · split
    · exact .valid _
    · exact .fail_plain (by decide)
  · exact .fail_plain (by decide)

theorem isWhole_checkFlagWord (word : String) : (checkFlagWord word).IsWhole := by
  unfold checkFlagWord
  split
  · exact .valid _
  · split
    · exact .fail_plain (by decide)
    · exact .fail_plain (by decide)

theorem isWhole_checkFlagNumber (number : Int) : (checkFlagNumber number).IsWhole := by
  unfold checkFlagNumber
  split_ifs
  · exact .valid _
  · exact .valid _
  · exact .fail_plain (by decide)
  · exact .fail_plain (by decide)

theorem isWhole_checkFlag (value : Value) : (checkFlag value).IsWhole := by
  unfold checkFlag
  split
  · exact .valid _
  · exact isWhole_checkFlagNumber _
  · split
    · exact isWhole_checkFlagNumber _
    · exact .fail_plain (by decide)
  · exact isWhole_checkFlagWord _
  · split
    · exact isWhole_checkFlagWord _
    · exact .fail_plain (by decide)
  · exact .fail_plain (by decide)

theorem isWhole_rejectNumber {Result : Type} {asWhole asReal : Cause}
    (first : asWhole ∈ plainCauses) (second : asReal ∈ plainCauses) :
    (rejectNumber asWhole asReal : Checked Result).IsWhole := by
  intro issue member
  rw [rejectNumber, issues, List.mem_cons, List.mem_singleton] at member
  rcases member with rfl | rfl
  · exact ⟨List.forall_mem_singleton.mpr (by decide), isWhole_of_mem_plainCauses first⟩
  · exact ⟨List.forall_mem_singleton.mpr (by decide), isWhole_of_mem_plainCauses second⟩

theorem isWhole_checkNumberText (chars : String) : (checkNumberText chars).IsWhole := by
  unfold checkNumberText
  split
  · split
    · exact .valid _
    · split
      · exact .valid _
      · exact isWhole_rejectNumber (by decide) (by decide)
    · split
      · exact .valid _
      · exact isWhole_rejectNumber (by decide) (by decide)
  · exact isWhole_rejectNumber (by decide) (by decide)

theorem isWhole_checkNumber (value : Value) : (checkNumber value).IsWhole := by
  unfold checkNumber
  split
  · exact .valid _
  · exact .valid _
  · exact .valid _
  · exact isWhole_checkNumberText _
  · split
    · exact isWhole_checkNumberText _
    · exact isWhole_rejectNumber (by decide) (by decide)
  · exact isWhole_rejectNumber (by decide) (by decide)

theorem isWhole_checkShared (record : Value) : (checkShared record).IsWhole :=
  ((IsWhole.optional (IsWhole.nullable isWhole_checkText) (by decide) record _).fmap _
    |>.seq (.optional isWhole_checkText (by decide) record _))
    |>.seq (.optional isWhole_checkFlag (by decide) record _)

theorem isWhole_checkOfKind {Fields : Type} {checkFields : Value → Checked Fields}
    {checkRules : Fields → Checked Kind} (fields : ∀ record, (checkFields record).IsWhole)
    (rules : ∀ fields, (checkRules fields).IsWhole) (record : Value) :
    (checkOfKind checkFields checkRules record).IsWhole :=
  (((isWhole_checkShared record).fmap _).seq (fields record)).andThen fun (_, found) =>
    (rules found).map _

theorem isWhole_crossedBounds (least greatest : Quantity) :
    isWhole (crossedBounds least greatest).message = true := by
  have unprintable (overflow : DigitOverflow) :
      isWhole (Cause.boundsUnprintable overflow).message = true :=
    isWhole_append_of (by decide) (isWhole_message overflow)
  unfold crossedBounds
  split
  · next low high lowPrints highPrints =>
      exact isWhole_append_of (isWhole_append_of
        (isWhole_append_of (isWhole_of_bytes (by decide +kernel)) (isWhole_of_print lowPrints))
        (isWhole_of_bytes (by decide +kernel))) (isWhole_of_print highPrints)
  · exact unprintable _
  · exact unprintable _

theorem isWhole_checkNumberFields (record : Value) : (checkNumberFields record).IsWhole :=
  ((IsWhole.optional (IsWhole.nullable isWhole_checkNumber) (by decide) record _).fmap _
    |>.seq (.optional (IsWhole.nullable isWhole_checkNumber) (by decide) record _))
    |>.seq (.optional (IsWhole.nullable isWhole_checkNumber) (by decide) record _)

theorem isWhole_checkBounds (fields : NumberFields) : (checkBounds fields).IsWhole := by
  unfold checkBounds
  split
  · exact .valid _
  · split
    · exact .fail (isWhole_crossedBounds _ _)
    · exact .fail_plain (by decide)

theorem isWhole_checkChoiceFields (record : Value) : (checkChoiceFields record).IsWhole := by
  have options (value : Value) : (checkOptions value).IsWhole := by
    refine (IsWhole.list IsWhole.valid value).andThen fun found => ?_
    split
    · exact .valid _
    · exact .fail_plain (by decide)
  exact ((IsWhole.required options (by decide) record).fmap _).seq
    (.optional (IsWhole.nullable (IsWhole.list isWhole_checkText)) (by decide) record _)

theorem isWhole_checkLabels (fields : ChoiceFields) : (checkLabels fields).IsWhole := by
  unfold checkLabels
  split
  · exact .valid _
  · exact .fail_plain (by decide)

theorem isWhole_checkListFields (record : Value) : (checkListFields record).IsWhole :=
  ((IsWhole.optional (IsWhole.list isWhole_checkText) (by decide) record _).fmap _).seq
    (.optional (IsWhole.nullable isWhole_checkText) (by decide) record _)

theorem isWhole_checkParameterOf (kind : KindName) (record : Value) :
    (checkParameterOf kind record).IsWhole := by
  cases kind with
  | number => exact isWhole_checkOfKind isWhole_checkNumberFields isWhole_checkBounds record
  | flag =>
      exact isWhole_checkOfKind (fun record => .optional (IsWhole.nullable isWhole_checkFlag)
        (by decide) record _) (fun _ => .valid _) record
  | choice => exact isWhole_checkOfKind isWhole_checkChoiceFields isWhole_checkLabels record
  | text =>
      exact isWhole_checkOfKind (fun record => .optional (IsWhole.nullable isWhole_checkText)
        (by decide) record _) (fun _ => .valid _) record
  | list => exact isWhole_checkOfKind isWhole_checkListFields (fun _ => .valid _) record

theorem isWhole_kindName (value : Value) : isWhole value.kindName = true := by
  cases value <;> exact isWhole_of_bytes rfl

theorem isWhole_printTag (tag : Value) : isWhole (printTag tag) = true := by
  unfold printTag
  split
  · exact isWhole_replaceHalves _
  · exact isWhole_append_of (isWhole_append_of (by decide) (isWhole_kindName tag)) (by decide)

theorem isWhole_checkParameter (value : Value) : (checkParameter value).IsWhole := by
  unfold checkParameter
  split
  · exact .fail_plain (by decide)
  · split
    · exact .fail_plain (by decide)
    · split
      · exact .fail (isWhole_append_of (isWhole_append_of
          (isWhole_append_of (by decide) (isWhole_printTag _))
          (isWhole_of_bytes (by decide +kernel))) (isWhole_of_bytes (by decide +kernel)))
      · next kind _ =>
          have tag : isWhole kind.tag = true := by cases kind <;> decide
          exact .under tag (isWhole_checkParameterOf _ _)

theorem isWhole_checkImage (value : Value) : (checkImage value).IsWhole := by
  have contentType (value : Value) : (checkContentType value).IsWhole := by
    unfold checkContentType
    split
    · exact .valid _
    · split
      · exact .fail_plain (by decide)
      · exact .fail_plain (by decide)
  unfold checkImage
  split
  · exact ((IsWhole.required contentType (by decide) value).fmap _).seq
      (.optional (IsWhole.nullable isWhole_checkText) (by decide) value _)
  · exact .fail_plain (by decide)

theorem isWhole_checkResponse (value : Value) : (checkResponse value).IsWhole := by
  unfold checkResponse
  split
  · exact .required isWhole_checkImage (by decide) value
  · exact .fail_plain (by decide)

theorem isWhole_checkLink (value : Value) : (checkLink value).IsWhole := by
  refine (isWhole_checkText value).andThen fun link => ?_
  split
  · exact .fail_plain (by decide)
  · exact .valid _

theorem isWhole_checkVerb (value : Value) : (checkVerb value).IsWhole := by
  refine (isWhole_checkText value).andThen fun verb => ?_
  simp only
  split
  · exact .valid _
  · exact .fail (isWhole_append_of (isWhole_of_bytes (by decide +kernel)) (isWhole_quote verb))

theorem isWhole_checkDescription (document : Value) : (checkDescription document).IsWhole := by
  unfold checkDescription
  split
  · exact ((IsWhole.required isWhole_checkText (by decide) document).fmap _
      |>.seq (.optional isWhole_checkText (by decide) document _)
      |>.seq (.optional (IsWhole.nullable isWhole_checkText) (by decide) document _)
      |>.seq (.required isWhole_checkLink (by decide) document)
      |>.seq (.required isWhole_checkVerb (by decide) document)
      |>.seq (.optional (IsWhole.list isWhole_checkParameter) (by decide) document _)
      |>.seq (.required isWhole_checkResponse (by decide) document))
  · exact .fail_plain (by decide)

theorem isWhole_checkDocument (document : Value) : (checkDocument document).IsWhole := by
  unfold checkDocument
  split
  · exact isWhole_checkDescription document
  · exact .fail (isWhole_append_of (isWhole_of_bytes (by decide +kernel))
      (isWhole_kindName document))

/-- No line of a report on a document has a half in it. -/
theorem isWhole_of_mem_report (document : Value) {line : String} (member : line ∈ report document) :
    isWhole line = true := by
  rw [report, validate_eq, List.mem_map] at member
  rcases member with ⟨issue, found, rfl⟩
  exact (isWhole_checkDocument document issue found).line

end Config

end ImageCatalog
