import ImageCatalog.Yaml.Token.Lexer

/-!
# Faults of cutting

Most ways in which reading a document can fail are faults of its form. `FailsWithin` says which
others a part of reading can have, and passes through the steps of a reading one by one. Cutting a
text into tokens has two others: an escape in a quoted scalar for a code point beyond the last
character, and a number in the version of a directive that has too many digits.
-/

namespace ImageCatalog.Yaml

open Text

/-- If there is no result, it is because of the form of the document or of one of the others. -/
def FailsWithin {Result : Type} (others : Fault → Prop) (result : Except Fault Result) : Prop :=
  ∀ fault, result = .error fault → fault = .malformed ∨ others fault

/-- The faults other than of form at which cutting a text into tokens can stop. -/
inductive StopsCutting : Fault → Prop where
  | character {code : Nat} (beyond : 0x10FFFF < code) : StopsCutting (.codePoint code)
  | version {length : Nat} (long : digitLimit < length) :
      StopsCutting (.overlong (.reading length))

namespace FailsWithin

variable {others : Fault → Prop} {First Result : Type}

theorem ok (value : Result) : FailsWithin others (.ok value) := by
  rintro fault ⟨⟩

theorem malformed : FailsWithin others (.error .malformed : Except Fault Result) := by
  rintro fault ⟨⟩
  exact .inl rfl

theorem error {fault : Fault} (other : others fault) :
    FailsWithin others (.error fault : Except Fault Result) := by
  rintro _ ⟨⟩
  exact .inr other

theorem bind {first : Except Fault First} {next : First → Except Fault Result}
    (fails : FailsWithin others first) (further : ∀ value, FailsWithin others (next value)) :
    FailsWithin others (first >>= next) := by
  cases first with
  | error fault =>
      rintro _ ⟨⟩
      exact fails fault rfl
  | ok value => exact further value

theorem map {change : First → Result} {first : Except Fault First}
    (fails : FailsWithin others first) : FailsWithin others (first.map change) := by
  cases first with
  | error fault =>
      rintro _ ⟨⟩
      exact fails fault rfl
  | ok value => exact .ok _

theorem ite {condition : Prop} [Decidable condition] {first second : Except Fault Result}
    (fails : FailsWithin others first) (otherwise : FailsWithin others second) :
    FailsWithin others (if condition then first else second) := by
  split
  · exact fails
  · exact otherwise

/-- What goes on in the same way on both sides of a condition. -/
theorem ite_bind {condition : Prop} [Decidable condition] {first : Except Fault First}
    {next : First → Except Fault Result} {other : Except Fault Result}
    (fails : FailsWithin others first) (further : ∀ value, FailsWithin others (next value))
    (otherwise : (∀ value, FailsWithin others (next value)) → FailsWithin others other) :
    FailsWithin others (if condition then first >>= next else other) :=
  .ite (fails.bind further) (otherwise further)

end FailsWithin

/-! ## Quoted scalars -/

namespace Quoted

theorem failsWithin_charOfCode (code : Nat) : FailsWithin StopsCutting (charOfCode code) := by
  unfold charOfCode
  split
  · next beyond => exact .error (.character beyond)
  · exact .ok _

theorem failsWithin_blankLines {others : Fault → Prop} (budget : Nat) (cursor : Cursor) :
    FailsWithin others (blankLines budget cursor) := by
  induction budget generalizing cursor with
  | zero => exact .malformed
  | succ budget hypothesis =>
      exact .ite .malformed (.ite ((hypothesis _).bind fun _ => .ok _) (.ok _))

theorem failsWithin_blanks {others : Fault → Prop} (cursor : Cursor) :
    FailsWithin others (blanks cursor) :=
  .ite .malformed (.ite ((failsWithin_blankLines _ _).bind fun _ => .ok _) (.ok _))

theorem failsWithin_readEscape (cursor : Cursor) :
    FailsWithin StopsCutting (readEscape cursor) := by
  unfold readEscape
  split
  · exact .malformed
  · split
    · exact .ok _
    · simp only
      split
      · exact .ite (failsWithin_charOfCode _).map .malformed
      · exact .malformed
    · exact .ite (failsWithin_blankLines _ _) .malformed

theorem failsWithin_readRest (double : Bool) (budget : Nat) (cursor : Cursor) :
    FailsWithin StopsCutting (readRest double budget cursor) := by
  induction budget generalizing cursor with
  | zero => exact .malformed
  | succ budget hypothesis =>
      unfold readRest
      simp only
      split
      · exact .malformed
      · refine .ite ((failsWithin_blanks _).bind fun _ => (hypothesis _).bind fun _ => .ok _) ?_
        refine .ite (.ite (hypothesis _).map (.ok _)) ?_
        refine .ite ?_ (hypothesis _).map
        exact (failsWithin_readEscape _).bind fun _ => (hypothesis _).bind fun _ => .ok _

theorem failsWithin_read (double : Bool) (cursor : Cursor) :
    FailsWithin StopsCutting (read double cursor) :=
  (failsWithin_readRest _ _ _).map

end Quoted

/-! ## Names, tags and directives -/

section Tags

variable {others : Fault → Prop}

theorem failsWithin_readName (follows : Char → Bool) (cursor : Cursor) :
    FailsWithin others (readName follows cursor) :=
  .ite .malformed (.ok _)

namespace WrittenTag

theorem failsWithin_readSuffixRest (budget : Nat) (cursor : Cursor) :
    FailsWithin others (readSuffixRest budget cursor) := by
  induction budget generalizing cursor with
  | zero => exact .malformed
  | succ budget hypothesis =>
      refine .ite ?_ (.ok _)
      split
      · split
        · exact (hypothesis _).bind fun _ => .ok _
        · exact .malformed
      · exact .malformed

theorem failsWithin_readSuffix (cursor : Cursor) : FailsWithin others (readSuffix cursor) :=
  (failsWithin_readSuffixRest _ _).bind fun _ => .ite .malformed (.ok _)

theorem failsWithin_readHandle (cursor : Cursor) : FailsWithin others (readHandle cursor) :=
  .ite (.ite (.ok _) (.ite (.ok _) .malformed)) .malformed

theorem failsWithin_readParts (cursor : Cursor) : FailsWithin others (readParts cursor) := by
  unfold readParts
  split
  · exact (failsWithin_readSuffix _).bind fun _ => .ite (.ok _) .malformed
  · refine .ite (.ok _) (.ite ?_ ?_)
    · exact (failsWithin_readHandle _).bind fun _ =>
        (failsWithin_readSuffix _).bind fun _ => .ok _
    · exact (failsWithin_readSuffix _).bind fun _ => .ok _

theorem failsWithin_read (cursor : Cursor) : FailsWithin others (read cursor) :=
  (failsWithin_readParts _).bind fun _ => .ite (.ok _) .malformed

end WrittenTag

namespace Directive

theorem failsWithin_readNumber (cursor : Cursor) :
    FailsWithin StopsCutting (readNumber cursor) := by
  refine .ite .malformed ?_
  unfold readDigits
  split
  · exact .ok _
  · next overlong =>
      split at overlong
      · next long =>
          cases overlong
          exact .error (.version long)
      · cases overlong

theorem failsWithin_readVersion (cursor : Cursor) :
    FailsWithin StopsCutting (readVersion cursor) := by
  refine (failsWithin_readNumber _).bind fun _ => .ite ?_ .malformed
  exact (failsWithin_readNumber _).bind fun _ => .ite (.ok _) .malformed

theorem failsWithin_readTag (cursor : Cursor) : FailsWithin others (readTag cursor) := by
  refine (WrittenTag.failsWithin_readHandle _).bind fun _ => .ite ?_ .malformed
  exact (WrittenTag.failsWithin_readSuffix _).bind fun _ => .ite (.ok _) .malformed

theorem failsWithin_read (cursor : Cursor) : FailsWithin StopsCutting (read cursor) := by
  have content (name : String) (behind : Cursor) :
      FailsWithin StopsCutting (readContent name behind) :=
    .ite (failsWithin_readVersion _) (.ite (failsWithin_readTag _) (.ok _))
  exact (failsWithin_readName _ _).bind fun _ =>
    (content _ _).bind fun _ => .ite (.ok _) .malformed

end Directive

end Tags

/-! ## Block scalars -/

namespace Block

variable {others : Fault → Prop}

theorem failsWithin_readIncrement (cursor : Cursor) :
    FailsWithin others (readIncrement cursor) := by
  unfold readIncrement
  split
  · exact .ite .malformed (.ite (.ok _) (.ok _))
  · exact .ok _

theorem failsWithin_readHeader (cursor : Cursor) : FailsWithin others (readHeader cursor) := by
  unfold readHeader
  split
  · exact (failsWithin_readIncrement _).bind fun _ => .ok _
  · refine (failsWithin_readIncrement _).bind fun _ => ?_
    split <;> exact .ok _

theorem failsWithin_skipLine (cursor : Cursor) : FailsWithin others (skipLine cursor) :=
  .ite (.ok _) .malformed

theorem failsWithin_read (folded : Bool) (least : Nat) (cursor : Cursor) :
    FailsWithin others (read folded least cursor) := by
  refine (failsWithin_readHeader _).bind fun _ => ?_
  simp only
  split
  · exact .ite ((failsWithin_skipLine _).bind fun _ => .ok _) .malformed
  · exact .ok _

end Block

/-! ## Tokens -/

namespace Lexer

variable {others : Fault → Prop} (lexer : Lexer)

theorem failsWithin_dropStale : FailsWithin others lexer.dropStale :=
  .ite .malformed (.ok _)

theorem failsWithin_dropPossible : FailsWithin others lexer.dropPossible := by
  unfold dropPossible
  split
  · exact .ok _
  · exact .ite .malformed (.ok _)

theorem failsWithin_savePossible : FailsWithin others lexer.savePossible :=
  .ite ((failsWithin_dropPossible _).bind fun _ => .ok _) (.ok _)

theorem failsWithin_openHere (token : Token) : FailsWithin others (lexer.openHere token) :=
  .ite (.ok _) (.ite (.ok _) .malformed)

theorem failsWithin_readDirective : FailsWithin StopsCutting lexer.readDirective :=
  (failsWithin_dropPossible _).bind fun _ => (Directive.failsWithin_read _).bind fun _ => .ok _

theorem failsWithin_readSeparator (token : Token) :
    FailsWithin others (lexer.readSeparator token) :=
  (failsWithin_dropPossible _).bind fun _ => .ok _

theorem failsWithin_openBracket (token : Token) : FailsWithin others (lexer.openBracket token) :=
  (failsWithin_savePossible _).bind fun _ => .ok _

theorem failsWithin_closeBracket (token : Token) :
    FailsWithin others (lexer.closeBracket token) :=
  (failsWithin_dropPossible _).bind fun _ => .ite .malformed (.ok _)

theorem failsWithin_readFlowEntry : FailsWithin others lexer.readFlowEntry :=
  (failsWithin_dropPossible _).bind fun _ => .ok _

theorem failsWithin_readBlockEntry : FailsWithin others lexer.readBlockEntry :=
  (failsWithin_openHere _ _).bind fun _ => (failsWithin_dropPossible _).bind fun _ => .ok _

theorem failsWithin_readKey : FailsWithin others lexer.readKey :=
  (failsWithin_openHere _ _).bind fun _ => (failsWithin_dropPossible _).bind fun _ => .ok _

theorem failsWithin_readValue : FailsWithin others lexer.readValue := by
  unfold readValue
  split
  · exact .ok _
  · exact (failsWithin_openHere _ _).bind fun _ => (failsWithin_dropPossible _).bind fun _ => .ok _

theorem failsWithin_readAnchor (make : String → Token) :
    FailsWithin others (lexer.readAnchor make) :=
  (failsWithin_savePossible _).bind fun _ => (failsWithin_readName _ _).bind fun _ => .ok _

theorem failsWithin_readTag : FailsWithin others lexer.readTag :=
  (failsWithin_savePossible _).bind fun _ => (WrittenTag.failsWithin_read _).bind fun _ => .ok _

theorem failsWithin_readBlock (folded : Bool) : FailsWithin others (lexer.readBlock folded) :=
  (failsWithin_dropPossible _).bind fun _ => (Block.failsWithin_read _ _ _).bind fun _ => .ok _

theorem failsWithin_readQuoted (double : Bool) :
    FailsWithin StopsCutting (lexer.readQuoted double) :=
  (failsWithin_savePossible _).bind fun _ => (Quoted.failsWithin_read _ _).bind fun _ => .ok _

theorem failsWithin_readPlain : FailsWithin others lexer.readPlain :=
  (failsWithin_savePossible _).bind fun _ => .ok _

theorem failsWithin_readToken (char : Char) : FailsWithin StopsCutting (lexer.readToken char) := by
  unfold readToken
  refine .ite lexer.failsWithin_readDirective ?_
  refine .ite (lexer.failsWithin_readSeparator _) (.ite (lexer.failsWithin_readSeparator _) ?_)
  refine .ite (lexer.failsWithin_openBracket _) (.ite (lexer.failsWithin_openBracket _) ?_)
  refine .ite (lexer.failsWithin_closeBracket _) (.ite (lexer.failsWithin_closeBracket _) ?_)
  refine .ite lexer.failsWithin_readFlowEntry (.ite lexer.failsWithin_readBlockEntry ?_)
  refine .ite lexer.failsWithin_readKey (.ite lexer.failsWithin_readValue ?_)
  refine .ite (lexer.failsWithin_readAnchor _) (.ite (lexer.failsWithin_readAnchor _) ?_)
  refine .ite lexer.failsWithin_readTag ?_
  refine .ite (lexer.failsWithin_readBlock _) (.ite (lexer.failsWithin_readBlock _) ?_)
  refine .ite (lexer.failsWithin_readQuoted _) (.ite (lexer.failsWithin_readQuoted _) ?_)
  exact .ite lexer.failsWithin_readPlain .malformed

theorem failsWithin_readNext : FailsWithin StopsCutting lexer.readNext := by
  refine (failsWithin_dropStale _).bind fun _ => ?_
  simp only
  split
  · exact (failsWithin_readToken _ _).bind fun _ => .ok _
  · exact (failsWithin_dropPossible _).bind fun _ => .ok _

theorem stop_readAll (budget : Nat) (lexer : Lexer) {fault : Fault}
    (stop : (lexer.readAll budget).stop = some fault) :
    fault = .malformed ∨ StopsCutting fault := by
  induction budget generalizing lexer with
  | zero => exact .inl (Option.some.inj stop).symm
  | succ budget hypothesis =>
      rw [readAll] at stop
      split at stop
      · exact hypothesis _ stop
      · cases stop
      · next other failed =>
          obtain rfl : other = fault := Option.some.inj stop
          exact lexer.failsWithin_readNext other failed

end Lexer

/-- A text is not cut to its end for a reason of form, or because of an escape beyond the last
character or of a version with too many digits. -/
theorem stop_cut {chars : List Char} {fault : Fault} (stop : (cut chars).stop = some fault) :
    fault = .malformed ∨ StopsCutting fault := by
  unfold cut at stop
  split at stop
  · exact Lexer.stop_readAll _ _ stop
  · exact .inl (Option.some.inj stop).symm

end ImageCatalog.Yaml
