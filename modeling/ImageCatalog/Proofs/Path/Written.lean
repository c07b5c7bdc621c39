import ImageCatalog.Proofs.Path.Segment

/-!
# Written paths

The same steps can be written in many ways: blanks may stand around a field name and inside the
brackets, and segments without a name and a bracket may stand between the others. A `Segment` keeps
the blanks together with what they surround, so that both the text and the steps can be told from
it. Parsing gives the steps back. An expression reaches to the first closing bracket, so that it may
have opening brackets, stars and colons in it.
-/

namespace ImageCatalog.Path

open Text

/-- Blanks as they may stand around a field name. -/
abbrev Blanks := { chars : List Char // ∀ char ∈ chars, isBlank char = true }

/-- Blanks as they may stand in a bracket. -/
abbrev LineBlanks := { chars : List Char // '\n' ∉ chars ∧ ∀ char ∈ chars, isBlank char = true }

structure IsFieldName (name : String) : Prop where
  filled : name ≠ ""
  trimmed : trim name.toList = name.toList
  pointless : '.' ∉ name.toList
  bracketless : '[' ∉ name.toList

structure IsExpression (text : String) : Prop where
  trimmed : trim text.toList = text.toList
  pointless : '.' ∉ text.toList
  unclosed : ']' ∉ text.toList
  inLine : '\n' ∉ text.toList

structure Bracket where
  before : LineBlanks
  expression : String
  after : LineBlanks
  isExpression : IsExpression expression

structure Segment where
  before : Blanks
  name : Option String
  after : Blanks
  brackets : List Bracket
  isFieldName : ∀ text ∈ name, IsFieldName text

theorem not_mem_blanks {char : Char} (solid : isBlank char = false) {blanks : List Char}
    (blank : ∀ char ∈ blanks, isBlank char = true) : char ∉ blanks := by
  intro member
  have alsoBlank := blank char member
  rw [solid] at alsoBlank
  cases alsoBlank

/-! ## Brackets -/

namespace Bracket

/-- The characters between the brackets. -/
def inner (bracket : Bracket) : List Char :=
  bracket.before.1 ++ bracket.expression.toList ++ bracket.after.1

def chars (bracket : Bracket) : List Char :=
  '[' :: (bracket.inner ++ [']'])

def step (bracket : Bracket) : Step :=
  .index bracket.expression

variable (bracket : Bracket)

theorem not_mem_inner {char : Char} (solid : isBlank char = false)
    (absent : char ∉ bracket.expression.toList) : char ∉ bracket.inner := by
  have before := not_mem_blanks solid bracket.before.2.2
  have after := not_mem_blanks solid bracket.after.2.2
  simp [inner, before, after, absent]

theorem unclosed_inner : ']' ∉ bracket.inner :=
  bracket.not_mem_inner (by decide) bracket.isExpression.unclosed

-- A line break is a blank, so what keeps it out is that the blanks are on one line.
theorem inLine_inner : '\n' ∉ bracket.inner := by
  simp [inner, bracket.before.2.1, bracket.after.2.1, bracket.isExpression.inLine]

theorem trim_inner : trim bracket.inner = bracket.expression.toList := by
  rw [trim, inner, trimBy_append bracket.before.2.2 bracket.after.2.2]
  exact bracket.isExpression.trimmed

theorem pointless_chars : '.' ∉ bracket.chars := by
  have inside := bracket.not_mem_inner (by decide) bracket.isExpression.pointless
  simp [chars, inside]

theorem expressionsFrom_chars (rest : List Char) :
    expressionsFrom 0 (bracket.chars ++ rest) = bracket.inner :: expressionsFrom 0 rest := by
  have split : bracket.chars ++ rest = '[' :: (bracket.inner ++ ']' :: rest) := by simp [chars]
  rw [split, expressionsFrom_bracket bracket.unclosed_inner bracket.inLine_inner]

theorem fieldOf_chars (rest : List Char) : fieldOf (bracket.chars ++ rest) = [] := by
  have split : bracket.chars ++ rest = '[' :: (bracket.inner ++ ']' :: rest) := by simp [chars]
  rw [split, fieldOf_bracket bracket.unclosed_inner bracket.inLine_inner]

end Bracket

theorem expressionsFrom_brackets (brackets : List Bracket) :
    expressionsFrom 0 (brackets.flatMap Bracket.chars) = brackets.map Bracket.inner := by
  induction brackets with
  | nil => rfl
  | cons bracket rest hypothesis =>
      rw [List.flatMap_cons, bracket.expressionsFrom_chars, hypothesis, List.map_cons]

theorem fieldOf_brackets (brackets : List Bracket) :
    fieldOf (brackets.flatMap Bracket.chars) = [] := by
  cases brackets with
  | nil => rfl
  | cons bracket rest => rw [List.flatMap_cons, bracket.fieldOf_chars]

/-! ## Segments -/

namespace Segment

def nameChars (segment : Segment) : List Char :=
  (segment.name.map String.toList).getD []

/-- The characters before the brackets. -/
def front (segment : Segment) : List Char :=
  segment.before.1 ++ segment.nameChars ++ segment.after.1

def chars (segment : Segment) : List Char :=
  segment.front ++ segment.brackets.flatMap Bracket.chars

def text (segment : Segment) : String :=
  String.ofList segment.chars

/-- The steps that are written: to the field, and then into the brackets. -/
def steps (segment : Segment) : List Step :=
  (segment.name.map Step.key).toList ++ segment.brackets.map Bracket.step

variable (segment : Segment)

theorem not_mem_front {char : Char} (solid : isBlank char = false)
    (absent : ∀ name ∈ segment.name, char ∉ name.toList) : char ∉ segment.front := by
  have before := not_mem_blanks solid segment.before.2
  have after := not_mem_blanks solid segment.after.2
  have inName : char ∉ segment.nameChars := by
    unfold nameChars
    cases named : segment.name with
    | none => simp
    | some name => exact absent name named
  simp [front, before, after, inName]

theorem bracketless_front : '[' ∉ segment.front := by
  apply segment.not_mem_front
  · decide
  · intro name named
    exact (segment.isFieldName name named).bracketless

theorem pointless_chars : '.' ∉ segment.chars := by
  have inFront : '.' ∉ segment.front := by
    apply segment.not_mem_front
    · decide
    · intro name named
      exact (segment.isFieldName name named).pointless
  rw [chars, List.mem_append, not_or]
  refine ⟨inFront, ?_⟩
  intro member
  rcases List.mem_flatMap.mp member with ⟨bracket, _, inBracket⟩
  exact bracket.pointless_chars inBracket

theorem trim_front : trim segment.front = segment.nameChars := by
  rw [trim, front, trimBy_append segment.before.2 segment.after.2, nameChars]
  cases named : segment.name with
  | none => rfl
  | some name => exact (segment.isFieldName name named).trimmed

/-- The steps of a written segment are those that were written. -/
theorem stepsOfSegment_chars : stepsOfSegment segment.chars = segment.steps := by
  have field : fieldOf segment.chars = segment.front := by
    rw [chars, fieldOf_append segment.bracketless_front, fieldOf_brackets, List.append_nil]
  have indexes : expressionsFrom 0 segment.chars = segment.brackets.map Bracket.inner := by
    rw [chars, expressionsFrom_name segment.bracketless_front, expressionsFrom_brackets]
  have written : (segment.brackets.map Bracket.inner).map
      (fun found => Step.index (String.ofList (trim found))) = segment.brackets.map Bracket.step := by
    rw [List.map_map]
    apply List.map_congr_left
    intro bracket _
    simp [bracket.trim_inner, Bracket.step]
  simp only [stepsOfSegment, field, indexes, written, segment.trim_front, steps]
  cases named : segment.name with
  | none => simp [nameChars, named]
  | some name =>
      have filled := (segment.isFieldName name named).filled
      simp [nameChars, named, filled]

end Segment

/-! ## Segments without blanks -/

theorem parse_text (segment : Segment) : parse segment.text = segment.steps := by
  rw [parse, Segment.text, String.toList_ofList, parseChars,
    splitAtChar_of_not_mem segment.pointless_chars, List.flatMap_singleton,
    segment.stepsOfSegment_chars]

theorem parse_name {name : String} (isFieldName : IsFieldName name) :
    parse name = [.key name] := by
  let segment : Segment :=
    ⟨⟨[], by simp⟩, some name, ⟨[], by simp⟩, [], by simpa using isFieldName⟩
  have text : segment.text = name := by
    simp [segment, Segment.text, Segment.chars, Segment.front, Segment.nameChars]
  have parsed := parse_text segment
  rw [text] at parsed
  exact parsed

/-- An expression in its bracket. -/
def bracketed (expression : String) : String :=
  "[" ++ expression ++ "]"

def Bracket.bare {expression : String} (isExpression : IsExpression expression) : Bracket :=
  ⟨⟨[], by simp⟩, expression, ⟨[], by simp⟩, isExpression⟩

theorem Bracket.chars_bare {expression : String} (isExpression : IsExpression expression) :
    (Bracket.bare isExpression).chars = (bracketed expression).toList := by
  simp [bare, chars, inner, bracketed]

def Segment.ofBrackets (brackets : List Bracket) : Segment :=
  ⟨⟨[], by simp⟩, none, ⟨[], by simp⟩, brackets, by simp⟩

theorem Segment.chars_ofBrackets (brackets : List Bracket) :
    (Segment.ofBrackets brackets).chars = brackets.flatMap Bracket.chars := by
  simp [ofBrackets, chars, front, nameChars]

variable {expression next : String}

theorem parse_bracket (isExpression : IsExpression expression) :
    parse (bracketed expression) = [.index expression] := by
  have text : (Segment.ofBrackets [.bare isExpression]).text = bracketed expression := by
    simp [Segment.text, Segment.chars_ofBrackets, Bracket.chars_bare]
  have parsed := parse_text (.ofBrackets [.bare isExpression])
  rw [text] at parsed
  exact parsed

theorem parse_bracket_bracket (isExpression : IsExpression expression)
    (nextToo : IsExpression next) :
    parse (bracketed expression ++ bracketed next) = [.index expression, .index next] := by
  have text : (Segment.ofBrackets [.bare isExpression, .bare nextToo]).text =
      bracketed expression ++ bracketed next := by
    simp [Segment.text, Segment.chars_ofBrackets, Bracket.chars_bare]
  have parsed := parse_text (.ofBrackets [.bare isExpression, .bare nextToo])
  rw [text] at parsed
  exact parsed

/-! ## Paths -/

/-- Parsing a path gives the steps of its segments one after the other. -/
theorem parse_written (segments : List Segment) :
    parse (joinText "." (segments.map Segment.text)) = segments.flatMap Segment.steps := by
  have texts : (segments.map Segment.text).map String.toList = segments.map Segment.chars := by
    rw [List.map_map]
    apply List.map_congr_left
    intro segment _
    exact String.toList_ofList
  rw [parse, joinText, String.toList_ofList, texts, parseChars]
  cases segments with
  | nil => rfl
  | cons segment rest =>
      have uncut : ∀ chars ∈ (segment :: rest).map Segment.chars, '.' ∉ chars := by
        rw [List.forall_mem_map]
        intro segment _
        exact segment.pointless_chars
      have cut := splitAtChar_joinChars uncut
      rw [← List.map_cons] at cut
      rw [show ".".toList = ['.'] from rfl, cut, List.flatMap_map]
      simp only [Segment.stepsOfSegment_chars]

example : parse "images [ a[b ]. .[ * ] .url" =
    [.key "images", .index "a[b", .index "*", .key "url"] := by decide

end ImageCatalog.Path
