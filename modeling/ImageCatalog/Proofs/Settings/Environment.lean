import ImageCatalog.Proofs.Disk.Making
import ImageCatalog.Proofs.Json.LineEnds
import ImageCatalog.Proofs.Settings.Persistence
import ImageCatalog.Proofs.Text.Form
import ImageCatalog.Proofs.Text.Surrogate
import ImageCatalog.Settings.Effective

/-!
# Saved settings as variables

The file of saved settings may be the file of variables. What one command saves is then read by the
next one twice, as saved settings and as variables. As variables it says nothing: a line with a
saved setting starts with a quoted name and a colon, and is no binding since no equals sign follows,
and the lines with the braces are names without content.
-/

namespace ImageCatalog.Settings

open Disk Json Text VariableFile

/-! ## Lines of written settings -/

/-- Whether a character may stand in the name of a binding. -/
def isNameChar (char : Char) : Bool :=
  char != '=' && char != '#' && !isBlank char

/-- The part of a written object that a saved setting is: a quoted name with a colon, a blank and a
value, on one line. -/
structure IsLine (part : List Char) : Prop where
  parted : ∃ word next rest, part = '"' :: word ++ ' ' :: next :: rest ∧
    (∀ char ∈ word, isNameChar char = true) ∧ next ∈ ['"', 't', 'f']
  single : '\n' ∉ part
  unified : '\r' ∉ part

/-- Reading stops at the value. -/
theorem readBinding_of_word {word rest : List Char} {next : Char}
    (inked : ∀ char ∈ word, isNameChar char = true) (value : next ∈ ['"', 't', 'f']) :
    readBinding ('"' :: word ++ ' ' :: next :: rest) = .error (next :: rest) := by
  have noExport : skipExport ('"' :: word ++ ' ' :: next :: rest) =
      '"' :: word ++ ' ' :: next :: rest := by
    simp [skipExport, List.isPrefixOf]
  have named : (word ++ ' ' :: next :: rest).takeWhile isNameChar = word := by
    rw [List.takeWhile_append_of_pos inked]
    simp [isNameChar, isBlank, isUnicodeSpace]
  have name : readName ('"' :: word ++ ' ' :: next :: rest) =
      .ok (some ('"' :: word), ' ' :: next :: rest) := by
    have quote : isNameChar '"' = true := by decide
    have whole : ('"' :: (word ++ ' ' :: next :: rest)).takeWhile isNameChar = '"' :: word := by
      rw [List.takeWhile_cons_of_pos quote, named]
    unfold isNameChar at whole
    simp only [List.cons_append, readName, whole]
    simp
  have behind : skipLineBlanks (' ' :: next :: rest) = next :: rest ∧
      skipLineBlanks (next :: rest) = next :: rest := by
    simp only [List.mem_cons, List.not_mem_nil, or_false] at value
    rcases value with rfl | rfl | rfl <;> exact ⟨rfl, rfl⟩
  rw [readBinding, noExport, name]
  simp only [bind, Except.bind, behind.1]
  simp only [List.mem_cons, List.not_mem_nil, or_false] at value
  rcases value with rfl | rfl | rfl <;> simp [readLineEnd, behind.2]

theorem dropWhile_blanks {blanks : List Char} (areBlank : ∀ char ∈ blanks, isBlank char = true)
    {first : Char} (ink : isBlank first = false) (rest : List Char) :
    (blanks ++ first :: rest).dropWhile isBlank = first :: rest := by
  rw [List.dropWhile_append_of_pos areBlank, List.dropWhile_cons_of_neg (by simp [ink])]

theorem readBindings_nil (limit : Nat) : readBindings limit [] = [] := by
  cases limit <;> rfl

/-- A line with a closing brace is a name. -/
theorem content_of_mem_closing {limit : Nat} {blanks : List Char}
    (areBlank : ∀ char ∈ blanks, isBlank char = true) {binding : Binding}
    (member : binding ∈ readBindings limit (blanks ++ ['\x7d'])) : binding.content = none := by
  cases limit with
  | zero => cases member
  | succ limit =>
      rw [readBindings, dropWhile_blanks areBlank (by decide)] at member
      have closing : readBinding ['\x7d'] = .ok (some ⟨"\x7d", none⟩, []) := by decide
      simp only [closing, readBindings_nil, Option.toList_some, List.append_nil,
        List.mem_singleton] at member
      rw [member]

/-- A line with a saved setting is skipped. -/
theorem readBindings_line {part : List Char} (line : IsLine part) {blanks before : List Char}
    (areBlank : ∀ char ∈ blanks, isBlank char = true) (inline : '\n' ∉ before) (limit : Nat)
    (after : List Char) :
    readBindings (limit + 1) (blanks ++ (part ++ (before ++ '\n' :: after))) =
      readBindings limit after := by
  rcases line with ⟨⟨word, next, rest, rfl, inked, value⟩, single, _⟩
  have stops := @readBinding_of_word word (rest ++ (before ++ '\n' :: after)) next inked value
  have skipped : skipLine (next :: (rest ++ (before ++ '\n' :: after))) = after := by
    have onLine : ∀ char ∈ next :: rest ++ before, (char != '\n') = true := by
      intro char member
      rw [bne_iff_ne]
      rintro rfl
      rcases List.mem_append.mp member with inside | inside
      · exact single (List.mem_append_right _ (List.mem_cons_of_mem _ inside))
      · exact inline inside
    have split : next :: (rest ++ (before ++ '\n' :: after)) =
        (next :: rest ++ before) ++ '\n' :: after := by simp
    rw [skipLine, split, List.dropWhile_append_of_pos onLine]
    rfl
  simp only [List.cons_append, List.append_assoc] at stops ⊢
  rw [readBindings, dropWhile_blanks areBlank (by decide)]
  simp only [stops, skipped]

/-- The lines of an object are skipped, up to the one with the closing brace. -/
theorem content_of_mem_lines {part : List Char} {parts : List (List Char)}
    (lines : ∀ other ∈ part :: parts, IsLine other) {limit : Nat} {blanks : List Char}
    (areBlank : ∀ char ∈ blanks, isBlank char = true) {binding : Binding}
    (member : binding ∈ readBindings limit
      (blanks ++ (joinChars [',', '\n', ' ', ' '] (part :: parts) ++ ['\n', '\x7d']))) :
    binding.content = none := by
  induction parts generalizing part limit blanks with
  | nil =>
      cases limit with
      | zero => cases member
      | succ limit =>
          have skipped := readBindings_line (lines part List.mem_cons_self) areBlank
            List.not_mem_nil limit ['\x7d']
          rw [List.nil_append] at skipped
          rw [joinChars, skipped] at member
          exact @content_of_mem_closing limit [] (by simp) binding member
  | cons next others hypothesis =>
      cases limit with
      | zero => cases member
      | succ limit =>
          rw [List.forall_mem_cons] at lines
          have comma : '\n' ∉ [','] := by decide
          have indent : ∀ char ∈ [' ', ' '], isBlank char = true := by
            simp [isBlank, isUnicodeSpace]
          have skipped := readBindings_line lines.1 areBlank comma limit
            ([' ', ' '] ++ (joinChars [',', '\n', ' ', ' '] (next :: others) ++ ['\n', '\x7d']))
          rw [joinChars] at member
          simp only [List.cons_append, List.nil_append, List.append_assoc] at skipped member
          rw [skipped] at member
          exact hypothesis lines.2 indent member

/-- Nothing in a written object is a binding with a content. -/
theorem content_of_mem_bindings {parts : List (List Char)} (lines : ∀ part ∈ parts, IsLine part)
    {binding : Binding}
    (member : binding ∈ bindings (enclose (.lines 0) '\x7b' '\x7d' parts)) :
    binding.content = none := by
  unfold bindings at member
  generalize (enclose (.lines 0) '\x7b' '\x7d' parts).length = limit at member
  have drop := @dropWhile_blanks [] (by simp) '\x7b' (by decide)
  simp only [List.nil_append] at drop
  cases parts with
  | nil =>
      have braces : readBinding ['\x7b', '\x7d'] = .ok (some ⟨"\x7b\x7d", none⟩, []) := by decide
      rw [show enclose (.lines 0) '\x7b' '\x7d' [] = ['\x7b', '\x7d'] from rfl, readBindings,
        drop] at member
      simp only [braces, readBindings_nil, Option.toList_some, List.append_nil,
        List.mem_singleton] at member
      rw [member]
  | cons part others =>
      have indent : ∀ char ∈ [' ', ' '], isBlank char = true := by
        simp [isBlank, isUnicodeSpace]
      have opening (rest : List Char) :
          readBinding ('\x7b' :: '\n' :: rest) = .ok (some ⟨"\x7b", none⟩, rest) := by
        rfl
      have text : enclose (.lines 0) '\x7b' '\x7d' (part :: others) = '\x7b' :: '\n' ::
          ([' ', ' '] ++ (joinChars [',', '\n', ' ', ' '] (part :: others) ++ ['\n', '\x7d'])) := by
        simp [enclose, Spacing.edge, Spacing.deeper, Spacing.between]
      rw [text, readBindings, drop] at member
      simp only [opening, Option.toList_some, List.mem_append, List.mem_singleton] at member
      rcases member with rfl | later
      · rfl
      · exact content_of_mem_lines lines indent later

/-! ## Written settings -/

/-- The values are texts and flags under names of settings. -/
def AreFlat (values : List (String × Value)) : Prop :=
  ∀ entry ∈ values, (∃ name : SavedName, entry.1 = name.key) ∧
    ((∃ chars, entry.2 = .text chars) ∨ ∃ flag, entry.2 = .bool flag)

/-- A written text has no line ends in it. -/
theorem control_not_mem_writeText {char : Char} (control : char.toNat < 0x20) (text : String) :
    char ∉ writeText text := by
  have notQuote : char ≠ '"' := by
    rintro rfl
    exact absurd control (by decide)
  intro member
  rw [writeText, List.cons_append, List.mem_cons, List.mem_append, List.mem_singleton] at member
  rcases member with same | inside | same
  · exact notQuote same
  · rcases List.mem_flatMap.mp inside with ⟨other, _, written⟩
    rcases exists_piece_of_writeChar other with ⟨piece, spelt, _⟩
    rw [← spelt] at written
    rcases Piece.isInk_of_mem written with ink | ⟨allowed, _⟩
    · exact absurd ink.1 (Nat.not_lt.mpr (Nat.le_of_lt control))
    · exact absurd control (Nat.not_lt.mpr allowed.2.2)
  · exact notQuote same

theorem isLine_of_field (name : SavedName) {value : Value}
    (flat : (∃ chars, value = .text chars) ∨ ∃ flag, value = .bool flag) {spacing : Spacing}
    {content : List Char} (written : writeValue spacing value = .ok content) :
    IsLine (writeText name.key ++ ':' :: ' ' :: content) := by
  have starts : ∃ next rest, content = next :: rest ∧ next ∈ ['"', 't', 'f'] := by
    rcases flat with ⟨chars, rfl⟩ | ⟨flag, rfl⟩
    · cases written
      exact ⟨'"', _, rfl, by simp⟩
    · cases flag
      · cases written
        exact ⟨'f', _, rfl, by simp⟩
      · cases written
        exact ⟨'t', _, rfl, by simp⟩
  have inline {char : Char} (control : char.toNat < 0x20) :
      char ∉ writeText name.key ++ ':' :: ' ' :: content := by
    have inContent : char ∉ content := by
      rcases flat with ⟨chars, rfl⟩ | ⟨flag, rfl⟩
      · cases written
        exact control_not_mem_writeText control chars
      · have visible : ∀ other ∈ content, 0x20 ≤ other.toNat := by
          cases flag <;> cases written <;> simp
        intro member
        exact absurd control (Nat.not_lt.mpr (visible char member))
    intro member
    rw [List.mem_append, List.mem_cons, List.mem_cons] at member
    rcases member with key | rfl | rfl | value
    · exact control_not_mem_writeText control name.key key
    · exact absurd control (by decide)
    · exact absurd control (by decide)
    · exact inContent value
  rcases starts with ⟨next, rest, rfl, value⟩
  have word : ∃ word, writeText name.key ++ [':'] = '"' :: word ∧ word.all isNameChar = true := by
    cases name <;> exact ⟨_, rfl, by decide +kernel⟩
  rcases word with ⟨word, named, inked⟩
  refine ⟨⟨word, next, rest, ?_, List.all_eq_true.mp inked, value⟩, ?_, ?_⟩
  · rw [← named]
    simp
  · exact inline (by decide)
  · exact inline (by decide)

theorem areLines_of_writeFields {values : List (String × Value)} (flat : AreFlat values)
    {spacing : Spacing} {parts : List (List Char)}
    (writes : writeFields spacing values = .ok parts) : ∀ part ∈ parts, IsLine part := by
  induction values generalizing parts with
  | nil =>
      cases writes
      simp
  | cons entry rest hypothesis =>
      obtain ⟨key, value⟩ := entry
      rw [AreFlat, List.forall_mem_cons] at flat
      rcases writeFields_cons writes with ⟨content, others, rfl, written, later⟩
      rcases flat.1 with ⟨⟨name, rfl⟩, single⟩
      intro part member
      rcases List.mem_cons.mp member with rfl | further
      · exact isLine_of_field name single written
      · exact hypothesis flat.2 later part further

/-- Flat values can be written. -/
theorem writes_of_areFlat {values : List (String × Value)} (flat : AreFlat values)
    (distinct : (Entries.keys values).Nodup) :
    (Value.object values).IsDocument ∧ ∃ text, writeIndented (.object values) = .ok text := by
  have document : (Value.object values).IsDocument := by
    apply Value.IsDocument.object values distinct
    intro entry member
    rcases (flat entry member).2 with ⟨chars, text⟩ | ⟨flag, bool⟩
    · rw [text]
      exact .text chars
    · rw [bool]
      exact .bool flag
  have within : (Value.object values).WithinLimit := by
    apply Value.WithinLimit.object
    intro entry member
    rcases (flat entry member).2 with ⟨chars, text⟩ | ⟨flag, bool⟩
    · rw [text]
      exact .text chars
    · rw [bool]
      exact .bool flag
  rcases (writeValue_ok_iff document (.lines 0)).mpr within with ⟨chars, written⟩
  exact ⟨document, String.ofList chars, by rw [writeIndented, written]; rfl⟩

/-! ## Halves in written settings -/

theorem all_noHalf_writeChar (char : Char) :
    ((writeChar char).all fun written => !isHalf written) = !isHalf char := by
  have plain {code : Nat} (same : char.toNat = code) (small : code < 0x20) :
      isHalf char = false :=
    isHalf_of_ascii (by omega)
  unfold writeChar
  split_ifs with quote slash line carriage tab backspace feed control
  · rw [quote]
    rfl
  · rw [slash]
    rfl
  · rw [line]
    rfl
  · rw [carriage]
    rfl
  · rw [tab]
    rfl
  · rw [plain backspace (by decide)]
    rfl
  · rw [plain feed (by decide)]
    rfl
  · rw [plain rfl control, List.all_cons, List.all_cons, all_noHalf_hexField]
    rfl
  · simp

/-- A text is written without halves exactly if it has none. -/
theorem all_noHalf_writeText (text : String) :
    ((writeText text).all fun written => !isHalf written) = isWhole text := by
  rw [writeText, List.cons_append, List.all_cons, List.all_append, List.all_flatMap]
  simp only [all_noHalf_writeChar]
  exact Bool.and_true _

/-- Whether a single value has no half in it. -/
def isWholeValue : Value → Bool
  | .text chars => isWhole chars
  | _ => true

theorem all_noHalf_writeFields {values : List (String × Value)} (flat : AreFlat values)
    {spacing : Spacing} {parts : List (List Char)}
    (writes : writeFields spacing values = .ok parts) :
    (parts.all fun part => part.all fun written => !isHalf written) =
      values.all fun entry => isWholeValue entry.2 := by
  induction values generalizing parts with
  | nil =>
      cases writes
      rfl
  | cons entry rest hypothesis =>
      obtain ⟨key, value⟩ := entry
      rw [AreFlat, List.forall_mem_cons] at flat
      rcases writeFields_cons writes with ⟨content, others, rfl, written, later⟩
      rcases flat.1 with ⟨⟨name, rfl⟩, single⟩
      have named : isWhole name.key = true := by cases name <;> decide +kernel
      have inside : (content.all fun written => !isHalf written) = isWholeValue value := by
        rcases single with ⟨chars, rfl⟩ | ⟨flag, rfl⟩
        · cases written
          exact all_noHalf_writeText chars
        · cases flag <;> cases written <;> decide
      rw [List.all_cons, List.all_cons, hypothesis flat.2 later, List.all_append, List.all_cons,
        List.all_cons, all_noHalf_writeText, named, inside]
      rfl

/-- Flat values are written without halves exactly if none of them has one. -/
theorem isWhole_of_writeIndented {values : List (String × Value)} (flat : AreFlat values)
    {text : String} (writes : writeIndented (.object values) = .ok text) :
    isWhole text = values.all fun entry => isWholeValue entry.2 := by
  rcases Results.map_ok writes with ⟨chars, written, rfl⟩
  rcases Results.bind_ok written with ⟨parts, each, enclosed⟩
  cases enclosed
  rw [← all_noHalf_writeFields flat each, isWhole, String.toList_ofList]
  unfold enclose
  split
  · next empty =>
      rw [List.isEmpty_iff.mp empty]
      rfl
  · have between : ((Spacing.lines 0).deeper.between.all fun char => !isHalf char) = true := rfl
    have edges : (((Spacing.lines 0).deeper.edge.all fun char => !isHalf char) = true) ∧
        ((Spacing.lines 0).edge.all fun char => !isHalf char) = true := ⟨rfl, rfl⟩
    have braces : isHalf '\x7b' = false ∧ isHalf '\x7d' = false := ⟨rfl, rfl⟩
    simp only [List.all_append, List.all_cons, List.all_nil, all_joinChars _ between, edges, braces,
      Bool.not_false, Bool.true_and, Bool.and_true]

/-! ## Variables without content -/

theorem content_of_mem_read {environment : Variables} {chars : List Char}
    (empty : ∀ binding ∈ bindings chars, binding.content = none) :
    ∀ entry ∈ VariableFile.read environment chars, entry.2 = none := by
  have added {above : List (String × Option String)} (none : ∀ entry ∈ above, entry.2 = none)
      {rows : List Binding} (rowsEmpty : ∀ binding ∈ rows, binding.content = .none) :
      ∀ entry ∈ rows.foldl (addBinding environment) above, entry.2 = .none := by
    induction rows generalizing above with
    | nil => exact none
    | cons binding rest hypothesis =>
        rw [List.forall_mem_cons] at rowsEmpty
        refine hypothesis ?_ rowsEmpty.2
        intro entry member
        rcases Entries.mem_put member with rfl | older
        · simp [rowsEmpty.1]
        · exact none entry older
  exact added (by simp) empty

/-- Read as variables, written settings give no contents. -/
theorem content_of_mem_written {values : List (String × Value)} (flat : AreFlat values)
    {text : String} (writes : writeIndented (.object values) = .ok text) (environment : Variables) :
    ∀ entry ∈ lowerNames (VariableFile.read environment (unifyLineEnds text.toList)),
      entry.2 = none := by
  rcases Results.map_ok writes with ⟨chars, written, rfl⟩
  rcases Results.bind_ok written with ⟨parts, each, enclosed⟩
  cases enclosed
  have lines := areLines_of_writeFields flat each
  have unified : '\r' ∉ enclose (.lines 0) '\x7b' '\x7d' parts := by
    unfold enclose
    split
    · decide
    · intro member
      simp only [Spacing.edge, Spacing.deeper, Spacing.between, List.mem_append, List.mem_cons,
        List.cons_append] at member
      have inside : '\r' ∈ joinChars (',' :: '\n' :: List.replicate (2 * (0 + 1)) ' ') parts := by
        simpa using member
      rcases mem_joinChars inside with joint | ⟨part, partMem, inPart⟩
      · simp at joint
      · exact (lines part partMem).unified inPart
  rw [String.toList_ofList]
  intro entry member
  have kept := Entries.mem_of_mem_ofList member
  rcases List.mem_map.mp kept with ⟨⟨name, content⟩, read, rfl⟩
  have same := unifyLineEnds_append_of_not_mem unified []
  rw [List.append_nil, unifyLineEnds, List.append_nil] at same
  rw [same] at read
  have empty := @content_of_mem_read environment _ fun binding => content_of_mem_bindings lines
  exact empty (name, content) read

/-- Variables of the file that have no content make no difference. -/
theorem ofSources_of_none {homes : Homes} {environment : Variables}
    {filed : List (String × Option String)} (none : ∀ entry ∈ filed, entry.2 = none) :
    ofSources homes ⟨environment, filed⟩ = ofSources homes ⟨environment, []⟩ := by
  have given (field : String) : Sources.given? ⟨environment, filed⟩ field =
      Sources.given? ⟨environment, []⟩ field := by
    have absent : (Entries.find? (variableName field) filed).join = .none := by
      cases found : Entries.find? (variableName field) filed with
      | none => rfl
      | some content =>
          have nothing := none _ (Entries.mem_of_find? found)
          simp only at nothing
          rw [nothing]
          rfl
    simp only [Sources.given?, absent]
    rfl
  have stray : Sources.checkStray ⟨environment, filed⟩ = .valid () := by
    have kept : filed.filter isStray = [] := by
      apply List.filter_eq_nil_iff.mpr
      intro entry member
      simp [isStray, none entry member]
    simp only [Sources.checkStray, kept, List.map_nil]
  have noStray : Sources.checkStray ⟨environment, []⟩ = .valid () := rfl
  simp only [ofSources, Sources.expand, Sources.checkAll, Sources.check, given, stray, noStray]

/-! ## The environment after saving -/

section Saving

variable {homes : Homes} {environment : Variables} {tree left : Tree} {file : Location}
  {settings : Settings} {store : Store}

theorem reach_variableFile (tree : Tree) : tree.reach variableFile = .ok variableFile := by
  have place : variableFile = ⟨.here, [".env"]⟩ := by decide +kernel
  rw [place]
  rfl

theorem readVariableFile_of_item?
    (same : left.item? variableFile = tree.item? variableFile) :
    readVariableFile environment left = readVariableFile environment tree := by
  simp only [readVariableFile, Tree.contentOf, Tree.look, reach_variableFile, bind, Except.bind,
    same]

/-- Nothing, or a directory, gives no variables. -/
theorem readVariableFile_of_not_file
    (noFile : ∀ content, tree.item? variableFile ≠ some (.file content)) :
    readVariableFile environment tree = .ok [] := by
  simp only [readVariableFile, Tree.contentOf, Tree.look, reach_variableFile, bind, Except.bind]
  cases found : tree.item? variableFile with
  | none => rfl
  | some item =>
      cases item with
      | directory => rfl
      | file content => exact absurd found (noFile content)

/-- The settings can be read from the environment alone, should the file of saved settings be the
file of variables once its directory is there. -/
def Spares (homes : Homes) (environment : Variables) (settings : Settings) (file : Location)
    (tree : Tree) : Prop :=
  ∀ made, tree.makeDirectories file.parent = (.ok (), made) →
    made.reach file = .ok variableFile → ofSources homes ⟨environment, []⟩ = .ok settings

/-- Writing a file that says nothing as a file of variables does not change the settings of the
environment, wherever it is. -/
theorem load_of_write {made : Tree} {chars : List Char}
    (spares : Spares homes environment settings file tree)
    (makes : tree.makeDirectories file.parent = (.ok (), made))
    (written : made.write file (Utf8.encodeChars chars) = .ok left)
    (silent : ∀ entry ∈ lowerNames (VariableFile.read environment (unifyLineEnds chars)),
      entry.2 = none)
    (loads : load homes environment tree = .ok settings) :
    load homes environment left = .ok settings ∧ Spares homes environment settings file left := by
  rcases Tree.write_ok written with ⟨place, reached, noDirectory, rfl, _⟩
  constructor
  · by_cases same : place = variableFile
    · -- What is written is read as variables next, and none of them has a content.
      subst same
      have there : (made.put variableFile (.file (Utf8.encodeChars chars))).item? variableFile =
          some (.file (Utf8.encodeChars chars)) :=
        Tree.item?_put_self (Tree.isFixed_eq_false noDirectory) _
      have found : (made.put variableFile (.file (Utf8.encodeChars chars))).contentOf variableFile =
          .ok (Utf8.encodeChars chars) := by
        simp only [Tree.contentOf, Tree.look, reach_variableFile, bind, Except.bind, there]
      have read : readVariableFile environment
          (made.put variableFile (.file (Utf8.encodeChars chars))) =
            .ok (lowerNames (VariableFile.read environment (unifyLineEnds chars))) := by
        simp only [readVariableFile, found, Utf8.decodeChars?_encodeChars]
      rw [load, read]
      exact (ofSources_of_none silent).trans (spares made makes reached)
    · have kept : (made.put place (.file (Utf8.encodeChars chars))).item? variableFile =
          made.item? variableFile :=
        Tree.item?_put_of_ne (Ne.symm same) _
      rw [load, readVariableFile_of_item? kept]
      -- A directory may have been made in the place of the file of variables.
      rcases Tree.sameOrMade_makeDirectories makes variableFile with equal | ⟨nothing, directory⟩
      · rw [readVariableFile_of_item? equal]
        exact loads
      · rw [readVariableFile_of_not_file (by simp [directory])]
        rw [load, readVariableFile_of_not_file (by simp [nothing])] at loads
        exact loads
  · -- The directory is there by now, so that saving once more makes nothing.
    intro again makesAgain reachedAgain
    have reachedLeft := Tree.reach_put reached noDirectory (.file (Utf8.encodeChars chars))
    have present := Tree.isDirectory_parent_of_reach reachedLeft
    rw [Tree.makeDirectories_of_isDirectory present] at makesAgain
    cases makesAgain
    rw [reachedLeft] at reachedAgain
    cases reachedAgain
    exact spares made makes reached

/-- Saving settings does not change those of the environment, and neither does the attempt to save
settings with a half in them, which empties the file. -/
theorem load_of_save {result : Except Store.SaveFault Unit} (located : store.file = some file)
    (flat : AreFlat store.values) (spares : Spares homes environment settings file tree)
    (saves : store.save tree = (result, left))
    (written : result = .ok () ∨ result = .error .unencodable)
    (loads : load homes environment tree = .ok settings) :
    load homes environment left = .ok settings ∧ Spares homes environment settings file left := by
  rcases written with rfl | rfl
  · rcases Store.parts_of_save located saves with ⟨made, text, makes, writes, _, written⟩
    exact load_of_write spares makes written (content_of_mem_written flat writes environment) loads
  · rcases Store.parts_of_unencodable located saves with ⟨made, text, makes, _, _, written⟩
    rw [← show Utf8.encodeChars [] = [] from rfl] at written
    have silent : ∀ entry ∈ lowerNames (VariableFile.read environment (unifyLineEnds [])),
        entry.2 = none := by
      intro entry member
      cases member
    exact load_of_write spares makes written silent loads

/-- If their file can be written, flat values without halves are saved, and others empty the file;
it can be written again. -/
theorem save_of_canWrite (located : store.file = some file) (flat : AreFlat store.values)
    (distinct : (Entries.keys store.values).Nodup) (can : tree.CanWrite file) :
    ∃ left, store.save tree =
        (if store.values.all (isWholeValue ·.2) then .ok () else .error .unencodable, left) ∧
      left.CanWrite file := by
  rcases can with ⟨made, makes, writes⟩
  rcases (writes_of_areFlat flat distinct).2 with ⟨text, written⟩
  rcases writes ((encode? text).getD []) with ⟨left, final⟩
  refine ⟨left, ?_, Tree.canWrite_of_write final⟩
  simp only [Store.save, located, makes, written, final, isWhole_of_writeIndented flat written]

/-- Nothing is in the place of the file, nor will be once its directory is made. -/
structure IsAbsent (tree : Tree) (file : Location) : Prop where
  now : tree.holds file = .ok false
  later : ∀ made, tree.makeDirectories file.parent = (.ok (), made) → made.holds file = .ok false

theorem spares_of_isAbsent (absent : IsAbsent tree file)
    (loads : load homes environment tree = .ok settings) :
    Spares homes environment settings file tree := by
  intro made makes reached
  have nothing : made.item? variableFile = none := by
    have holds := absent.later made makes
    cases found : made.item? variableFile with
    | none => rfl
    | some item => simp [Tree.holds, Tree.look, reached, bind, Except.bind, found] at holds
  have before : tree.item? variableFile = none := by
    rcases Tree.sameOrMade_makeDirectories makes variableFile with same | ⟨none, _⟩
    · rw [← same, nothing]
    · exact none
  rwa [load, readVariableFile_of_not_file (by simp [before])] at loads

theorem readFile_of_isAbsent (absent : IsAbsent tree file) : Store.readFile tree file = .ok [] := by
  simp only [Store.readFile, absent.now]
  rfl

end Saving

end ImageCatalog.Settings
