import ImageCatalog.Text.Blank
import ImageCatalog.Value.Entries

/-!
# Files of variables

A file of variables has a binding on every line: a name, and after an equals sign its content.
Contents may stand in single or double quotes, which may contain line ends and escapes; without
quotes they end at a remark or at the end of the line. A line that is no binding is skipped.

Contents may refer to variables, as in `$` followed by a name in curly braces, with a default after
a colon and a hyphen. `VariableFile.read` resolves the references: the bindings above come before
the variables around the file.
-/

namespace ImageCatalog.VariableFile

open Text

/-- A name with its content, if it has one. -/
structure Binding where
  name : String
  content : Option String
deriving DecidableEq, Repr

/-- Whether a character is a blank within a line. -/
def isLineBlank (char : Char) : Bool :=
  isBlank char && char != '\n'

/-- Drop the blanks within a line from the front. -/
def skipLineBlanks (chars : List Char) : List Char :=
  chars.dropWhile isLineBlank

/-- Drop the rest of a line together with its end. -/
def skipLine (chars : List Char) : List Char :=
  (chars.dropWhile (· != '\n')).drop 1

/-- A part of a file that was read together with the rest of the file, or the rest at which reading
stopped. -/
abbrev Reading (Result : Type) := Except (List Char) (Result × List Char)

/-- The text up to a closing quote and the rest after it. A quote after a backslash does not close
the text, unless no other quote does. -/
def cutQuoted (quote : Char) : List Char → Option (List Char × List Char)
  | [] => none
  | '\\' :: next :: rest =>
    if next = quote then
      match cutQuoted quote rest with
      | some (inside, after) => some ('\\' :: quote :: inside, after)
      | none => some (['\\'], rest)
    else (cutQuoted quote (next :: rest)).map fun (inside, after) => ('\\' :: inside, after)
  | char :: rest =>
    if char = quote then some ([], rest)
    else (cutQuoted quote rest).map fun (inside, after) => (char :: inside, after)

/-- The character that an escape in single quotes stands for. -/
def singleEscape? (char : Char) : Option Char :=
  if char = '\\' ∨ char = '\'' then some char else none

/-- The character that an escape in double quotes stands for. -/
def doubleEscape? : Char → Option Char
  | '\\' => some '\\'
  | '\'' => some '\''
  | '"' => some '"'
  | 'a' => some '\x07'
  | 'b' => some '\x08'
  | 'f' => some '\x0c'
  | 'n' => some '\n'
  | 'r' => some '\r'
  | 't' => some '\t'
  | 'v' => some '\x0b'
  | _ => none

/-- Replace the escapes of a text by what they stand for. -/
def unescape (meaning? : Char → Option Char) : List Char → List Char
  | [] => []
  | '\\' :: char :: rest =>
    match meaning? char with
    | some meant => meant :: unescape meaning? rest
    | none => '\\' :: unescape meaning? (char :: rest)
  | char :: rest => char :: unescape meaning? rest

/-- The name at the front of a line; a line with a remark only has none. -/
def readName (chars : List Char) : Reading (Option (List Char)) :=
  match chars with
  | '#' :: _ => .ok (none, chars)
  | '\'' :: rest =>
    let name := rest.takeWhile (· != '\'')
    match rest.drop name.length with
    | _ :: after => if name.isEmpty then .error chars else .ok (some name, after)
    | [] => .error chars
  | _ =>
    let name := chars.takeWhile fun char => char != '=' && char != '#' && !isBlank char
    if name.isEmpty then .error chars else .ok (some name, chars.drop name.length)

/-- Whether a remark starts after some blanks. -/
def startsRemark (chars : List Char) : Bool :=
  (chars.dropWhile isBlank).head? == some '#'

/-- The part of a line before a remark. -/
def beforeRemark : List Char → List Char
  | [] => []
  | char :: rest => if isBlank char && startsRemark rest then [] else char :: beforeRemark rest

/-- The content after an equals sign. -/
def readContent (chars : List Char) : Reading (List Char) :=
  match chars with
  | '\'' :: rest =>
    match cutQuoted '\'' rest with
    | some (inside, after) => .ok (unescape singleEscape? inside, after)
    | none => .error chars
  | '"' :: rest =>
    match cutQuoted '"' rest with
    | some (inside, after) => .ok (unescape doubleEscape? inside, after)
    | none => .error chars
  | _ =>
    let line := chars.takeWhile (· != '\n')
    .ok (trimRightBy isBlank (beforeRemark line), chars.drop line.length)

/-- The end of a line, before which a remark may stand. -/
def readLineEnd (chars : List Char) : Reading Unit :=
  let rest :=
    match skipLineBlanks chars with
    | '#' :: remark => remark.dropWhile (· != '\n')
    | other => other
  match rest with
  | [] => .ok ((), [])
  | '\n' :: after => .ok ((), after)
  | _ => .error rest

/-- The word that may stand in front of a name. -/
def skipExport (chars : List Char) : List Char :=
  let word := "export".toList
  let rest := chars.drop word.length
  if word.isPrefixOf chars && (rest.head?.any isLineBlank) then skipLineBlanks rest else chars

/-- The binding at the front of a line, if the line has one. -/
def readBinding (chars : List Char) : Except (List Char) (Option Binding × List Char) := do
  let (name, afterName) ← readName (skipExport chars)
  let (content, afterContent) ←
    match skipLineBlanks afterName with
    | '=' :: rest => (readContent (skipLineBlanks rest)).map fun (text, after) => (some text, after)
    | other => .ok (none, other)
  let ((), after) ← readLineEnd afterContent
  return (name.map fun name => ⟨String.ofList name, content.map String.ofList⟩, after)

/-- The bindings of at most `limit` lines. -/
def readBindings : Nat → List Char → List Binding
  | 0, _ => []
  | limit + 1, chars =>
    match chars.dropWhile isBlank with
    | [] => []
    | line =>
      match readBinding line with
      | .ok (binding, after) => binding.toList ++ readBindings limit after
      | .error stopped => readBindings limit (skipLine stopped)

/-- The bindings of a file, in order. -/
def bindings (chars : List Char) : List Binding :=
  readBindings (chars.length + 1) chars

/-- The default in a reference, after its name, and what follows the reference. -/
def readDefault? : List Char → Option (Option (List Char) × List Char)
  | '}' :: rest => some (none, rest)
  | ':' :: '-' :: rest =>
    let fallback := rest.takeWhile (· != '}')
    match rest.drop fallback.length with
    | _ :: after => some (some fallback, after)
    | [] => none
  | _ => none

/-- The name and the default of a reference, after its opening brace, and what follows it. -/
def readReference? (chars : List Char) : Option (List Char × Option (List Char) × List Char) :=
  let name := chars.takeWhile fun char => char != '}' && char != ':'
  (readDefault? (chars.drop name.length)).map fun (fallback, after) => (name, fallback, after)

/-- Replace the references of a text by what they refer to, after leaving out the first `skipped`
characters. -/
def resolveFrom (contentOf? : String → Option String) : Nat → List Char → List Char
  | _, [] => []
  | skipped + 1, _ :: rest => resolveFrom contentOf? skipped rest
  | 0, '$' :: '{' :: rest =>
    match readReference? rest with
    | some (name, fallback, after) =>
      let found := ((contentOf? (String.ofList name)).map String.toList).or fallback
      found.getD [] ++ resolveFrom contentOf? (rest.length - after.length) rest
    | none => '$' :: '{' :: resolveFrom contentOf? 0 rest
  | 0, char :: rest => char :: resolveFrom contentOf? 0 rest

/-- Variables with their contents, by name. -/
abbrev Variables := List (String × String)

/-- The content of a variable: the bindings above come first, and one without content is empty. -/
def contentOf? (around : Variables) (above : List (String × Option String)) (name : String) :
    Option String :=
  match Entries.find? name above with
  | some content => some (content.getD "")
  | none => Entries.find? name around

/-- Add a binding to those above it, with its references resolved. -/
def addBinding (around : Variables) (above : List (String × Option String)) (binding : Binding) :
    List (String × Option String) :=
  let content := binding.content.map fun text =>
    String.ofList (resolveFrom (contentOf? around above) 0 text.toList)
  Entries.put binding.name content above

/-- The variables of a file, with those around it that it may refer to. -/
def read (around : Variables) (chars : List Char) : List (String × Option String) :=
  (bindings chars).foldl (addBinding around) []

end ImageCatalog.VariableFile
