import ImageCatalog.Command.Usage

/-!
# The words of a command line

The words of a command line are options, which start with a hyphen, and arguments. Options with one
hyphen are single letters, several of which may stand in one word; the value of an option is the
rest of its word or the next word. After two hyphens alone all words are arguments.
-/

namespace ImageCatalog.Command

open Text

/-- An option with its long name, its letter, and whether it takes a value. -/
structure Switch where
  long : String
  short : Option Char
  takesValue : Bool
deriving DecidableEq, Repr

/-- The option that every command has. -/
def helpSwitch : Switch := ⟨"--help", none, false⟩

/-- An option that was given, by its long name, with its value; the value of an option that takes
none is empty. -/
structure Given where
  name : String
  value : String
deriving DecidableEq, Repr

/-- What a word of a command line is: an argument, the mark after which all words are arguments, or
options, of which the last may wait for the next word as its value. -/
inductive Word
  | argument
  | mark
  | options (given : List Given)
  | awaiting (given : List Given) (switch : Switch) (written : String)
  | refused (fault : UsageFault)
deriving DecidableEq, Repr

/-- A word with one more option in front. -/
def Word.withOption (first : Given) : Word → Word
  | .options given => .options (first :: given)
  | .awaiting given switch written => .awaiting (first :: given) switch written
  | other => other

/-- The options of a word of letters, after its hyphen. -/
def readLetters (switches : List Switch) : List Char → Word
  | [] => .options []
  | letter :: rest =>
    let written := String.ofList ['-', letter]
    match switches.find? fun switch => switch.short == some letter with
    | none => .refused (.unknownOption written [])
    | some switch =>
      if switch.takesValue then
        if rest.isEmpty then .awaiting [] switch written
        else .options [⟨switch.long, String.ofList rest⟩]
      else (readLetters switches rest).withOption ⟨switch.long, ""⟩

/-- The option of a word with its long name, and with its value if one is attached. -/
def readLong (switch : Switch) (value : Option String) : Word :=
  match switch.takesValue, value with
  | true, some text => .options [⟨switch.long, text⟩]
  | true, none => .awaiting [] switch switch.long
  | false, some _ => .refused (.valueNotTaken switch.long)
  | false, none => .options [⟨switch.long, ""⟩]

/-- What a word that starts with a hyphen is. -/
def readOption (switches : List Switch) (word : String) : Word :=
  let (name, value) := cutAtChar '=' word.toList
  let written := String.ofList name
  match switches.find? fun switch => switch.long == written with
  | some switch => readLong switch (value.map String.ofList)
  | none =>
    if startsWith "--" word then
      .refused (.unknownOption written (closest written (switches.map Switch.long)))
    else readLetters switches (word.toList.drop 1)

/-- What a word is. -/
def readWord (switches : List Switch) (word : String) : Word :=
  match word.toList with
  | ['-', '-'] => .mark
  | '-' :: _ :: _ => readOption switches word
  | _ => .argument

/-- The options and the arguments of a command line, each in order. -/
structure Words where
  options : List Given
  arguments : List String
deriving DecidableEq, Repr

/-- Words with some more options in front. -/
def Words.withOptions (given : List Given) (words : Words) : Words :=
  { words with options := given ++ words.options }

/-- Words with one more argument in front. -/
def Words.withArgument (argument : String) (words : Words) : Words :=
  { words with arguments := argument :: words.arguments }

/-- Read the words of a command line. Unless options may follow arguments, the first argument and
all words after it are arguments. -/
def readWords (switches : List Switch) (mayFollow : Bool) : List String → Except UsageFault Words
  | [] => .ok ⟨[], []⟩
  | word :: rest =>
    match readWord switches word with
    | .argument =>
      if mayFollow then (readWords switches mayFollow rest).map (Words.withArgument word)
      else .ok ⟨[], word :: rest⟩
    | .mark => .ok ⟨[], rest⟩
    | .options given => (readWords switches mayFollow rest).map (Words.withOptions given)
    | .awaiting given switch written =>
      match rest with
      | [] => .error (.valueMissing written)
      | value :: others =>
        (readWords switches mayFollow others).map
          (Words.withOptions (given ++ [⟨switch.long, value⟩]))
    | .refused fault => .error fault

/-- The value of an option; the last one given counts. -/
def Words.value? (words : Words) (name : String) : Option String :=
  (words.options.reverse.find? fun given => given.name == name).map Given.value

/-- All values of an option, in order. -/
def Words.values (words : Words) (name : String) : List String :=
  (words.options.filter fun given => given.name == name).map Given.value

/-- Whether an option was given. -/
def Words.has (words : Words) (name : String) : Bool :=
  words.options.any fun given => given.name == name

/-- Check that no argument is left over. -/
def endOfArguments : List String → Except UsageFault Unit
  | [] => .ok ()
  | first :: others => .error (.extraArguments first others)

/-- The first argument and the others. -/
def takeArgument (label : String) : List String → Except UsageFault (String × List String)
  | [] => .error (.argumentMissing label [])
  | first :: others => .ok (first, others)

end ImageCatalog.Command
