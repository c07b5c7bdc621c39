import ImageCatalog.Command.Report
import ImageCatalog.Command.Words

/-!
# Command lines

An `Invocation` is a command together with what its words give it. Words are checked in the order in
which a reader would find their faults: options in the order in which they were given, then
arguments, then the words that are left over. A path that must exist is looked up while the words
are read.
-/

namespace ImageCatalog.Command

open Disk Settings Text

/-- Where the configuration of a command comes from: a file, or the catalog under a name. -/
structure Origin where
  name : String
  file : Option Location
deriving DecidableEq, Repr

/-- What is done with the images that a service returns: they are only listed, or they are saved in
a directory, which the settings name if the command does not. -/
inductive Keeping
  | listed
  | saved (directory : Option Location)
deriving DecidableEq, Repr

/-- A command with what its words give it. -/
inductive Invocation
  | categories
  | list (category : Option String)
  | describe (origin : Origin)
  | generate (origin : Origin) (pairs : List String) (keeping : Keeping)
  | validate (file : Location)
  | getSetting (name : SavedName)
  | setSetting (name : SavedName) (value : String)
deriving DecidableEq, Repr

namespace Invocation

/-- The option for more reports. -/
def verboseSwitch : Switch := ⟨"--verbose", some 'v', false⟩

/-- The option for the category of a list. -/
def categorySwitch : Switch := ⟨"--category", none, true⟩

/-- The option for a configuration file. -/
def configSwitch : Switch := ⟨"--config", none, true⟩

/-- The option for the value of a parameter. -/
def paramSwitch : Switch := ⟨"--param", some 'p', true⟩

/-- The option for saving images. -/
def saveSwitch : Switch := ⟨"--save", none, false⟩

/-- The option for the directory of saved images. -/
def outputSwitch : Switch := ⟨"--output", some 'o', true⟩

/-- The line about the usage of a command. -/
def usageLine (command : String) : String :=
  "Usage: image-api " ++ command

/-- The words of a command, unless its usage is asked for. -/
def wordsOf (usage : String) (switches : List Switch) (mayFollow : Bool) (words : List String) :
    Except Ending Words := do
  let read ← (readWords (switches ++ [helpSwitch]) mayFollow words).mapError .misused
  if read.has helpSwitch.long then .error (.shown (usageLine usage) true) else return read

/-- The command that the words of a group of commands name, and the words after it. -/
def commandOf (usage : String) (switches : List Switch) (words : List String) :
    Except Ending (String × List String) := do
  if words.isEmpty then .error (.shown (usageLine usage) false)
  let read ← wordsOf usage switches false words
  match read.arguments with
  | [] => .error (.misused .commandMissing)
  | command :: rest => return (command, rest)

/-- Take an argument. -/
def argument (label : String) (words : List String) : Except Ending (String × List String) :=
  (takeArgument label words).mapError .misused

/-- Check that no argument is left over. -/
def endOfWords (words : List String) : Except Ending Unit :=
  (endOfArguments words).mapError .misused

/-- The location of a text, which may be missing. -/
def pathOf (text : String) : Except Ending Location :=
  let location := Location.ofText text
  match Tree.nameFault? location with
  | some cause => .error (.died (.disk ⟨cause, location⟩))
  | none => .ok location

/-- The location of a text, which must exist. -/
def existingPath (tree : Tree) (label text : String) : Except Ending Location := do
  let location ← pathOf text
  match tree.lookAt text with
  | .ok _ => return location
  | .error _ => .error (.misused (.pathMissing label text))

/-- The label of an argument that is the name of a setting. -/
def settingLabel : String :=
  "\x7b" ++ joinText "|" (SavedName.all.map SavedName.key) ++ "\x7d"

/-- Take the name of a setting. -/
def settingArgument (words : List String) : Except Ending (SavedName × List String) :=
  let keys := SavedName.all.map SavedName.key
  match words with
  | [] => .error (.misused (.argumentMissing settingLabel keys))
  | first :: others =>
    match SavedName.ofKey? first with
    | some name => .ok (name, others)
    | none => .error (.misused (.notAChoice settingLabel first keys))

/-- Where the configuration of some words comes from. -/
def originOf (tree : Tree) (words : Words) : Except Ending (Origin × List String) := do
  let file ← (words.value? configSwitch.long).mapM (existingPath tree configSwitch.long)
  let (name, rest) ← argument "NAME" words.arguments
  return (⟨name, file⟩, rest)

/-- Read the words of the command that lists configurations. -/
def readList (words : List String) : Except Ending Invocation := do
  let read ← wordsOf "list [OPTIONS]" [categorySwitch] true words
  endOfWords read.arguments
  return .list (read.value? categorySwitch.long)

/-- Read the words of the command that describes a configuration. -/
def readDescribe (tree : Tree) (words : List String) : Except Ending Invocation := do
  let read ← wordsOf "show [OPTIONS] NAME" [configSwitch] true words
  let (origin, rest) ← originOf tree read
  endOfWords rest
  return .describe origin

/-- Read the words of the command that calls a service. -/
def readGenerate (tree : Tree) (words : List String) : Except Ending Invocation := do
  let switches := [paramSwitch, configSwitch, saveSwitch, outputSwitch]
  let read ← wordsOf "generate [OPTIONS] NAME" switches true words
  let directory ← (read.value? outputSwitch.long).mapM pathOf
  let (origin, rest) ← originOf tree read
  endOfWords rest
  let keeping := if read.has saveSwitch.long then .saved directory else .listed
  return .generate origin (read.values paramSwitch.long) keeping

/-- Read the words of the command that validates a file. -/
def readValidate (tree : Tree) (words : List String) : Except Ending Invocation := do
  let read ← wordsOf "validate [OPTIONS] FILE_PATH" [] true words
  let (text, rest) ← argument "FILE_PATH" read.arguments
  let file ← existingPath tree "FILE_PATH" text
  endOfWords rest
  return .validate file

/-- Read the words of the command that shows a setting. -/
def readGetSetting (words : List String) : Except Ending Invocation := do
  let read ← wordsOf "settings get [OPTIONS] KEY" [] true words
  let (name, rest) ← settingArgument read.arguments
  endOfWords rest
  return .getSetting name

/-- Read the words of the command that saves a setting. -/
def readSetSetting (words : List String) : Except Ending Invocation := do
  let read ← wordsOf "settings set [OPTIONS] KEY VALUE" [] true words
  let (name, afterName) ← settingArgument read.arguments
  let (value, rest) ← argument "VALUE" afterName
  endOfWords rest
  return .setSetting name value

/-- Refuse a command that there is not among some others. -/
def unknown (command : String) (commands : List String) : Except Ending Invocation :=
  .error (.misused (.unknownCommand command (closest command commands)))

/-- Read the words of the commands for settings. -/
def readSettings (words : List String) : Except Ending Invocation := do
  let (command, rest) ← commandOf "settings [OPTIONS] COMMAND" [] words
  match command with
  | "get" => readGetSetting rest
  | "set" => readSetSetting rest
  | other => unknown other ["get", "set"]

/-- Read the words of a command line. -/
def read (tree : Tree) (words : List String) : Except Ending Invocation := do
  let (command, rest) ← commandOf "[OPTIONS] COMMAND" [verboseSwitch] words
  match command with
  | "categories" => do
    let read ← wordsOf "categories [OPTIONS]" [] true rest
    endOfWords read.arguments
    return .categories
  | "list" => readList rest
  | "show" => readDescribe tree rest
  | "generate" => readGenerate tree rest
  | "validate" => readValidate tree rest
  | "settings" => readSettings rest
  | other => unknown other ["categories", "generate", "list", "settings", "show", "validate"]

end Invocation

end ImageCatalog.Command
