import ImageCatalog.Command.Run
import Std.Time.DateTime.Timestamp

/-!
# The program

The program looks up the variables, the files and the time that a command may ask for, runs the
command on them, and carries out what the report says: the files that are new or changed are
written, and the lines are printed. Requests are not carried out: to this program every address is
out of reach, so that its commands work on local files and settings only.
-/

namespace ImageCatalog.Program

open Disk Settings

/-- The variables that a command may ask for. -/
def variableNames : List String :=
  "HOME" :: (fieldNames.map variableName).flatMap fun name => [name, Text.upper name]

/-- The variables that are set. -/
def readVariables : IO Variables :=
  variableNames.filterMapM fun name => do
    return (← IO.getEnv name).map fun content => (name, content)

/-- The time in milliseconds. -/
def readClock : IO Nat := do
  let now ← Std.Time.Timestamp.now
  return now.toMillisecondsSinceUnixEpoch.val.toNat

/-- What the disk holds at a location whose directory exists; directories cannot be read as files.
-/
def probe (location : Location) : IO (Option Item) := do
  try
    let content ← IO.FS.readBinFile location.print
    return some (.file content.toList)
  catch
    | .inappropriateType .. => return some .directory
    | _ => return none

/-- The tree with what the disk holds at a location and on the way to it. -/
def survey (tree : Tree) (location : Location) : IO Tree :=
  (List.range location.names.length).foldlM (fun known count => do
    let place : Location := { location with names := location.names.take (count + 1) }
    match known.reach place, ← probe place with
    | .ok reached, some item => return known.put reached item
    | _, _ => return known) tree

/-- The home directories in the lines of a file of users. -/
def homesOfUsers (users : String) : List (String × String) :=
  (Text.splitText '\n' users).filterMap fun line =>
    match Text.splitText ':' line with
    | [name, _, _, _, _, home, _] => some (name, home)
    | _ => none

/-- The location of a home directory; one that starts with a tilde counts as unknown. -/
def homeOf? (home : String) : Option Location :=
  let location : Location := .ofText (if home.isEmpty then "/" else home)
  if location.user?.isSome then none else some location

/-- The home directories of the users, one's own among the variables. -/
def readHomes (environment : Variables) : IO Homes := do
  let users ← try IO.FS.readFile "/etc/passwd" catch _ => pure ""
  let known := ("", (Entries.find? "HOME" environment).getD "/") :: homesOfUsers users
  return ⟨fun user => (Entries.find? user known).bind homeOf?⟩

/-- The locations that the settings name. -/
def locationsOf (homes : Homes) (environment : Variables) (tree : Tree) : List Location :=
  match Settings.load homes environment tree with
  | .ok settings => [settings.savedFile, settings.downloads]
  | .error _ => []

/-- The part of the disk that a command may ask for. -/
def readTree (homes : Homes) (environment : Variables) (words : List String) : IO Tree := do
  let named ← (variableFile :: words.map Location.ofText).foldlM survey Tree.empty
  (locationsOf homes environment named).foldlM survey named

/-- No request is answered. -/
def network : Http.Network := fun _ =>
  .failed "ConnectError" "every address is out of reach"

/-- Write what a tree has gained. -/
def writeTree (before after : Tree) : IO Unit :=
  after.items.forM fun (location, item) => do
    if Entries.find? location before.items != some item then
      match item with
      | .directory => IO.FS.createDirAll location.print
      | .file content => IO.FS.writeBinFile location.print ⟨content.toArray⟩

/-- Run a command and carry out its report. -/
def runWords (words : List String) : IO UInt32 := do
  let environment ← readVariables
  let homes ← readHomes environment
  let tree ← readTree homes environment words
  let report := Command.run ⟨homes, environment, tree, network, .builtIn, ← readClock⟩ words
  writeTree tree report.tree
  IO.print report.outputText
  IO.eprint report.errorText
  return UInt32.ofNat report.ending.exitCode

end ImageCatalog.Program

/-- Run the command that the words of the command line give. -/
def main (words : List String) : IO UInt32 :=
  ImageCatalog.Program.runWords words
