import ImageCatalog.Catalog.Source
import ImageCatalog.Command.Describe
import ImageCatalog.Command.Invocation
import ImageCatalog.Generator

/-!
# Running commands

`run` reads a command line and performs its command in given surroundings: the variables of the
environment, the disk, the network and the clock. Everything that the command does is in its
`Report`.
-/

namespace ImageCatalog.Command

open Disk Http Settings Text

/-- The times, in milliseconds, that a clock shows when the images of a run get their names. -/
structure Clock where
  reading : Nat → Nat

/-- A clock that stands still. -/
instance : Coe Nat Clock :=
  ⟨fun time => ⟨fun _ => time⟩⟩

/-- What a command finds when it starts. -/
structure Surroundings where
  homes : Homes
  environment : Variables
  tree : Tree
  network : Network
  extensions : Image.Extensions
  clock : Clock

namespace Surroundings

/-- References in their order, each with the time that the clock shows for it. -/
def timed (around : Surroundings) (references : List String) : List (Nat × String) :=
  references.zipIdx.map fun (reference, index) => (around.clock.reading index, reference)

/-- Download the image of a reference into a directory, at some time. -/
abbrev download (around : Surroundings) (directory : Location) (tree : Tree) (time : Nat)
    (reference : String) : Image.Download :=
  Image.download around.network around.extensions time tree directory reference

/-- The settings of the environment. -/
def settings (around : Surroundings) : Except Fault Settings :=
  (Settings.load around.homes around.environment around.tree).mapError .settings

/-- The saved settings. -/
def store (around : Surroundings) : Except Fault Store := do
  let settings ← around.settings
  (Store.load around.tree settings.savedFile).mapError .load

/-- The settings in force. -/
def effective (around : Surroundings) : Except Fault Effective := do
  let settings ← around.settings
  let store ← around.store
  (Effective.of around.homes store settings).mapError .saved

/-- The catalog. -/
def source (around : Surroundings) : Except Fault Catalog.Source := do
  let settings ← around.settings
  let store ← around.store
  return .start around.homes (.ok settings) store

end Surroundings

/-- What a command dies of if the settings do not fit. -/
def ofSourceFault : Catalog.Source.Fault → Fault
  | .environment fault => .settings fault
  | .saved fault => .saved fault

/-- Write the lines made of a result, or die of its fault. -/
def writeResult {Result : Type} (tree : Tree) (result : Except Fault Result)
    (report : Result → Report) : Report :=
  match result with
  | .ok value => report value
  | .error fault => .stop tree (.died fault)

/-- List the categories of the catalog. -/
def runCategories (around : Surroundings) : Report :=
  writeResult around.tree around.source fun source =>
    let (result, made) := source.listCategories around.network
    Report.afterRequests made <|
      writeResult around.tree (result.mapError ofSourceFault) fun names =>
        if names.isEmpty then .warn around.tree "No categories found."
        else .write around.tree names

/-- The line about a configuration in a list. -/
def listLine (config : Config) : String :=
  config.name ++ "\t" ++ config.category ++ "\t" ++ config.description.title

/-- The line about the length of a list. -/
def countLine (count : Nat) : String :=
  "Found " ++ String.ofList (natDigits count) ++ " APIs."

/-- The configurations of a category, or of the whole catalog without one. -/
def listedConfigs (network : Network) (source : Catalog.Source) (category : Option String) :
    Except Catalog.Source.Fault (List Config) × List Request :=
  match category.filter fun name => !name.isEmpty with
  | some name => source.listCategory network name
  | none =>
    let outcome := source.getAll network
    (outcome.result, outcome.requests)

/-- List configurations. -/
def runList (around : Surroundings) (category : Option String) : Report :=
  writeResult around.tree around.source fun source =>
    let (result, made) := listedConfigs around.network source category
    Report.afterRequests made <|
      writeResult around.tree (result.mapError ofSourceFault) fun configs =>
        (Report.write around.tree (configs.map listLine)).andThen fun tree =>
          .warn tree (countLine configs.length)

/-- The configuration in a file. -/
def configOfFile (tree : Tree) (file : Location) : Except Ending Config := do
  let content ← (tree.contentOf file).mapError fun fault => .died (.disk fault)
  match Config.ofBytes file.name content Config.localCategory with
  | .ok config => return config
  | .error (.invalid report) => .error (.refused report.message)
  | .error fault => .error (.died (.file fault))

/-- The configuration of a name in the catalog, with the requests that were made. -/
def configOfName (around : Surroundings) (name : String) : Except Ending Config × List Request :=
  match around.source with
  | .error fault => (.error (.died fault), [])
  | .ok source =>
    let outcome := source.getByName around.network name
    let found :=
      match outcome.result with
      | .error fault => .error (.died (ofSourceFault fault))
      | .ok none => .error (.refused ("API not found: " ++ name))
      | .ok (some config) => .ok config
    (found, outcome.requests)

/-- The configuration that a command is about, with the requests that were made. -/
def configOf (around : Surroundings) (origin : Origin) : Except Ending Config × List Request :=
  match origin.file with
  | some file => (configOfFile around.tree file, [])
  | none => configOfName around origin.name

/-- Go on with the configuration that a command is about. -/
def withConfig (around : Surroundings) (origin : Origin) (report : Config → Report) : Report :=
  let (found, made) := configOf around origin
  Report.afterRequests made <|
    match found with
    | .ok config => report config
    | .error ending => .stop around.tree ending

/-- Describe a configuration. -/
def runDescribe (around : Surroundings) (origin : Origin) : Report :=
  withConfig around origin fun config => writeLines around.tree (describeLines config)

/-- The key and the value of a pair; blanks around the key do not count. -/
def readPair (pair : String) : Except UsageFault (String × String) :=
  match cutAtChar '=' pair.toList with
  | (_, none) => .error (.notAPair pair)
  | (key, some value) =>
    if key.isEmpty then .error (.notAPair pair)
    else .ok (String.ofList (trim key), String.ofList value)

/-- The values of a configuration with the pairs of a command line applied. -/
def valuesOf (config : Config) (pairs : List String) : Except Ending ValueMap := do
  let overrides ← (pairs.mapM readPair).mapError .misused
  let seed := ValueMap.seed config.description
  match Override.applyAll config.description seed overrides with
  | .ok values => return values
  | .error (.refused refusal) => .error (.misused (.refused refusal))
  | .error (.overlong overflow) => .error (.died (.overlong overflow))

/-- The number of characters of an embedded image that are shown. -/
def previewLength : Nat := 80

/-- A reference as it is shown; long embedded images are cut. -/
def preview (reference : String) : String :=
  if startsWith "data:" reference && previewLength < reference.length then
    String.ofList (reference.toList.take previewLength) ++ "..."
  else reference

/-- Save the image of a reference in a directory at some time. -/
def saveOne (around : Surroundings) (directory : Location) (tree : Tree) (time : Nat)
    (reference : String) : Report :=
  let download := around.download directory tree time reference
  let report : Report :=
    match download.result with
    | .ok location => .write download.tree ["  Saved " ++ location.print]
    | .error fault =>
      if fault.isReported then
        .warn download.tree ("  Failed to save " ++ preview reference ++ ": " ++ fault.message)
      else .stop download.tree (.died (.download fault))
  report.afterRequests download.requests

/-- Save the images of some references in a directory, one after the other, each at its time. -/
def saveAll (around : Surroundings) (directory : Location) (tree : Tree) :
    List (Nat × String) → Report
  | [] => .nothing tree
  | (time, reference) :: rest =>
    (saveOne around directory tree time reference).andThen fun left =>
      saveAll around directory left rest

/-- Do with the images of a service what the command asks for. -/
def keepAll (around : Surroundings) (keeping : Keeping) (tree : Tree) (references : List String) :
    Report :=
  match keeping with
  | .listed => .nothing tree
  | .saved (some directory) => saveAll around directory tree (around.timed references)
  | .saved none =>
    writeResult tree around.effective fun effective =>
      saveAll around effective.downloads tree (around.timed references)

/-- What a command dies of if a call brings nothing. -/
def ofGeneratorFault : Generator.Fault → Fault
  | .build fault => .build fault
  | .overlong overflow => .overlong overflow

/-- List the images that a service returned, and keep them as the command asks for. -/
def reportImages (around : Surroundings) (keeping : Keeping) (references : List String) : Report :=
  if references.isEmpty then .warn around.tree "No images returned."
  else
    (Report.write around.tree (references.map preview)).andThen fun tree =>
      keepAll around keeping tree references

/-- Call a service with some values. -/
def callService (around : Surroundings) (config : Config) (values : ValueMap) (keeping : Keeping) :
    Report :=
  let (result, _, made) := Generator.new.generate around.network config values
  Report.afterRequests made <|
    writeResult around.tree (result.mapError ofGeneratorFault) fun generated =>
      reportImages around keeping generated.images

/-- Call a service and list or save the images that it returns. -/
def runGenerate (around : Surroundings) (origin : Origin) (pairs : List String)
    (keeping : Keeping) : Report :=
  withConfig around origin fun config =>
    match valuesOf config pairs with
    | .error ending => .stop around.tree ending
    | .ok values =>
      writeResult around.tree around.settings fun _ => callService around config values keeping

/-- The report on the document in a file. -/
def reportOnFile (tree : Tree) (file : Location) : Except Fault (List String) := do
  let content ← (tree.contentOf file).mapError .disk
  match Config.readBytes file.name content with
  | .ok document => return Config.report document
  | .error (.invalid report) => return report.lines
  | .error fault => .error (.file fault)

/-- Validate a configuration file. -/
def runValidate (around : Surroundings) (file : Location) : Report :=
  writeResult around.tree (reportOnFile around.tree file) fun lines =>
    if lines.isEmpty then .write around.tree [file.print ++ " is valid."]
    else
      (Report.write around.tree (lines.map fun line => "  " ++ line)).andThen fun tree =>
        .stop tree (.refused (file.print ++ " is invalid (" ++
          String.ofList (natDigits lines.length) ++ " errors)."))

/-- The text of a setting in force. -/
def settingText (effective : Effective) : SavedName → Except Fault String
  | .token =>
    match effective.token with
    | none => .ok ""
    | some token => token.print.mapError .overlong
  | .usesStaticIndex => .ok (if effective.usesStaticIndex then "True" else "False")
  | .repositoryUrl => .ok effective.repositoryUrl
  | .staticUrl => .ok effective.staticUrl
  | .downloads => .ok effective.downloads.print

/-- Show a setting in force. -/
def runGetSetting (around : Surroundings) (name : SavedName) : Report :=
  let text := do
    let effective ← around.effective
    settingText effective name
  writeResult around.tree text fun line => .write around.tree [line]

/-- The value that is saved for a text; an empty text clears the setting. -/
def savedValue (name : SavedName) (text : String) : Value :=
  if text.isEmpty then .null
  else if name = .usesStaticIndex then .bool (Effective.isSwitchedOn text)
  else .text text

/-- Save a setting. -/
def runSetSetting (around : Surroundings) (name : SavedName) (text : String) : Report :=
  writeResult around.tree around.store fun store =>
    let change := store.set around.tree name.key (savedValue name text)
    match change.fault with
    | some fault => .stop change.tree (.died (.save fault))
    | none => .write change.tree [name.key ++ " saved."]

/-- Perform a command. -/
def perform (around : Surroundings) : Invocation → Report
  | .categories => runCategories around
  | .list category => runList around category
  | .describe origin => runDescribe around origin
  | .generate origin pairs keeping => runGenerate around origin pairs keeping
  | .validate file => runValidate around file
  | .getSetting name => runGetSetting around name
  | .setSetting name text => runSetSetting around name text

/-- Read a command line and perform its command. -/
def run (around : Surroundings) (words : List String) : Report :=
  match Invocation.read around.tree words with
  | .ok invocation => perform around invocation
  | .error ending => .stop around.tree ending

end ImageCatalog.Command
