import ImageCatalog.Config.FieldCheck
import ImageCatalog.Disk.Tree
import ImageCatalog.Settings.VariableFile
import ImageCatalog.Text.Case
import ImageCatalog.Text.Line

/-!
# Settings

The settings say where the catalog is, how it is read, and where files are kept. Each has a default,
which a variable of the environment or of the file `.env` replaces; the environment comes first.
Names of variables start with `IMAGE_API_` and do not depend on case. A variable of the file that
sets nothing is an error, unless it is empty; variables of the environment that set nothing do not
matter.
-/

namespace ImageCatalog

open Config Disk Number Text

/-- Where the catalog is, how it is read, and where files are kept. -/
structure Settings where
  staticUrl : String
  repositoryUrl : String
  usesStaticIndex : Bool
  token : Option String
  downloads : Location
  timeout : Binary64
  savedFile : Location

namespace Settings

/-- Variables with their contents, by name. -/
abbrev Variables := VariableFile.Variables

/-- Why the settings cannot be read: the file is no text, there is no home directory for a location,
or variables have contents that do not fit. -/
inductive Fault
  | notText
  | homeUnknown
  | invalid (lines : List String)
deriving DecidableEq, Repr

/-- The names of the settings in the order in which they are checked. -/
def fieldNames : List String :=
  ["static_api_url", "github_api_url", "use_static_index", "github_pat", "download_path",
    "request_timeout", "settings_file"]

/-- The name of the variable for a setting, in lower case. -/
def variableName (field : String) : String :=
  "image_api_" ++ field

/-- The variables that settings are read from: those of the environment, and those of the file in
lower case. -/
structure Sources where
  environment : Variables
  filed : List (String × Option String)

/-- The content of a variable of the environment; of several that differ in case the last one
counts. -/
def ofEnvironment? (environment : Variables) (name : String) : Option String :=
  (environment.reverse.find? fun entry => lowerWord entry.1 == name).map Prod.snd

/-- The content given for a setting. -/
def Sources.given? (sources : Sources) (field : String) : Option String :=
  let name := variableName field
  (ofEnvironment? sources.environment name).or (Entries.find? name sources.filed).join

/-- Check the content given for a setting, or take the default. -/
def Sources.check {Result : Type} (sources : Sources) (field : String) (fallback : Result)
    (check : String → Checked Result) : Checked Result :=
  match sources.given? field with
  | some content => Checked.under (.field field) (check content)
  | none => .valid fallback

/-- A time limit, which is more than zero. -/
def checkTimeout (content : String) : Checked Binary64 :=
  match readFieldReal? content.toList with
  | none => Checked.fail (if isWhole content then .realUnreadable else .textUndecodable)
  | some number =>
    if (Quantity.whole 0).isLess (.real number) then .valid number else Checked.fail .notPositive

/-- A token, of which the empty one is none. -/
def checkToken (content : String) : Checked (Option String) :=
  .valid (if content.isEmpty then none else some content)

/-- Whether a variable of the file sets nothing and is not empty. -/
def isStray (entry : String × Option String) : Bool :=
  (entry.2.any fun content => !content.isEmpty) &&
    !(fieldNames.contains entry.1 || (fieldNames.map variableName).contains entry.1)

/-- Check that all variables of the file set something or are empty. -/
def Sources.checkStray (sources : Sources) : Checked Unit :=
  match (sources.filed.filter isStray).map fun entry => Issue.mk [.field entry.1] .notPermitted with
  | [] => .valid ()
  | first :: others => .invalid first others

/-- The default address of the static index. -/
def defaultStaticUrl : String := "https://acgapi.sr-studio.cn/"

/-- The default address of the repository. -/
def defaultRepositoryUrl : String :=
  "https://api.github.com/repos/IntelliMarkets/Wallpaper_API_Index/contents/"

/-- The default directory for downloaded images. -/
def defaultDownloads : Location := .ofText "~/Downloads"

/-- The default time limit for requests, in seconds. -/
def defaultTimeout : Binary64 := .ofDecimal false 30 0

/-- The default file for saved settings. -/
def defaultSavedFile : Location := .ofText "~/.config/image-api-engine/settings.json"

/-- The settings before the home directory is put into the locations. -/
def Sources.checkAll (sources : Sources) : Checked Settings :=
  Checked.apply
    ((Settings.mk <$> sources.check "static_api_url" defaultStaticUrl .valid <*>
      sources.check "github_api_url" defaultRepositoryUrl .valid <*>
      sources.check "use_static_index" true checkFlagWord <*>
      sources.check "github_pat" none checkToken <*>
      sources.check "download_path" defaultDownloads (fun text => .valid (.ofText text)) <*>
      sources.check "request_timeout" defaultTimeout checkTimeout <*>
      sources.check "settings_file" defaultSavedFile (fun text => .valid (.ofText text))).map
        fun settings () => settings)
    sources.checkStray

/-- The location given for a setting with the home directory put in. -/
def Sources.expand (sources : Sources) (homes : Homes) (field : String) (fallback : Location) :
    Except Fault Location :=
  let location := ((sources.given? field).map Location.ofText).getD fallback
  match location.expandHome? homes with
  | some expanded => .ok expanded
  | none => .error .homeUnknown

/-- The settings that variables give. A location without a home directory is reported before all
else. -/
def ofSources (homes : Homes) (sources : Sources) : Except Fault Settings := do
  let downloads ← sources.expand homes "download_path" defaultDownloads
  let savedFile ← sources.expand homes "settings_file" defaultSavedFile
  match sources.checkAll with
  | .valid settings => return { settings with downloads, savedFile }
  | .invalid first others => .error (.invalid ((first :: others).map Issue.line))

/-- The location of the file of variables. -/
def variableFile : Location := .ofText ".env"

/-- The entries of a file of variables with their names in lower case. -/
def lowerNames (entries : List (String × Option String)) : List (String × Option String) :=
  Entries.ofList (entries.map fun (name, content) => (lowerWord name, content))

/-- The variables of the file of variables, of which there are none without the file. -/
def readVariableFile (environment : Variables) (tree : Tree) :
    Except Fault (List (String × Option String)) :=
  match tree.contentOf variableFile with
  | .error _ => .ok []
  | .ok content =>
    match Utf8.decodeChars? content with
    | none => .error .notText
    | some chars => .ok (lowerNames (VariableFile.read environment (unifyLineEnds chars)))

/-- The settings that an environment and a disk give. -/
def load (homes : Homes) (environment : Variables) (tree : Tree) : Except Fault Settings := do
  let filed ← readVariableFile environment tree
  ofSources homes ⟨environment, filed⟩

end Settings

end ImageCatalog
