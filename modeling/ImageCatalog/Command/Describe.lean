import ImageCatalog.Command.Report
import ImageCatalog.Config.Basic
import ImageCatalog.Json.Writer

/-!
# Describing a configuration

A configuration is described by its title, its address, the place of the images in its answers, and
the parameters that are enabled, each with its position. Below a parameter stand its options or its
default. Values whose numbers are too long to be written end the description.
-/

namespace ImageCatalog.Command

open Config Disk Text

/-- A line of a description, which dies of values that cannot be written. -/
abbrev Line := Except Fault String

/-- The lines about the place of the images in an answer. -/
def imageLine (image : ImageDescriptor) : String :=
  let place :=
    match image.path? with
    | some path => " at " ++ path
    | none => ""
  "Response: " ++ image.contentType.tag ++ place

/-- The indentation of what stands below a parameter. -/
def indentation : String := "        "

/-- The lines about the options of a choice. -/
def optionLines (field : ChoiceField) : List Line :=
  match field.optionLabels with
  | .error overflow => [.error (.overlong overflow)]
  | .ok labels =>
    (field.options.zip labels).map fun (option, label) =>
      (option.print.mapError .overlong).map fun text => indentation ++ text ++ ": " ++ label

/-- The line about a default. -/
def defaultLine (value : Value) : Line :=
  ((Json.write value).mapError .build).map fun text => indentation ++ "default: " ++ text

/-- The lines about a parameter at a position. -/
def parameterLines (position : Nat) (parameter : Parameter) : List Line :=
  let key := parameter.sentName?.getD "(positional)"
  let first := "  [" ++ String.ofList (natDigits position) ++ "] " ++ key ++ " <" ++
    parameter.kind.name.tag ++ "> " ++ parameter.label
  let below :=
    match parameter.kind with
    | .choice field => optionLines field
    | _ => [defaultLine parameter.defaultValue]
  .ok first :: below

/-- The lines about the enabled ones of some parameters. -/
def enabledLines (parameters : List Parameter) : List Line :=
  (parameters.zipIdx.filter fun entry => entry.1.enabled).flatMap fun entry =>
    parameterLines entry.2 entry.1

/-- The lines that describe a configuration. -/
def describeLines (config : Config) : List Line :=
  let description := config.description
  let title := description.title ++ " (" ++ config.name ++ ", " ++ config.category ++ ")"
  let intro := if description.intro.isEmpty then [] else [description.intro]
  let service := description.method ++ " " ++ description.link
  (([title] ++ intro ++ [service, imageLine description.image]).map .ok) ++
    enabledLines description.parameters

/-- Write lines up to the first that cannot be written. -/
def writeLines (tree : Tree) : List Line → Report
  | [] => .nothing tree
  | .ok line :: rest => (Report.write tree [line]).andThen fun left => writeLines left rest
  | .error fault :: _ => .stop tree (.died fault)

end ImageCatalog.Command
