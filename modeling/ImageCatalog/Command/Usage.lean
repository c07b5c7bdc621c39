import ImageCatalog.Request.Override
import ImageCatalog.Text.Quoted
import ImageCatalog.Text.Similarity

/-!
# Faults of usage

A command line that does not follow the rules of its command ends with a `UsageFault`, which is
reported in one sentence. Words that nearly name an option or a command are answered with the ones
they may have meant.
-/

namespace ImageCatalog.Command

open Text

/-- How a command line does not follow the rules of its command. -/
inductive UsageFault
  | unknownOption (written : String) (similar : List String)
  | valueNotTaken (written : String)
  | valueMissing (written : String)
  | commandMissing
  | unknownCommand (written : String) (similar : List String)
  | argumentMissing (label : String) (choices : List String)
  | extraArguments (first : String) (others : List String)
  | pathMissing (label written : String)
  | notAChoice (label written : String) (choices : List String)
  | notAPair (written : String)
  | refused (refusal : Override.Refusal)
deriving DecidableEq, Repr

/-- A text in single quotes. -/
def quoted (text : String) : String :=
  "'" ++ text ++ "'"

/-- What is added to a report for the words that may have been meant. -/
def suggestion : List String → String
  | [] => ""
  | [only] => " Did you mean " ++ Quoted.quote only ++ "?"
  | several => " (Did you mean one of: " ++ joinText ", " (several.map Quoted.quote) ++ "?)"

/-- What is added to a report about an argument that takes one of some choices. -/
def offer (choices : List String) : String :=
  if choices.isEmpty then "" else " Choose from:\n\t" ++ joinText ",\n\t" choices

/-- What is reported about a fault. -/
def UsageFault.message : UsageFault → String
  | .unknownOption written similar =>
    "No such option " ++ Quoted.quote written ++ "." ++ suggestion similar
  | .valueNotTaken written => "Option " ++ Quoted.quote written ++ " does not take a value."
  | .valueMissing written => "Option " ++ Quoted.quote written ++ " requires an argument."
  | .commandMissing => "Missing command."
  | .unknownCommand written similar =>
    "No such command " ++ Quoted.quote written ++ "." ++ suggestion similar
  | .argumentMissing label choices => "Missing argument " ++ quoted label ++ "." ++ offer choices
  | .extraArguments first [] => "Got unexpected extra argument (" ++ first ++ ")"
  | .extraArguments first others =>
    "Got unexpected extra arguments (" ++ joinText " " (first :: others) ++ ")"
  | .pathMissing label written =>
    "Invalid value for " ++ quoted label ++ ": Path " ++ Quoted.quote written ++
      " does not exist."
  | .notAChoice label written choices =>
    "Invalid value for " ++ quoted label ++ ": " ++ Quoted.quote written ++ " is not one of " ++
      joinText ", " (choices.map Quoted.quote) ++ "."
  | .notAPair written => "Invalid value for -p: expected KEY=VALUE, got " ++ Quoted.quote written
  | .refused refusal => "Invalid value for -p: " ++ refusal.message

end ImageCatalog.Command
