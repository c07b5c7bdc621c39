import ImageCatalog.Command.Usage
import ImageCatalog.Config.File
import ImageCatalog.Image.Download
import ImageCatalog.Settings.Effective
import ImageCatalog.Text.Quoted

/-!
# Reports of commands

A command writes lines, sends requests, changes the disk and ends in one of a few ways. All of it
together is its `Report`. Commands are made of parts that run one after the other, each on the disk
that the part before it left behind, until one of them ends the command: `andThen` puts two
together.

A line with a half in it cannot be written to the output, and the command dies of it. On the error
output a half is written as an escape.
-/

namespace ImageCatalog.Command

open Disk Http Text

/-- What a command dies of. -/
inductive Fault
  | settings (fault : Settings.Fault)
  | saved (fault : Settings.Effective.Fault)
  | load (fault : Settings.Store.LoadFault)
  | save (fault : Settings.Store.SaveFault)
  | disk (fault : Disk.Fault)
  | file (fault : Config.FileFault)
  | build (fault : Json.WriteFault)
  | overlong (overflow : DigitOverflow)
  | download (fault : Image.DownloadFault)
  | unencodable
deriving DecidableEq, Repr

/-- How a command ends: it is done, it is refused with a message, its words do not follow the rules,
its usage is shown, or it dies. -/
inductive Ending
  | done
  | refused (message : String)
  | misused (fault : UsageFault)
  | shown (usage : String) (asked : Bool)
  | died (fault : Fault)
deriving DecidableEq, Repr

/-- The exit code of an ending. -/
def Ending.exitCode : Ending → Nat
  | .done => 0
  | .refused _ => 1
  | .misused _ => 2
  | .shown _ asked => if asked then 0 else 2
  | .died _ => 1

/-- The lines that an ending adds to the output. -/
def Ending.outputLines : Ending → List String
  | .shown usage true => [usage]
  | _ => []

/-- The lines that an ending adds to the error output. -/
def Ending.errorLines : Ending → List String
  | .refused message => ["Error: " ++ message]
  | .misused fault => ["Error: " ++ fault.message]
  | .shown usage false => [usage]
  | _ => []

/-- What a command does: the lines that it writes, its ending, the disk that it leaves behind and
the requests that it sends. -/
structure Report where
  output : List String
  errors : List String
  ending : Ending
  tree : Tree
  requests : List Request

namespace Report

/-- Do nothing. -/
def nothing (tree : Tree) : Report :=
  ⟨[], [], .done, tree, []⟩

/-- End a command. -/
def stop (tree : Tree) (ending : Ending) : Report :=
  ⟨[], [], ending, tree, []⟩

/-- Write lines to the output, up to the first one with a half in it. -/
def write (tree : Tree) (lines : List String) : Report :=
  ⟨lines.takeWhile isWhole, [], if lines.all isWhole then .done else .died .unencodable, tree, []⟩

theorem write_of_isWhole {lines : List String} (whole : ∀ line ∈ lines, isWhole line = true)
    (tree : Tree) : write tree lines = ⟨lines, [], .done, tree, []⟩ := by
  have all : lines.all isWhole = true := List.all_eq_true.mpr whole
  have kept : lines.takeWhile isWhole = lines := by
    induction lines with
    | nil => rfl
    | cons line rest hypothesis =>
        rw [List.forall_mem_cons] at whole
        rw [List.all_cons, whole.1, Bool.true_and] at all
        rw [List.takeWhile_cons_of_pos whole.1, hypothesis whole.2 all]
  rw [write, kept, if_pos all]

theorem write_of_not_isWhole {lines : List String} (half : ¬∀ line ∈ lines, isWhole line = true)
    (tree : Tree) :
    write tree lines = ⟨lines.takeWhile isWhole, [], .died .unencodable, tree, []⟩ := by
  rw [write, if_neg (fun all => half (List.all_eq_true.mp all))]

/-- Write a line to the error output. -/
def warn (tree : Tree) (line : String) : Report :=
  ⟨[], [line], .done, tree, []⟩

/-- A report with some requests sent before it. -/
def afterRequests (requests : List Request) (report : Report) : Report :=
  { report with requests := requests ++ report.requests }

/-- Go on after a part of a command, unless it has ended the command. -/
def andThen (first : Report) (next : Tree → Report) : Report :=
  match first.ending with
  | .done =>
    let second := next first.tree
    ⟨first.output ++ second.output, first.errors ++ second.errors, second.ending, second.tree,
      first.requests ++ second.requests⟩
  | _ => first

/-- Lines as they are written. -/
def printLines (lines : List String) : String :=
  String.join (lines.map fun line => line ++ "\n")

/-- The output of a command. -/
def outputText (report : Report) : String :=
  printLines (report.output ++ report.ending.outputLines)

/-- The error output of a command. -/
def errorText (report : Report) : String :=
  printLines ((report.errors ++ report.ending.errorLines).map Quoted.escapeHalves)

end Report

end ImageCatalog.Command
