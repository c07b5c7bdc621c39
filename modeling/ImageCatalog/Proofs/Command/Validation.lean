import ImageCatalog.Command.Run
import ImageCatalog.Proofs.Config.Legible
import ImageCatalog.Proofs.Results
import ImageCatalog.Proofs.Yaml.Faults

/-!
# Reading and validating a file

A file should be read as a document or be reported, and the command that validates it should end
with a verdict. Both are so exactly if the content of the file is text in UTF-8 without a fault of
its own: one at which cutting the text into tokens stops, or the nearest of the scalars that have no
value. At any other content both die of that fault. A verdict must also be printed, which it cannot
be with a half in the name of the file.

Entangled documents are left out: what they are read as is not known here.
-/

namespace ImageCatalog

open Config Text

/-! ## Contents of files -/

namespace Config

/-- A fault of the content of a file for which there is no report. -/
inductive HasFault (content : List UInt8) : FileFault → Prop where
  | notText (unspelt : ∀ chars, content ≠ Utf8.encodeChars chars) : HasFault content .notText
  | scalar {chars : List Char} {fault : Yaml.Fault} (spelt : content = Utf8.encodeChars chars)
      (has : Yaml.HasFault (unifyLineEnds chars) fault) (other : fault ≠ .malformed) :
      HasFault content (.scalar fault)

/-- The document in the content is not entangled. -/
def IsUntangled (content : List UInt8) : Prop :=
  ∀ chars, content = Utf8.encodeChars chars → ¬Yaml.HasFault (unifyLineEnds chars) .entangled

/-- The content has no fault for which there is no report. -/
def IsSound (content : List UInt8) : Prop :=
  ∀ fault, ¬HasFault content fault

/-- Reading ends with a result, or with a report of at least one line. -/
inductive EndsWell {Result : Type} : Except FileFault Result → Prop where
  | read (result : Result) : EndsWell (.ok result)
  | reported (report : Invalid) (lines : report.lines ≠ []) : EndsWell (.error (.invalid report))

/-- The lines of the report that reading ends with. -/
def reportedLines {Result : Type} : Except FileFault Result → List String
  | .error (.invalid report) => report.lines
  | _ => []

theorem endsWell_of_reportedLines {Result : Type} {result : Except FileFault Result}
    (lines : reportedLines result ≠ []) : EndsWell result := by
  cases result with
  | ok value => exact .read value
  | error fault =>
      cases fault with
      | invalid report => exact .reported report lines
      | _ => exact absurd rfl lines

variable {content : List UInt8} {fault : FileFault}

theorem readBytes_of_hasFault (has : HasFault content fault) (fileName : String) :
    readBytes fileName content = .error fault := by
  cases has with
  | notText unspelt =>
      have unread : Utf8.decodeChars? content = none := by
        cases reads : Utf8.decodeChars? content with
        | none => rfl
        | some chars => exact absurd (Utf8.decodeChars?_eq_some_iff.mp reads) (unspelt chars)
      rw [readBytes, unread]
  | scalar spelt has other =>
      rw [readBytes, Utf8.decodeChars?_eq_some_iff.mpr spelt]
      simp only [Yaml.read_error_iff.mpr has]

theorem isSound_of_endsWell {fileName : String} (ends : EndsWell (readBytes fileName content)) :
    IsSound content := by
  intro fault has
  rw [readBytes_of_hasFault has fileName] at ends
  cases ends with
  | reported => cases has

/-- Reading ends well or with a fault of the content. -/
theorem endsWell_or_hasFault (fileName : String) (content : List UInt8) :
    EndsWell (readBytes fileName content) ∨ ∃ fault, HasFault content fault := by
  unfold readBytes
  cases reads : Utf8.decodeChars? content with
  | none =>
      refine .inr ⟨.notText, .notText ?_⟩
      intro chars spelt
      rw [Utf8.decodeChars?_eq_some_iff.mpr spelt] at reads
      cases reads
  | some chars =>
      have spelt := Utf8.decodeChars?_eq_some_iff.mp reads
      cases found : Yaml.read (String.ofList (unifyLineEnds chars)) with
      | ok document => exact .inl (by simp only [found]; exact .read document)
      | error fault =>
          by_cases form : fault = .malformed
          · subst form
            exact .inl (by simp only [found]; exact .reported _ (List.cons_ne_nil _ _))
          · exact .inr ⟨.scalar fault, .scalar spelt (Yaml.read_error_iff.mp found) form⟩

theorem endsWell_readBytes_iff (fileName : String) (content : List UInt8) :
    EndsWell (readBytes fileName content) ↔ IsSound content := by
  refine ⟨isSound_of_endsWell, ?_⟩
  intro sound
  rcases endsWell_or_hasFault fileName content with ends | ⟨fault, has⟩
  · exact ends
  · exact absurd has (sound fault)

theorem ofBytes_of_hasFault (has : HasFault content fault) (fileName category : String) :
    ofBytes fileName content category = .error fault := by
  rw [ofBytes, readBytes_of_hasFault has fileName]
  rfl

theorem endsWell_ofBytes_iff (fileName category : String) (content : List UInt8) :
    EndsWell (ofBytes fileName content category) ↔ IsSound content := by
  constructor
  · intro ends fault has
    rw [ofBytes_of_hasFault has fileName category] at ends
    cases ends with
    | reported => cases has
  · intro sound
    have ends := (endsWell_readBytes_iff fileName content).mpr sound
    unfold ofBytes
    generalize readBytes fileName content = read at ends
    cases ends with
    | reported report lines => exact .reported report lines
    | read document =>
        simp only [bind, Except.bind, build]
        cases checkDocument document with
        | valid description => exact .read _
        | invalid first others => exact .reported _ (List.cons_ne_nil _ _)

end Config

/-! ## Validating -/

namespace Command

open Disk

/-- A command that validates a file ends with a verdict on it: that it is valid, or a report of at
least one line. -/
inductive IsVerdict (file : Location) (report : Report) : Prop where
  | valid (code : report.ending.exitCode = 0)
      (output : report.output = [file.print ++ " is valid."])
  | invalid (code : report.ending.exitCode = 1) (output : report.output ≠ [])
      (alive : ∀ fault, report.ending ≠ .died fault)

/-- What a command says before it dies is no verdict. -/
theorem not_isVerdict_of_died {file : Location} {report : Report} {fault : Fault}
    (died : report.ending = .died fault) : ¬IsVerdict file report := by
  intro verdict
  cases verdict with
  | valid code =>
      rw [died] at code
      cases code
  | invalid _ _ alive => exact alive fault died

variable {around : Surroundings} {words : List String} {file : Location} {content : List UInt8}

theorem run_validate (asks : Invocation.read around.tree words = .ok (.validate file)) :
    run around words = runValidate around file := by
  simp only [run, asks]
  rfl

theorem reportOnFile_eq (readable : around.tree.contentOf file = .ok content) :
    reportOnFile around.tree file =
      match readBytes file.name content with
      | .ok document => .ok (Config.report document)
      | .error (.invalid report) => .ok report.lines
      | .error fault => .error (.file fault) := by
  rw [reportOnFile, readable]
  rfl

theorem runValidate_of_hasFault {fault : FileFault}
    (readable : around.tree.contentOf file = .ok content) (has : Config.HasFault content fault) :
    runValidate around file = .stop around.tree (.died (.file fault)) := by
  rw [runValidate, reportOnFile_eq readable, readBytes_of_hasFault has file.name]
  cases has <;> rfl

/-- Whether the verdict on a file can be printed: only the one that it is valid names it there. -/
def CanPrint (around : Surroundings) (file : Location) : Prop :=
  reportOnFile around.tree file = .ok [] → isWhole file.print = true

theorem isWhole_of_mem_reportOnFile {lines : List String}
    (found : reportOnFile around.tree file = .ok lines) {line : String} (member : line ∈ lines) :
    isWhole line = true := by
  have malformed : isWhole ("<root>: " ++ Yaml.Fault.malformed.message) = true := by decide +kernel
  rcases Results.bind_ok found with ⟨content, _, reported⟩
  unfold readBytes at reported
  split at reported
  · next document _ =>
      cases reported
      exact isWhole_of_mem_report document member
  · next report read =>
      cases reported
      split at read
      · cases read
      · split at read
        · cases read
        · cases read
          rwa [List.mem_singleton.mp member]
        · cases read
  · cases reported

theorem exists_report_of_isSound (readable : around.tree.contentOf file = .ok content)
    (sound : IsSound content) : ∃ lines, reportOnFile around.tree file = .ok lines := by
  have ends := (endsWell_readBytes_iff file.name content).mpr sound
  rw [reportOnFile_eq readable]
  generalize readBytes file.name content = read at ends
  cases ends with
  | read document => exact ⟨_, rfl⟩
  | reported report => exact ⟨_, rfl⟩

/-- A report that can be printed is a verdict, and any other one dies of a half. -/
theorem runValidate_of_report {lines : List String}
    (found : reportOnFile around.tree file = .ok lines) :
    (CanPrint around file → IsVerdict file (runValidate around file)) ∧
      (¬CanPrint around file → (runValidate around file).ending = .died .unencodable) := by
  have suffix : isWhole " is valid." = true := by decide
  have indent : isWhole "  " = true := by decide
  unfold CanPrint
  rw [runValidate, found, writeResult]
  cases lines with
  | nil =>
      have printed : (∀ line ∈ [file.print ++ " is valid."], isWhole line = true) ↔
          isWhole file.print = true := by
        rw [List.forall_mem_singleton, isWhole_append, suffix, Bool.and_true]
      rw [imp_iff_right rfl, ← printed]
      simp only [List.isEmpty_nil, if_true]
      constructor
      · intro whole
        rw [Report.write_of_isWhole whole]
        exact .valid rfl rfl
      · intro half
        rw [Report.write_of_not_isWhole half]
  | cons first others =>
      have whole : ∀ line ∈ (first :: others).map fun line => "  " ++ line,
          isWhole line = true := by
        intro line member
        rcases List.mem_map.mp member with ⟨bare, among, rfl⟩
        exact isWhole_append_of indent (isWhole_of_mem_reportOnFile found among)
      rw [List.isEmpty_cons, if_neg Bool.false_ne_true, Report.write_of_isWhole whole]
      exact ⟨fun _ => .invalid rfl (by simp [Report.andThen]) nofun,
        fun half => absurd (fun same => by cases same) half⟩

/-- Surroundings with one file and nothing else. -/
def withFile (name : String) (content : List UInt8) : Surroundings where
  homes := .own (.ofText "/home")
  environment := []
  tree := { items := [(.ofText name, .file content)] }
  network _ := .answered ⟨404, [], []⟩
  extensions := .builtIn
  clock := (0 : Nat)

/-- The words that validate a file in YAML. -/
def validateWords : List String := ["validate", "c.yaml"]

/-- Validating a file with the content dies of the fault without a line of output, so there is no
verdict. -/
def DiesOf (content : List UInt8) (fault : FileFault) : Prop :=
  let report := run (withFile "c.yaml" content) validateWords
  (report.output, report.ending) = ([], .died (.file fault)) ∧
    ¬IsVerdict (.ofText "c.yaml") report

theorem diesOf_of_hasFault {content : List UInt8} {fault : FileFault}
    (has : Config.HasFault content fault) : DiesOf content fault := by
  have asks : Invocation.read (withFile "c.yaml" content).tree validateWords =
      .ok (.validate (.ofText "c.yaml")) := rfl
  have readable : (withFile "c.yaml" content).tree.contentOf (.ofText "c.yaml") = .ok content := rfl
  have died := (run_validate asks).trans (runValidate_of_hasFault readable has)
  exact ⟨by rw [died]; rfl, not_isVerdict_of_died (by rw [died]; rfl)⟩

theorem diesOf_of_run {content : List UInt8} {fault : FileFault}
    (died : let report := run (withFile "c.yaml" content) validateWords
      (report.output, report.ending) = ([], .died (.file fault))) :
    DiesOf content fault :=
  ⟨died, not_isVerdict_of_died (Prod.mk.inj died).2⟩

/-- A number to the base sixty, with parts of nothing between the first and the last. -/
def sixtieths (zeros : Nat) : List Char :=
  '1' :: (List.replicate zeros [':', '0']).flatten ++ ['.', '0']

/-- Whether reading ended with one word for a real number, which has these characters. -/
def endsWithReal (chars : List Char) : Except Yaml.Fault Yaml.Node → Bool
  | .ok (.scalar .real text) => text == String.ofList chars
  | _ => false

theorem eq_real_of_endsWithReal {chars : List Char} {result : Except Yaml.Fault Yaml.Node}
    (ends : endsWithReal chars result = true) :
    result = .ok (.scalar .real (String.ofList chars)) := by
  unfold endsWithReal at ends
  split at ends
  · rw [eq_of_beq ends]
  · cases ends

/-- The first part of a number of 175 parts is too large for a real number. The text is looked at as
a list: read from a string it is cut into characters again at every use. -/
theorem hasFault_sixtieths :
    Config.HasFault (Utf8.encodeChars ("!!float ".toList ++ sixtieths 174))
      (.scalar .powerTooLarge) := by
  refine .scalar rfl ?_ nofun
  have made : endsWithReal (sixtieths 174) (Yaml.Node.ofCut
      (Yaml.cut (unifyLineEnds ("!!float ".toList ++ sixtieths 174)))) = true := by
    decide +kernel
  have lowered : ((sixtieths 174).filter (· != '_')).map Char.toLower = sixtieths 174 := by
    decide +kernel
  have fails : Yaml.readRealScalar (String.ofList (sixtieths 174)) = .error .powerTooLarge := by
    rw [Yaml.readRealScalar, String.toList_ofList, lowered]
    decide +kernel
  exact .of_real (eq_real_of_endsWithReal made) fails

end Command

end ImageCatalog
