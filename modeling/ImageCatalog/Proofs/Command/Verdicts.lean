import ImageCatalog.Command.Run
import ImageCatalog.Proofs.Image.Saving
import ImageCatalog.Proofs.Items
import ImageCatalog.Proofs.Text.Surrogate
import Mathlib.Data.List.TakeWhile

/-!
# What is said about the images of a run

A command that saves the images of a service downloads them one after the other, each on the disk
that those before it leave behind. About each of them there is a verdict: the image is saved, or it
is not for some reason. Verdicts that concern a single image are told, on the output or on the error
output; the first one that does not ends the command, and nothing is said about later references.
So does the first one that cannot be told because there is a half in the location of its image. And
if there is a half in the list of the references itself, then no image is downloaded at all.
-/

namespace ImageCatalog.Command

open Disk Http Results Settings Text

/-! ## Runs that get images -/

/-- The references that the service of a command returns for the values that its pairs give, if the
command gets that far. -/
def returned? (around : Surroundings) (origin : Origin) (pairs : List String) :
    Option (List String) := do
  let config ← (configOf around origin).1.toOption
  let values ← (valuesOf config pairs).toOption
  let _ ← around.settings.toOption
  let generated ← (Generator.new.generate around.network config values).1.toOption
  return generated.images

/-- The directory in which a command saves images: the one that it names, or the one that the
settings name. -/
def directoryFor (around : Surroundings) : Option Location → Except Fault Location
  | some directory => .ok directory
  | none => around.effective.map Effective.downloads

/-- What is said about the image of a reference: where it is saved, or why it is not. -/
inductive Verdict
  | saved (location : Location)
  | failed (reference : String) (fault : Image.DownloadFault)

namespace Verdict

/-- The line about an image that is saved. -/
def output? : Verdict → Option String
  | .saved location => some ("  Saved " ++ location.print)
  | .failed _ _ => none

/-- The line about an image that is not saved. -/
def error? : Verdict → Option String
  | .saved _ => none
  | .failed reference fault =>
      some ("  Failed to save " ++ preview reference ++ ": " ++ fault.message)

/-- Whether a verdict concerns a single image and can be told, so that the command goes on. -/
def isTold : Verdict → Bool
  | .saved location => isWhole location.print
  | .failed _ fault => fault.isReported

/-- The verdict on the download of a reference. -/
def ofDownload (reference : String) (download : Image.Download) : Verdict :=
  match download.result with
  | .ok location => .saved location
  | .error fault => .failed reference fault

end Verdict

section

variable (around : Surroundings) (directory : Location)

/-- The disk that the downloads of some references leave behind. -/
def diskAfter (tree : Tree) (images : List (Nat × String)) : Tree :=
  images.foldl (fun left (time, reference) =>
    (around.download directory left time reference).tree) tree

/-- The verdicts on some references, one for each. -/
def verdicts (tree : Tree) : List (Nat × String) → List Verdict
  | [] => []
  | (time, reference) :: rest =>
    let download := around.download directory tree time reference
    .ofDownload reference download :: verdicts download.tree rest

end

variable {around : Surroundings} {directory : Location} {tree : Tree} {origin : Origin}
  {pairs references : List String} {images : List (Nat × String)} {time : Nat} {reference : String}

theorem length_verdicts : (verdicts around directory tree images).length = images.length := by
  induction images generalizing tree with
  | nil => rfl
  | cons image rest hypothesis => rw [verdicts, List.length_cons, hypothesis, List.length_cons]

/-- How a reference ends the command that saves its image at some time: it breaks the command, or
its image is saved at a location with a half in it. -/
inductive Ends (around : Surroundings) (directory : Location) (tree : Tree) (time : Nat)
    (reference : String) : Prop
  | breaks (breaks : Image.Breaks around.network around.extensions time tree directory reference)
  | unwritable {location : Location}
      (saved : (around.download directory tree time reference).result = .ok location)
      (half : isWhole location.print = false)

/-- A verdict is told unless the reference ends the command. -/
theorem isTold_iff :
    (Verdict.ofDownload reference
      (around.download directory tree time reference)).isTold = true ↔
      ¬Ends around directory tree time reference := by
  have breaks : (∃ fault, (around.download directory tree time reference).result =
      .error fault ∧ fault.isReported = false) ↔
      Image.Breaks around.network around.extensions time tree directory reference :=
    Image.exists_unreported_iff
  rw [Verdict.ofDownload]
  cases result : (around.download directory tree time reference).result with
  | ok location =>
      rw [result] at breaks
      rw [Verdict.isTold]
      constructor
      · rintro whole (broken | ⟨saved, half⟩)
        · simpa using breaks.mpr broken
        · rw [result] at saved
          cases saved
          rw [whole] at half
          cases half
      · intro goesOn
        by_contra half
        exact goesOn (.unwritable result (by simpa using half))
  | error fault =>
      rw [result] at breaks
      rw [Verdict.isTold]
      constructor
      · rintro reported (broken | ⟨saved, _⟩)
        · rcases breaks.mpr broken with ⟨other, same, unreported⟩
          cases same
          rw [reported] at unreported
          cases unreported
        · rw [result] at saved
          cases saved
      · intro goesOn
        by_contra unreported
        exact goesOn (.breaks (breaks.mp ⟨fault, rfl, by simpa using unreported⟩))

/-- All verdicts are told exactly if no reference ends the command. -/
theorem forall_isTold_iff :
    (∀ verdict ∈ verdicts around directory tree images, verdict.isTold = true) ↔
      ∀ before image later, images = before ++ image :: later →
        ¬Ends around directory (diskAfter around directory tree before) image.1 image.2 := by
  induction images generalizing tree with
  | nil => simp [verdicts]
  | cons first rest hypothesis =>
      let goesOn (before : List (Nat × String)) (image : Nat × String) : Prop :=
        ¬Ends around directory (diskAfter around directory tree before) image.1 image.2
      have split := @Items.forall_split_item_cons _ goesOn first rest
      rw [verdicts, List.forall_mem_cons, isTold_iff, hypothesis]
      exact split.symm

/-! ## Reports -/

theorem isWhole_savedLine (location : Location) :
    isWhole ("  Saved " ++ location.print) = isWhole location.print := by
  rw [isWhole_append]
  exact Bool.true_and _

theorem saveOne_of_isTold (told : (Verdict.ofDownload reference
      (around.download directory tree time reference)).isTold = true) :
    let download := around.download directory tree time reference
    let verdict := Verdict.ofDownload reference download
    (saveOne around directory tree time reference).output = verdict.output?.toList ∧
      (saveOne around directory tree time reference).errors = verdict.error?.toList ∧
      (saveOne around directory tree time reference).ending = .done ∧
      (saveOne around directory tree time reference).tree = download.tree := by
  unfold Verdict.ofDownload at told
  simp only [saveOne, Report.afterRequests, Verdict.ofDownload]
  cases found : (around.download directory tree time reference).result with
  | ok location =>
      simp only [found, Verdict.isTold] at told
      have line : ∀ line ∈ ["  Saved " ++ location.print], isWhole line = true := by
        rw [List.forall_mem_singleton, isWhole_savedLine, told]
      simp only [Report.write_of_isWhole line, Verdict.output?, Verdict.error?, Option.toList_some,
        Option.toList_none, and_self]
  | error fault =>
      simp only [found, Verdict.isTold] at told
      simp only [told, if_true]
      exact ⟨rfl, rfl, rfl, rfl⟩

theorem saveOne_of_not_isTold (untold : (Verdict.ofDownload reference
      (around.download directory tree time reference)).isTold = false) :
    (saveOne around directory tree time reference).output = [] ∧
      (saveOne around directory tree time reference).errors = [] ∧
      (saveOne around directory tree time reference).ending ≠ .done := by
  unfold Verdict.ofDownload at untold
  simp only [saveOne, Report.afterRequests]
  cases found : (around.download directory tree time reference).result with
  | ok location =>
      simp only [found, Verdict.isTold] at untold
      have line : ¬∀ line ∈ ["  Saved " ++ location.print], isWhole line = true := by
        rw [List.forall_mem_singleton, isWhole_savedLine, untold]
        exact Bool.false_ne_true
      have none : ["  Saved " ++ location.print].takeWhile isWhole = [] :=
        List.takeWhile_cons_of_neg (by rwa [List.forall_mem_singleton] at line)
      simp only [Report.write_of_not_isWhole line, none, true_and]
      exact Ending.noConfusion
  | error fault =>
      simp only [found, Verdict.isTold] at untold
      simp only [untold]
      exact ⟨rfl, rfl, Ending.noConfusion⟩

/-- Verdicts are told in the order of the references until one is not, which ends the command. -/
theorem saveAll_told (around : Surroundings) (directory : Location) (tree : Tree)
    (images : List (Nat × String)) :
    let told := (verdicts around directory tree images).takeWhile Verdict.isTold
    (saveAll around directory tree images).output = told.filterMap Verdict.output? ∧
      (saveAll around directory tree images).errors = told.filterMap Verdict.error? ∧
      ((saveAll around directory tree images).ending = .done ↔
        ∀ verdict ∈ verdicts around directory tree images, verdict.isTold = true) := by
  -- For all disks at once: each download starts on the disk that the one before it left behind.
  induction images generalizing tree with
  | nil => exact ⟨rfl, rfl, iff_of_true rfl (by simp [verdicts])⟩
  | cons image rest hypothesis =>
      rcases image with ⟨time, reference⟩
      have later := hypothesis (around.download directory tree time reference).tree
      cases told : (Verdict.ofDownload reference
          (around.download directory tree time reference)).isTold with
      | true =>
          rcases saveOne_of_isTold told with ⟨output, errors, ending, left⟩
          simp only [saveAll, Report.andThen, ending, left, output, errors, verdicts,
            List.takeWhile_cons, told, if_true, List.forall_mem_cons, true_and]
          refine ⟨?_, ?_, later.2.2⟩
          · rw [later.1, List.filterMap_cons]
            cases Verdict.output? _ <;> rfl
          · rw [later.2.1, List.filterMap_cons]
            cases Verdict.error? _ <;> rfl
      | false =>
          rcases saveOne_of_not_isTold told with ⟨output, errors, ending⟩
          have stops : saveAll around directory tree ((time, reference) :: rest) =
              saveOne around directory tree time reference := by
            unfold saveAll Report.andThen
            split
            · next done => exact absurd done ending
            · rfl
          simp only [stops, output, errors, verdicts, List.takeWhile_cons, told]
          refine ⟨rfl, rfl, iff_of_false ending fun all => ?_⟩
          rw [List.forall_mem_cons, told] at all
          cases all.1

/-- Saving images is done, or it dies of a download or of a half in a location. -/
theorem done_or_download_saveAll (around : Surroundings) (directory : Location) (tree : Tree)
    (images : List (Nat × String)) :
    (saveAll around directory tree images).ending = .done ∨
      (∃ fault, (saveAll around directory tree images).ending = .died (.download fault)) ∨
      (saveAll around directory tree images).ending = .died .unencodable := by
  induction images generalizing tree with
  | nil => exact .inl rfl
  | cons image rest hypothesis =>
      rcases image with ⟨time, reference⟩
      have first : (saveOne around directory tree time reference).ending = .done ∨
          (∃ fault, (saveOne around directory tree time reference).ending =
            .died (.download fault)) ∨
          (saveOne around directory tree time reference).ending = .died .unencodable := by
        simp only [saveOne, Report.afterRequests]
        split
        · unfold Report.write
          split
          · exact .inl rfl
          · exact .inr (.inr rfl)
        · split
          · exact .inl rfl
          · exact .inr (.inl ⟨_, rfl⟩)
      rcases first with done | ⟨fault, died⟩ | died
      · simp only [saveAll, Report.andThen, done]
        exact hypothesis _
      · simp only [saveAll, Report.andThen, died]
        exact .inr (.inl ⟨fault, rfl⟩)
      · simp [saveAll, Report.andThen, died]

/-- Saving images is done, or it dies. -/
theorem ending_saveAll (around : Surroundings) (directory : Location) (tree : Tree)
    (images : List (Nat × String)) :
    (saveAll around directory tree images).ending = .done ∨
      ∃ fault, (saveAll around directory tree images).ending = .died fault :=
  (done_or_download_saveAll around directory tree images).imp_right fun dies =>
    dies.elim (fun ⟨fault, died⟩ => ⟨.download fault, died⟩) fun died => ⟨.unencodable, died⟩

theorem tree_saveAll (tree : Tree)
    (told : ∀ verdict ∈ verdicts around directory tree images, verdict.isTold = true) :
    (saveAll around directory tree images).tree = diskAfter around directory tree images := by
  induction images generalizing tree with
  | nil => rfl
  | cons image rest hypothesis =>
      rcases image with ⟨time, reference⟩
      rw [verdicts, List.forall_mem_cons] at told
      rcases saveOne_of_isTold told.1 with ⟨_, _, ending, left⟩
      simp only [saveAll, Report.andThen, ending, left]
      exact hypothesis _ told.2

/-- Whether references can be listed. -/
def CanList (references : List String) : Prop :=
  ∀ reference ∈ references, isWhole (preview reference) = true

/-- A run that gets images lists them, looks for the directory, and saves them there; if they cannot
be listed, it does nothing else. -/
theorem perform_of_returned (returned : returned? around origin pairs = some references)
    (nonempty : references ≠ []) (output? : Option Location) :
    let report := perform around (.generate origin pairs (.saved output?))
    let saving := writeResult around.tree (directoryFor around output?) fun directory =>
      saveAll around directory around.tree (around.timed references)
    (CanList references →
      report.output = references.map preview ++ saving.output ∧ report.errors = saving.errors ∧
        report.ending = saving.ending ∧ report.tree = saving.tree) ∧
    (¬CanList references →
      report.output = (references.map preview).takeWhile isWhole ∧ report.errors = [] ∧
        report.ending = .died .unencodable ∧ report.tree = around.tree) := by
  simp only [returned?, bind, Option.bind_eq_some_iff, pure, Option.some.injEq] at returned
  rcases returned with ⟨config, found, values, chosen, settings, settled, generated, called, rfl⟩
  have keeps : keepAll around (.saved output?) around.tree generated.images =
      writeResult around.tree (directoryFor around output?) fun directory =>
        saveAll around directory around.tree (around.timed generated.images) := by
    cases output? with
    | some directory => rfl
    | none =>
        simp only [keepAll, directoryFor]
        cases around.effective <;> rfl
  have reported : reportImages around (.saved output?) generated.images =
      (Report.write around.tree (generated.images.map preview)).andThen fun tree =>
        keepAll around (.saved output?) tree generated.images := by
    rw [reportImages, if_neg (by simpa using nonempty)]
  rcases got : configOf around origin with ⟨result, asked⟩
  rcases brought : Generator.new.generate around.network config values with ⟨outcome, after, made⟩
  rw [got] at found
  rw [brought] at called
  have configured := eq_ok_of_toOption found
  have generates := eq_ok_of_toOption called
  simp only at configured generates
  simp only [perform, runGenerate, withConfig, got, configured, eq_ok_of_toOption chosen,
    eq_ok_of_toOption settled, writeResult, callService, brought, generates, Except.mapError,
    reported, Report.afterRequests]
  have listed : CanList generated.images ↔
      ∀ line ∈ generated.images.map preview, isWhole line = true := by
    rw [CanList, List.forall_mem_map]
  constructor
  · intro whole
    simp only [Report.write_of_isWhole (listed.mp whole), Report.andThen, keeps, writeResult,
      List.nil_append, and_self]
  · intro half
    simp only [Report.write_of_not_isWhole (mt listed.mpr half), Report.andThen, and_self]

/-- Whether none of the references ends the command that saves them one after the other. -/
def NoneEnds (around : Surroundings) (directory : Location) (references : List String) : Prop :=
  ∀ before image later, around.timed references = before ++ image :: later →
    ¬Ends around directory (diskAfter around directory around.tree before) image.1 image.2

theorem noneEnds_iff : NoneEnds around directory references ↔
    ∀ verdict ∈ verdicts around directory around.tree (around.timed references),
      verdict.isTold = true :=
  forall_isTold_iff.symm

theorem length_timed : (around.timed references).length = references.length := by
  rw [Surroundings.timed, List.length_map, List.length_zipIdx]

/-- A run that lists its images and has a directory for them tells of them until a reference ends
it. -/
theorem perform_of_directory (returned : returned? around origin pairs = some references)
    (nonempty : references ≠ []) (listed : CanList references) {output? : Option Location}
    (found : directoryFor around output? = .ok directory) :
    let report := perform around (.generate origin pairs (.saved output?))
    let images := around.timed references
    let all := verdicts around directory around.tree images
    let told := all.takeWhile Verdict.isTold
    report.output = references.map preview ++ told.filterMap Verdict.output? ∧
      report.errors = told.filterMap Verdict.error? ∧
      (report.ending = .done ↔ NoneEnds around directory references) ∧
      (NoneEnds around directory references →
        told = all ∧ report.tree = diskAfter around directory around.tree images) := by
  have performed := (perform_of_returned returned nonempty output?).1 listed
  rw [found] at performed
  rcases performed with ⟨output, errors, ending, left⟩
  rcases saveAll_told around directory around.tree (around.timed references) with
    ⟨saved, failed, done⟩
  refine ⟨?_, ?_, ?_, ?_⟩
  · rw [output, ← saved]
    rfl
  · rw [errors, ← failed]
    rfl
  · rw [ending, noneEnds_iff]
    exact done
  · intro noneEnds
    have told := noneEnds_iff.mp noneEnds
    refine ⟨List.takeWhile_eq_self_iff.mpr told, ?_⟩
    rw [left]
    exact tree_saveAll around.tree told

/-- Surroundings with a configuration file, saved settings and a service that answers with a text;
one address is gone, and every other one answers with its own text. -/
def serving (answer saved : String) : Surroundings where
  homes := .own (.ofText "/home")
  environment := [("IMAGE_API_SETTINGS_FILE", "s.json")]
  tree := { items :=
    [(.ofText "c.api.json", .file (Utf8.encode (
        "\x7b\"friendly_name\":\"f\",\"link\":\"http://h\",\"func\":\"GET\",\"response\":" ++
        "\x7b\"image\":\x7b\"content_type\":\"URL\"\x7d\x7d\x7d"))),
      (.ofText "s.json", .file (Utf8.encode saved))] }
  network request :=
    if request.url = "http://h" then .answered ⟨200, [], Utf8.encode answer⟩
    else if request.url = "http://h/gone" then .answered ⟨404, [], []⟩
    else .answered ⟨200, [], Utf8.encode request.url⟩
  extensions := .builtIn
  clock := (1700000000500 : Nat)

/-- The configuration of `serving`. -/
def servedOrigin : Origin := ⟨"x", some (.ofText "c.api.json")⟩

end ImageCatalog.Command
