import ImageCatalog.Proofs.Command.Verdicts
import ImageCatalog.Proofs.Value.Entries
import Mathlib.Data.List.Nodup

/-!
# Images that share a name

A run saves its images in one directory, each under the name that its reference and the time give
it. Nothing keeps two of these names apart: references whose addresses end alike share a name, and
so do embedded images of one kind that are saved within a millisecond. The file of a name has the
bytes of the last image of that name, and those of the earlier ones are lost.
-/

namespace ImageCatalog.Command

open Disk Entries Http Settings Text

variable {around : Surroundings} {directory location : Location} {tree made : Tree}
  {network : Network} {extensions : Image.Extensions} {images : List (Nat × String)} {time : Nat}
  {reference : String}
  {before files : List (String × List UInt8)} {origin : Origin} {pairs references : List String}

/-- Whether a file has the name and the bytes of an image. -/
def IsFileOf (network : Network) (extensions : Image.Extensions) (image : Nat × String)
    (file : String × List UInt8) : Prop :=
  Image.fileName extensions image.1 image.2 = .ok file.1 ∧
    (Image.fetch network image.2).1 = .ok file.2

/-- Whether the files of a directory are the last ones of each name among some files. -/
structure HoldsLast (tree : Tree) (directory : Location) (files : List (String × List UInt8)) :
    Prop where
  isDirectory : tree.isDirectory directory = true
  contentOf_iff : ∀ name content,
    tree.contentOf (directory.file name) = .ok content ↔ lastOf? name files = some content

/-- Whether there are no files in a directory as soon as it is there. -/
def IsBare (tree : Tree) (directory : Location) : Prop :=
  ∀ made, tree.makeDirectories directory = (.ok (), made) →
    ∀ name content, made.contentOf (directory.file name) ≠ .ok content

/-! ## Files -/

theorem holdsLast_of_isBare (bare : IsBare tree directory)
    (makes : tree.makeDirectories directory = (.ok (), made)) : HoldsLast made directory [] where
  isDirectory := Tree.isDirectory_of_makeDirectories makes
  contentOf_iff name content := iff_of_false (bare made makes name content) nofun

/-- An image that is saved becomes the last file of its name. -/
theorem holdsLast_download (makes : tree.makeDirectories directory = (.ok (), made))
    (holds : HoldsLast made directory before)
    (saved : (Image.download network extensions time tree directory reference).result =
      .ok location) :
    ∃ file, IsFileOf network extensions (time, reference) file ∧ location = directory.file file.1 ∧
      HoldsLast (Image.download network extensions time tree directory reference).tree directory
        (before ++ [file]) := by
  rcases Image.download_ok saved with
    ⟨content, name, other, fetched, named, makesOther, rfl, writes⟩
  rw [makes] at makesOther
  cases makesOther
  refine ⟨(name, content), ⟨named, fetched⟩, rfl, ?_, ?_⟩
  · exact Tree.isDirectory_of_write_file holds.isDirectory writes
  · intro file found
    rw [Tree.contentOf_write_file holds.isDirectory writes, lastOf?_concat, holds.contentOf_iff]
    by_cases same : file = name
    · simp [same, eq_comm]
    · simp [same, Ne.symm same]

theorem result_of_saved {download : Image.Download} {place : Location}
    (saved : Verdict.ofDownload reference download = .saved place) :
    download.result = .ok place := by
  unfold Verdict.ofDownload at saved
  split at saved
  · next result =>
      cases saved
      exact result
  · cases saved

/-- If every image is saved, the directory holds the last one of each name. -/
theorem holdsLast_diskAfter (makes : tree.makeDirectories directory = (.ok (), made))
    (holds : HoldsLast made directory before) (some : images ≠ [])
    (saved : ∀ verdict ∈ verdicts around directory tree images, ∃ place, verdict = .saved place) :
    ∃ files, List.Forall₂ (IsFileOf around.network around.extensions) images files ∧
      verdicts around directory tree images =
        files.map (fun file => .saved (directory.file file.1)) ∧
      HoldsLast (diskAfter around directory tree images) directory (before ++ files) := by
  -- Once the first image is saved the directory is there, and making it again changes nothing.
  induction images generalizing tree made before with
  | nil => exact absurd rfl some
  | cons image rest hypothesis =>
      rcases image with ⟨time, reference⟩
      rw [verdicts, List.forall_mem_cons] at saved
      rcases saved with ⟨⟨place, first⟩, later⟩
      rcases holdsLast_download makes holds (result_of_saved first) with
        ⟨file, isFile, rfl, holdsNext⟩
      have verdictsNext : verdicts around directory tree ((time, reference) :: rest) =
          .saved (directory.file file.1) :: verdicts around directory
            (around.download directory tree time reference).tree rest := by
        rw [verdicts, first]
      have diskNext : diskAfter around directory tree ((time, reference) :: rest) =
          diskAfter around directory
            (around.download directory tree time reference).tree rest := rfl
      rw [verdictsNext, diskNext]
      by_cases last : rest = []
      · subst last
        exact ⟨[file], .cons isFile .nil, rfl, holdsNext⟩
      · rcases hypothesis (Tree.makeDirectories_of_isDirectory holdsNext.isDirectory) holdsNext last
          later with ⟨files, areFiles, told, holdsAll⟩
        refine ⟨file :: files, .cons isFile areFiles, ?_, ?_⟩
        · rw [told, List.map_cons]
        · rwa [List.append_assoc] at holdsAll

theorem makes_of_saved {rest : List (Nat × String)}
    (saved : ∀ verdict ∈ verdicts around directory tree ((time, reference) :: rest),
      ∃ place, verdict = .saved place) :
    ∃ made, tree.makeDirectories directory = (.ok (), made) := by
  rw [verdicts, List.forall_mem_cons] at saved
  rcases saved.1 with ⟨place, first⟩
  rcases Image.download_ok (result_of_saved first) with ⟨_, _, made, _, _, makes, _⟩
  exact ⟨made, makes⟩

/-! ## Lines -/

/-- The line about an image that is saved under a name. -/
def savedLine (directory : Location) (name : String) : String :=
  "  Saved " ++ (directory.file name).print

theorem joinChars_concat (separator : List Char) (pieces : List (List Char)) :
    ∃ front, ∀ last, joinChars separator (pieces ++ [last]) = front ++ last := by
  induction pieces with
  | nil => exact ⟨[], fun last => rfl⟩
  | cons first rest hypothesis =>
      rcases hypothesis with ⟨front, joined⟩
      refine ⟨first ++ separator ++ front, fun last => ?_⟩
      have further : joinChars separator (first :: rest ++ [last]) =
          first ++ separator ++ joinChars separator (rest ++ [last]) := by
        cases rest <;> rfl
      rw [further, joined, List.append_assoc _ front last]

/-- The line about an image tells its name. -/
theorem savedLine_injective (directory : Location) : (savedLine directory).Injective := by
  intro name other same
  rcases joinChars_concat ['/'] (directory.names.map String.toList) with ⟨front, joined⟩
  have spelt (last : String) : (savedLine directory last).toList =
      "  Saved ".toList ++ directory.anchor.print.toList ++ front ++ last.toList := by
    simp [savedLine, Location.print, Location.file, joinText, joined]
  have chars := congrArg String.toList same
  rw [spelt, spelt, List.append_cancel_left_eq] at chars
  exact String.toList_inj.mp chars

/-- If every image of a run is saved in a bare directory, and told of, there is a line for each with
its name, and the file of a name has the bytes of the last image of that name. So the lines are
distinct exactly if the names are, and then no image is lost. -/
theorem saved_files (returned : returned? around origin pairs = some references)
    (nonempty : references ≠ []) (listed : CanList references) {output? : Option Location}
    (found : directoryFor around output? = .ok directory) (bare : IsBare around.tree directory)
    (saved : ∀ verdict ∈ verdicts around directory around.tree (around.timed references),
      (∃ place, verdict = .saved place) ∧ verdict.isTold = true) :
    let report := perform around (.generate origin pairs (.saved output?))
    ∃ files, List.Forall₂ (IsFileOf around.network around.extensions)
        (around.timed references) files ∧
      report.ending = .done ∧ report.errors = [] ∧
      report.output = references.map preview ++ (keys files).map (savedLine directory) ∧
      (∀ name content, report.tree.contentOf (directory.file name) = .ok content ↔
        lastOf? name files = some content) ∧
      (((keys files).map (savedLine directory)).Nodup ↔ (keys files).Nodup) ∧
      ((keys files).Nodup → ∀ file ∈ files,
        report.tree.contentOf (directory.file file.1) = .ok file.2) := by
  have some : around.timed references ≠ [] := by
    rw [← List.length_pos_iff, length_timed, List.length_pos_iff]
    exact nonempty
  rcases List.exists_cons_of_ne_nil some with ⟨⟨time, reference⟩, rest, split⟩
  have placed : ∀ verdict ∈ verdicts around directory around.tree (around.timed references),
      ∃ place, verdict = .saved place := fun verdict member => (saved verdict member).1
  rcases makes_of_saved (split ▸ placed) with ⟨made, makes⟩
  rcases holdsLast_diskAfter makes (holdsLast_of_isBare bare makes) some placed with
    ⟨files, areFiles, told, holds⟩
  rw [List.nil_append] at holds
  have noneEnds : NoneEnds around directory references := by
    rw [noneEnds_iff]
    exact fun verdict member => (saved verdict member).2
  rcases perform_of_directory returned nonempty listed found with ⟨output, errors, done, whole⟩
  rcases whole noneEnds with ⟨all, left⟩
  rw [all, told] at output errors
  refine ⟨files, areFiles, done.mpr noneEnds, ?_, ?_, ?_, ?_, ?_⟩
  · rw [errors]
    simp [List.filterMap_map, Function.comp_def, Verdict.error?]
  · rw [output]
    simp [List.filterMap_map, Function.comp_def, Verdict.output?, keys, savedLine]
  · rw [left]
    exact holds.contentOf_iff
  · exact List.nodup_map_iff (savedLine_injective directory)
  · intro distinct file member
    rw [left, holds.contentOf_iff]
    exact lastOf?_of_mem distinct member

theorem saved_files_distinct :
    let around := serving "[\"data:,a\", \"http://h/1.png\"]" "\x7b\x7d"
    let references := ["data:,a", "http://h/1.png"]
    let report := perform around (.generate servedOrigin [] (.saved (some (.ofText "out"))))
    returned? around servedOrigin [] = some references ∧ references ≠ [] ∧ CanList references ∧
      IsBare around.tree (.ofText "out") ∧
      (∀ verdict ∈ verdicts around (.ofText "out") around.tree (around.timed references),
        (∃ place, verdict = .saved place) ∧ verdict.isTold = true) ∧
      ∃ files, report.output = references.map preview ++
          (keys files).map (savedLine (.ofText "out")) ∧
        ∀ name content, report.tree.contentOf ((Location.ofText "out").file name) = .ok content ↔
          lastOf? name files = some content := by
  intro around references report
  have returned : returned? around servedOrigin [] = some references := by decide +kernel
  have bare : IsBare around.tree (.ofText "out") := by
    intro made makes name content holds
    have left : made = (around.tree.makeDirectories (.ofText "out")).2 := by rw [makes]
    have reached : made.reach (.ofText "out") = .ok (.ofText "out") := by
      rw [left]
      decide +kernel
    have found : made.item? (.ofText "out") = some .directory := by
      rw [left]
      decide +kernel
    have item := Tree.item?_of_contentOf_file reached found holds
    have notFixed : Tree.isFixed ((Location.ofText "out").file name) = false := by
      have front : (Location.ofText "out").names = ["out"] := by decide
      simp [Tree.isFixed, Location.file, front]
    rw [Tree.item?, notFixed] at item
    have noneInside : ∀ entry ∈ made.items, entry.1.names.length < 2 := by
      rw [left]
      decide +kernel
    have inside := noneInside _ (Entries.mem_of_find? item)
    have front : (Location.ofText "out").names.length = 1 := by decide
    simp [Location.file, front] at inside
  have listed : CanList references := by
    unfold CanList
    decide +kernel
  have saved : ∀ verdict ∈ verdicts around (.ofText "out") around.tree (around.timed references),
      (∃ place, verdict = .saved place) ∧ verdict.isTold = true := by
    have told : ∀ verdict ∈ verdicts around (.ofText "out") around.tree (around.timed references),
        verdict.output?.isSome = true ∧ verdict.isTold = true := by
      decide +kernel
    intro verdict member
    rcases told verdict member with ⟨line, isTold⟩
    cases verdict with
    | saved place => exact ⟨⟨place, rfl⟩, isTold⟩
    | failed reference fault => cases line
  have found : directoryFor around (some (.ofText "out")) = .ok (.ofText "out") := rfl
  rcases saved_files returned (by decide) listed found bare saved with
    ⟨files, _, _, _, output, contents, _⟩
  exact ⟨returned, by decide, listed, bare, saved, files, output, contents⟩

/-- Two embedded images and two addresses that end alike leave only two files behind. -/
theorem images_lost :
    let references := ["data:,a", "data:,b", "http://h/1/x.png", "http://h/2/x.png"]
    let answer := "[\"data:,a\", \"data:,b\", \"http://h/1/x.png\", \"http://h/2/x.png\"]"
    let report := run (serving answer "\x7b\x7d")
      ["generate", "x", "--config", "c.api.json", "--save", "-o", "out"]
    report.ending = .done ∧ report.errors = [] ∧
      report.output = references ++
        ["  Saved out/image-1700000000500.jpg", "  Saved out/image-1700000000500.jpg",
          "  Saved out/x.png", "  Saved out/x.png"] ∧
      (report.tree.items.filter fun entry => entry.1.names.head? = some "out") =
        [(.ofText "out", .directory),
          (.ofText "out/image-1700000000500.jpg", .file (Utf8.encode "b")),
          (.ofText "out/x.png", .file (Utf8.encode "http://h/2/x.png"))] := by
  decide +kernel

end ImageCatalog.Command
