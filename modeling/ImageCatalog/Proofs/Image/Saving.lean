import ImageCatalog.Image.Download
import ImageCatalog.Proofs.Disk.Directory
import ImageCatalog.Proofs.Results
import ImageCatalog.Proofs.Text.Base64

/-!
# Saving one image

An image is saved in the directory itself, under the name of its reference: the name is a single
piece of a location. Where saving fails, the fault either concerns the image alone and is reported,
or the reference breaks the command. `Breaks` lists the ways in which it does, and
`exists_unreported_iff` says that there are no others.
-/

namespace ImageCatalog.Image

open Disk Http Results Text

variable {network : Network} {extensions : Extensions} {clock : Nat} {tree left : Tree}
  {directory location : Location} {reference name : String} {content : List UInt8}

/-! ## Names -/

theorem isUnsafe_of_isPlain {char : Char} (plain : isPlain char = true) :
    isUnsafe char = false := by
  rw [isPlain, Bool.and_eq_true, Bool.not_eq_true'] at plain
  exact plain.1

theorem isPlain_of_isDigit {char : Char} (isDigit : char.isDigit = true) :
    isPlain char = true := by
  rw [isPlain, Bool.and_eq_true, Bool.not_eq_true', ← Bool.not_eq_true, bne_iff_ne]
  constructor
  · intro isUnsafe
    simp only [Image.isUnsafe, List.contains_cons, List.contains_nil, Bool.or_false,
      Bool.or_eq_true, beq_iff_eq] at isUnsafe
    rcases isUnsafe with rfl | rfl | rfl | rfl | rfl | rfl | rfl | rfl | rfl <;>
      revert isDigit <;> decide
  · rintro rfl
    revert isDigit
    decide

theorem isPlain_of_mem_of_all {chars : List Char} {char : Char} (plain : chars.all isPlain = true)
    (member : char ∈ chars) : isPlain char = true :=
  List.all_eq_true.mp plain char member

theorem isPlain_of_mem_extensionFor {media : String} {char : Char}
    (member : char ∈ (extensionFor extensions media).toList) : isPlain char = true := by
  unfold extensionFor at member
  split at member
  · next extension found =>
      split at member
      · exact isPlain_of_mem_of_all (by decide) member
      · exact isPlain_of_mem_of_all (extensions.all_isPlain found) member
  · exact isPlain_of_mem_of_all (by decide) member

theorem isPlain_of_mem_timedName {extension : String} {char : Char}
    (plain : ∀ char ∈ extension.toList, isPlain char = true)
    (member : char ∈ (timedName clock extension).toList) : isPlain char = true := by
  simp only [timedName, String.toList_append, List.mem_append] at member
  rcases member with (start | digit) | last
  · exact isPlain_of_mem_of_all (by decide) start
  · have digits : char ∈ Nat.toDigits 10 clock := by simpa [toString, Nat.repr] using digit
    exact isPlain_of_isDigit (Nat.isDigit_of_mem_toDigits (by decide) (by decide) digits)
  · exact plain char last

/-- A reference has a name unless it is an address that cannot be split. -/
theorem exists_fileName_iff (extensions : Extensions) (clock : Nat) (reference : String) :
    (∃ name, fileName extensions clock reference = .ok name) ↔
      DataReference.read? reference ≠ none ∨ ∃ parts, Url.split reference = .ok parts := by
  unfold fileName
  split
  · next read => simp [read]
  · next isAddress => cases Url.split reference <;> simp [isAddress, Except.map]

/-- A name is made from a time, for references that hold their images and addresses without a last
segment, or its characters are those of the last segment, of which some are replaced. -/
theorem fileName_cases (named : fileName extensions clock reference = .ok name) :
    (∃ extension, (∀ char ∈ extension.toList, isPlain char = true) ∧
      name = timedName clock extension ∧
      (DataReference.read? reference ≠ none ∨ ∃ parts, Url.split reference = .ok parts ∧
        Percent.decode (String.ofList parts.lastSegment) = "")) ∨
    DataReference.read? reference = none ∧ ∃ parts, Url.split reference = .ok parts ∧
      Percent.decode (String.ofList parts.lastSegment) ≠ "" ∧
      name.toList = (Percent.decode (String.ofList parts.lastSegment)).toList.map
        fun char => if isUnsafe char then '_' else char := by
  unfold fileName at named
  split at named
  · next read =>
      cases named
      exact .inl ⟨_, fun _ => isPlain_of_mem_extensionFor, rfl, .inl (by simp [read])⟩
  · next isAddress =>
      rcases map_ok named with ⟨parts, split, rfl⟩
      unfold nameOfAddress
      simp only [List.isEmpty_iff, List.map_eq_nil_iff, String.toList_eq_nil_iff]
      split
      · next none =>
          exact .inl ⟨_, fun _ => isPlain_of_mem_of_all (by decide), rfl, .inr ⟨parts, split, none⟩⟩
      · next some => exact .inr ⟨isAddress, parts, split, some, String.toList_ofList⟩

/-- No character of a name is one of those that are replaced. -/
theorem isUnsafe_of_mem_fileName (named : fileName extensions clock reference = .ok name)
    {char : Char} (member : char ∈ name.toList) : isUnsafe char = false := by
  rcases fileName_cases named with ⟨extension, plain, rfl, _⟩ | ⟨_, parts, _, _, chars⟩
  · exact isUnsafe_of_isPlain (isPlain_of_mem_timedName plain member)
  · rw [chars, List.mem_map] at member
    rcases member with ⟨original, _, rfl⟩
    split
    · rfl
    · next safe => simpa using safe

theorem timedName_ne_empty (clock : Nat) (extension : String) : timedName clock extension ≠ "" := by
  rw [Ne, ← String.toList_eq_nil_iff]
  simp [timedName, String.toList_append]

theorem fileName_ne_empty (named : fileName extensions clock reference = .ok name) : name ≠ "" := by
  rcases fileName_cases named with ⟨extension, _, rfl, _⟩ | ⟨_, parts, _, some, chars⟩
  · exact timedName_ne_empty clock extension
  · rwa [Ne, ← String.toList_eq_nil_iff, chars, List.map_eq_nil_iff, String.toList_eq_nil_iff]

theorem ofText_of_slash_not_mem (noSlash : '/' ∉ name.toList) :
    Location.ofText name =
      ⟨.here, [name].filter fun part => !part.isEmpty && part != "."⟩ := by
  have here : Location.anchorOf name.toList = .here := by
    unfold Location.anchorOf
    split
    · next front => simp [front] at noSlash
    · next front => simp [front] at noSlash
    · next front => simp [front] at noSlash
    · rfl
  rw [Location.ofText, here, splitText, splitAtChar_of_not_mem noSlash]
  simp

/-- A name leads into the directory, unless it is the point that stays there. -/
theorem join_fileName (named : fileName extensions clock reference = .ok name) :
    directory.join name = if name = "." then directory else directory.file name := by
  have noSlash : '/' ∉ name.toList := by
    intro slash
    have safe := isUnsafe_of_mem_fileName named slash
    revert safe
    decide
  rw [Location.join, ofText_of_slash_not_mem noSlash]
  by_cases point : name = "."
  · simp [point]
  · simp [point, fileName_ne_empty named, Location.file]

/-! ## What a download does -/

theorem download_of_unfetched {fault : DownloadFault}
    (fetched : (fetch network reference).1 = .error fault) :
    (download network extensions clock tree directory reference).result = .error fault := by
  rcases found : fetch network reference with ⟨result, made⟩
  rw [found] at fetched
  simp only at fetched
  simp only [download, found, fetched]

theorem download_of_unnamed {fault : Url.Fault}
    (fetched : (fetch network reference).1 = .ok content)
    (named : fileName extensions clock reference = .error fault) :
    (download network extensions clock tree directory reference).result = .error (.name fault) := by
  rcases found : fetch network reference with ⟨result, made⟩
  rw [found] at fetched
  simp only at fetched
  simp only [download, found, fetched, named]

/-- An image with bytes and a name is saved. -/
theorem download_of_named (fetched : (fetch network reference).1 = .ok content)
    (named : fileName extensions clock reference = .ok name) :
    (download network extensions clock tree directory reference).result =
        (save tree directory name content).1.mapError .disk ∧
      (download network extensions clock tree directory reference).tree =
        (save tree directory name content).2 := by
  rcases found : fetch network reference with ⟨result, made⟩
  rw [found] at fetched
  simp only at fetched
  simp only [download, found, fetched, named]
  exact ⟨trivial, trivial⟩

theorem save_of_made {made : Tree} (makes : tree.makeDirectories directory = (.ok (), made)) :
    save tree directory name content =
      match made.write (directory.join name) content with
      | .error fault => (.error fault, made)
      | .ok final => (.ok (directory.join name), final) := by
  cases written : made.write (directory.join name) content <;> simp [save, makes, written]

/-- What is written in a directory is not written under the point, which stands for the directory
itself. -/
theorem join_of_write {made final : Tree} (present : made.isDirectory directory = true)
    (named : fileName extensions clock reference = .ok name)
    (writes : made.write (directory.join name) content = .ok final) :
    directory.join name = directory.file name := by
  rw [join_fileName named, if_neg]
  intro point
  rw [join_fileName named, if_pos point, Tree.write] at writes
  rcases Tree.isDirectory_iff.mp present with ⟨place, reached, isDirectory⟩
  simp [reached, isDirectory] at writes

/-- A download that succeeds writes the bytes of the image under its name, in the directory. -/
theorem download_ok
    (saved : (download network extensions clock tree directory reference).result = .ok location) :
    ∃ content name made,
      (fetch network reference).1 = .ok content ∧ fileName extensions clock reference = .ok name ∧
      tree.makeDirectories directory = (.ok (), made) ∧ location = directory.file name ∧
      made.write (directory.file name) content =
        .ok (download network extensions clock tree directory reference).tree := by
  cases fetched : (fetch network reference).1 with
  | error fault =>
      rw [download_of_unfetched fetched] at saved
      cases saved
  | ok content =>
      cases named : fileName extensions clock reference with
      | error fault =>
          rw [download_of_unnamed fetched named] at saved
          cases saved
      | ok name =>
          rw [(download_of_named fetched named).1] at saved
          have written := mapError_ok saved
          rw [(download_of_named fetched named).2]
          rcases makes : tree.makeDirectories directory with ⟨_ | ⟨⟨⟩⟩, made⟩
          · simp [save, makes] at written
          · rw [save_of_made makes] at written ⊢
            split at written
            · cases written
            · next final writes =>
                simp only at written
                cases written
                have isDirectory := Tree.isDirectory_of_makeDirectories makes
                have inside := join_of_write isDirectory named writes
                exact ⟨content, name, made, rfl, rfl, rfl, inside, by rw [← inside, writes]⟩

/-! ## References that break the command -/

/-- How a reference breaks the command that saves its image: its base64 payload has a character
outside ASCII, or its other payload a half; or its bytes were found, but there is no name for it, or
the disk cannot be asked for the location of its file. -/
inductive Breaks (network : Network) (extensions : Extensions) (clock : Nat) (tree : Tree)
    (directory : Location) (reference : String) : Prop
  | payload {parts : DataReference} (read : DataReference.read? reference = some parts)
      (inBase64 : parts.isBase64 = true) (foreign : ∃ char ∈ parts.payload, 0x80 ≤ char.toNat)
  | half {parts : DataReference} (read : DataReference.read? reference = some parts)
      (percentEncoded : parts.isBase64 = false) (half : ∃ char ∈ parts.payload, isHalf char = true)
  | unnamed {content : List UInt8} {fault : Url.Fault}
      (fetched : (fetch network reference).1 = .ok content)
      (unnamed : fileName extensions clock reference = .error fault)
  | directory {content : List UInt8} {name : String}
      (fetched : (fetch network reference).1 = .ok content)
      (named : fileName extensions clock reference = .ok name)
      (wrong : Tree.nameFault? directory ≠ none)
  | name {content : List UInt8} {name : String} {made : Tree}
      (fetched : (fetch network reference).1 = .ok content)
      (named : fileName extensions clock reference = .ok name)
      (makes : tree.makeDirectories directory = (.ok (), made))
      (wrong : ¬Tree.IsAskable name)

/-- A reference with a payload that no bytes are made of: a base64 payload with a character outside
ASCII, or another one with a half. -/
def HasForeignPayload (reference : String) : Prop :=
  ∃ parts, DataReference.read? reference = some parts ∧ ∃ char ∈ parts.payload,
    if parts.isBase64 then 0x80 ≤ char.toNat else isHalf char = true

/-- Decoding fails without being reported for payloads that no bytes are made of only. -/
theorem decode_unreported_iff :
    (∃ fault, decode reference = .error fault ∧
      (DownloadFault.decode fault).isReported = false) ↔ HasForeignPayload reference := by
  unfold decode HasForeignPayload
  cases DataReference.read? reference with
  | none => simp [DownloadFault.isReported]
  | some parts =>
      simp only [Option.some.injEq, exists_eq_left']
      cases parts.isBase64 with
      | false =>
          have whole : isWhole (String.ofList parts.payload) = false ↔
              ∃ char ∈ parts.payload, isHalf char = true := by
            simp [isWhole]
          simp only [Bool.false_eq_true, if_false, ← whole]
          cases isWhole (String.ofList parts.payload) <;> simp [DownloadFault.isReported]
      | true =>
          have foreign : Base64.decode (String.ofList parts.payload) = .error .notAscii ↔
              ∃ char ∈ parts.payload, 0x80 ≤ char.toNat := by
            rw [Base64.decode_eq_notAscii_iff, String.toList_ofList]
          simp only [if_true, ← foreign]
          cases Base64.decode (String.ofList parts.payload) with
          | ok content => simp [Except.mapError]
          | error fault => cases fault <;> simp [Except.mapError, DownloadFault.isReported]

theorem startsWith_of_read? {parts : DataReference}
    (read : DataReference.read? reference = some parts) :
    startsWith "data:" reference = true := by
  unfold DataReference.read? at read
  simp only at read
  split at read
  · next isData => exact isData
  · cases read

/-- A request without headers of its own can be sent, so that it fails on its way only. -/
theorem exists_of_send_error {url : String} {fault : SendFault}
    (fails : (send network (.get url [])).1 = .error fault) :
    ∃ cause, fault = .transport cause := by
  have sendable : (Query.get url []).headers.all isSendable = true := rfl
  rw [send, if_pos sendable] at fails
  simp only at fails
  cases followed : (follow network (Query.get url []).url redirectLimit
      (Query.get url []).toRequest).1 with
  | ok answer =>
      rw [followed] at fails
      cases fails
  | error cause =>
      rw [followed] at fails
      cases fails
      exact ⟨cause, rfl⟩

/-- Finding the bytes of an image fails without being reported for payloads that no bytes are made
of only. -/
theorem fetch_unreported_iff (network : Network) (reference : String) :
    (∃ fault, (fetch network reference).1 = .error fault ∧ fault.isReported = false) ↔
      HasForeignPayload reference := by
  by_cases isData : startsWith "data:" reference = true
  · rw [← decode_unreported_iff, fetch, if_pos isData]
    cases decode reference <;> simp [Except.mapError]
  · refine iff_of_false ?_ (fun ⟨parts, read, _⟩ => isData (startsWith_of_read? read))
    rintro ⟨fault, fails, unreported⟩
    rw [fetch, if_neg isData] at fails
    simp only at fails
    cases sent : (send network (.get reference [])).1 with
    | ok answer => simp [sent, Except.map, Except.mapError] at fails
    | error cause =>
        rcases exists_of_send_error sent with ⟨transport, rfl⟩
        simp only [sent, Except.map, Except.mapError, Except.error.injEq] at fails
        subst fails
        cases unreported

theorem save_unreported_iff (named : fileName extensions clock reference = .ok name) :
    (∃ fault, (save tree directory name content).1 = .error fault ∧
      (DownloadFault.disk fault).isReported = false) ↔
      Tree.nameFault? directory ≠ none ∨
        (∃ made, tree.makeDirectories directory = (.ok (), made)) ∧ ¬Tree.IsAskable name := by
  have unreported (fault : Disk.Fault) :
      (DownloadFault.disk fault).isReported = false ↔ fault.cause.isOfName = true := by
    simp [DownloadFault.isReported]
  simp only [unreported]
  rcases makes : tree.makeDirectories directory with ⟨fault | ⟨⟨⟩⟩, made⟩
  · have failed : (save tree directory name content).1 = .error fault := by simp only [save, makes]
    rw [failed, ← Tree.makeDirectories_failsByName_iff tree, makes]
    simp
  · have askable : Tree.nameFault? directory = none := by
      by_contra wrong
      rcases (Tree.makeDirectories_failsByName_iff tree).mpr wrong with ⟨fault, left, fails, _⟩
      rw [makes] at fails
      cases fails
    have writes : (∃ fault, (save tree directory name content).1 = .error fault ∧
        fault.cause.isOfName = true) ↔
        ∃ fault, made.write (directory.join name) content = .error fault ∧
          fault.cause.isOfName = true := by
      rw [save_of_made makes]
      cases made.write (directory.join name) content <;> simp
    rw [writes, Tree.write_failsByName_iff, join_fileName named]
    split
    · next point =>
        have plain : Tree.IsAskable name := by
          rw [point]
          exact ⟨by unfold Tree.IsNullFree; decide, by decide⟩
        simp [askable, plain]
    · rw [Ne, Tree.nameFault?_file]
      simp [askable]

theorem breaks_of_hasForeignPayload (foreign : HasForeignPayload reference) :
    Breaks network extensions clock tree directory reference := by
  rcases foreign with ⟨parts, read, char, member, isForeign⟩
  split at isForeign
  · next inBase64 => exact .payload read inBase64 ⟨char, member, isForeign⟩
  · next percentEncoded =>
      exact .half read (by simpa using percentEncoded) ⟨char, member, isForeign⟩

/-- A download fails without being reported exactly if the reference breaks the command. -/
theorem exists_unreported_iff :
    (∃ fault, (download network extensions clock tree directory reference).result = .error fault ∧
      fault.isReported = false) ↔ Breaks network extensions clock tree directory reference := by
  cases fetched : (fetch network reference).1 with
  | error fault =>
      have unreported := fetch_unreported_iff network reference
      simp only [fetched, Except.error.injEq, exists_eq_left'] at unreported
      simp only [download_of_unfetched fetched, Except.error.injEq, exists_eq_left', unreported]
      constructor
      · exact breaks_of_hasForeignPayload
      · rintro (⟨read, inBase64, foreign⟩ | ⟨read, percentEncoded, half⟩ | ⟨other, _⟩ |
          ⟨other, _, _⟩ | ⟨other, _, _, _⟩)
        · exact ⟨_, read, by simpa only [inBase64, if_true] using foreign⟩
        · exact ⟨_, read, by simpa only [percentEncoded, Bool.false_eq_true, if_false] using half⟩
        all_goals
          rw [fetched] at other
          cases other
  | ok content =>
      have spelt : ¬HasForeignPayload reference := by
        rw [← fetch_unreported_iff network reference, fetched]
        simp
      cases named : fileName extensions clock reference with
      | error fault =>
          rw [download_of_unnamed fetched named]
          exact iff_of_true ⟨_, rfl, rfl⟩ (.unnamed fetched named)
      | ok name =>
          rw [(download_of_named fetched named).1]
          have onDisk : (∃ fault, (save tree directory name content).1.mapError DownloadFault.disk =
              .error fault ∧ fault.isReported = false) ↔
              ∃ fault, (save tree directory name content).1 = .error fault ∧
                (DownloadFault.disk fault).isReported = false := by
            cases (save tree directory name content).1 <;> simp [Except.mapError]
          rw [onDisk, save_unreported_iff named]
          constructor
          · rintro (wrong | ⟨⟨made, makes⟩, wrong⟩)
            · exact .directory fetched named wrong
            · exact .name fetched named makes wrong
          · rintro (⟨read, inBase64, foreign⟩ | ⟨read, percentEncoded, half⟩ | ⟨_, unnamed⟩ |
              ⟨_, _, wrong⟩ | ⟨_, other, makes, wrong⟩)
            · exact absurd ⟨_, read, by simpa only [inBase64, if_true] using foreign⟩ spelt
            · refine absurd ⟨_, read, ?_⟩ spelt
              simpa only [percentEncoded, Bool.false_eq_true, if_false] using half
            · rw [named] at unnamed
              cases unnamed
            · exact .inl wrong
            · rw [named] at other
              cases other
              exact .inr ⟨⟨_, makes⟩, wrong⟩

end ImageCatalog.Image
