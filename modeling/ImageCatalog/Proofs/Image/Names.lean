import ImageCatalog.Proofs.Image.Saving

/-!
# Names of files

The name of an image becomes the last part of the location of its file. An ordinary part (`IsPart`)
leads to a place right in the directory; a single or a double point leads to the directory itself or
to the one above, and a null byte leads nowhere. Escapes are undone after the last segment of an
address has been cut off, and the characters that are replaced then are not all that matter, so that
some references have names of the latter kinds, and some have none (`NamesPart`).

Such a name costs the image, but no other file: nothing is written but ordinary parts of the
directory.
-/

namespace ImageCatalog.Image

open Disk Results Text

variable {extensions : Extensions} {clock : Nat} {tree made final : Tree}
  {directory location place : Location} {reference name : String} {content : List UInt8}

/-- Whether a name is an ordinary part of a location: it has some characters, none of them is one
that names must not have, and it does not stand for a directory that is there anyway. -/
structure IsPart (name : String) : Prop where
  nonempty : name ≠ ""
  safe : ∀ char ∈ name.toList, isUnsafe char = false
  nullFree : Tree.IsNullFree name
  proper : IsProper name

/-- Whether the name of a reference is an ordinary part: the reference holds its image itself, or it
is an address that can be split, with a last segment that is neither a single nor a double point and
has no null byte once its escapes are undone. -/
def NamesPart (reference : String) : Prop :=
  DataReference.read? reference ≠ none ∨
    ∃ parts, Url.split reference = .ok parts ∧
      IsProper (Percent.decode (String.ofList parts.lastSegment)) ∧
      Tree.IsNullFree (Percent.decode (String.ofList parts.lastSegment))

/-! ## Which names are ordinary -/

theorem isNullFree_of_isPlain (plain : ∀ char ∈ name.toList, isPlain char = true) :
    Tree.IsNullFree name := by
  intro null
  have isPlain := plain _ null
  revert isPlain
  decide

theorem isProper_timedName (clock : Nat) (extension : String) :
    IsProper (timedName clock extension) := by
  have start : (timedName clock extension).toList.head? = some 'i' := by
    simp [timedName, String.toList_append]
  constructor <;> intro same <;> rw [same] at start <;> revert start <;> decide

/-- A character that is neither replaced nor put in the place of others is only what it was. -/
theorem replaced_eq_iff {char other : Char} (safe : isUnsafe other = false) (kept : other ≠ '_') :
    (if isUnsafe char then '_' else char) = other ↔ char = other := by
  split
  · next replaced =>
      refine iff_of_false kept.symm ?_
      rintro rfl
      rw [safe] at replaced
      cases replaced
  · rfl

theorem map_replaced_eq_iff {chars points : List Char}
    (kept : ∀ point ∈ points, isUnsafe point = false ∧ point ≠ '_') :
    (chars.map fun char => if isUnsafe char then '_' else char) = points ↔ chars = points := by
  induction points generalizing chars with
  | nil => exact List.map_eq_nil_iff
  | cons point points hypothesis =>
      rw [List.forall_mem_cons] at kept
      cases chars with
      | nil => simp
      | cons char chars =>
          rw [List.map_cons, List.cons.injEq, List.cons.injEq, hypothesis kept.2,
            replaced_eq_iff kept.1.1 kept.1.2]

/-- Replacing characters makes no point and no null byte, and takes none away. -/
theorem isProper_and_isNullFree_iff {segment : String}
    (chars : name.toList = segment.toList.map fun char => if isUnsafe char then '_' else char) :
    (IsProper name ↔ IsProper segment) ∧ (Tree.IsNullFree name ↔ Tree.IsNullFree segment) := by
  have same (points : String)
      (kept : ∀ point ∈ points.toList, isUnsafe point = false ∧ point ≠ '_') :
      name = points ↔ segment = points := by
    rw [← String.toList_inj, chars, map_replaced_eq_iff kept, String.toList_inj]
  constructor
  · rw [IsProper, IsProper, Ne, Ne, same "." (by simp [isUnsafe]),
      same ".." (by simp [isUnsafe])]
  · have null (char : Char) : (if isUnsafe char then '_' else char) = '\x00' ↔ char = '\x00' :=
      replaced_eq_iff (by decide) (by decide)
    simp only [Tree.IsNullFree, chars, List.mem_map, null, exists_eq_right]

theorem isPart_iff_namesPart (named : fileName extensions clock reference = .ok name) :
    IsPart name ↔ NamesPart reference := by
  have nonempty := fileName_ne_empty named
  have safe : ∀ char ∈ name.toList, isUnsafe char = false :=
    fun char member => isUnsafe_of_mem_fileName named member
  have isPart_iff : IsPart name ↔ IsProper name ∧ Tree.IsNullFree name :=
    ⟨fun isPart => ⟨isPart.proper, isPart.nullFree⟩,
      fun ⟨proper, nullFree⟩ => ⟨nonempty, safe, nullFree, proper⟩⟩
  rw [isPart_iff]
  rcases fileName_cases named with
    ⟨extension, plain, rfl, source⟩ | ⟨isAddress, parts, split, _, chars⟩
  · have timed : IsProper (timedName clock extension) ∧
        Tree.IsNullFree (timedName clock extension) :=
      ⟨isProper_timedName clock extension,
        isNullFree_of_isPlain fun _ => isPlain_of_mem_timedName plain⟩
    refine iff_of_true timed ?_
    rcases source with isData | ⟨parts, split, empty⟩
    · exact .inl isData
    · refine .inr ⟨parts, split, ?_⟩
      rw [empty]
      exact ⟨⟨by decide, by decide⟩, by simp [Tree.IsNullFree]⟩
  · rcases isProper_and_isNullFree_iff chars with ⟨proper, nullFree⟩
    rw [proper, nullFree]
    constructor
    · exact fun ordinary => .inr ⟨parts, split, ordinary⟩
    · rintro (isData | ⟨other, splitOther, ordinary⟩)
      · exact absurd isAddress isData
      · rw [split, Except.ok.injEq] at splitOther
        rwa [splitOther]

/-! ## Saving under a name -/

theorem isNullFree_of_write (writes : tree.write (directory.file name) content = .ok final) :
    Tree.IsNullFree name := by
  rcases Tree.write_ok writes with ⟨place, reached, _⟩
  exact (Tree.nameFault?_file.mp (Tree.askable_of_reach reached)).2.nullFree

/-- What is saved is saved under an ordinary name, right in the directory, and nothing else is
touched. -/
theorem save_cases (content : List UInt8) (named : fileName extensions clock reference = .ok name)
    (makes : tree.makeDirectories directory = (.ok (), made))
    (reached : made.reach directory = .ok place) (found : made.item? place = some .directory) :
    (∃ fault, save tree directory name content = (.error fault, made)) ∨
      IsPart name ∧ save tree directory name content =
        (.ok (directory.file name), made.put (place.file name) (.file content)) := by
  rw [save_of_made makes]
  cases writes : made.write (directory.join name) content with
  | error fault => exact .inl ⟨fault, rfl⟩
  | ok final =>
      have inside := join_of_write (Tree.isDirectory_iff.mpr ⟨place, reached, found⟩) named writes
      rw [inside] at writes ⊢
      rcases Tree.write_file_ok reached found writes with ⟨proper, _, rfl⟩
      have nullFree : Tree.IsNullFree name := isNullFree_of_write writes
      have safe : ∀ char ∈ name.toList, isUnsafe char = false :=
        fun char member => isUnsafe_of_mem_fileName named member
      exact .inr ⟨⟨fileName_ne_empty named, safe, nullFree, proper⟩, rfl⟩

/-- Under an ordinary name an image is saved, unless the name cannot be asked for or is too long, or
is taken by a directory, or the file is protected. -/
theorem save_of_isPart (content : List UInt8) (ordinary : IsPart name)
    (named : fileName extensions clock reference = .ok name)
    (makes : tree.makeDirectories directory = (.ok (), made))
    (reached : made.reach directory = .ok place) (found : made.item? place = some .directory)
    (noHalf : Tree.hasHalf name = false) (short : Tree.isTooLong name = false)
    (free : made.item? (place.file name) ≠ some .directory)
    (may : made.MayWrite (place.file name)) :
    save tree directory name content =
      (.ok (directory.file name), made.put (place.file name) (.file content)) := by
  have inside : directory.join name = directory.file name := by
    rw [join_fileName named, if_neg ordinary.proper.1]
  have leads : made.reach (directory.file name) = .ok (place.file name) := by
    rw [Tree.reach_file reached found ⟨ordinary.nullFree, noHalf⟩, short,
      if_neg Bool.false_ne_true, Tree.child_of_isProper ordinary.proper]
  rw [save_of_made makes, inside, Tree.write_of_mayWrite leads free may]

/-- Which references have an ordinary name, and what becomes of an image under its name. There is a
name unless an address cannot be split, it has some characters and none of those that are replaced,
and it is an ordinary part of a location exactly if the reference is one that names a part. Whatever
the name is, a file is written under an ordinary part of the directory only, and nothing else
changes. -/
theorem fileName_isPart_iff (extensions : Extensions) (clock : Nat) (reference : String) :
    ((∃ name, fileName extensions clock reference = .ok name) ↔
      DataReference.read? reference ≠ none ∨ ∃ parts, Url.split reference = .ok parts) ∧
    ((∃ name, fileName extensions clock reference = .ok name ∧ IsPart name) ↔ NamesPart reference) ∧
    ∀ name, fileName extensions clock reference = .ok name →
      name ≠ "" ∧ (∀ char ∈ name.toList, isUnsafe char = false) ∧
      ∀ (tree made : Tree) (directory : Location) (content : List UInt8),
        tree.makeDirectories directory = (.ok (), made) →
        ∃ place, made.reach directory = .ok place ∧
          ((∃ fault, save tree directory name content = (.error fault, made)) ∨
            IsPart name ∧ save tree directory name content =
              (.ok (directory.file name), made.put (place.file name) (.file content))) ∧
          (IsPart name → Tree.hasHalf name = false → Tree.isTooLong name = false →
            made.item? (place.file name) ≠ some .directory → made.MayWrite (place.file name) →
            (save tree directory name content).1 = .ok (directory.file name)) := by
  refine ⟨exists_fileName_iff extensions clock reference, ⟨?_, fun ordinary => ?_⟩,
    fun name named => ?_⟩
  · rintro ⟨name, named, ordinary⟩
    exact (isPart_iff_namesPart named).mp ordinary
  · have hasName : ∃ name, fileName extensions clock reference = .ok name :=
      (exists_fileName_iff extensions clock reference).mpr
        (ordinary.imp_right fun ⟨parts, split, _⟩ => ⟨parts, split⟩)
    rcases hasName with ⟨name, named⟩
    exact ⟨name, named, (isPart_iff_namesPart named).mpr ordinary⟩
  · refine ⟨fileName_ne_empty named, fun char => isUnsafe_of_mem_fileName named, ?_⟩
    intro tree made directory content makes
    rcases Tree.isDirectory_iff.mp (Tree.isDirectory_of_makeDirectories makes) with
      ⟨place, reached, found⟩
    refine ⟨place, reached, save_cases content named makes reached found, ?_⟩
    intro ordinary noHalf short free may
    rw [save_of_isPart content ordinary named makes reached found noHalf short free may]

/-- The name of an address with an escaped colon is an ordinary part, under which the image is
saved. -/
theorem fileName_isPart_escaped :
    let reference := "http://h/a%3Ab.png"
    let directory := Location.ofText "out"
    fileName .builtIn 0 reference = .ok "a_b.png" ∧ NamesPart reference ∧ IsPart "a_b.png" ∧
      (save .empty directory "a_b.png" [104]).1 = .ok (directory.file "a_b.png") := by
  intro reference directory
  have named : fileName .builtIn 0 reference = .ok "a_b.png" := by decide +kernel
  rcases fileName_isPart_iff .builtIn 0 reference with ⟨_, ordinary_iff, saves⟩
  have names : NamesPart reference := by
    let parts : Url.Parts := ⟨"http".toList, "h".toList, "/a%3Ab.png".toList, [], []⟩
    have split : Url.split reference = .ok parts := by decide +kernel
    refine .inr ⟨parts, split, ?_⟩
    rw [IsProper, Tree.IsNullFree]
    decide +kernel
  rcases ordinary_iff.mpr names with ⟨name, same, ordinary⟩
  rw [named, Except.ok.injEq] at same
  subst same
  let made := (Tree.empty.makeDirectories directory).2
  have makes : Tree.empty.makeDirectories directory = (.ok (), made) :=
    Prod.ext (by decide +kernel) rfl
  rcases (saves _ named).2.2 _ _ _ [104] makes with ⟨place, reached, _, saved⟩
  have there : made.reach directory = .ok directory := by decide +kernel
  rw [there, Except.ok.injEq] at reached
  subst reached
  exact ⟨named, names, ordinary, saved ordinary (by decide +kernel) (by decide +kernel)
    (by decide +kernel) (by unfold Tree.MayWrite; decide +kernel)⟩

/-- Addresses whose names are not ordinary parts: they lead to the directory above, to the directory
itself or nowhere. The last address has no name. -/
theorem improper_names :
    let names := ["http://h/a/..", "http://h/%2E", "http://h/a%00"].map (fileName .builtIn 0)
    names = [.ok "..", .ok ".", .ok "a\x00"] ∧
    (∀ name, .ok name ∈ names → ¬IsPart name) ∧
    fileName .builtIn 0 "http://[h/a.png" = .error .unbalancedBrackets := by
  intro names
  have named : names = [.ok "..", .ok ".", .ok "a\x00"] := by decide +kernel
  refine ⟨named, ?_, by decide +kernel⟩
  rw [named]
  intro name member ordinary
  simp only [List.mem_cons, List.not_mem_nil, or_false, Except.ok.injEq] at member
  rcases member with rfl | rfl | rfl
  · exact ordinary.proper.2 rfl
  · exact ordinary.proper.1 rfl
  · have null := ordinary.nullFree
    rw [Tree.IsNullFree] at null
    exact null (by decide)

end ImageCatalog.Image
