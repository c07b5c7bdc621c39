import ImageCatalog.Proofs.Disk.Directory
import ImageCatalog.Proofs.Disk.Written
import ImageCatalog.Proofs.Json.Overlong
import ImageCatalog.Proofs.Text.Utf8
import ImageCatalog.Settings.Store

/-!
# Opening saved settings

A store should open on whatever there is in the place of its file, and be empty unless that is the
text of a JSON object. It does, whether the file is missing, is a directory, breaks off or holds
something else than an object. It does not if the bytes are no text, or if the text has a number
that is too long and no mistake before it; nor if the name of the file is too long to be asked for.
-/

namespace ImageCatalog.Settings

open Disk Results Text

/-- The file holds the text of an object with some fields. -/
def HoldsObject (tree : Tree) (file : Location) (fields : List (String × Value)) : Prop :=
  ∃ (text : String) (document : Json.Document),
    tree.contentOf file = .ok (Utf8.encode text) ∧ document.chars = text.toList ∧
      document.content.value = .object fields

/-- The values of a store on a file: the fields of the object that the file holds, or none. -/
inductive HoldsValues (tree : Tree) (file : Location) : List (String × Value) → Prop where
  | object {fields : List (String × Value)} (holds : HoldsObject tree file fields) :
      HoldsValues tree file fields
  | empty (other : ∀ fields, ¬HoldsObject tree file fields) : HoldsValues tree file []

/-- What keeps a store from being opened on a file. -/
inductive HasFault (tree : Tree) (file : Location) : Store.LoadFault → Prop where
  | name (tooLong : tree.look file = .error .nameTooLong) :
      HasFault tree file (.disk ⟨.nameTooLong, file⟩)
  | bytes {content : List UInt8} (there : tree.contentOf file = .ok content)
      (noText : ∀ text, content ≠ Utf8.encode text) : HasFault tree file .notText
  | number {text : String} {overflow : DigitOverflow}
      (there : tree.contentOf file = .ok (Utf8.encode text))
      (overruns : Json.Overruns text overflow) : HasFault tree file (.overlong overflow)

/-! ## Contents -/

variable {tree : Tree} {file : Location} {content : List UInt8}
  {fields values : List (String × Value)} {fault : Store.LoadFault} {store : Store}

theorem readFile_of_contentOf (there : tree.contentOf file = .ok content) :
    Store.readFile tree file = Store.readContent content := by
  simp only [Store.readFile, Tree.holds_of_contentOf there, there]
  rfl

theorem readFile_of_text {text : String} (there : tree.contentOf file = .ok (Utf8.encode text)) :
    Store.readFile tree file =
      match Json.read text with
      | .ok document => .ok (document.fields?.getD [])
      | .error .malformed => .ok []
      | .error (.overlong overflow) => .error (.overlong overflow) := by
  have whole := readFile_of_contentOf there
  rw [Store.readContent, Utf8.decode?_encode] at whole
  exact whole

/-- Among the objects of a file with a text are only those that the text is read as. -/
theorem holdsObject_iff {text : String} (there : tree.contentOf file = .ok (Utf8.encode text)) :
    HoldsObject tree file fields ↔ Json.read text = .ok (.object fields) := by
  rw [Json.read_eq_ok_iff]
  constructor
  · rintro ⟨other, document, same, spelt, object⟩
    rw [there, Except.ok.injEq, ← Utf8.decode?_eq_some_iff, Utf8.decode?_encode,
      Option.some.injEq] at same
    exact ⟨document, same ▸ spelt, object⟩
  · rintro ⟨document, spelt, object⟩
    exact ⟨text, document, there, spelt, object⟩

theorem holdsValues_fields {text : String} {value : Value}
    (there : tree.contentOf file = .ok (Utf8.encode text)) (read : Json.read text = .ok value) :
    HoldsValues tree file (value.fields?.getD []) := by
  by_cases object : ∃ fields, value = .object fields
  · rcases object with ⟨fields, rfl⟩
    exact .object ((holdsObject_iff there).mpr read)
  · have noFields : value.fields? = none := by
      cases value with
      | object fields => exact absurd ⟨fields, rfl⟩ object
      | _ => rfl
    rw [noFields]
    refine .empty fun fields holds => object ⟨fields, ?_⟩
    rw [holdsObject_iff there, read] at holds
    exact Except.ok.inj holds

theorem HoldsObject.readFile_eq (holds : HoldsObject tree file fields) :
    Store.readFile tree file = .ok fields := by
  rcases holds with ⟨text, document, there, spelt, object⟩
  rw [readFile_of_text there, Json.read_eq_ok_iff.mpr ⟨document, spelt, object⟩]
  rfl

theorem HoldsValues.unique {others : List (String × Value)} (holds : HoldsValues tree file values)
    (otherwise : HoldsValues tree file others) : values = others := by
  cases holds with
  | object holds =>
      cases otherwise with
      | object also => exact Except.ok.inj (holds.readFile_eq.symm.trans also.readFile_eq)
      | empty none => exact absurd holds (none _)
  | empty none =>
      cases otherwise with
      | object also => exact absurd also (none _)
      | empty => rfl

/-! ## Files -/

theorem HasFault.readFile_eq (has : HasFault tree file fault) :
    Store.readFile tree file = .error fault := by
  cases has with
  | name tooLong =>
      simp only [Store.readFile, Tree.holds, tooLong]
      rfl
  | bytes there noText =>
      have undecoded : Utf8.decode? _ = none := Option.eq_none_iff_forall_ne_some.mpr
        fun text decoded => noText text (Utf8.decode?_eq_some_iff.mp decoded)
      rw [readFile_of_contentOf there, Store.readContent, undecoded]
  | number there overruns =>
      rw [readFile_of_text there, Json.read_overlong_iff.mpr overruns]

/-- Without a fault the values that there should be are read. -/
theorem exists_readFile_of_sound (sound : ∀ fault, ¬HasFault tree file fault) :
    ∃ values, HoldsValues tree file values ∧ Store.readFile tree file = .ok values := by
  cases found : tree.contentOf file with
  | error fault =>
      have noObject (fields : List (String × Value)) : ¬HoldsObject tree file fields := by
        rintro ⟨text, _, there, _⟩
        rw [found] at there
        cases there
      refine ⟨[], .empty noObject, ?_⟩
      cases looks : tree.look file with
      | ok item =>
          simp [Store.readFile, Tree.holds, looks, found, bind, Except.bind, pure, Except.pure]
      | error cause =>
          cases cause with
          | nameTooLong => exact absurd (.name looks) (sound _)
          | _ => simp [Store.readFile, Tree.holds, looks, bind, Except.bind, pure, Except.pure]
  | ok content =>
      by_cases text : ∃ text, content = Utf8.encode text
      · rcases text with ⟨text, rfl⟩
        rw [readFile_of_text found]
        cases read : Json.read text with
        | ok document => exact ⟨_, holdsValues_fields found read, rfl⟩
        | error fault =>
            cases fault with
            | malformed =>
                refine ⟨[], .empty fun fields holds => ?_, rfl⟩
                rw [holdsObject_iff found, read] at holds
                cases holds
            | overlong overflow =>
                exact absurd (.number found (Json.read_overlong_iff.mp read)) (sound _)
      · exact absurd (.bytes found (not_exists.mp text)) (sound _)

/-! ## Stores -/

theorem load_error_iff : Store.load tree file = .error fault ↔ HasFault tree file fault := by
  rw [Store.load, map_error_iff]
  constructor
  · intro fails
    by_contra without
    have sound : ∀ other, ¬HasFault tree file other := by
      intro other has
      rw [has.readFile_eq, Except.error.injEq] at fails
      exact without (fails ▸ has)
    rcases exists_readFile_of_sound sound with ⟨values, _, read⟩
    rw [read] at fails
    cases fails
  · exact HasFault.readFile_eq

/-- A store is opened exactly if nothing keeps it from being opened, and then it has the values that
the file holds. -/
theorem load_ok_iff : Store.load tree file = .ok store ↔
    (∀ fault, ¬HasFault tree file fault) ∧
      ∃ values, HoldsValues tree file values ∧ store = ⟨some file, values, []⟩ := by
  constructor
  · intro loads
    have sound : ∀ fault, ¬HasFault tree file fault := by
      intro fault has
      rw [load_error_iff.mpr has] at loads
      cases loads
    rcases exists_readFile_of_sound sound with ⟨values, holds, read⟩
    rw [Store.load, read] at loads
    cases loads
    exact ⟨sound, values, holds, rfl⟩
  · rintro ⟨sound, values, holds, rfl⟩
    rcases exists_readFile_of_sound sound with ⟨others, also, read⟩
    rw [Store.load, read, holds.unique also]
    rfl

end ImageCatalog.Settings
