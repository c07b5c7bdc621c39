import ImageCatalog.Command.Run
import ImageCatalog.Proofs.Settings.Course
import ImageCatalog.Proofs.Settings.Environment
import Mathlib.Data.List.DropRight

/-!
# Settings that are saved by one command and shown by another

Every command starts afresh: it reads the settings of the environment, and those that were saved
from their file. What it shows of a setting is the text that was given for it last, in the form that
the setting has, or the setting of the environment if that text was empty or there was none. The
commands that save other settings in between make no difference, with one exception: a text with a
half in it cannot be saved, and the command that dies of it empties the file, so that everything
that was saved before is lost.

Two facts are carried along a row of commands that save. The file is read as values that belong to
the texts given last (`AreSaved`), and the settings of the environment stay as they were, even if
the file of saved settings is the file of variables (`Spares`).
-/

namespace ImageCatalog.Command

open Disk Settings Text

/-! ## Tildes -/

/-- A location with its tilde, if it has one in front, replaced by the home directory. -/
def underHome (home location : Location) : Location :=
  match location with
  | ⟨.here, "~" :: rest⟩ => { home with names := home.names ++ rest }
  | other => other

/-- A name in front of a location that starts with a tilde is the tilde alone. -/
def TildeAlone (location : Location) : Prop :=
  location.anchor = .here →
    ∀ first ∈ location.names.head?, startsWith "~" first = true → first = "~"

theorem expandHome?_of_tildeAlone {homes : Homes} {home location : Location}
    (own : homes.find? "" = some home) (alone : TildeAlone location) :
    location.expandHome? homes = some (underHome home location) := by
  rcases location with ⟨anchor, names⟩
  cases anchor with
  | root => rfl
  | doubleRoot => rfl
  | here =>
      cases names with
      | nil => rfl
      | cons first rest =>
          by_cases tilde : first = "~"
          · subst tilde
            have user : Location.user? ⟨.here, "~" :: rest⟩ = some "" := rfl
            simp [Location.expandHome?, underHome, user, own]
          · have plain : startsWith "~" first = false := by
              by_contra starts
              exact tilde (alone rfl first rfl (by simpa using starts))
            simp [Location.expandHome?, Location.user?, underHome, tilde, plain]

theorem expandHome?_of_rooted {location : Location} (rooted : location.anchor ≠ .here)
    (homes : Homes) : location.expandHome? homes = some location := by
  rcases location with ⟨anchor, names⟩
  cases anchor with
  | here => exact absurd rfl rooted
  | _ => rfl

/-- A location with a home directory put in has no tilde in front, if home directories have a
root. -/
theorem expandHome?_of_expandHome? {homes : Homes} {location expanded : Location}
    (rooted : ∀ user home, homes.find? user = some home → home.anchor ≠ .here)
    (expands : location.expandHome? homes = some expanded) :
    expanded.expandHome? homes = some expanded := by
  unfold Location.expandHome? at expands
  split at expands
  · next nobody =>
      cases expands
      rw [Location.expandHome?, nobody]
  · next user _ =>
      rcases Option.map_eq_some_iff.mp expands with ⟨home, known, rfl⟩
      have absolute : Location.anchor { home with names := home.names ++ location.names.drop 1 } ≠
          .here := rooted user home known
      exact expandHome?_of_rooted absolute homes

/-- The location for downloads in the settings of the environment has the home directory put in. -/
theorem exists_expandHome?_of_load {homes : Homes} {environment : Variables} {tree : Tree}
    {settings : Settings} (loads : Settings.load homes environment tree = .ok settings) :
    ∃ location : Location, location.expandHome? homes = some settings.downloads := by
  rcases Results.bind_ok loads with ⟨filed, _, given⟩
  rcases Results.bind_ok given with ⟨downloads, expands, others⟩
  rcases Results.bind_ok others with ⟨savedFile, _, checks⟩
  have same : settings.downloads = downloads := by
    split at checks
    · cases checks
      rfl
    · cases checks
  unfold Sources.expand at expands
  simp only at expands
  split at expands
  · next expanded found =>
      cases expands
      exact ⟨_, same ▸ found⟩
  · cases expands

/-! ## Texts that are lost -/

/-- Whether saving a text empties the file: it has a half in it, and is saved as it is. -/
def loses (entry : SavedName × String) : Bool :=
  decide (entry.1 ≠ .usesStaticIndex) && !isWhole entry.2

/-- What remains of a row of texts for settings: those after the last one that emptied the file. -/
def remembered (saved : List (SavedName × String)) : List (SavedName × String) :=
  saved.rtakeWhile fun entry => !loses entry

theorem remembered_concat (saved : List (SavedName × String)) (entry : SavedName × String) :
    remembered (saved ++ [entry]) = if loses entry then [] else remembered saved ++ [entry] := by
  rw [remembered, List.rtakeWhile_concat]
  cases lost : loses entry <;> simp [remembered]

theorem remembered_append {later : List (SavedName × String)}
    (kept : ∀ entry ∈ later, loses entry = false) (saved : List (SavedName × String)) :
    remembered (saved ++ later) = remembered saved ++ later := by
  induction later using List.reverseRecOn with
  | nil => rw [List.append_nil, List.append_nil]
  | append_singleton later last hypothesis =>
      have lastKept := kept last (by simp)
      rw [← List.append_assoc, remembered_concat, lastKept,
        hypothesis fun entry member => kept entry (List.mem_append_left _ member), if_neg nofun,
        List.append_assoc]

/-- Without texts that are lost, all of them remain. -/
theorem remembered_eq_self {saved : List (SavedName × String)}
    (kept : ∀ entry ∈ saved, loses entry = false) : remembered saved = saved :=
  remembered_append kept []

/-! ## What is shown -/

/-- The text that a row of texts for settings gives last for a setting, unless it is empty. -/
def given? (name : SavedName) (saved : List (SavedName × String)) : Option String :=
  (Entries.lastOf? name saved).filter fun text => !text.isEmpty

/-- An address with a slash at its end. -/
def slashed (url : String) : String :=
  if endsWith "/" url then url else url ++ "/"

/-- The text of a switch. -/
def switchText (switchedOn : Bool) : String :=
  if switchedOn then "True" else "False"

/-- The location for downloads that is given last, or that of the environment. -/
def downloadsGiven (settings : Settings) (saved : List (SavedName × String)) : Location :=
  ((given? .downloads saved).map Location.ofText).getD settings.downloads

/-- What is shown of a setting after some texts for settings have been saved, where the location for
downloads has the home directory put in. -/
def shown (downloads : Location) (settings : Settings) (saved : List (SavedName × String)) :
    SavedName → String
  | .token => (given? .token saved).getD (settings.token.getD "")
  | .usesStaticIndex =>
    switchText <| match given? .usesStaticIndex saved with
      | some text => decide (lowerWord (strip text) ∈ ["1", "true", "yes", "on"])
      | none => settings.usesStaticIndex
  | .repositoryUrl => slashed ((given? .repositoryUrl saved).getD settings.repositoryUrl)
  | .staticUrl => slashed ((given? .staticUrl saved).getD settings.staticUrl)
  | .downloads => downloads.print

variable {saved : List (SavedName × String)} {name : SavedName} {text : String}

theorem given?_concat (name other : SavedName) (text : String) (saved : List (SavedName × String)) :
    given? name (saved ++ [(other, text)]) =
      if other = name then (if text.isEmpty then none else some text) else given? name saved := by
  rw [given?, Entries.lastOf?_concat]
  split
  · by_cases empty : text.isEmpty = true <;> simp [empty, Option.filter]
  · rfl

theorem given?_append_of_ne {later : List (SavedName × String)}
    (others : ∀ entry ∈ later, entry.1 ≠ name) (saved : List (SavedName × String)) :
    given? name (saved ++ later) = given? name saved := by
  induction later using List.reverseRecOn with
  | nil => rw [List.append_nil]
  | append_singleton later last hypothesis =>
      rw [← List.append_assoc, given?_concat, if_neg (others last (by simp))]
      exact hypothesis fun entry member => others entry (List.mem_append_left _ member)

/-- What is shown of a setting depends on nothing that was given for others. -/
theorem shown_congr {other : List (SavedName × String)} (downloads : Location) (settings : Settings)
    (same : given? name saved = given? name other) :
    shown downloads settings saved name = shown downloads settings other name := by
  cases name <;> simp only [shown, same]

theorem mem_of_given? (given : given? name saved = some text) : (name, text) ∈ saved :=
  List.mem_reverse.mp (Entries.mem_of_find? (Option.filter_eq_some_iff.mp given).1)

theorem isEmpty_of_given? (given : given? name saved = some text) : text.isEmpty = false := by
  simpa using (Option.filter_eq_some_iff.mp given).2

/-! ## Saved values -/

theorem key_injective : Function.Injective SavedName.key := by
  have known (name : SavedName) : SavedName.ofKey? name.key = some name := by
    cases name <;> rfl
  intro first second same
  have equal := known first
  rw [same, known second] at equal
  exact (Option.some.inj equal).symm

theorem savedValue_of_empty (empty : text.isEmpty = true) : savedValue name text = .null :=
  if_pos empty

/-- The value for a text that is not empty is a text or a flag. -/
theorem savedValue_of_filled (filled : text.isEmpty = false) :
    (savedValue name text).isNull = false ∧ ((∃ chars, savedValue name text = .text chars) ∨
      ∃ flag, savedValue name text = .bool flag) := by
  unfold savedValue
  rw [if_neg (by simp [filled])]
  split
  · exact ⟨rfl, .inr ⟨_, rfl⟩⟩
  · exact ⟨rfl, .inl ⟨_, rfl⟩⟩

/-- Values that belong to the texts given last. -/
structure AreSaved (saved : List (SavedName × String)) (values : List (String × Value)) : Prop where
  flat : AreFlat values
  distinct : (Entries.keys values).Nodup
  found : ∀ name, Entries.find? name.key values = (given? name saved).map (savedValue name)

theorem areSaved_nil : AreSaved [] [] :=
  ⟨by simp [AreFlat], List.nodup_nil, fun _ => rfl⟩

/-- Saving a text for one more setting, or clearing it by an empty text. -/
theorem AreSaved.put {store : Store} (areSaved : AreSaved saved store.values) (name : SavedName)
    (text : String) :
    AreSaved (saved ++ [(name, text)]) (store.put name.key (savedValue name text)).values := by
  refine ⟨?_, Store.nodup_keys_put areSaved.distinct _ _, ?_⟩
  · intro entry member
    unfold Store.put at member
    cases empty : text.isEmpty with
    | true =>
        rw [savedValue_of_empty empty] at member
        exact areSaved.flat entry (Entries.mem_of_mem_drop member)
    | false =>
        rcases @savedValue_of_filled name text empty with ⟨notNull, flat⟩
        rw [if_neg (by simp [notNull])] at member
        rcases Entries.mem_put member with rfl | older
        · exact ⟨⟨name, rfl⟩, flat⟩
        · exact areSaved.flat entry older
  · intro other
    rw [given?_concat]
    -- An empty text deletes what was there, and any other text takes its place.
    by_cases same : name = other
    · subst same
      rw [if_pos rfl]
      cases empty : text.isEmpty with
      | true =>
          rw [savedValue_of_empty empty]
          exact Entries.find?_drop_self areSaved.distinct name.key
      | false =>
          have notNull := (@savedValue_of_filled name text empty).1
          rw [Store.put, if_neg (by simp [notNull])]
          exact Entries.find?_put_self name.key (savedValue name text) store.values
    · have differs : other.key ≠ name.key := by
        intro equal
        exact same (key_injective equal).symm
      rw [if_neg same, Store.find?_values_put_of_ne store differs]
      exact areSaved.found other

/-- Values that belong to texts without halves have none. -/
theorem AreSaved.all_isWholeValue {values : List (String × Value)}
    (areSaved : AreSaved saved values) (kept : ∀ entry ∈ saved, loses entry = false) :
    (values.all fun entry => isWholeValue entry.2) = true := by
  rw [List.all_eq_true]
  rintro ⟨key, value⟩ member
  rcases (areSaved.flat _ member).1 with ⟨name, rfl⟩
  have found := Entries.find?_of_mem areSaved.distinct member
  rw [areSaved.found] at found
  rcases Option.map_eq_some_iff.mp found with ⟨text, given, rfl⟩
  have filled := isEmpty_of_given? given
  have whole := kept _ (mem_of_given? given)
  simp only [loses, Bool.and_eq_false_iff, decide_eq_false_iff_not, ne_eq, Decidable.not_not,
    Bool.not_eq_false'] at whole
  simp only [savedValue, filled]
  split
  · contradiction
  · split
    · rfl
    · next other => exact whole.resolve_left other

/-- A text that is lost leaves a half among the values. -/
theorem AreSaved.all_isWholeValue_of_loses {values : List (String × Value)}
    (areSaved : AreSaved (saved ++ [(name, text)]) values) (lost : loses (name, text) = true) :
    (values.all fun entry => isWholeValue entry.2) = false := by
  simp only [loses, Bool.and_eq_true, decide_eq_true_eq, Bool.not_eq_true'] at lost
  have filled : text.isEmpty = false := by
    cases empty : text.isEmpty with
    | false => rfl
    | true =>
        rw [String.isEmpty_iff.mp empty] at lost
        cases lost.2
  have found := areSaved.found name
  rw [given?_concat, if_pos rfl, filled, if_neg Bool.false_ne_true, Option.map_some, savedValue,
    filled, if_neg Bool.false_ne_true, if_neg lost.1] at found
  rw [List.all_eq_false]
  exact ⟨_, Entries.mem_of_find? found, by simp [isWholeValue, lost.2]⟩

/-! ## Settings in force -/

section

variable {homes : Homes} {downloads : Location} {settings : Settings} {store : Store}

theorem AreSaved.saved?_eq (areSaved : AreSaved saved store.values)
    (textual : name ≠ .usesStaticIndex) :
    Effective.saved? store name = (given? name saved).map Value.text := by
  rw [Effective.saved?, areSaved.found]
  cases given : given? name saved with
  | none => rfl
  | some text =>
      have filled : text ≠ "" := by simpa using isEmpty_of_given? given
      simp [savedValue, filled, textual, Value.isTruthy, Option.filter]

theorem AreSaved.address_eq (areSaved : AreSaved saved store.values)
    (textual : name ≠ .usesStaticIndex) (fallback : String) :
    Effective.address store name fallback = .ok (slashed ((given? name saved).getD fallback)) := by
  rw [Effective.address, areSaved.saved?_eq textual]
  cases given? name saved <;> rfl

theorem AreSaved.downloadsOf_eq (areSaved : AreSaved saved store.values)
    (expanded : (downloadsGiven settings saved).expandHome? homes = some downloads) :
    Effective.downloadsOf homes store settings.downloads = .ok downloads := by
  unfold downloadsGiven at expanded
  rw [Effective.downloadsOf, areSaved.saved?_eq (by decide)]
  cases given : given? .downloads saved with
  | none =>
      rw [given, Option.map_none, Option.getD_none] at expanded
      simp only [Option.map_none, Effective.downloadsOf.expand, expanded]
  | some text =>
      rw [given, Option.map_some, Option.getD_some] at expanded
      simp only [Option.map_some, Effective.downloadsOf.expand, expanded]

theorem AreSaved.usesStaticIndexOf_eq (areSaved : AreSaved saved store.values) (fallback : Bool) :
    Effective.usesStaticIndexOf store fallback =
      match given? .usesStaticIndex saved with
      | some text => decide (lowerWord (strip text) ∈ ["1", "true", "yes", "on"])
      | none => fallback := by
  rw [Effective.usesStaticIndexOf, Store.get, areSaved.found]
  cases given : given? .usesStaticIndex saved with
  | none => rfl
  | some text =>
      have filled : text ≠ "" := by simpa using isEmpty_of_given? given
      simp [savedValue, filled, Value.isNull, Effective.asFlag, Value.isTruthy,
        Effective.isSwitchedOn]

/-- The texts given last are in force over the settings of the environment. -/
theorem AreSaved.settingText_eq (areSaved : AreSaved saved store.values)
    (expanded : (downloadsGiven settings saved).expandHome? homes = some downloads) :
    ∃ effective, Effective.of homes store settings = .ok effective ∧
      ∀ name, settingText effective name = .ok (shown downloads settings saved name) := by
  rw [Effective.of, areSaved.address_eq (by decide), areSaved.address_eq (by decide),
    areSaved.downloadsOf_eq expanded, areSaved.usesStaticIndexOf_eq, areSaved.saved?_eq (by decide)]
  refine ⟨_, rfl, ?_⟩
  intro name
  cases name with
  | token =>
      simp only [settingText, shown]
      cases given? .token saved with
      | some text => rfl
      | none => cases settings.token <;> rfl
  | _ => rfl

end

/-! ## Rows of commands -/

/-- A disk that is left behind by commands that save some texts for settings, one after the other,
each of them with success or dying of a half in its text. -/
inductive Saves (around : Surroundings) : List (SavedName × String) → Tree → Prop where
  | nil : Saves around [] around.tree
  | concat {saved : List (SavedName × String)} {tree : Tree} {words : List String}
      {name : SavedName} {text : String} (before : Saves around saved tree)
      (reads : Invocation.read tree words = .ok (.setSetting name text))
      (ends : (run { around with tree } words).ending = .done ∨
        (run { around with tree } words).ending = .died (.save .unencodable)) :
      Saves around (saved ++ [(name, text)]) (run { around with tree } words).tree

section

variable {around : Surroundings} {settings : Settings} {tree : Tree} {words : List String}

/-- A disk on which the settings of the environment are read as before, and the saved ones as the
texts given last, none of which was lost. -/
structure IsKept (around : Surroundings) (settings : Settings) (saved : List (SavedName × String))
    (tree : Tree) : Prop where
  loads : Settings.load around.homes around.environment tree = .ok settings
  spares : Spares around.homes around.environment settings settings.savedFile tree
  reads : ∃ values, Store.readFile tree settings.savedFile = .ok values ∧ AreSaved saved values
  kept : ∀ entry ∈ saved, loses entry = false

theorem IsKept.settings_eq (kept : IsKept around settings saved tree) :
    { around with tree }.settings = .ok settings := by
  rw [Surroundings.settings, kept.loads]
  rfl

theorem IsKept.store_eq (kept : IsKept around settings saved tree) :
    ∃ values, { around with tree }.store = .ok ⟨some settings.savedFile, values, []⟩ ∧
      AreSaved saved values := by
  rcases kept.reads with ⟨values, reads, areSaved⟩
  refine ⟨values, ?_, areSaved⟩
  rw [Surroundings.store, kept.settings_eq]
  simp only [bind, Except.bind, Store.load, reads]
  rfl

/-- A setting is shown as the text given last says. -/
theorem IsKept.runGetSetting_eq (kept : IsKept around settings saved tree) {downloads : Location}
    (expanded : (downloadsGiven settings saved).expandHome? around.homes = some downloads)
    (name : SavedName) :
    runGetSetting { around with tree } name =
      .write tree [shown downloads settings saved name] := by
  rcases kept.store_eq with ⟨values, stored, areSaved⟩
  have inForce := @AreSaved.settingText_eq _ around.homes downloads settings
    ⟨some settings.savedFile, values, []⟩ areSaved expanded
  rcases inForce with ⟨effective, merges, shows⟩
  simp only [runGetSetting, Surroundings.effective, kept.settings_eq, stored, merges, shows, bind,
    Except.bind, Results.mapError_of_ok, writeResult]

theorem write_saved (tree : Tree) (name : SavedName) :
    Report.write tree [name.key ++ " saved."] = ⟨[name.key ++ " saved."], [], .done, tree, []⟩ := by
  cases name <;> rfl

/-- Saving a setting saves the store with one more text, and is done if that is, and dies of a half
if that fails of it. -/
theorem IsKept.exists_store (kept : IsKept around settings saved tree) (name : SavedName)
    (text : String) :
    ∃ store : Store, store.file = some settings.savedFile ∧
      AreSaved (saved ++ [(name, text)]) store.values ∧
      ∀ left, (store.save tree = (.ok (), left) ↔
          (runSetSetting { around with tree } name text).ending = .done ∧
            (runSetSetting { around with tree } name text).tree = left) ∧
        (store.save tree = (.error .unencodable, left) ↔
          (runSetSetting { around with tree } name text).ending = .died (.save .unencodable) ∧
            (runSetSetting { around with tree } name text).tree = left) := by
  rcases kept.store_eq with ⟨values, stored, areSaved⟩
  let store : Store := ⟨some settings.savedFile, values, []⟩
  refine ⟨store.put name.key (savedValue name text), Store.file_put store _ _,
    areSaved.put name text, ?_⟩
  intro left
  simp only [runSetSetting, stored, writeResult]
  rcases store.set_cases tree name.key (savedValue name text) with ⟨other, saves⟩ |
    ⟨fault, other, fails⟩
  · rw [Store.set_eq_of_saves saves, saves]
    simp [write_saved]
  · rw [(Store.set_eq_of_not_saves fails).1, fails]
    simp [Report.stop]

theorem run_of_read {invocation : Invocation}
    (reads : Invocation.read tree words = .ok invocation) :
    run { around with tree } words = perform { around with tree } invocation := by
  simp only [run, reads]

/-- Where there is an empty file, nothing is saved. -/
theorem readFile_of_emptied {file : Location} (emptied : tree.contentOf file = .ok []) :
    Store.readFile tree file = .ok [] := by
  simp only [Store.readFile, Tree.holds_of_contentOf emptied, emptied]
  rfl

/-- One more command that saves a text, or that dies of it and loses all others. -/
theorem IsKept.concat (kept : IsKept around settings saved tree)
    (reads : Invocation.read tree words = .ok (.setSetting name text))
    (ends : (run { around with tree } words).ending = .done ∨
      (run { around with tree } words).ending = .died (.save .unencodable)) :
    IsKept around settings (if loses (name, text) then [] else saved ++ [(name, text)])
      (run { around with tree } words).tree := by
  rw [run_of_read reads] at ends ⊢
  rcases kept.exists_store name text with ⟨store, located, areSaved, saves_iff⟩
  rcases ends with done | died
  · have saves := (saves_iff _).1.mpr ⟨done, rfl⟩
    have document := (writes_of_areFlat areSaved.flat areSaved.distinct).1
    rcases load_of_save located areSaved.flat kept.spares saves (.inl rfl) kept.loads with
      ⟨loads, spares⟩
    have whole : loses (name, text) = false := by
      by_contra lost
      rcases Store.parts_of_save located saves with ⟨_, _, _, writes, whole, _⟩
      rw [isWhole_of_writeIndented areSaved.flat writes,
        areSaved.all_isWholeValue_of_loses (by simpa using lost)] at whole
      cases whole
    rw [whole, if_neg Bool.false_ne_true]
    refine ⟨loads, spares, ⟨store.values, Store.readFile_of_save located document saves, areSaved⟩,
      ?_⟩
    rw [List.forall_mem_append, List.forall_mem_singleton]
    exact ⟨kept.kept, whole⟩
  · have fails := (saves_iff _).2.mpr ⟨died, rfl⟩
    rcases load_of_save located areSaved.flat kept.spares fails (.inr rfl) kept.loads with
      ⟨loads, spares⟩
    rcases Store.parts_of_unencodable located fails with ⟨_, _, _, writes, half, emptied⟩
    have lost : loses (name, text) = true := by
      by_contra whole
      have all : ∀ entry ∈ saved ++ [(name, text)], loses entry = false := by
        rw [List.forall_mem_append, List.forall_mem_singleton]
        exact ⟨kept.kept, by simpa using whole⟩
      rw [isWhole_of_writeIndented areSaved.flat writes, areSaved.all_isWholeValue all] at half
      cases half
    rw [lost, if_pos rfl]
    exact ⟨loads, spares,
      ⟨[], readFile_of_emptied (Tree.contentOf_of_write emptied), areSaved_nil⟩, by simp⟩

/-- What remains of the texts of a row of commands is what is kept. -/
theorem isKept_of_saves (start : IsKept around settings [] around.tree)
    (saves : Saves around saved tree) : IsKept around settings (remembered saved) tree := by
  induction saves with
  | nil => exact start
  | concat before reads ends hypothesis =>
      rw [remembered_concat]
      exact hypothesis.concat reads ends

/-- If the file can be written, then one more text is saved unless it is lost, and if it is, the
file is left empty. -/
theorem IsKept.ending_of_canWrite (kept : IsKept around settings saved tree)
    (can : tree.CanWrite settings.savedFile)
    (reads : Invocation.read tree words = .ok (.setSetting name text)) :
    (run { around with tree } words).ending =
        (if loses (name, text) then .died (.save .unencodable) else .done) ∧
      (loses (name, text) = true →
        (run { around with tree } words).tree.contentOf settings.savedFile = .ok []) ∧
      (run { around with tree } words).tree.CanWrite settings.savedFile := by
  rw [run_of_read reads]
  rcases kept.exists_store name text with ⟨store, located, areSaved, saves_iff⟩
  rcases save_of_canWrite located areSaved.flat areSaved.distinct can with ⟨left, saves, again⟩
  cases lost : loses (name, text) with
  | true =>
      rw [areSaved.all_isWholeValue_of_loses lost, if_neg Bool.false_ne_true] at saves
      rcases Store.parts_of_unencodable located saves with ⟨_, _, _, _, _, emptied⟩
      rcases (saves_iff left).2.mp saves with ⟨died, rfl⟩
      exact ⟨died, fun _ => Tree.contentOf_of_write emptied, again⟩
  | false =>
      have all : ∀ entry ∈ saved ++ [(name, text)], loses entry = false := by
        rw [List.forall_mem_append, List.forall_mem_singleton]
        exact ⟨kept.kept, lost⟩
      rw [areSaved.all_isWholeValue all, if_pos rfl] at saves
      rcases (saves_iff left).1.mp saves with ⟨done, rfl⟩
      exact ⟨done, nofun, again⟩

/-- After two hyphens a text may start with a hyphen itself. -/
theorem read_setSetting (tree : Tree) (name : SavedName) (text : String) :
    Invocation.read tree ["settings", "set", "--", name.key, text] =
      .ok (.setSetting name text) := by
  cases name <;> rfl

theorem exists_saves (start : IsKept around settings [] around.tree)
    (can : around.tree.CanWrite settings.savedFile) (saved : List (SavedName × String)) :
    ∃ tree, Saves around saved tree ∧ tree.CanWrite settings.savedFile := by
  induction saved using List.reverseRecOn with
  | nil => exact ⟨around.tree, .nil, can⟩
  | append_singleton saved last hypothesis =>
      rcases hypothesis with ⟨tree, saves, now⟩
      have kept := isKept_of_saves start saves
      have reads := read_setSetting tree last.1 last.2
      rcases kept.ending_of_canWrite now reads with ⟨ending, _, again⟩
      refine ⟨_, .concat saves reads ?_, again⟩
      rw [ending]
      cases loses (last.1, last.2)
      · exact .inl rfl
      · exact .inr rfl

/-- Where there are no saved settings, those of the environment are all there is. -/
theorem isKept_of_isAbsent (loads : around.settings = .ok settings)
    (absent : IsAbsent around.tree settings.savedFile) :
    IsKept around settings [] around.tree := by
  have loaded : Settings.load around.homes around.environment around.tree = .ok settings :=
    Results.mapError_ok loads
  exact ⟨loaded, spares_of_isAbsent absent loaded, ⟨[], readFile_of_isAbsent absent, areSaved_nil⟩,
    by simp⟩

end

/-- A home directory, two variables, and nothing on the disk. The settings are to be saved in the
file of variables. -/
def bareSurroundings : Surroundings where
  homes := .own ⟨.root, ["home", "user"]⟩
  environment := [("IMAGE_API_GITHUB_PAT", "secret"), ("IMAGE_API_SETTINGS_FILE", "d/../.env")]
  tree := .empty
  network := fun _ => .failed "ConnectError" ""
  extensions := .builtIn
  clock := (0 : Nat)

/-- The settings of that environment. -/
def bareSettings : Settings where
  staticUrl := defaultStaticUrl
  repositoryUrl := defaultRepositoryUrl
  usesStaticIndex := true
  token := some "secret"
  downloads := ⟨.root, ["home", "user", "Downloads"]⟩
  timeout := defaultTimeout
  savedFile := ⟨.here, ["d", "..", ".env"]⟩

/-- Texts for settings: one that is saved and lost with the next one, one that is saved and cleared
again, and others that are not in the form in which they are shown. -/
def sampleTexts : List (SavedName × String) :=
  [(.repositoryUrl, "https://example.org"), (.token, strayText), (.token, "t"),
    (.staticUrl, "https://example.org"), (.usesStaticIndex, " Off"), (.token, ""),
    (.downloads, "~/a/./b/")]

end ImageCatalog.Command
