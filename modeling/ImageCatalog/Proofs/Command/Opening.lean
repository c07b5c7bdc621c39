import ImageCatalog.Proofs.Command.Service
import ImageCatalog.Proofs.Settings.Opening

/-!
# Commands and damaged settings

Most commands open the saved settings before they do anything else. If these cannot be opened, such
a command dies of it without a word, whatever it was asked for; and no command dies of them for
another reason. `settings_file_opens_iff` says for which files this happens.
-/

namespace ImageCatalog.Command

open Config Disk Http Results Settings Text

/-- A command that opens the saved settings before it does anything else. -/
inductive OpensSaved : Invocation → Prop where
  | categories : OpensSaved .categories
  | list (category : Option String) : OpensSaved (.list category)
  | describe (name : String) : OpensSaved (.describe ⟨name, none⟩)
  | generate (name : String) (pairs : List String) (keeping : Keeping) :
      OpensSaved (.generate ⟨name, none⟩ pairs keeping)
  | getSetting (name : SavedName) : OpensSaved (.getSetting name)
  | setSetting (name : SavedName) (value : String) : OpensSaved (.setSetting name value)

/-- The command does not die of a fault in opening the saved settings. -/
def Survives (load : Store.LoadFault) (report : Report) : Prop :=
  report.ending ≠ .died (.load load)

/-- The result is not that fault. -/
def Avoids {Result : Type} (load : Store.LoadFault) (result : Except Fault Result) : Prop :=
  result ≠ .error (.load load)

variable {around : Surroundings} {invocation : Invocation} {fault : Fault} {tree : Tree}
  {report : Report} {load : Store.LoadFault}

/-! ## Settings that cannot be opened -/

theorem source_of_store_error (fails : around.store = .error fault) :
    around.source = .error fault := by
  rcases bind_error fails with unset | ⟨settings, found, _⟩
  · rw [Surroundings.source, unset]
    rfl
  · rw [Surroundings.source, found]
    simp only [bind, Except.bind, fails]

theorem effective_of_store_error (fails : around.store = .error fault) :
    around.effective = .error fault := by
  rcases bind_error fails with unset | ⟨settings, found, _⟩
  · rw [Surroundings.effective, unset]
    rfl
  · rw [Surroundings.effective, found]
    simp only [bind, Except.bind, fails]

theorem perform_of_store_error (fails : around.store = .error fault)
    (opens : OpensSaved invocation) :
    perform around invocation = .stop around.tree (.died fault) := by
  have source := source_of_store_error fails
  cases opens with
  | categories => simp only [perform, runCategories, source, writeResult]
  | list category => simp only [perform, runList, source, writeResult]
  | describe name =>
      simp only [perform, runDescribe, withConfig, configOf, configOfName, source]
      rfl
  | generate name pairs keeping =>
      simp only [perform, runGenerate, withConfig, configOf, configOfName, source]
      rfl
  | getSetting name =>
      simp only [perform, runGetSetting, effective_of_store_error fails, bind, Except.bind,
        writeResult]
  | setSetting name value => simp only [perform, runSetSetting, fails, writeResult]

/-! ## Settings that are opened -/

section

variable {Result : Type} {result : Except Fault Result}

theorem avoids_ok (value : Result) : Avoids load (.ok value) :=
  nofun

theorem avoids_mapError {Cause : Type} {change : Cause → Fault}
    (other : ∀ cause, change cause ≠ .load load) (result : Except Cause Result) :
    Avoids load (result.mapError change) := by
  intro fails
  rcases mapError_error fails with ⟨cause, _, same⟩
  exact other cause same

theorem Avoids.bind {Target : Type} (avoids : Avoids load result)
    {next : Result → Except Fault Target} (each : ∀ value, Avoids load (next value)) :
    Avoids load (result >>= next) := by
  intro fails
  rcases bind_error fails with first | ⟨value, _, later⟩
  · exact avoids first
  · exact each value later

theorem Avoids.writeResult (avoids : Avoids load result) {report : Result → Report}
    (each : ∀ value, Survives load (report value)) :
    Survives load (writeResult tree result report) := by
  unfold Command.writeResult
  split
  · exact each _
  · next fault =>
      intro died
      cases died
      exact avoids rfl

end

theorem survives_of_done (done : report.ending = .done) : Survives load report := by
  intro died
  rw [done] at died
  cases died

theorem survives_write (tree : Tree) (lines : List String) :
    Survives load (Report.write tree lines) := by
  unfold Report.write
  split <;> exact nofun

theorem Survives.andThen (survives : Survives load report) {next : Tree → Report}
    (later : ∀ tree, Survives load (next tree)) : Survives load (report.andThen next) := by
  unfold Report.andThen
  split
  · exact later _
  · exact survives

theorem Survives.afterRequests (survives : Survives load report) (made : List Request) :
    Survives load (report.afterRequests made) :=
  survives

theorem avoids_settings (around : Surroundings) : Avoids load around.settings :=
  avoids_mapError nofun _

/-! ## Descriptions -/

theorem avoids_optionLines (field : ChoiceField) :
    ∀ line ∈ optionLines field, Avoids load line := by
  unfold optionLines
  split
  · simp only [List.forall_mem_singleton]
    exact nofun
  · intro line member
    rcases List.mem_map.mp member with ⟨⟨option, label⟩, _, rfl⟩
    exact fun fails => avoids_mapError nofun option.print (map_error_iff.mp fails)

theorem avoids_parameterLines (position : Nat) (parameter : Parameter) :
    ∀ line ∈ parameterLines position parameter, Avoids load line := by
  refine List.forall_mem_cons.mpr ⟨avoids_ok _, ?_⟩
  split
  · exact avoids_optionLines _
  · simp only [List.forall_mem_singleton]
    exact fun fails => avoids_mapError nofun _ (map_error_iff.mp fails)

theorem avoids_describeLines (config : Config) :
    ∀ line ∈ describeLines config, Avoids load line := by
  intro line member
  rcases List.mem_append.mp member with plain | enabled
  · rcases List.mem_map.mp plain with ⟨text, _, rfl⟩
    exact avoids_ok text
  · rcases List.mem_flatMap.mp enabled with ⟨⟨parameter, position⟩, _, below⟩
    exact avoids_parameterLines position parameter line below

theorem survives_writeLines {lines : List Line} (avoids : ∀ line ∈ lines, Avoids load line)
    (tree : Tree) : Survives load (writeLines tree lines) := by
  induction lines generalizing tree with
  | nil => exact survives_of_done rfl
  | cons line rest hypothesis =>
      rw [List.forall_mem_cons] at avoids
      cases line with
      | ok text =>
          exact (survives_write tree [text]).andThen fun left => hypothesis avoids.2 left
      | error fault =>
          intro died
          cases died
          exact avoids.1 rfl

/-! ## Services -/

section

variable (avoids : Avoids load around.store)

include avoids

theorem avoids_source : Avoids load around.source :=
  (avoids_settings around).bind fun _ => avoids.bind fun _ => avoids_ok _

theorem avoids_effective : Avoids load around.effective :=
  (avoids_settings around).bind fun _ => avoids.bind fun _ => avoids_mapError nofun _

theorem survives_callService (config : Config) (values : ValueMap) (keeping : Keeping) :
    Survives load (callService around config values keeping) := by
  rcases endsAsCalled_callService around config values keeping with
    done | ⟨fault, ends, cause⟩
  · exact survives_of_done done
  · intro died
    rw [ends, Ending.died.injEq] at died
    subst died
    generalize same : Fault.load load = fault at cause
    cases cause with
    | generator fault => cases fault <;> cases same
    | settings fails => exact avoids_effective avoids (same ▸ fails)
    | download fault => cases same
    | unencodable => cases same

end

/-! ## Commands -/

theorem configOfFile_ne_load (tree : Tree) (file : Location) (load : Store.LoadFault) :
    configOfFile tree file ≠ .error (.died (.load load)) := by
  intro fails
  rcases bind_error fails with unread | ⟨content, _, later⟩
  · rcases mapError_error unread with ⟨_, _, same⟩
    cases same
  · split at later <;> cases later

theorem ofSourceFault_ne_load (load : Store.LoadFault) (fault : Catalog.Source.Fault) :
    ofSourceFault fault ≠ .load load := by
  cases fault <;> exact nofun

theorem valuesOf_ne_load (config : Config) (pairs : List String) (load : Store.LoadFault) :
    valuesOf config pairs ≠ .error (.died (.load load)) := by
  intro fails
  rcases bind_error fails with unread | ⟨overrides, _, later⟩
  · rcases mapError_error unread with ⟨_, _, same⟩
    cases same
  · simp only at later
    split at later <;> cases later

section

variable (avoids : Avoids load around.store)

include avoids

theorem configOfName_ne_load (name : String) :
    (configOfName around name).1 ≠ .error (.died (.load load)) := by
  unfold configOfName
  split
  · next fault fails =>
      intro died
      cases died
      exact avoids_source avoids fails
  · next source _ =>
      simp only
      split
      · next fault _ =>
          intro died
          exact ofSourceFault_ne_load load fault (Ending.died.inj (Except.error.inj died))
      · exact nofun
      · exact nofun

theorem survives_withConfig (origin : Origin) {report : Config → Report}
    (each : ∀ config, Survives load (report config)) :
    Survives load (withConfig around origin report) := by
  have alive : (configOf around origin).1 ≠ .error (.died (.load load)) := by
    unfold configOf
    split
    · exact configOfFile_ne_load _ _ load
    · exact configOfName_ne_load avoids _
  refine Survives.afterRequests ?_ _
  split
  · exact each _
  · next ending fails =>
      intro died
      exact alive (fails.trans (congrArg Except.error died))

theorem survives_runGenerate (origin : Origin) (pairs : List String) (keeping : Keeping) :
    Survives load (runGenerate around origin pairs keeping) := by
  refine survives_withConfig avoids origin fun config => ?_
  split
  · next ending fails =>
      intro died
      exact valuesOf_ne_load config pairs load (fails.trans (congrArg Except.error died))
  · exact (avoids_settings around).writeResult fun _ => survives_callService avoids _ _ keeping

theorem survives_runCategories : Survives load (runCategories around) := by
  refine (avoids_source avoids).writeResult fun source => Survives.afterRequests ?_ _
  refine (avoids_mapError (ofSourceFault_ne_load load) _).writeResult fun names => ?_
  split
  · exact survives_of_done rfl
  · exact survives_write _ _

theorem survives_runList (category : Option String) : Survives load (runList around category) := by
  refine (avoids_source avoids).writeResult fun source => Survives.afterRequests ?_ _
  refine (avoids_mapError (ofSourceFault_ne_load load) _).writeResult fun configs => ?_
  exact (survives_write _ _).andThen fun _ => survives_of_done rfl

theorem survives_runGetSetting (name : SavedName) : Survives load (runGetSetting around name) := by
  refine ((avoids_effective avoids).bind fun effective => ?_).writeResult fun _ =>
    survives_write _ _
  unfold settingText
  split
  · split
    · exact avoids_ok _
    · exact avoids_mapError nofun _
  all_goals exact avoids_ok _

theorem survives_runSetSetting (name : SavedName) (text : String) :
    Survives load (runSetSetting around name text) := by
  refine avoids.writeResult fun store => ?_
  simp only
  split
  · exact nofun
  · exact survives_write _ _

end

theorem survives_runValidate (around : Surroundings) (file : Location) :
    Survives load (runValidate around file) := by
  have avoids : Avoids load (reportOnFile around.tree file) := by
    refine (avoids_mapError nofun _).bind fun content => ?_
    split <;> exact nofun
  refine avoids.writeResult fun lines => ?_
  split
  · exact survives_write _ _
  · exact (survives_write _ _).andThen fun _ => nofun

/-- If the saved settings can be opened, no command dies of opening them. -/
theorem survives_perform (avoids : Avoids load around.store) (invocation : Invocation) :
    Survives load (perform around invocation) := by
  cases invocation with
  | categories => exact survives_runCategories avoids
  | list category => exact survives_runList avoids category
  | describe origin =>
      exact survives_withConfig avoids origin fun config =>
        survives_writeLines (avoids_describeLines config) _
  | generate origin pairs keeping => exact survives_runGenerate avoids origin pairs keeping
  | validate file => exact survives_runValidate around file
  | getSetting name => exact survives_runGetSetting avoids name
  | setSetting name text => exact survives_runSetSetting avoids name text

/-! ## Files -/

theorem store_error_iff {settings : Settings} (found : around.settings = .ok settings) :
    around.store = .error (.load load) ↔ HasFault around.tree settings.savedFile load := by
  rw [Surroundings.store, found, ← load_error_iff]
  simp only [bind, Except.bind]
  cases Store.load around.tree settings.savedFile <;> simp [Except.mapError]

/-- A store is opened on a file exactly if nothing keeps it from being opened, and then it has the
fields of the object in the file, or none if there is no such object. A command dies of opening the
saved settings only if something keeps the store from being opened on their file, and then every
command does that opens them first. -/
theorem settings_file_opens_iff (tree : Tree) (file : Location) :
    (∀ store, Store.load tree file = .ok store ↔
      (∀ load, ¬HasFault tree file load) ∧
        ∃ values, HoldsValues tree file values ∧ store = ⟨some file, values, []⟩) ∧
    (∀ load, Store.load tree file = .error load ↔ HasFault tree file load) ∧
    ∀ around settings, around.settings = .ok settings → around.tree = tree →
      settings.savedFile = file → ∀ invocation load,
        ((perform around invocation).ending = .died (.load load) → HasFault tree file load) ∧
        (OpensSaved invocation → HasFault tree file load →
          perform around invocation = .stop tree (.died (.load load))) := by
  refine ⟨fun store => load_ok_iff, fun load => load_error_iff, ?_⟩
  rintro around settings found rfl rfl invocation load
  constructor
  · intro died
    by_contra without
    have avoids : Avoids load around.store := mt (store_error_iff found).mp without
    exact survives_perform avoids invocation died
  · intro opens has
    exact perform_of_store_error ((store_error_iff found).mpr has) opens

/-- Surroundings in which the file of saved settings has a content. -/
def withSaved (content : List UInt8) : Surroundings :=
  { serving "" "" with tree := { items := [(.ofText "s.json", .file content)] } }

theorem exists_settings_withSaved (content : List UInt8) :
    ∃ settings, (withSaved content).settings = .ok settings ∧
      settings.savedFile = .ofText "s.json" :=
  ⟨_, rfl, rfl⟩

theorem settings_file_opens_broken_off :
    let around := withSaved (Utf8.encode "\x7b\"github_pat\": \"x")
    let file := Location.ofText "s.json"
    ∃ store, Store.load around.tree file = .ok store ∧ store.values = [] ∧
      (∀ load, ¬HasFault around.tree file load) ∧
      ∀ invocation load, (perform around invocation).ending ≠ .died (.load load) := by
  intro around file
  rcases exists_settings_withSaved (Utf8.encode "\x7b\"github_pat\": \"x") with
    ⟨settings, found, located⟩
  rcases settings_file_opens_iff around.tree file with ⟨opens, _, performs⟩
  have empty : (Store.load around.tree file).toOption.map (fun store => store.values.isEmpty) =
      some true := by
    decide +kernel
  rcases Option.map_eq_some_iff.mp empty with ⟨store, opened, none⟩
  have loads := eq_ok_of_toOption opened
  have sound := ((opens store).mp loads).1
  refine ⟨store, loads, List.isEmpty_iff.mp none, sound, ?_⟩
  intro invocation load died
  exact sound load ((performs around settings found rfl located invocation load).1 died)

/-- Where settings that break off are as good as none, a byte that is no text and a number of one
digit too many keep the store from being opened, and kill the command. -/
theorem damaged_settings_kill :
    let words := ["settings", "get", "github_pat"]
    let file := Location.ofText "s.json"
    let long := String.ofList (List.replicate (digitLimit + 1) '1')
    let ends (content : List UInt8) : List String × Ending :=
      let report := run (withSaved content) words
      (report.output, report.ending)
    ends (Utf8.encode "[1") = ([""], .done) ∧
      Store.load (withSaved [0xFF]).tree file = .error .notText ∧
      ends [0xFF] = ([], .died (.load .notText)) ∧
      Store.load (withSaved (Utf8.encode long)).tree file = .error (.overlong (.reading 4301)) ∧
      ends (Utf8.encode long) = ([], .died (.load (.overlong (.reading 4301)))) := by
  intro words file long ends
  have there (content : List UInt8) : (withSaved content).tree.contentOf file = .ok content := rfl
  have dies {content : List UInt8} {load : Store.LoadFault}
      (has : HasFault (withSaved content).tree file load) :
      Store.load (withSaved content).tree file = .error load ∧
        ends content = ([], .died (.load load)) := by
    refine ⟨load_error_iff.mpr has, ?_⟩
    rcases exists_settings_withSaved content with ⟨settings, found, located⟩
    have fails : (withSaved content).store = .error (.load load) := by
      rwa [store_error_iff found, located]
    have asks : Invocation.read (withSaved content).tree words = .ok (.getSetting .token) := rfl
    simp only [ends, run, asks, perform_of_store_error fails (.getSetting .token)]
    rfl
  have bytes : HasFault (withSaved [0xFF]).tree file .notText := by
    refine .bytes (there [0xFF]) fun text same => ?_
    have undecoded : Utf8.decode? [0xFF] = none := by decide
    rw [Utf8.decode?_eq_some_iff.mpr same] at undecoded
    cases undecoded
  have number : HasFault (withSaved (Utf8.encode long)).tree file (.overlong (.reading 4301)) := by
    have isWhole : Json.IsWhole (List.replicate (digitLimit + 1) '1') := by
      refine ⟨?_, by simp, .inr (by simp [List.replicate_succ])⟩
      intro char member
      rw [List.eq_of_mem_replicate member]
      rfl
    have length : (List.replicate (digitLimit + 1) '1').length = 4301 := List.length_replicate
    have overruns := Json.overruns_whole isWhole (by rw [length]; decide)
    rw [length] at overruns
    exact .number (there _) overruns
  exact ⟨by decide +kernel, (dies bytes).1, (dies bytes).2, (dies number).1, (dies number).2⟩

end ImageCatalog.Command
