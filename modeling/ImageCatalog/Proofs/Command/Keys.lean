import ImageCatalog.Proofs.Command.Service
import ImageCatalog.Proofs.Path.Number
import ImageCatalog.Proofs.Request.Refused

/-!
# The keys of a command line

A command that calls a service takes values for parameters in pairs. Either each pair names a
parameter, or the command is refused before it asks the service for anything. The exceptions are
told by `Slips`: no pair is refused, though some names nothing, because a blank key is taken for the
name of a parameter whose name is empty, or because the command runs into the limit on number texts
first.
-/

namespace ImageCatalog.Command

open Config Disk Http Override Results Text

/-- The key and the value of a pair: the key stands before the first equals sign, and is not empty
before the blanks around it are left out. -/
def IsPair (pair : String) (override : String × String) : Prop :=
  ∃ written, written ≠ [] ∧ '=' ∉ written ∧
    pair.toList = written ++ '=' :: override.2.toList ∧ override.1 = String.ofList (trim written)

/-- The pair names the parameter at a position by its key. -/
def Names (description : Description) (pair : String) (index : Nat) : Prop :=
  ∃ override, IsPair pair override ∧ Denotes description override.1 index

/-- Every pair names a parameter. -/
def AllName (description : Description) (pairs : List String) : Prop :=
  ∀ pair ∈ pairs, ∃ index, Names description pair index

/-- A command is refused as a wrong use of it. It has sent no requests but the given ones and left
the disk as it was. -/
structure IsRefusal (around : Surroundings) (made : List Request) (report : Report) : Prop where
  code : report.ending.exitCode = 2
  requests : report.requests = made
  tree : report.tree = around.tree

/-- No pair of a row is refused although some pair names nothing. -/
structure Slips (description : Description) (pairs : List String) : Prop where
  unnamed : ¬AllName description pairs
  noneRefused : ∃ overrides, List.Forall₂ IsPair pairs overrides ∧ NoneRefused description overrides

/-- What the pairs make of the defaults: a parameter that no pair names keeps its default, one that
is named has the value that the last pair for it gives, and one without a name, or with an empty
one, has another value than its default only if a pair gives its position in digits. -/
structure SetsNamed (description : Description) (pairs : List String) (values : ValueMap) :
    Prop where
  kept : ∀ index, (∀ pair ∈ pairs, ¬Names description pair index) →
    values.find? index = (ValueMap.seed description).find? index
  given : ∀ before pair after index, pairs = before ++ pair :: after →
    Names description pair index → (∀ later ∈ after, ¬Names description later index) →
    ∃ override parameter value, IsPair pair override ∧
      description.parameters[index]? = some parameter ∧
      coerce parameter override.2 = .ok value ∧ values.find? index = some value
  positional : ∀ index, nameAt? description index = none ∨ nameAt? description index = some "" →
    values.find? index ≠ (ValueMap.seed description).find? index →
    ∃ pair ∈ pairs, ∃ override, IsPair pair override ∧ isDigits override.1 = true ∧
      digitsToNat override.1.toList = index

/-! ## Pairs -/

variable {pair : String} {pairs : List String} {override : String × String}
  {overrides : List (String × String)} {description : Description} {config : Config}

theorem readPair_ok_iff : readPair pair = .ok override ↔ IsPair pair override := by
  rcases override with ⟨key, value⟩
  constructor
  · intro reads
    unfold readPair at reads
    by_cases member : '=' ∈ pair.toList
    · rcases List.eq_append_cons_of_mem member with ⟨written, rest, split, absent⟩
      rw [split, cutAtChar_append absent] at reads
      simp only at reads
      split at reads
      · cases reads
      · next filled =>
          cases reads
          refine ⟨written, mt List.isEmpty_iff.mpr filled, absent, ?_, rfl⟩
          rw [split, String.toList_ofList]
    · rw [cutAtChar_of_not_mem member] at reads
      cases reads
  · rintro ⟨written, filled, absent, split, rfl⟩
    have some : written.isEmpty = false := List.isEmpty_eq_false_iff.mpr filled
    rw [readPair, split, cutAtChar_append absent]
    simp only [some, Bool.false_eq_true, if_false, String.ofList_toList]

theorem mapM_readPair_iff : pairs.mapM readPair = .ok overrides ↔
    List.Forall₂ IsPair pairs overrides := by
  rw [mapM_eq_ok_iff]
  simp only [readPair_ok_iff]

/-- A pair has one key and one value. -/
theorem IsPair.unique {other : String × String} (isPair : IsPair pair override)
    (otherwise : IsPair pair other) : override = other := by
  have read := readPair_ok_iff.mpr isPair
  rw [readPair_ok_iff.mpr otherwise] at read
  exact (Except.ok.inj read).symm

theorem IsPair.names_iff (isPair : IsPair pair override) {index : Nat} :
    Names description pair index ↔ Denotes description override.1 index := by
  constructor
  · rintro ⟨other, otherwise, denotes⟩
    exact isPair.unique otherwise ▸ denotes
  · intro denotes
    exact ⟨override, isPair, denotes⟩

theorem not_allName_of_isPair (isPair : IsPair pair override)
    (nothing : ∀ index, ¬Denotes description override.1 index) : ¬AllName description [pair] := by
  intro allName
  rcases allName pair List.mem_cons_self with ⟨index, names⟩
  exact nothing index (isPair.names_iff.mp names)

theorem isPair_of_isDigits {key : String} (digits : isDigits key = true) (value : String) :
    IsPair (key ++ "=" ++ value) (key, value) := by
  rcases Path.isDigits_iff.mp digits with ⟨filled, areDigits⟩
  refine ⟨key.toList, mt String.toList_eq_nil_iff.mp filled, ?_, by simp, ?_⟩
  · exact Number.not_mem_of_areDigits areDigits rfl
  · simp only [Number.trim_of_isInk (Number.isInk_of_areDigits areDigits), String.ofList_toList]

/-! ## The values of a command line -/

theorem valuesOf_of_readPair (read : List.Forall₂ IsPair pairs overrides) :
    valuesOf config pairs =
      match applyAll config.description (ValueMap.seed config.description) overrides with
      | .ok values => .ok values
      | .error (.refused refusal) => .error (.misused (.refused refusal))
      | .error (.overlong overflow) => .error (.died (.overlong overflow)) := by
  simp only [valuesOf, mapM_readPair_iff.mpr read, mapError_of_ok, bind, Except.bind]
  rfl

/-- The pairs of a command line are refused, unless all of them are pairs and none is refused. -/
theorem valuesOf_misused_iff : (∃ fault, valuesOf config pairs = .error (.misused fault)) ↔
    ¬∃ overrides, List.Forall₂ IsPair pairs overrides ∧
      NoneRefused config.description overrides := by
  cases read : pairs.mapM readPair with
  | error fault =>
      have misused : valuesOf config pairs = .error (.misused fault) := by
        rw [valuesOf, read]
        rfl
      refine iff_of_true ⟨fault, misused⟩ ?_
      rintro ⟨overrides, areRead, _⟩
      rw [mapM_readPair_iff.mpr areRead] at read
      cases read
  | ok overrides =>
      have areRead := mapM_readPair_iff.mp read
      have only : (∃ others, List.Forall₂ IsPair pairs others ∧
          NoneRefused config.description others) ↔ NoneRefused config.description overrides := by
        constructor
        · rintro ⟨others, otherwise, none⟩
          rw [← mapM_readPair_iff, read] at otherwise
          cases otherwise
          exact none
        · exact fun none => ⟨overrides, areRead, none⟩
      rw [only, ← @applyAll_refused_iff _ (ValueMap.seed config.description),
        valuesOf_of_readPair areRead]
      cases applyAll config.description (ValueMap.seed config.description) overrides with
      | ok values => simp
      | error fault => cases fault <;> simp

theorem exists_applyAll_of_valuesOf {values : ValueMap}
    (chosen : valuesOf config pairs = .ok values) :
    ∃ overrides, List.Forall₂ IsPair pairs overrides ∧
      applyAll config.description (ValueMap.seed config.description) overrides = .ok values := by
  rcases bind_ok chosen with ⟨overrides, read, applied⟩
  have areRead := mapM_readPair_iff.mp (mapError_ok read)
  rw [valuesOf_of_readPair areRead] at chosen
  refine ⟨overrides, areRead, ?_⟩
  revert chosen
  cases applyAll config.description (ValueMap.seed config.description) overrides with
  | ok other => simp
  | error fault => cases fault <;> simp

/-- A position of too many digits ends the command, whatever value it is given. -/
theorem valuesOf_of_isOverlong {key : String} (overlong : IsOverlong key) (value : String) :
    valuesOf config [key ++ "=" ++ value] =
      .error (.died (.overlong (.reading key.toList.length))) := by
  rw [valuesOf_of_readPair (.cons (isPair_of_isDigits overlong.1 value) .nil)]
  simp only [applyAll, applyOne, findParameter_of_isOverlong overlong, bind, Except.bind]

theorem valuesOf_error {ending : Ending} (fails : valuesOf config pairs = .error ending) :
    (∃ fault, ending = .misused fault) ∨ ∃ fault, ending = .died fault := by
  cases read : pairs.mapM readPair with
  | error fault =>
      rw [valuesOf, read] at fails
      cases fails
      exact .inl ⟨fault, rfl⟩
  | ok overrides =>
      rw [valuesOf_of_readPair (mapM_readPair_iff.mp read)] at fails
      split at fails
      · cases fails
      · cases fails
        exact .inl ⟨_, rfl⟩
      · cases fails
        exact .inr ⟨_, rfl⟩

/-- If every pair names a parameter and values come of them, these are the values that are given. -/
theorem setsNamed_of_valuesOf {values : ValueMap} (chosen : valuesOf config pairs = .ok values)
    (allName : AllName config.description pairs) : SetsNamed config.description pairs values := by
  rcases exists_applyAll_of_valuesOf chosen with ⟨overrides, areRead, applied⟩
  have settles := settles_of_applyAll applied
  have gives := (applyAll_ok_iff _).mp ⟨values, applied⟩
  -- The keys of the pairs address what they name, since none of them is empty or too long.
  have same {pair : String} {override : String × String} (pairMem : pair ∈ pairs)
      (member : override ∈ overrides) (isPair : IsPair pair override) (index : Nat) :
      Addresses config.description override.1 index ↔ Names config.description pair index := by
    rcases allName pair pairMem with ⟨other, names⟩
    rcases gives override member with ⟨_, _, given⟩
    rw [isPair.names_iff] at names ⊢
    exact names.addresses_iff given.1.not_isOverlong
  have kept (index : Nat) (unnamed : ∀ pair ∈ pairs, ¬Names config.description pair index) :
      values.find? index = (ValueMap.seed config.description).find? index := by
    apply settles.kept
    intro override member addresses
    rcases exists_of_mem_mapM (mapM_readPair_iff.mpr areRead) member with ⟨pair, pairMem, read⟩
    have isPair := readPair_ok_iff.mp read
    exact unnamed pair pairMem ((same pairMem member isPair index).mp addresses)
  refine ⟨kept, ?_, ?_⟩
  · intro before pair after index split names later
    rw [split] at areRead
    rcases exists_append_of_forall₂ areRead with ⟨front, override, back, rfl, isPair, others⟩
    have addresses := (same (by simp [split]) (by simp) isPair index).mpr names
    have unaddressed : ∀ other ∈ back, ¬Addresses config.description other.1 index := by
      intro other member addressed
      rcases exists_of_mem_mapM (mapM_readPair_iff.mpr others) member with ⟨next, nextMem, read⟩
      have isNext := readPair_ok_iff.mp read
      refine later next nextMem ((same ?_ ?_ isNext index).mp addressed)
      · simp [split, nextMem]
      · simp [member]
    rcases settles.settled front override back index rfl addresses unaddressed with
      ⟨value, ⟨_, parameter, there, coerced⟩, found⟩
    exact ⟨override, parameter, value, isPair, there, coerced, found⟩
  · intro index nameless changed
    by_contra none
    apply changed
    apply kept
    rintro pair pairMem ⟨override, isPair, denotes⟩
    rcases denotes.2 with ⟨digits, spelt⟩ | ⟨_, filled, named, _⟩
    · exact none ⟨pair, pairMem, override, isPair, digits, spelt⟩
    · rcases nameless with missing | empty
      · rw [missing] at named
        cases named
      · rw [empty, Option.some.injEq] at named
        exact filled named.symm

/-! ## Reports -/

variable {around : Surroundings} {origin : Origin} {made : List Request}

/-- With its configuration at hand, a command that calls a service looks at its pairs first. -/
theorem perform_generate (found : configOf around origin = (.ok config, made))
    (pairs : List String) (keeping : Keeping) :
    perform around (.generate origin pairs keeping) =
      Report.afterRequests made (match valuesOf config pairs with
        | .error ending => .stop around.tree ending
        | .ok values => writeResult around.tree around.settings fun _ =>
            callService around config values keeping) := by
  cases chosen : valuesOf config pairs <;>
    simp only [perform, runGenerate, withConfig, found, chosen]

/-- Once its pairs have given values, a command is not refused. -/
theorem exitCode_ne_two_of_valuesOf (found : configOf around origin = (.ok config, made))
    {values : ValueMap} (chosen : valuesOf config pairs = .ok values) (keeping : Keeping) :
    (perform around (.generate origin pairs keeping)).ending.exitCode ≠ 2 := by
  rw [perform_generate found, chosen]
  simp only [Report.afterRequests]
  cases around.settings with
  | error fault => exact (by decide : (1 : Nat) ≠ 2)
  | ok settings =>
      simp only [writeResult]
      rcases endsAsCalled_callService around config values keeping with
        done | ⟨fault, died, _⟩
      · rw [done]
        decide
      · rw [died]
        exact (by decide : (1 : Nat) ≠ 2)

/-- A command that does not get values of its pairs asks nobody and leaves the disk as it was. -/
theorem stops_of_valuesOf (found : configOf around origin = (.ok config, made)) {ending : Ending}
    (fails : valuesOf config pairs = .error ending) (keeping : Keeping) :
    let report := perform around (.generate origin pairs keeping)
    report.ending = ending ∧ report.requests = made ∧ report.tree = around.tree := by
  rw [perform_generate found, fails]
  exact ⟨rfl, List.append_nil made, rfl⟩

theorem isRefusal_iff (found : configOf around origin = (.ok config, made)) (keeping : Keeping) :
    IsRefusal around made (perform around (.generate origin pairs keeping)) ↔
      ∃ fault, valuesOf config pairs = .error (.misused fault) := by
  constructor
  · rintro ⟨code, _, _⟩
    cases chosen : valuesOf config pairs with
    | ok values => exact absurd code (exitCode_ne_two_of_valuesOf found chosen keeping)
    | error ending =>
        rcases valuesOf_error chosen with ⟨fault, rfl⟩ | ⟨fault, rfl⟩
        · exact ⟨fault, rfl⟩
        · rw [(stops_of_valuesOf found chosen keeping).1] at code
          cases code
  · rintro ⟨fault, misused⟩
    rcases stops_of_valuesOf found misused keeping with ⟨ending, requests, tree⟩
    exact ⟨by rw [ending]; rfl, requests, tree⟩

/-- Why no pair is refused although some pair names nothing: a key that is blank and taken for an
empty name, or a limit on number texts that the command runs into. -/
theorem Slips.exists_cause (slips : Slips description pairs) :
    ∃ pair ∈ pairs, ∃ override, IsPair pair override ∧
      (override.1 = "" ∧ (∃ index, nameAt? description index = some "") ∨
        Overruns description override) := by
  rcases slips with ⟨unnamed, overrides, areRead, none⟩
  by_contra without
  apply unnamed
  clear unnamed
  induction areRead with
  | nil => simp [AllName]
  | @cons pair override pairs overrides isPair later hypothesis =>
      have sound {cause : Prop} (here : cause)
          (isCause : cause → override.1 = "" ∧ (∃ index, nameAt? description index = some "") ∨
            Overruns description override) : False :=
        without ⟨pair, List.mem_cons_self, override, isPair, isCause here⟩
      cases none with
      | stopped overruns => exact (sound overruns .inr).elim
      | @given _ _ index value gives others =>
          have names : ∃ index, Names description pair index := by
            rcases addresses_iff.mp gives.1 with ⟨denotes, _⟩ | ⟨empty, _, named, _⟩
            · exact ⟨index, isPair.names_iff.mpr denotes⟩
            · exact (sound empty fun empty => .inl ⟨empty, index, named⟩).elim
          have behind := hypothesis others fun ⟨next, nextMem, cause⟩ =>
            without ⟨next, List.mem_cons_of_mem _ nextMem, cause⟩
          exact List.forall_mem_cons.mpr ⟨names, behind⟩

/-- Every pair names a parameter, or the command is refused, unless the pairs slip through; they do
so only by a blank key or a number beyond the limit. Values that come of pairs that all name a
parameter are the ones that are given, and without values the command asks nobody and leaves the
disk as it was. -/
theorem keys_name_or_refused_iff (found : configOf around origin = (.ok config, made))
    (pairs : List String) (keeping : Keeping) :
    let report := perform around (.generate origin pairs keeping)
    (AllName config.description pairs ∨ IsRefusal around made report ↔
      ¬Slips config.description pairs) ∧
    (Slips config.description pairs → ∃ pair ∈ pairs, ∃ override, IsPair pair override ∧
      (override.1 = "" ∧ (∃ index, nameAt? config.description index = some "") ∨
        Overruns config.description override)) ∧
    (∀ values, valuesOf config pairs = .ok values →
      (AllName config.description pairs → SetsNamed config.description pairs values) ∧
      report = Report.afterRequests made (writeResult around.tree around.settings fun _ =>
        callService around config values keeping)) ∧
    ((∀ values, valuesOf config pairs ≠ .ok values) →
      report.requests = made ∧ report.tree = around.tree) := by
  intro report
  refine ⟨?_, Slips.exists_cause, ?_, ?_⟩
  · rw [isRefusal_iff found, valuesOf_misused_iff]
    constructor
    · rintro (allName | refused) ⟨unnamed, noneRefused⟩
      · exact unnamed allName
      · exact refused noneRefused
    · intro sound
      by_contra neither
      rw [not_or, not_not] at neither
      exact sound ⟨neither.1, neither.2⟩
  · intro values chosen
    refine ⟨setsNamed_of_valuesOf chosen, ?_⟩
    simp only [report, perform_generate found, chosen]
  · intro without
    cases chosen : valuesOf config pairs with
    | ok values => exact absurd chosen (without values)
    | error ending => exact (stops_of_valuesOf found chosen keeping).2

/-- The content of a file with a configuration that has a parameter with a name and one whose name
is empty. -/
def askingContent : List UInt8 :=
  Utf8.encode ("\x7b\"friendly_name\":\"f\",\"link\":\"http://h\",\"func\":\"GET\"," ++
    "\"parameters\":[\x7b\"name\":\"seed\",\"type\":\"integer\"\x7d," ++
    "\x7b\"name\":\"\",\"type\":\"string\"\x7d]," ++
    "\"response\":\x7b\"image\":\x7b\"content_type\":\"URL\"\x7d\x7d\x7d")

/-- Surroundings with that configuration. -/
def asking : Surroundings :=
  { serving "" "\x7b\x7d" with tree := { items := [(.ofText "c.api.json", .file askingContent)] } }

theorem exists_configOf_asking : ∃ config, configOf asking servedOrigin = (.ok config, []) ∧
    config.description.parameters.length = 2 ∧ nameAt? config.description 0 = some "seed" := by
  have shape : (configOf asking servedOrigin).1.toOption.map (fun config =>
      (config.description.parameters.length, nameAt? config.description 0)) =
        some (2, some "seed") := by
    decide +kernel
  have unasked : (configOf asking servedOrigin).2 = [] := rfl
  rcases got : configOf asking servedOrigin with ⟨found, made⟩
  rw [got] at shape unasked
  cases found with
  | error ending => cases shape
  | ok config =>
      simp only [Except.toOption, Option.map_some, Option.some.injEq, Prod.mk.injEq] at shape
      obtain rfl : made = [] := unasked
      exact ⟨config, rfl, shape⟩

theorem keys_name_or_refused_padded : ∃ config,
    configOf asking servedOrigin = (.ok config, []) ∧
      AllName config.description [" seed\t=3", "1=a=b"] ∧
      ¬Slips config.description [" seed\t=3", "1=a=b"] := by
  rcases exists_configOf_asking with ⟨config, found, two, named⟩
  have allName : AllName config.description [" seed\t=3", "1=a=b"] := by
    simp only [AllName, List.forall_mem_cons, List.not_mem_nil, false_imp_iff, implies_true,
      and_true]
    refine ⟨⟨0, ("seed", "3"), readPair_ok_iff.mp (by decide), by omega, .inr ?_⟩,
      ⟨1, ("1", "a=b"), readPair_ok_iff.mp (by decide), by omega, .inl (by decide)⟩⟩
    exact ⟨by decide, by decide, named, nofun⟩
  exact ⟨config, found, allName,
    (keys_name_or_refused_iff found _ .listed).1.mp (.inl allName)⟩

/-- The words of a command with one pair. -/
def generateWords (pair : String) : List String :=
  ["generate", "x", "--config", "c.api.json", "-p", pair]

theorem run_generateWords (pair : String) :
    run asking (generateWords pair) = perform asking (.generate servedOrigin [pair] .listed) := by
  have reads : Invocation.read asking.tree (generateWords pair) =
      .ok (.generate servedOrigin [pair] .listed) := rfl
  simp only [run, reads]

/-- The position after the last one of two, with so many zeros in front that it is too long. -/
def padded : String :=
  String.ofList (List.replicate digitLimit '0' ++ ['2'])

theorem padded_overlong : IsOverlong padded ∧ digitsToNat padded.toList = 2 := by
  have areDigits : Json.AreDigits padded.toList := by
    simp only [padded, String.toList_ofList, Json.AreDigits, List.mem_append, List.mem_replicate,
      List.mem_singleton]
    rintro char (⟨_, rfl⟩ | rfl) <;> rfl
  refine ⟨⟨Path.isDigits_iff.mpr ⟨?_, areDigits⟩, ?_⟩, ?_⟩
  · simp [padded, ← String.toList_inj]
  · simp [padded]
  · rw [padded, String.toList_ofList, Json.digitsToNat_zeros_append]
    rfl

/-- A blank key sets the parameter whose name is empty, which an empty key does not. A position
after the last one is refused, but kills the command if it is too long. -/
theorem keys_slip :
    let ends (pair : String) : Nat × List String :=
      let report := run asking (generateWords pair)
      (report.ending.exitCode, report.requests.map (·.url))
    ends "=x" = (2, []) ∧ ends " =x" = (0, ["http://h/x"]) ∧
      ends "2=x" = (2, []) ∧ ends (padded ++ "=" ++ "x") = (1, []) ∧
      ∃ config, configOf asking servedOrigin = (.ok config, []) ∧
        ∀ pair ∈ [" =x", padded ++ "=" ++ "x"], ¬AllName config.description [pair] ∧
          ¬IsRefusal asking [] (run asking (generateWords pair)) := by
  intro ends
  rcases exists_configOf_asking with ⟨config, found, two, _⟩
  have stops {pair : String} {ending : Ending} (fails : valuesOf config [pair] = .error ending) :
      ends pair = (ending.exitCode, []) := by
    rcases stops_of_valuesOf found fails .listed with ⟨stopped, requests, _⟩
    simp only [ends, run_generateWords, stopped, requests, List.map_nil]
  have empty : ends "=x" = (2, []) := by
    have fails : valuesOf config ["=x"] = .error (.misused (.notAPair "=x")) := rfl
    exact stops fails
  have blank : ends " =x" = (0, ["http://h/x"]) := by decide +kernel
  have after : ends "2=x" = (2, []) := by
    have read : IsPair "2=x" ("2", "x") := readPair_ok_iff.mp (by decide)
    have place : readDigits "2".toList = .ok 2 := by decide
    have fails : valuesOf config ["2=x"] =
        .error (.misused (.refused (.indexOutOfRange 2 2))) := by
      rw [valuesOf_of_readPair (.cons read .nil), applyAll, applyOne, findParameter]
      simp only [two, place]
      rfl
    exact stops fails
  have overlong : ends (padded ++ "=" ++ "x") = (1, []) :=
    stops (valuesOf_of_isOverlong padded_overlong.1 "x")
  refine ⟨empty, blank, after, overlong, config, found, ?_⟩
  have unrefused {pair : String} (told : (ends pair).1 ≠ 2) :
      ¬IsRefusal asking [] (run asking (generateWords pair)) := by
    simp only [ends] at told
    exact fun refusal => told refusal.code
  have blankCode : (ends " =x").1 ≠ 2 := by simp only [blank]; decide
  have overlongCode : (ends (padded ++ "=" ++ "x")).1 ≠ 2 := by simp only [overlong]; decide
  simp only [List.forall_mem_cons, List.not_mem_nil, false_imp_iff, implies_true, and_true]
  refine ⟨⟨?_, unrefused blankCode⟩, ?_, unrefused overlongCode⟩
  · have isPair : IsPair " =x" ("", "x") := readPair_ok_iff.mp (by decide +kernel)
    exact not_allName_of_isPair isPair fun index denotes => denotes.ne_empty rfl
  · refine not_allName_of_isPair (isPair_of_isDigits padded_overlong.1.1 "x") ?_
    rintro index ⟨inside, ⟨_, spelt⟩ | ⟨wordy, _⟩⟩
    · rw [padded_overlong.2] at spelt
      omega
    · rw [padded_overlong.1.1] at wordy
      cases wordy

end ImageCatalog.Command
