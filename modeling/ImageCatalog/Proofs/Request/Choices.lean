import ImageCatalog.Config.Validation
import ImageCatalog.Proofs.Results
import ImageCatalog.Request.Override

/-!
# Choosing an option

An option of a choice is named by its printed text and by its label. The texts and the labels of all
options share one space of names, and the options are looked through one after the other, each with
both of its names. So the first option that a text names is chosen, and an option is chosen by its
own text exactly if none before it has that text as its label.
-/

namespace ImageCatalog.Override

open Config Number Results

/-- Whether a text is one of the two names of an option. -/
def isNamed (raw : String) (names : String × String) : Bool :=
  raw == names.1 || raw == names.2

/-- The position of the first option that a text names. -/
def namedPosition? (raw : String) (printed labels : List String) : Option Nat :=
  (printed.zip labels).findIdx? (isNamed raw)

theorem namedPosition?_cons (raw text label : String) (printed labels : List String) :
    namedPosition? raw (text :: printed) (label :: labels) =
      if isNamed raw (text, label) then some 0
      else (namedPosition? raw printed labels).map (· + 1) :=
  List.findIdx?_cons

theorem findOption_cons {option : Value} {text : String} (prints : option.print = .ok text)
    (raw label : String) (rest : List (Value × String)) :
    findOption raw ((option, label) :: rest) =
      if isNamed raw (text, label) then .ok (some option) else findOption raw rest := by
  rw [findOption, prints]
  simp only [isNamed, Bool.or_eq_true, beq_iff_eq]
  rfl

/-- The option at the first position that the text names is found. -/
theorem findOption_eq {options : List Value} {printed : List String}
    (prints : List.Forall₂ (fun option text => option.print = .ok text) options printed)
    (raw : String) (labels : List String) :
    findOption raw (options.zip labels) =
      .ok ((namedPosition? raw printed labels).bind fun index => options[index]?) := by
  induction prints generalizing labels with
  | nil => rfl
  | @cons option text options printed first later step =>
      cases labels with
      | nil => rfl
      | cons label labels =>
          rw [List.zip_cons_cons, findOption_cons first, step, namedPosition?_cons]
          split
          · rfl
          · rw [Option.bind_map]
            rfl

theorem namedPosition?_eq_some_iff {raw : String} {printed labels : List String}
    (long : labels.length = printed.length) {index : Nat} :
    namedPosition? raw printed labels = some index ↔
      (printed[index]? = some raw ∨ labels[index]? = some raw) ∧
        ∀ earlier < index, printed[earlier]? ≠ some raw ∧ labels[earlier]? ≠ some raw := by
  have inside {place : Nat} : place < (printed.zip labels).length ↔ place < printed.length := by
    rw [List.length_zip, long, Nat.min_self]
  have named {place : Nat} (within : place < (printed.zip labels).length) :
      isNamed raw (printed.zip labels)[place] = true ↔
        printed[place]? = some raw ∨ labels[place]? = some raw := by
    have inText : place < printed.length := inside.mp within
    have inLabels : place < labels.length := by omega
    rw [List.getElem?_eq_getElem inText, List.getElem?_eq_getElem inLabels]
    simp only [isNamed, List.getElem_zip, Bool.or_eq_true, beq_iff_eq, Option.some.injEq]
    exact or_congr eq_comm eq_comm
  rw [namedPosition?, List.findIdx?_eq_some_iff_getElem]
  constructor
  · rintro ⟨within, here, before⟩
    refine ⟨(named within).mp here, fun earlier lower => ?_⟩
    have passed := before earlier lower
    rw [named (Nat.lt_trans lower within), not_or] at passed
    exact passed
  · rintro ⟨here, before⟩
    have within : index < (printed.zip labels).length := by
      rw [inside]
      rcases here with text | label
      · exact (List.getElem?_eq_some_iff.mp text).1
      · exact long ▸ (List.getElem?_eq_some_iff.mp label).1
    refine ⟨within, (named within).mpr here, fun earlier lower => ?_⟩
    rw [named (Nat.lt_trans lower within), not_or]
    exact before earlier lower

theorem namedPosition?_eq_none {raw : String} {printed labels : List String}
    (noText : raw ∉ printed) (noLabel : raw ∉ labels) :
    namedPosition? raw printed labels = none := by
  rw [namedPosition?, List.findIdx?_eq_none_iff]
  rintro ⟨text, label⟩ member
  rcases List.of_mem_zip member with ⟨textMem, labelMem⟩
  have otherText : raw ≠ text := fun same => noText (same ▸ textMem)
  have otherLabel : raw ≠ label := fun same => noLabel (same ▸ labelMem)
  simp [isNamed, otherText, otherLabel]

section

variable {field : ChoiceField} {printed labels : List String}

theorem exists_optionLabels (prints : field.options.mapM Value.print = .ok printed) :
    ∃ labels, field.optionLabels = .ok labels := by
  unfold ChoiceField.optionLabels
  cases field.labels with
  | none => exact ⟨printed, prints⟩
  | some texts => exact ⟨texts, rfl⟩

theorem length_optionLabels (prints : field.options.mapM Value.print = .ok printed)
    (labelled : field.optionLabels = .ok labels) : labels.length = printed.length := by
  have long := (mapM_eq_ok_iff.mp prints).length_eq
  unfold ChoiceField.optionLabels at labelled
  split at labelled
  · next texts declared =>
      cases labelled
      have perOption := field.labelled labels (by rw [declared]; rfl)
      omega
  · rw [prints] at labelled
    cases labelled
    rfl

/-- The first option that a text names is chosen, and a text that names none is refused. -/
theorem coerceOption_eq (prints : field.options.mapM Value.print = .ok printed)
    (labelled : field.optionLabels = .ok labels) (label raw : String) :
    coerceOption label field raw =
      match (namedPosition? raw printed labels).bind fun index => field.options[index]? with
      | some option => .ok option
      | none => refuse (.notOption label raw printed) := by
  have found := findOption_eq (mapM_eq_ok_iff.mp prints) raw labels
  simp only [coerceOption, labelled, withinLimit, mapError_of_ok, bind, Except.bind, found, prints]
  rfl

theorem coerceOption_ok_iff (prints : field.options.mapM Value.print = .ok printed)
    (labelled : field.optionLabels = .ok labels) {label raw : String} {option : Value} :
    coerceOption label field raw = .ok option ↔
      ∃ index, namedPosition? raw printed labels = some index ∧
        field.options[index]? = some option := by
  rw [coerceOption_eq prints labelled, ← Option.bind_eq_some_iff]
  cases (namedPosition? raw printed labels).bind fun index => field.options[index]? with
  | none => simp [refuse]
  | some option => simp

/-- The text of an option stands where the option does. -/
theorem getElem?_printed (prints : field.options.mapM Value.print = .ok printed) {index : Nat}
    {option : Value} {text : String} (there : field.options[index]? = some option)
    (own : option.print = .ok text) : printed[index]? = some text := by
  have each := mapM_eq_ok_iff.mp prints
  rcases List.getElem?_eq_some_iff.mp there with ⟨inside, rfl⟩
  have within : index < printed.length := each.length_eq ▸ inside
  have same : field.options[index].print = .ok printed[index] := each.get inside within
  rw [own] at same
  rw [List.getElem?_eq_getElem within, Except.ok.inj same]

theorem getElem?_ne_of_nodup (distinct : printed.Nodup) {index : Nat}
    {text : String} (here : printed[index]? = some text) :
    ∀ earlier < index, printed[earlier]? ≠ some text := by
  intro earlier lower alsoHere
  have inside := (List.getElem?_eq_some_iff.mp here).1
  have same := (List.getElem?_inj inside distinct).mp (here.trans alsoHere.symm)
  omega

/-- Where the texts of the options differ, an option is chosen by its own text unless an earlier
option has that text as its label. -/
theorem coerceOption_own_iff (prints : field.options.mapM Value.print = .ok printed)
    (labelled : field.optionLabels = .ok labels) (distinct : printed.Nodup) {label text : String}
    {option : Value} {index : Nat} (there : field.options[index]? = some option)
    (own : option.print = .ok text) :
    coerceOption label field text = .ok option ↔ ∀ earlier < index, labels[earlier]? ≠ some text := by
  have long := length_optionLabels prints labelled
  have here := getElem?_printed prints there own
  have inside := (List.getElem?_eq_some_iff.mp here).1
  rw [coerceOption_ok_iff prints labelled]
  constructor
  · rintro ⟨place, first, same⟩ earlier lower
    have alsoHere := getElem?_printed prints same own
    have isPlace : index = place :=
      (List.getElem?_inj inside distinct).mp (here.trans alsoHere.symm)
    subst isPlace
    exact (((namedPosition?_eq_some_iff long).mp first).2 earlier lower).2
  · intro noLabel
    refine ⟨index, (namedPosition?_eq_some_iff long).mpr ⟨.inl here, ?_⟩, there⟩
    intro earlier lower
    exact ⟨getElem?_ne_of_nodup distinct here earlier lower, noLabel earlier lower⟩

end

/-- A text chooses the first option that it names, and is refused if it names none. So an option is
chosen by its own text exactly if that is not the label of an earlier one; where no labels are
declared, every option is. -/
theorem coerce_choice {parameter : Parameter} {field : ChoiceField} {printed : List String}
    (isChoice : parameter.kind = .choice field)
    (prints : field.options.mapM Value.print = .ok printed) (distinct : printed.Nodup) :
    ∃ labels : List String, field.optionLabels = .ok labels ∧
      (∀ raw option, coerce parameter raw = .ok option ↔
        ∃ index : Nat, field.options[index]? = some option ∧
          (printed[index]? = some raw ∨ labels[index]? = some raw) ∧
          ∀ earlier < index, printed[earlier]? ≠ some raw ∧ labels[earlier]? ≠ some raw) ∧
      (∀ (index : Nat) option text, field.options[index]? = some option → option.print = .ok text →
        (coerce parameter text = .ok option ↔ ∀ earlier < index, labels[earlier]? ≠ some text)) ∧
      (field.labels = none → ∀ option ∈ field.options,
        ∃ text, option.print = .ok text ∧ coerce parameter text = .ok option) ∧
      ∀ raw, raw ∉ printed → raw ∉ labels →
        coerce parameter raw = refuse (.notOption (labelOf parameter) raw printed) := by
  have asOption (raw : String) :
      coerce parameter raw = coerceOption (labelOf parameter) field raw := by
    rw [coerce, isChoice]
  rcases exists_optionLabels prints with ⟨labels, labelled⟩
  have long := length_optionLabels prints labelled
  refine ⟨labels, labelled, ?_, ?_, ?_, ?_⟩
  · intro raw option
    rw [asOption, coerceOption_ok_iff prints labelled]
    simp only [namedPosition?_eq_some_iff long, and_comm]
  · intro index option text there own
    rw [asOption]
    exact coerceOption_own_iff prints labelled distinct there own
  · intro undeclared option member
    rcases List.getElem?_of_mem member with ⟨index, there⟩
    rcases mapM_ok_iff.mp ⟨printed, prints⟩ option member with ⟨text, own⟩
    have same : labels = printed := by
      rw [ChoiceField.optionLabels, undeclared, prints] at labelled
      exact (Except.ok.inj labelled).symm
    refine ⟨text, own, ?_⟩
    rw [asOption, coerceOption_own_iff prints labelled distinct there own, same]
    exact getElem?_ne_of_nodup distinct (getElem?_printed prints there own)
  · intro raw noText noLabel
    rw [asOption, coerceOption_eq prints labelled, namedPosition?_eq_none noText noLabel]
    rfl

/-- A flag and a text to choose from, with labels. -/
def renewal : ChoiceField where
  options := [.bool true, .text "weekly"]
  labels := some ["Always", "Every week"]
  nonempty := by simp
  labelled := by simp

theorem coerce_choice_renewal :
    let parameter : Parameter := ⟨some "renew", "", true, .choice renewal⟩
    parameter.kind = .choice renewal ∧
    renewal.options.mapM Value.print = .ok ["True", "weekly"] ∧ ["True", "weekly"].Nodup ∧
    coerce parameter "True" = .ok (.bool true) ∧
    coerce parameter "weekly" = .ok (.text "weekly") ∧
    coerce parameter "never" = refuse (.notOption (labelOf parameter) "never" ["True", "weekly"]) := by
  intro parameter
  have isChoice : parameter.kind = .choice renewal := rfl
  have prints : renewal.options.mapM Value.print = .ok ["True", "weekly"] := rfl
  have distinct : ["True", "weekly"].Nodup := by decide
  rcases coerce_choice isChoice prints distinct with ⟨labels, labelled, _, own, _, refused⟩
  have declared : renewal.optionLabels = .ok ["Always", "Every week"] := rfl
  rw [declared] at labelled
  cases labelled
  refine ⟨isChoice, prints, distinct, ?_, ?_, ?_⟩
  · exact (own 0 (.bool true) "True" rfl rfl).mpr (by decide)
  · exact (own 1 (.text "weekly") "weekly" rfl rfl).mpr (by decide)
  · exact refused "never" (by decide) (by decide)

/-- Two options, of which each has the text of the other one as its label. -/
def crossed : ChoiceField where
  options := [.text "a", .text "b"]
  labels := some ["b", "a"]
  nonempty := by simp
  labelled := by simp

/-- The declaration of the two options is accepted, and their texts differ, but the text of the
second one chooses the first, and no text at all chooses the second. -/
theorem option_unreachable :
    let parameter : Parameter := ⟨none, "", true, .choice crossed⟩
    checkParameter (.object [("type", .text "enum"), ("value", .list [.text "a", .text "b"]),
      ("friendly_value", .list [.text "b", .text "a"])]) = .valid parameter ∧
    crossed.options.mapM Value.print = .ok ["a", "b"] ∧ ["a", "b"].Nodup ∧
    coerce parameter "b" = .ok (.text "a") ∧ ∀ raw, coerce parameter raw ≠ .ok (.text "b") := by
  intro parameter
  have prints : crossed.options.mapM Value.print = .ok ["a", "b"] := rfl
  have labelled : crossed.optionLabels = .ok ["b", "a"] := rfl
  refine ⟨rfl, prints, by decide, rfl, ?_⟩
  intro raw chosen
  rcases (coerceOption_ok_iff prints labelled).mp chosen with ⟨index, first, there⟩
  have long : ["b", "a"].length = ["a", "b"].length := rfl
  rcases (namedPosition?_eq_some_iff long).mp first with ⟨named, before⟩
  match index with
  | 0 => simp [crossed] at there
  | 1 =>
      -- Both names of the second option are names of the first one.
      have passed := before 0 (by decide)
      rcases named with text | label
      · exact passed.2 text
      · exact passed.1 label
  | _ + 2 => simp [crossed] at there

end ImageCatalog.Override
