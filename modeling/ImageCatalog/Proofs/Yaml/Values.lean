import ImageCatalog.Proofs.Yaml.Scalars
import ImageCatalog.Value.Entries

/-!
# What JSON texts mean in YAML

The nodes of a portable text have no tags, merge nothing, and have texts for keys, so that building
their values comes down to what the spelling says: words and numbers mean the same, and of repeated
keys the first place and the last value count in both languages.
-/

namespace ImageCatalog.Json

open Yaml

/-! ## Entries -/

/-- Fields as entries, whose keys may be any values. -/
def asEntries (fields : List (String × Value)) : List (Value × Value) :=
  fields.map fun field => (.text field.1, field.2)

theorem putEntry_text (name : String) (content : Value) (fields : List (String × Value)) :
    putEntry (.text name) content (asEntries fields) =
      asEntries (Entries.put name content fields) := by
  induction fields with
  | nil => rfl
  | cons field others hypothesis =>
      rcases field with ⟨other, old⟩
      have same : isSameKey (.text other) (.text name) = (other == name) := rfl
      rw [asEntries, List.map_cons, putEntry, same, Entries.put]
      by_cases equal : other = name
      · rw [equal, beq_self_eq_true, if_pos rfl, if_pos rfl]
        rfl
      · rw [beq_false_of_ne equal, if_neg Bool.false_ne_true, if_neg equal]
        exact congrArg _ hypothesis

theorem asFields?_asEntries (fields : List (String × Value)) :
    asFields? (asEntries fields) = some fields := by
  induction fields with
  | nil => rfl
  | cons field others hypothesis =>
      rw [asEntries, List.map_cons, asFields?]
      exact congrArg _ hypothesis

theorem distinctEntries_asEntries (fields : List (String × Value)) :
    distinctEntries (asEntries fields) = asEntries (Entries.ofList fields) := by
  have distinct (made : List (String × Value)) :
      (asEntries fields).foldl (fun made entry => putEntry entry.1 entry.2 made) (asEntries made) =
        asEntries (fields.foldl (fun made field => Entries.put field.1 field.2 made) made) := by
    induction fields generalizing made with
    | nil => rfl
    | cons field others hypothesis =>
        have first : asEntries (field :: others) = (.text field.1, field.2) :: asEntries others :=
          rfl
        rw [first, List.foldl_cons, List.foldl_cons, putEntry_text]
        exact hypothesis _
  exact distinct []

theorem mappingValue_asEntries (fields : List (String × Value)) :
    mappingValue (asEntries fields) = .object (Entries.ofList fields) := by
  simp only [mappingValue, distinctEntries_asEntries, asFields?_asEntries]

/-- An entry whose key is no merge is an entry of its own. -/
theorem splitMerged_cons {key value : Node} {rest own : List (Node × Node)}
    (notMerge : key.kind ≠ .merge) (others : Node.splitMerged rest = .ok ([], own)) :
    Node.splitMerged ((key, value) :: rest) = .ok ([], (key.asKey, value) :: own) := by
  rw [Node.splitMerged, if_neg notMerge, others]
  rfl

/-- Nothing is merged into the entries of an object. -/
theorem Fields.splitMerged_nodes (fields : Fields) :
    Node.splitMerged fields.nodes = .ok ([], fields.nodes) := by
  cases fields with
  | last => rfl
  | more _ _ _ _ others => exact splitMerged_cons Kind.noConfusion others.splitMerged_nodes

/-! ## Scalars -/

theorem isCollection_ofPlain (text : String) :
    (Node.scalar (.ofPlain text) text).isCollection = false := by
  simp only [Kind.ofPlain]
  split_ifs <;> rfl

theorem toValue_scalar {kind : Kind} {text : String} {value : Value} {budget : Nat}
    (alone : (Node.scalar kind text).isCollection = false)
    (means : Node.scalarValue kind text = .ok value)
    (enough : (Node.scalar kind text).height ≤ budget) :
    (Node.scalar kind text).toValue budget = .ok value := by
  rcases Nat.exists_eq_add_of_le' enough with ⟨others, rfl⟩
  have leaf : (Node.scalar kind text).leafValue = .ok value := by
    rw [← means]
    cases kind <;> rfl
  unfold Node.height Node.toValue
  simp only [alone, Bool.false_eq_true, if_false, leaf]
  rfl

/-! ## Collections -/

section Collections

variable {budget : Nat}

/-- The values of some items, side by side. -/
def itemValues (budget : Nat) (items : List Node) : Except Located (List Value) :=
  items.foldr (fun item rest => both List.cons (item.toValue budget) rest) (.ok [])

/-- The keys and values of some entries, side by side. -/
def entryValues (budget : Nat) (entries : List (Node × Node)) :
    Except Located (List (Value × Value)) :=
  entries.foldr (fun entry rest =>
    both List.cons
      (both Prod.mk (Node.checkKey entry.1 (entry.1.toValue budget)) (entry.2.toValue budget)) rest)
    (.ok [])

theorem toValue_sequence {items : List Node} {values : List Value}
    (means : itemValues budget items = .ok values) :
    (Node.sequence .sequence items).toValue (budget + 1) = .ok (.list values) := by
  have unfolded : (Node.sequence .sequence items).toValue (budget + 1) =
      ((itemValues budget items).map .list).mapError Located.deeper := rfl
  rw [unfolded, means]
  rfl

theorem toValue_mapping_eq (entries : List (Node × Node)) :
    (Node.mapping .mapping entries).toValue (budget + 1) =
      ((match Node.splitMerged entries with
        | .ok (others, rest) => entryValues budget (others ++ rest)
        | .error fault => Node.fail fault).map mappingValue).mapError Located.deeper := rfl

theorem toValue_mapping {entries : List (Node × Node)} {fields : List (String × Value)}
    (own : Node.splitMerged entries = .ok ([], entries))
    (means : entryValues budget entries = .ok (asEntries fields)) :
    (Node.mapping .mapping entries).toValue (budget + 1) =
      .ok (.object (Entries.ofList fields)) := by
  rw [toValue_mapping_eq, own]
  simp only [List.nil_append, means, ← mappingValue_asEntries]
  rfl

theorem itemValues_cons {item : Node} {items : List Node} {value : Value} {values : List Value}
    (first : item.toValue budget = .ok value) (others : itemValues budget items = .ok values) :
    itemValues budget (item :: items) = .ok (value :: values) := by
  unfold itemValues at others ⊢
  rw [List.foldr_cons, first, others]
  rfl

/-- The value of an entry whose key is a text. -/
theorem entryValues_cons {node : Node} {entries : List (Node × Node)} {name : String}
    {value : Value} {fields : List (String × Value)}
    (enough : (Node.scalar .text name).height ≤ budget)
    (first : node.toValue budget = .ok value)
    (others : entryValues budget entries = .ok (asEntries fields)) :
    entryValues budget ((.scalar .text name, node) :: entries) =
      .ok (asEntries ((name, value) :: fields)) := by
  have key := toValue_scalar rfl (show Node.scalarValue .text name = .ok _ from rfl) enough
  unfold entryValues at others ⊢
  rw [List.foldr_cons, first, others, key]
  rfl

end Collections

mutual

/-- The node of a portable value has the value that is spelt. -/
theorem Spelling.toValue_node : ∀ {spelling : Spelling}, spelling.IsPortable → ∀ {budget : Nat},
    spelling.node.height ≤ budget → spelling.node.toValue budget = .ok spelling.value
  | .word word, portable, _, enough =>
    toValue_scalar (isCollection_ofPlain _) (word.scalarValue_chars_iff.mpr portable) enough
  | .number numeral, portable, _, enough =>
    toValue_scalar (isCollection_ofPlain _) (numeral.scalarValue_chars_iff.mpr portable) enough
  | .text pieces, _, _, enough => toValue_scalar rfl rfl enough
  | .emptyList _, _, _, enough => by
    rcases Nat.exists_eq_add_of_le' enough with ⟨others, rfl⟩
    exact toValue_sequence rfl
  | .list _ items, portable, _, enough => by
    rcases Nat.exists_eq_add_of_le' enough with ⟨others, rfl⟩
    exact toValue_sequence (Items.itemValues_nodes portable.2 (Nat.le_add_left _ _))
  | .emptyObject _, _, _, enough => by
    rcases Nat.exists_eq_add_of_le' enough with ⟨others, rfl⟩
    exact toValue_mapping rfl (show _ = Except.ok (asEntries []) from rfl)
  | .object _ fields, portable, _, enough => by
    rcases Nat.exists_eq_add_of_le' enough with ⟨others, rfl⟩
    exact toValue_mapping fields.splitMerged_nodes
      (Fields.entryValues_nodes portable.2 (Nat.le_add_left _ _))

theorem Items.itemValues_nodes : ∀ {items : Items}, items.IsPortable → ∀ {budget : Nat},
    Node.heightOfItems items.nodes ≤ budget → itemValues budget items.nodes = .ok items.values
  | .last item _, portable, _, enough => by
    rw [Items.nodes, Node.heightOfItems, Nat.max_le] at enough
    exact itemValues_cons (Spelling.toValue_node portable.1 enough.1) rfl
  | .more item _ _ others, portable, _, enough => by
    rw [Items.nodes, Node.heightOfItems, Nat.max_le] at enough
    exact itemValues_cons (Spelling.toValue_node portable.1 enough.1)
      (Items.itemValues_nodes portable.2.2.2 enough.2)

theorem Fields.entryValues_nodes : ∀ {fields : Fields}, fields.IsPortable → ∀ {budget : Nat},
    Node.heightOfEntries fields.nodes ≤ budget →
      entryValues budget fields.nodes = .ok (asEntries fields.entries)
  | .last label content _, portable, _, enough => by
    rw [Fields.nodes, Node.heightOfEntries, Nat.max_le, Nat.max_le] at enough
    exact entryValues_cons enough.1.1 (Spelling.toValue_node portable.2.1 enough.1.2) rfl
  | .more label content _ _ others, portable, _, enough => by
    rw [Fields.nodes, Node.heightOfEntries, Nat.max_le, Nat.max_le] at enough
    exact entryValues_cons enough.1.1 (Spelling.toValue_node portable.2.1 enough.1.2)
      (Fields.entryValues_nodes portable.2.2.2.2 enough.2)

end

/-- A portable text means in YAML what it means in JSON. -/
theorem Document.yaml_read_eq {document : Document} (portable : document.IsPortable) :
    Yaml.read (String.ofList document.chars) = .ok document.content.value := by
  have value := Spelling.toValue_node portable.content (Nat.le_refl _)
  simp only [Yaml.read, String.toList_ofList, document.cut_eq portable,
    document.content.ofCut_eq, bind, Except.bind, value]
  rfl

end ImageCatalog.Json
