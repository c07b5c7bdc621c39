import ImageCatalog.Proofs.Yaml.Tokens
import ImageCatalog.Yaml.Node

/-!
# The nodes of a JSON text

The tokens of a portable text form the tree that its spelling shows. No token of it has a tag or an
anchor, and every key has its mark, so that of all the ways in which nodes are written in brackets
only the plainest occurs. Reading a value takes at most two units of the budget for each token.
-/

namespace ImageCatalog.Json

open Yaml

/-- The node of a word or a number, whose kind follows from its form. -/
def plainNode (chars : List Char) : Node :=
  .scalar (.ofPlain (String.ofList chars)) (String.ofList chars)

mutual

/-- The node of a value. -/
def Spelling.node : Spelling → Node
  | .word word => plainNode word.chars
  | .number numeral => plainNode numeral.chars
  | .text pieces => .scalar .text (textOf pieces)
  | .emptyList _ => .sequence .sequence []
  | .list _ items => .sequence .sequence items.nodes
  | .emptyObject _ => .mapping .mapping []
  | .object _ fields => .mapping .mapping fields.nodes

/-- The nodes of the items of a list. -/
def Items.nodes : Items → List Node
  | .last item _ => [item.node]
  | .more item _ _ others => item.node :: others.nodes

/-- The nodes of the names and values of the fields of an object. -/
def Fields.nodes : Fields → List (Node × Node)
  | .last label content _ => [(.scalar .text (textOf label.name), content.node)]
  | .more label content _ _ others =>
    (.scalar .text (textOf label.name), content.node) :: others.nodes

end

/-! ## The beginning of a node -/

/-- Whether a token begins a node that has no properties. -/
def beginsNode : Token → Bool
  | .scalar _ _ => true
  | .flowSequenceStart => true
  | .flowMappingStart => true
  | _ => false

theorem Spelling.exists_first (spelling : Spelling) :
    ∃ first others, spelling.tokens = first :: others ∧ beginsNode first = true := by
  cases spelling <;> exact ⟨_, _, rfl, rfl⟩

theorem Items.exists_first (items : Items) :
    ∃ first others, items.tokens = first :: others ∧ beginsNode first = true := by
  cases items with
  | last item gap => exact item.exists_first
  | more item before after others =>
      rcases item.exists_first with ⟨first, later, spelt, begins⟩
      exact ⟨first, _, by rw [Items.tokens, spelt, List.cons_append], begins⟩

variable {scope : Node.Scope} {place : Node.Place} {rest : List Token}
  {anchors : List (String × Option Node)} {first : Token} {after : Node.Reader}

/-- A node without properties is its content. -/
theorem read_eq (begins : beginsNode first = true) (budget : Nat) :
    Node.read scope place (budget + 1) ⟨first :: rest, anchors⟩ =
      Node.readContent scope place none false budget ⟨first :: rest, anchors⟩ := by
  have alone (result : Except Yaml.Fault (Node × Node.Reader)) :
      (result >>= fun found => pure (found.1, found.2)) = result := by
    cases result <;> rfl
  cases first <;> cases begins
  all_goals
    simp only [Node.read, Node.readProperties, Node.fullTag, Node.lookAhead, Node.beginAnchor,
      Node.finishAnchor]
    exact alone _

theorem read_scalar (chars : String) (plain : Bool) (budget : Nat) :
    Node.read scope place (budget + 2) ⟨.scalar chars plain :: rest, anchors⟩ =
      .ok (.scalar (if plain then .ofPlain chars else .text) chars, ⟨rest, anchors⟩) := by
  rw [read_eq rfl]
  simp only [Node.readContent, Node.scalarKind]

theorem read_sequence {budget : Nat} {items : List Node}
    (reads : Node.readFlowItems scope true budget ⟨rest, anchors⟩ = .ok (items, after)) :
    Node.read scope place (budget + 2) ⟨.flowSequenceStart :: rest, anchors⟩ =
      .ok (.sequence .sequence items, after) := by
  rw [read_eq rfl]
  simp only [Node.readContent, reads, Node.collectionKind]
  rfl

theorem read_mapping {budget : Nat} {entries : List (Node × Node)}
    (reads : Node.readFlowEntries scope true budget ⟨rest, anchors⟩ = .ok (entries, after)) :
    Node.read scope place (budget + 2) ⟨.flowMappingStart :: rest, anchors⟩ =
      .ok (.mapping .mapping entries, after) := by
  rw [read_eq rfl]
  simp only [Node.readContent, reads, Node.collectionKind]
  rfl

/-! ## Items and entries -/

/-- The comma before every item or entry but the first. -/
def separator (isFirst : Bool) : List Token :=
  if isFirst then [] else [.flowEntry]

theorem readFlowItems_end (isFirst : Bool) (budget : Nat) :
    Node.readFlowItems scope isFirst (budget + 1) ⟨.flowSequenceEnd :: rest, anchors⟩ =
      .ok ([], ⟨rest, anchors⟩) := by
  simp only [Node.readFlowItems]

theorem readFlowEntries_end (isFirst : Bool) (budget : Nat) :
    Node.readFlowEntries scope isFirst (budget + 1) ⟨.flowMappingEnd :: rest, anchors⟩ =
      .ok ([], ⟨rest, anchors⟩) := by
  simp only [Node.readFlowEntries]

variable {budget : Nat} {between : Node.Reader}

theorem readFlowItems_item (begins : beginsNode first = true) (isFirst : Bool)
    {item : Node} {items : List Node}
    (reads : Node.read scope .flow budget ⟨first :: rest, anchors⟩ = .ok (item, between))
    (further : Node.readFlowItems scope false budget between = .ok (items, after)) :
    Node.readFlowItems scope isFirst (budget + 1) ⟨separator isFirst ++ first :: rest, anchors⟩ =
      .ok (item :: items, after) := by
  cases isFirst <;> cases first <;> cases begins
  all_goals
    simp only [separator, Node.readFlowItems, reads, further, if_true, Bool.false_eq_true, if_false,
      List.nil_append, List.cons_append, pure, Except.pure, bind, Except.bind]

theorem leavesFlowEmpty_eq (begins : beginsNode first = true) :
    Node.leavesFlowEmpty (first :: rest).head? = false := by
  cases first <;> cases begins <;> rfl

theorem readFlowEntry_eq (begins : beginsNode first = true) {name : String} {content : Node}
    (reads : Node.read scope .flow (budget + 2) ⟨first :: rest, anchors⟩ = .ok (content, after)) :
    Node.readFlowEntry scope (budget + 3)
        ⟨.scalar name false :: .value :: first :: rest, anchors⟩ =
      .ok ((.scalar .text name, content), after) := by
  have noKey : Node.leavesFlowKeyEmpty
      (.scalar name false :: .value :: first :: rest : List Token).head? = false := rfl
  simp only [Node.readFlowEntry, noKey, read_scalar, leavesFlowEmpty_eq begins, reads,
    Bool.false_eq_true, if_false, bind, Except.bind, pure, Except.pure]

theorem readFlowEntries_entry (isFirst : Bool) {entry : Node × Node} {entries : List (Node × Node)}
    (reads : Node.readFlowEntry scope budget ⟨rest, anchors⟩ = .ok (entry, between))
    (further : Node.readFlowEntries scope false budget between = .ok (entries, after)) :
    Node.readFlowEntries scope isFirst (budget + 1)
        ⟨separator isFirst ++ .key :: rest, anchors⟩ =
      .ok (entry :: entries, after) := by
  cases isFirst
  all_goals
    simp only [separator, Node.readFlowEntries, reads, further, if_true, Bool.false_eq_true,
      if_false, List.nil_append, List.cons_append, pure, Except.pure, bind, Except.bind]

/-! ## Nodes of spellings -/

theorem exists_add_of_le {least budget : Nat} (enough : least ≤ budget) :
    ∃ more, budget = more + least :=
  ⟨budget - least, (Nat.sub_add_cancel enough).symm⟩

section ReadTokens

variable (scope : Node.Scope) (anchors : List (String × Option Node))

mutual

/-- The tokens of a value are read as its node, whatever follows them. -/
theorem Spelling.read_tokens : ∀ (spelling : Spelling) (place : Node.Place) (budget : Nat)
    (rest : List Token), 2 * spelling.tokens.length ≤ budget →
      Node.read scope place budget ⟨spelling.tokens ++ rest, anchors⟩ =
        .ok (spelling.node, ⟨rest, anchors⟩)
  | .word word, _, _, _, enough => by
    rcases exists_add_of_le enough with ⟨budget, rfl⟩
    exact read_scalar (String.ofList word.chars) true budget
  | .number numeral, _, _, _, enough => by
    rcases exists_add_of_le enough with ⟨budget, rfl⟩
    exact read_scalar (String.ofList numeral.chars) true budget
  | .text pieces, _, _, _, enough => by
    rcases exists_add_of_le enough with ⟨budget, rfl⟩
    exact read_scalar (textOf pieces) false budget
  | .emptyList gap, _, _, _, enough => by
    rcases exists_add_of_le enough with ⟨budget, rfl⟩
    exact read_sequence (readFlowItems_end true (budget + 1))
  | .list gap items, _, budget, rest, enough => by
    rw [Spelling.tokens, List.length_cons, List.length_append, List.length_singleton] at enough
    rcases exists_add_of_le (show 2 ≤ budget by omega) with ⟨budget, rfl⟩
    have inner := items.read_tokens true rest (show _ ≤ budget by omega)
    rw [Spelling.tokens, List.cons_append, List.append_assoc]
    exact read_sequence inner
  | .emptyObject gap, _, _, _, enough => by
    rcases exists_add_of_le enough with ⟨budget, rfl⟩
    exact read_mapping (readFlowEntries_end true (budget + 1))
  | .object gap fields, _, budget, rest, enough => by
    rw [Spelling.tokens, List.length_cons, List.length_append, List.length_singleton] at enough
    rcases exists_add_of_le (show 2 ≤ budget by omega) with ⟨budget, rfl⟩
    have inner := fields.read_tokens true rest (show _ ≤ budget by omega)
    rw [Spelling.tokens, List.cons_append, List.append_assoc]
    exact read_mapping inner

/-- The tokens of the items of a list are read as their nodes, behind a comma or without one. -/
theorem Items.read_tokens : ∀ (items : Items) (isFirst : Bool) {budget : Nat} (rest : List Token),
      2 * items.tokens.length + 1 ≤ budget →
      Node.readFlowItems scope isFirst budget
          ⟨separator isFirst ++ (items.tokens ++ .flowSequenceEnd :: rest), anchors⟩ =
        .ok (items.nodes, ⟨rest, anchors⟩)
  | .last item gap, isFirst, budget, rest, enough => by
    rcases item.exists_first with ⟨first, later, spelt, begins⟩
    rw [Items.tokens] at enough ⊢
    have some : 1 ≤ item.tokens.length := by
      rw [spelt, List.length_cons]
      omega
    rcases exists_add_of_le (show 2 ≤ budget by omega) with ⟨budget, rfl⟩
    have reads := item.read_tokens .flow (budget + 1) (.flowSequenceEnd :: rest) (by omega)
    rw [spelt] at reads ⊢
    exact readFlowItems_item begins isFirst reads (readFlowItems_end false budget)
  | .more item before after others, isFirst, budget, rest, enough => by
    rcases item.exists_first with ⟨first, later, spelt, begins⟩
    rw [Items.tokens, List.length_append, List.length_cons] at enough
    rcases exists_add_of_le (show 1 ≤ budget by omega) with ⟨budget, rfl⟩
    have further := others.read_tokens false rest (show _ ≤ budget by omega)
    have reads := item.read_tokens .flow budget
      (.flowEntry :: (others.tokens ++ .flowSequenceEnd :: rest)) (by omega)
    rw [Items.tokens, List.append_assoc, List.cons_append]
    rw [spelt] at reads ⊢
    exact readFlowItems_item begins isFirst reads further

/-- The tokens of the fields of an object are read as their nodes, behind a comma or without one. -/
theorem Fields.read_tokens : ∀ (fields : Fields) (isFirst : Bool) {budget : Nat}
    (rest : List Token), 2 * fields.tokens.length + 1 ≤ budget →
      Node.readFlowEntries scope isFirst budget
          ⟨separator isFirst ++ (fields.tokens ++ .flowMappingEnd :: rest), anchors⟩ =
        .ok (fields.nodes, ⟨rest, anchors⟩)
  | .last label content gap, isFirst, budget, rest, enough => by
    rcases content.exists_first with ⟨first, later, spelt, begins⟩
    rw [Fields.tokens] at enough ⊢
    simp only [List.length_cons] at enough
    rcases exists_add_of_le (show 4 ≤ budget by omega) with ⟨budget, rfl⟩
    have reads := content.read_tokens .flow (budget + 2) (.flowMappingEnd :: rest) (by omega)
    rw [spelt] at reads ⊢
    exact readFlowEntries_entry isFirst (readFlowEntry_eq begins reads)
      (readFlowEntries_end false (budget + 2))
  | .more label content before after others, isFirst, budget, rest, enough => by
    rcases content.exists_first with ⟨first, later, spelt, begins⟩
    simp only [Fields.tokens, List.length_cons, List.length_append] at enough
    rcases exists_add_of_le (show 4 ≤ budget by omega) with ⟨budget, rfl⟩
    have further := others.read_tokens false rest (show _ ≤ budget + 3 by omega)
    have reads := content.read_tokens .flow (budget + 2)
      (.flowEntry :: (others.tokens ++ .flowMappingEnd :: rest)) (by omega)
    simp only [Fields.tokens, List.cons_append, List.append_assoc]
    rw [spelt] at reads ⊢
    exact readFlowEntries_entry isFirst (readFlowEntry_eq begins reads) further

end

end ReadTokens

/-- The tokens of a value form its node. -/
theorem Spelling.ofCut_eq (spelling : Spelling) :
    Node.ofCut ⟨spelling.tokens, none⟩ = .ok spelling.node := by
  have read := spelling.read_tokens ⟨Node.usualHandles, none⟩ [] .block
    (4 * spelling.tokens.length + 4) [] (by omega)
  rw [List.append_nil] at read
  have root : Node.readRoot ⟨Node.usualHandles, none⟩ spelling.tokens = .ok spelling.node := by
    simp only [Node.readRoot, read, bind, Except.bind]
    rfl
  rcases spelling.exists_first with ⟨first, others, spelt, begins⟩
  rw [← root, spelt]
  cases first <;> cases begins <;> rfl

end ImageCatalog.Json
