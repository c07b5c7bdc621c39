import ImageCatalog.Proofs.Yaml.Cutting
import ImageCatalog.Yaml.Construct
import Mathlib.Data.List.MinMax

/-!
# Faults of documents

A document is not read for one of two reasons: its tokens make up no nodes, or a node has no value.
The first, if it is not the form of the document, is that the tokens stop before its end, or that
the document is entangled. For the second, `Node.faults` lists all faults of a node in their order,
each with its distance from the root: the node has a value exactly if there is none, and otherwise
the first of the nearest ones is reported. `cause_of_hasFault` says which faults are left besides
those of form.
-/

namespace ImageCatalog.Yaml

open Text

/-- If there is no result, it is because of the form of the document. -/
abbrev FailsByForm {Result : Type} (result : Except Fault Result) : Prop :=
  FailsWithin (fun _ => False) result

theorem FailsByForm.eq_malformed {Result : Type} {result : Except Fault Result} {fault : Fault}
    (byForm : FailsByForm result) (fails : result = .error fault) : fault = .malformed :=
  (byForm fault fails).resolve_right id

/-! ## The nearest fault -/

/-- The nearest of some faults, and of equally near ones the first. -/
def nearest (faults : List Located) : Option Located :=
  faults.argmin Located.depth

/-- The nearer of two faults that may be there. -/
def nearer? : Option Located → Option Located → Option Located
  | some first, some second => some (first.nearer second)
  | some first, none => some first
  | none, second => second

theorem nearer?_assoc (first second third : Option Located) :
    nearer? (nearer? first second) third = nearer? first (nearer? second third) := by
  cases first <;> cases second <;> cases third <;> try rfl
  simp only [nearer?, Located.nearer, Option.some.injEq]
  split_ifs <;> first | rfl | omega

theorem nearest_concat (faults : List Located) (last : Located) :
    nearest (faults ++ [last]) = nearer? (nearest faults) (some last) := by
  unfold nearest
  rw [List.argmin_concat]
  cases List.argmin Located.depth faults with
  | none => rfl
  | some first =>
      simp only [nearer?, Located.nearer]
      split_ifs <;> rfl

theorem nearest_append (faults others : List Located) :
    nearest (faults ++ others) = nearer? (nearest faults) (nearest others) := by
  induction others using List.reverseRecOn with
  | nil =>
      rw [List.append_nil]
      cases nearest faults <;> rfl
  | append_singleton others last hypothesis =>
      rw [← List.append_assoc, nearest_concat, nearest_concat, hypothesis, nearer?_assoc]

theorem nearest_deeper (faults : List Located) :
    nearest (faults.map Located.deeper) = (nearest faults).map Located.deeper := by
  induction faults using List.reverseRecOn with
  | nil => rfl
  | append_singleton faults last hypothesis =>
      rw [List.map_append, List.map_singleton, nearest_concat, nearest_concat, hypothesis]
      cases nearest faults with
      | none => rfl
      | some first =>
          simp only [Option.map_some, nearer?, Located.nearer, Located.deeper]
          split_ifs <;> first | rfl | omega

/-! ## Results that stand side by side -/

section Results

variable {First Second Result : Type}

/-- The fault of a result. -/
def fault? : Except Located Result → Option Located
  | .ok _ => none
  | .error located => some located

theorem eq_error_of_fault? {result : Except Located Result} {located : Located}
    (fails : fault? result = some located) : result = .error located := by
  cases result <;> cases fails
  rfl

theorem fault?_both (join : First → Second → Result) (first : Except Located First)
    (second : Except Located Second) :
    fault? (both join first second) = nearer? (fault? first) (fault? second) := by
  cases first <;> cases second <;> rfl

theorem fault?_map (change : First → Result) (result : Except Located First) :
    fault? (result.map change) = fault? result := by
  cases result <;> rfl

theorem fault?_deeper (result : Except Located Result) :
    fault? (result.mapError Located.deeper) = (fault? result).map Located.deeper := by
  cases result <;> rfl

/-- If every item fails with the nearest of its faults, so do all of them together. -/
theorem fault?_foldr {Source : Type} {read : Source → Except Located Result}
    {faults : Source → List Located} (each : ∀ item, fault? (read item) = nearest (faults item))
    (items : List Source) :
    fault? (items.foldr (fun item rest => both List.cons (read item) rest) (.ok [])) =
      nearest (items.flatMap faults) := by
  induction items with
  | nil => rfl
  | cons item rest hypothesis =>
      rw [List.foldr_cons, fault?_both, each, hypothesis, List.flatMap_cons, nearest_append]

end Results

/-! ## Faults of nodes -/

namespace Node

/-- A node, or the fault of something that is not what the collection around it calls for. -/
abbrev Part := Except Fault Node

/-- The parts of a collection whose values its own is made of, in their order. -/
def parts (node : Node) : List Part :=
  match node.kind, node with
  | .sequence, .sequence _ items => items.map .ok
  | .mapping, .mapping _ own => entryParts own
  | .set, .mapping _ own => entryParts own
  | .pairList, .sequence _ items => items.flatMap pairParts
  | .orderedMapping, .sequence _ items => items.flatMap pairParts
  | _, _ => [.error .malformed]
where
  /-- The keys and values of entries, with those that are merged into them. -/
  entryParts (own : List (Node × Node)) : List Part :=
    match splitMerged own with
    | .ok (others, rest) => (others ++ rest).flatMap fun entry =>
        [if entry.1.isCollection then .error .malformed else .ok entry.1, .ok entry.2]
    | .error fault => [.error fault]
  /-- The key and the value of a mapping with one entry. -/
  pairParts (item : Node) : List Part :=
    match item.onlyEntry with
    | .ok (key, value) => [.ok key, .ok value]
    | .error fault => [.error fault]

/-- The faults of a node in their order, each with its distance from the node. -/
def faults : Nat → Node → List Located
  | 0, _ => [⟨0, .malformed⟩]
  | budget + 1, node =>
    if node.isCollection then
      (node.parts.flatMap fun part =>
        match part with
        | .ok child => faults budget child
        | .error fault => [⟨0, fault⟩]).map Located.deeper
    else
      match node.leafValue with
      | .ok _ => []
      | .error fault => [⟨0, fault⟩]

mutual

theorem failsByForm_splitMerged : ∀ entries : List (Node × Node), FailsByForm (splitMerged entries)
  | [] => .ok _
  | (key, value) :: rest => by
    rw [splitMerged]
    refine .ite ?_ ?_
    · exact (failsByForm_mergedEntries value).bind fun _ =>
        (failsByForm_splitMerged rest).bind fun _ => .ok _
    · exact (failsByForm_splitMerged rest).bind fun _ => .ok _

theorem failsByForm_mergedEntries : ∀ node : Node, FailsByForm (mergedEntries node)
  | .scalar _ _ => .malformed
  | .sequence _ items => failsByForm_mergedItems items
  | .mapping _ entries => (failsByForm_splitMerged entries).bind fun _ => .ok _

theorem failsByForm_mergedItems : ∀ items : List Node, FailsByForm (mergedItems items)
  | [] => .ok _
  | .scalar _ _ :: _ => .malformed
  | .sequence _ _ :: _ => .malformed
  | .mapping _ entries :: rest =>
    (failsByForm_splitMerged entries).bind fun _ =>
      (failsByForm_mergedItems rest).bind fun _ => .ok _

end

variable {budget : Nat}

/-- The faults of a part, from the place where it should be. -/
def partFaults (budget : Nat) : Part → List Located
  | .ok child => faults budget child
  | .error fault => [⟨0, fault⟩]

theorem faults_succ (node : Node) : faults (budget + 1) node =
    if node.isCollection then (node.parts.flatMap (partFaults budget)).map Located.deeper
    else
      match node.leafValue with
      | .ok _ => []
      | .error fault => [⟨0, fault⟩] := by
  rw [faults]
  rfl

section Parts

variable (each : ∀ node : Node, fault? (toValue budget node) = nearest (faults budget node))

include each

theorem fault?_items (items : List Node) :
    fault? (items.foldr (fun item rest => both List.cons (toValue budget item) rest) (.ok [])) =
      nearest ((items.map .ok).flatMap (partFaults budget)) := by
  rw [fault?_foldr each, List.flatMap_map]
  rfl

theorem fault?_entries (entries : List (Node × Node)) :
    fault? (entries.foldr (fun entry rest =>
        both List.cons (both Prod.mk (checkKey entry.1 (toValue budget entry.1))
          (toValue budget entry.2)) rest) (.ok [])) =
      nearest ((entries.flatMap fun entry =>
        [if entry.1.isCollection then .error .malformed else .ok entry.1, .ok entry.2]).flatMap
          (partFaults budget)) := by
  rw [List.flatMap_assoc]
  apply fault?_foldr
  intro entry
  have key : fault? (checkKey entry.1 (toValue budget entry.1)) =
      nearest (partFaults budget
        (if entry.1.isCollection then .error .malformed else .ok entry.1)) := by
    unfold checkKey
    split
    · rfl
    · exact each entry.1
  rw [fault?_both, key, each, ← nearest_append]
  simp [partFaults]

theorem fault?_pairs (items : List Node) :
    fault? (items.foldr (fun item rest => both List.cons
        (match item.onlyEntry with
          | .ok (key, value) => both Value.pair (toValue budget key) (toValue budget value)
          | .error fault => fail fault) rest) (.ok [])) =
      nearest ((items.flatMap parts.pairParts).flatMap (partFaults budget)) := by
  rw [List.flatMap_assoc]
  apply fault?_foldr
  intro item
  unfold parts.pairParts
  split
  · rw [fault?_both, each, each, ← nearest_append]
    simp [partFaults]
  · rfl

theorem fault?_merged (own : List (Node × Node)) :
    fault? (match splitMerged own with
        | .ok (others, rest) =>
          (others ++ rest).foldr (fun entry rest =>
            both List.cons (both Prod.mk (checkKey entry.1 (toValue budget entry.1))
              (toValue budget entry.2)) rest) (.ok [])
        | .error fault => fail fault) =
      nearest ((parts.entryParts own).flatMap (partFaults budget)) := by
  unfold parts.entryParts
  split
  · exact fault?_entries each _
  · rfl

end Parts

theorem fault?_inside {Result : Type} {result : Except Located Result} {parts : List Part}
    (same : fault? result = nearest (parts.flatMap (partFaults budget))) :
    fault? (result.mapError Located.deeper) =
      nearest ((parts.flatMap (partFaults budget)).map Located.deeper) := by
  rw [fault?_deeper, same, nearest_deeper]

/-- A node that is no collection fails if its text has no value, or if it has no text. -/
theorem fault?_leaf {node : Node} (alone : node.isCollection = false) :
    fault? (toValue (budget + 1) node) = nearest (faults (budget + 1) node) := by
  have noCollection : ¬node.isCollection = true := Bool.eq_false_iff.mp alone
  rw [faults_succ, if_neg noCollection]
  unfold toValue
  rw [if_neg noCollection]
  cases node.leafValue <;> rfl

/-- A node fails with the nearest of its faults. -/
theorem fault?_toValue (budget : Nat) (node : Node) :
    fault? (toValue budget node) = nearest (faults budget node) := by
  induction budget generalizing node with
  | zero => rfl
  | succ budget hypothesis =>
      cases node with
      | scalar kind text =>
          cases kind with
          | sequence => rfl
          | mapping => rfl
          | set => rfl
          | pairList => rfl
          | orderedMapping => rfl
          | _ => exact fault?_leaf rfl
      | sequence kind items =>
          cases kind with
          | sequence =>
              exact fault?_inside ((fault?_map _ _).trans (fault?_items hypothesis items))
          | pairList =>
              exact fault?_inside ((fault?_map _ _).trans (fault?_pairs hypothesis items))
          | orderedMapping =>
              exact fault?_inside ((fault?_map _ _).trans (fault?_pairs hypothesis items))
          | mapping => rfl
          | set => rfl
          | _ => exact fault?_leaf rfl
      | mapping kind entries =>
          cases kind with
          | mapping =>
              exact fault?_inside ((fault?_map _ _).trans (fault?_merged hypothesis entries))
          | set => exact fault?_inside ((fault?_map _ _).trans (fault?_merged hypothesis entries))
          | sequence => rfl
          | pairList => rfl
          | orderedMapping => rfl
          | _ => exact fault?_leaf rfl

/-! ## Making up nodes -/

/-- The faults other than of form at which tokens make up no nodes: the one at which the tokens
stop, and that of an alias that no copy can stand for. -/
inductive StopsReading (stop : Option Fault) : Fault → Prop where
  | tokens {fault : Fault} (stopped : stop = some fault) : StopsReading stop fault
  | entangled : StopsReading stop .entangled

/-- The result is there, or the reading fails for one of these reasons. -/
abbrev Stops {Result : Type} (stop : Option Fault) (result : Except Fault Result) : Prop :=
  FailsWithin (StopsReading stop) result

theorem stops_lookAhead (stop : Option Fault) (tokens : List Token) :
    Stops stop (lookAhead stop tokens) := by
  cases tokens with
  | cons token rest => exact .ok _
  | nil =>
      cases stop with
      | none => exact .ok _
      | some fault => exact .error (.tokens rfl)

theorem stops_unexpected {Result : Type} (stop : Option Fault) (tokens : List Token) :
    Stops stop (unexpected stop tokens : Except Fault Result) :=
  (stops_lookAhead stop tokens).bind fun _ => .malformed

/-- No reading with the given budget fails in another way. -/
structure ReadsNodes (scope : Scope) (budget : Nat) : Prop where
  node : ∀ place reader, Stops scope.stop (read scope place budget reader)
  content : ∀ place tag mayBeEmpty reader,
    Stops scope.stop (readContent scope place tag mayBeEmpty budget reader)
  blockItems : ∀ reader, Stops scope.stop (readBlockItems scope budget reader)
  unindentedItems : ∀ reader, Stops scope.stop (readUnindentedItems scope budget reader)
  blockEntries : ∀ reader, Stops scope.stop (readBlockEntries scope budget reader)
  blockValue : ∀ reader, Stops scope.stop (readBlockValue scope budget reader)
  flowItems : ∀ first reader, Stops scope.stop (readFlowItems scope first budget reader)
  flowEntries : ∀ first reader, Stops scope.stop (readFlowEntries scope first budget reader)
  flowEntry : ∀ reader, Stops scope.stop (readFlowEntry scope budget reader)

theorem stops_resolveAlias {stop : Option Fault} (name : String) (reader : Reader) :
    Stops stop (resolveAlias name reader) := by
  unfold resolveAlias
  split
  · exact .ite (.error .entangled) (.ok _)
  · exact .error .entangled
  · exact .malformed

theorem stops_readProperties (stop : Option Fault) (tokens : List Token) :
    Stops stop (readProperties stop tokens) := by
  unfold readProperties
  split
  · exact .ok _
  · exact (stops_lookAhead _ _).bind fun _ => .ok _
  · exact .ok _
  · exact (stops_lookAhead _ _).bind fun _ => .ok _
  · exact .ok _

theorem stops_fullTag {stop : Option Fault} (handles : List (String × String))
    (tag : Option WrittenTag) : Stops stop (fullTag handles tag) := by
  unfold fullTag
  split
  · exact .ok _
  · split
    · exact .ok _
    · split
      · exact .ok _
      · exact .malformed

theorem stops_beginAnchor {stop : Option Fault} (anchor : Option String) (reader : Reader) :
    Stops stop (beginAnchor anchor reader) := by
  unfold beginAnchor
  split
  · exact .ok _
  · exact .ite .malformed (.ok _)

namespace ReadsNodes

variable {scope : Scope} (smaller : ReadsNodes scope budget)

include smaller

theorem node_succ (place : Place) (reader : Reader) :
    Stops scope.stop (read scope place (budget + 1) reader) := by
  unfold read
  split
  · exact (stops_resolveAlias _ _).bind fun _ => .ok _
  · exact (stops_readProperties _ _).bind fun _ => (stops_fullTag _ _).bind fun _ =>
      (stops_lookAhead _ _).bind fun _ => (stops_beginAnchor _ _).bind fun _ =>
      (smaller.content _ _ _ _).bind fun _ => .ok _

theorem content_succ (place : Place) (tag : Option String) (mayBeEmpty : Bool) (reader : Reader) :
    Stops scope.stop (readContent scope place tag mayBeEmpty (budget + 1) reader) := by
  unfold readContent
  simp only
  split
  · exact .ok _
  · exact (smaller.flowItems _ _).bind fun _ => .ok _
  · exact (smaller.flowEntries _ _).bind fun _ => .ok _
  · exact .ite .malformed ((smaller.blockItems _).bind fun _ => .ok _)
  · exact .ite .malformed ((smaller.blockEntries _).bind fun _ => .ok _)
  · exact .ite ((smaller.unindentedItems _).bind fun _ => .ok _) (.ite (.ok _) .malformed)

/-- What goes on with a node that may be left out. -/
theorem orEmpty {Result : Type} {isEmpty : Bool} {place : Place} {reader next : Reader}
    {further : Node × Reader → Except Fault Result}
    (stops : ∀ found, Stops scope.stop (further found)) :
    Stops scope.stop (if isEmpty then pure (Node.empty, reader) >>= further
      else read scope place budget next >>= further) :=
  .ite ((FailsWithin.ok _).bind stops) ((smaller.node _ _).bind stops)

theorem blockItems_succ (reader : Reader) :
    Stops scope.stop (readBlockItems scope (budget + 1) reader) := by
  unfold readBlockItems
  split
  · exact smaller.orEmpty fun _ => (smaller.blockItems _).bind fun _ => .ok _
  · exact .ok _
  · exact stops_unexpected _ _

theorem unindentedItems_succ (reader : Reader) :
    Stops scope.stop (readUnindentedItems scope (budget + 1) reader) := by
  unfold readUnindentedItems
  split
  · exact smaller.orEmpty fun _ => (smaller.unindentedItems _).bind fun _ => .ok _
  · exact (stops_lookAhead _ _).bind fun _ => .ok _

theorem blockEntries_succ (reader : Reader) :
    Stops scope.stop (readBlockEntries scope (budget + 1) reader) := by
  unfold readBlockEntries
  split
  · exact smaller.orEmpty fun _ => (smaller.blockValue _).bind fun _ =>
      (smaller.blockEntries _).bind fun _ => .ok _
  · exact .ok _
  · exact stops_unexpected _ _

theorem blockValue_succ (reader : Reader) :
    Stops scope.stop (readBlockValue scope (budget + 1) reader) := by
  unfold readBlockValue
  split
  · exact .ite (.ok _) (smaller.node _ _)
  · exact (stops_lookAhead _ _).bind fun _ => .ok _

theorem flowEntry_succ (reader : Reader) :
    Stops scope.stop (readFlowEntry scope (budget + 1) reader) := by
  unfold readFlowEntry
  refine smaller.orEmpty ?_
  rintro ⟨key, afterKey⟩
  simp only
  split
  · exact smaller.orEmpty fun _ => .ok _
  · exact (stops_lookAhead _ _).bind fun _ => .ok _

theorem flowItems_succ (first : Bool) (reader : Reader) :
    Stops scope.stop (readFlowItems scope first (budget + 1) reader) := by
  unfold readFlowItems
  split
  · exact .ok _
  · refine .ite_bind (.ok _) ?_ fun further => ?_
    · intro rest
      simp only
      split
      · exact .ok _
      · exact (smaller.flowEntry _).bind fun _ => (smaller.flowItems _ _).bind fun _ => .ok _
      · exact (smaller.node _ _).bind fun _ => (smaller.flowItems _ _).bind fun _ => .ok _
    · split
      · exact (FailsWithin.ok _).bind further
      · exact (stops_unexpected _ _).bind further

theorem flowEntries_succ (first : Bool) (reader : Reader) :
    Stops scope.stop (readFlowEntries scope first (budget + 1) reader) := by
  unfold readFlowEntries
  split
  · exact .ok _
  · refine .ite_bind (.ok _) ?_ fun further => ?_
    · intro rest
      simp only
      split
      · exact .ok _
      · exact (smaller.flowEntry _).bind fun _ => (smaller.flowEntries _ _).bind fun _ => .ok _
      · exact (smaller.node _ _).bind fun _ => (smaller.flowEntries _ _).bind fun _ => .ok _
    · split
      · exact (FailsWithin.ok _).bind further
      · exact (stops_unexpected _ _).bind further

end ReadsNodes

theorem readsNodes (scope : Scope) (budget : Nat) : ReadsNodes scope budget := by
  induction budget with
  | zero => constructor <;> intros <;> exact .malformed
  | succ budget smaller =>
      exact ⟨smaller.node_succ, smaller.content_succ, smaller.blockItems_succ,
        smaller.unindentedItems_succ, smaller.blockEntries_succ, smaller.blockValue_succ,
        smaller.flowItems_succ, smaller.flowEntries_succ, smaller.flowEntry_succ⟩

theorem stops_readDeclarations {stop : Option Fault} (found : Declarations) (tokens : List Token) :
    Stops stop (readDeclarations stop found tokens) := by
  fun_induction readDeclarations stop found tokens with
  | case1 => exact .malformed
  | case2 _ _ _ _ hypothesis => exact hypothesis
  | case3 => exact .malformed
  | case4 _ _ _ _ _ hypothesis => exact hypothesis
  | case5 _ _ hypothesis => exact hypothesis
  | case6 => exact (stops_lookAhead _ _).bind fun _ => .ok _

theorem stops_checkEnd (stop : Option Fault) (tokens : List Token) :
    Stops stop (checkEnd stop tokens) :=
  (stops_lookAhead _ _).bind fun _ =>
    .ite (.ok _) ((stops_readDeclarations _ _).bind fun _ => .malformed)

theorem stops_readRoot (scope : Scope) (tokens : List Token) :
    Stops scope.stop (readRoot scope tokens) :=
  ((readsNodes scope _).node _ _).bind fun _ => (stops_checkEnd _ _).bind fun _ => .ok _

/-- The tokens of a document make up no nodes only if it does not have the form of one, or if the
tokens stop, or if it is entangled. -/
theorem stops_ofCut (cut : Cut) : Stops cut.stop (ofCut cut) := by
  have declared : Stops cut.stop (ofCut.readDeclared cut) := by
    refine (stops_readDeclarations _ _).bind ?_
    rintro ⟨found, rest⟩
    simp only
    split
    · exact .ite ((stops_checkEnd _ _).bind fun _ => .ok _) (stops_readRoot _ _)
    · exact .malformed
  unfold ofCut
  split
  · exact .ok _
  · exact declared
  · exact declared
  · exact stops_readRoot _ _

/-! ## Causes -/

/-- The faults other than of form of a node: those of scalars without a value, of a time that is
looked for in a mapping, and of a pair that is merged. -/
inductive LacksValue : Fault → Prop where
  | scalar {kind : Kind} {text : String} {fault : Fault}
      (fails : scalarValue kind text = .error fault) : LacksValue fault
  | time : LacksValue .timestampNoText
  | entangled : LacksValue .entangled

theorem failsWithin_leafValue (node : Node) : FailsWithin LacksValue node.leafValue := by
  unfold leafValue
  split
  · exact .malformed
  · split
    · exact .error .time
    · intro fault fails
      exact .inr (.scalar fails)

theorem failsWithin_onlyEntry (node : Node) : FailsWithin LacksValue node.onlyEntry := by
  refine .ite (.error .entangled) ?_
  split
  · exact .ok _
  · exact .malformed

theorem failsWithin_part {node : Node} {part : Part} (member : part ∈ node.parts) :
    FailsWithin LacksValue part := by
  have entries {own : List (Node × Node)} (within : part ∈ parts.entryParts own) :
      FailsWithin LacksValue part := by
    unfold parts.entryParts at within
    split at within
    · rcases List.mem_flatMap.mp within with ⟨entry, _, side⟩
      rcases List.mem_pair.mp side with rfl | rfl
      · exact .ite .malformed (.ok _)
      · exact .ok _
    · next failed =>
        rw [List.mem_singleton.mp within, (failsByForm_splitMerged own).eq_malformed failed]
        exact .malformed
  have pairs {items : List Node} (within : part ∈ items.flatMap parts.pairParts) :
      FailsWithin LacksValue part := by
    rcases List.mem_flatMap.mp within with ⟨item, _, side⟩
    unfold parts.pairParts at side
    split at side
    · rcases List.mem_pair.mp side with rfl | rfl <;> exact .ok _
    · next fault failed =>
        rw [List.mem_singleton.mp side]
        rintro _ ⟨⟩
        exact failsWithin_onlyEntry item fault failed
  unfold parts at member
  split at member
  · rcases List.mem_map.mp member with ⟨item, _, rfl⟩
    exact .ok _
  · exact entries member
  · exact entries member
  · exact pairs member
  · exact pairs member
  · rw [List.mem_singleton.mp member]
    exact .malformed

/-- A fault of a node is one of form, or the node lacks a value. -/
theorem fault_of_mem_faults {node : Node} {located : Located}
    (member : located ∈ faults budget node) :
    located.fault = .malformed ∨ LacksValue located.fault := by
  induction budget generalizing node located with
  | zero =>
      rw [faults, List.mem_singleton] at member
      exact .inl (member ▸ rfl)
  | succ budget hypothesis =>
      rw [faults_succ] at member
      split at member
      · rcases List.mem_map.mp member with ⟨inner, innerMem, rfl⟩
        rcases List.mem_flatMap.mp innerMem with ⟨part, isPart, within⟩
        have inside : inner.fault = .malformed ∨ LacksValue inner.fault := by
          cases part with
          | ok child => exact hypothesis within
          | error fault =>
              rw [List.mem_singleton.mp within]
              exact failsWithin_part isPart fault rfl
        exact inside
      · split at member
        · cases member
        · next fault fails =>
            rw [List.mem_singleton.mp member]
            exact failsWithin_leafValue node fault fails

end Node

/-! ## Reading -/

/-- A fault in a text: one with which its tokens make up no nodes, or the nearest fault of its
nodes. -/
inductive HasFault (chars : List Char) (fault : Fault) : Prop where
  | form (fails : Node.ofCut (cut chars) = .error fault)
  | value {root : Node} {depth : Nat} (made : Node.ofCut (cut chars) = .ok root)
      (first : nearest (root.faults root.height) = some ⟨depth, fault⟩)

/-- A text that is one real number without a value has the fault of that number. -/
theorem HasFault.of_real {chars : List Char} {text : String} {fault : Fault}
    (made : Node.ofCut (cut chars) = .ok (.scalar .real text))
    (fails : readRealScalar text = .error fault) : HasFault chars fault := by
  have lacks : (Node.scalar .real text).leafValue = .error fault := by
    change (readRealScalar text).map Value.float = _
    rw [fails, Except.map]
  refine .value made (?_ : _ = some (⟨0, fault⟩ : Located))
  rw [Node.height, Node.faults_succ, lacks]
  rfl

/-- A fault other than one of form is one at which cutting the text stops, or that of a node that
lacks a value, unless the document is entangled. -/
theorem cause_of_hasFault {chars : List Char} {fault : Fault} (other : fault ≠ .malformed)
    (has : HasFault chars fault) :
    StopsCutting fault ∨ Node.LacksValue fault := by
  cases has with
  | form fails =>
      cases (Node.stops_ofCut _ fault fails).resolve_left other with
      | tokens stopped => exact .inl ((stop_cut stopped).resolve_left other)
      | entangled => exact .inr .entangled
  | value _ first =>
      have member := List.argmin_mem (Option.mem_def.mpr first)
      exact .inr ((Node.fault_of_mem_faults member).resolve_left other)

/-- Reading fails with exactly the fault in the text. -/
theorem read_error_iff {chars : List Char} {fault : Fault} :
    read (String.ofList chars) = .error fault ↔ HasFault chars fault := by
  rw [read, String.toList_ofList]
  constructor
  · intro fails
    cases made : Node.ofCut (cut chars) with
    | error first =>
        rw [made] at fails
        cases fails
        exact .form made
    | ok root =>
        rw [made] at fails
        simp only [bind, Except.bind] at fails
        have nearestFault := root.fault?_toValue root.height
        split at fails
        · cases fails
        · next located failed =>
            cases fails
            rw [failed] at nearestFault
            exact .value made nearestFault.symm
  · intro has
    cases has with
    | form fails =>
        rw [fails]
        rfl
    | @value root depth made first =>
        have failed := eq_error_of_fault? ((root.fault?_toValue root.height).trans first)
        simp only [bind, Except.bind, made, failed]

end ImageCatalog.Yaml
