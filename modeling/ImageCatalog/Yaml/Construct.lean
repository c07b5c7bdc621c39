import ImageCatalog.Number.Quantity
import ImageCatalog.Text.Base64
import ImageCatalog.Text.Case
import ImageCatalog.Value.Basic
import ImageCatalog.Yaml.Node
import ImageCatalog.Yaml.Number
import ImageCatalog.Yaml.Token.Lexer

/-!
# Values of nodes

A node becomes a value by its kind. Keys of mappings must be scalars; of equal keys the first place
and the last value count, and the entries of merged mappings come before the others. Where a
document has several faults the one nearest to the root is reported, and of equally near ones the
first.
-/

namespace ImageCatalog.Yaml

open Number Text

/-- A fault with its distance from the root, in collections. -/
structure Located where
  depth : Nat
  fault : Fault
deriving DecidableEq, Repr

/-- The same fault, seen from one collection further up. -/
def Located.deeper (located : Located) : Located :=
  { located with depth := located.depth + 1 }

/-- Of two faults the one nearer to the root, the first one if they are equally near. -/
def Located.nearer (first second : Located) : Located :=
  if second.depth < first.depth then second else first

/-- Combine two values that stand side by side. -/
def both {First Second Result : Type} (join : First → Second → Result) :
    Except Located First → Except Located Second → Except Located Result
  | .ok first, .ok second => .ok (join first second)
  | .ok _, .error fault => .error fault
  | .error fault, .ok _ => .error fault
  | .error first, .error second => .error (first.nearer second)

/-- Whether two keys of a mapping count as equal: numbers and flags by their numeric value, other
scalars if they are the same. -/
def numericKey? : Value → Option Quantity
  | .bool flag => some (.whole (if flag then 1 else 0))
  | .int number => some (.whole number)
  | .float number => some (.real number)
  | _ => none

/-- Whether two scalars are the same key. -/
def isSameKey (left right : Value) : Bool :=
  match numericKey? left, numericKey? right with
  | some first, some second => first.isEqual second
  | none, none =>
    match left, right with
    | .null, .null => true
    | .text first, .text second => first == second
    | .bytes first, .bytes second => first == second
    | .date first, .date second => first == second
    | .timestamp first, .timestamp second => first.coincides second
    | _, _ => false
  | _, _ => false

/-- Overwrite the content of a key in its place, or append a new entry. -/
def putEntry (key content : Value) : List (Value × Value) → List (Value × Value)
  | [] => [(key, content)]
  | (name, old) :: rest =>
    if isSameKey name key then (name, content) :: rest
    else (name, old) :: putEntry key content rest

/-- The entries as fields, if all keys are texts. -/
def asFields? : List (Value × Value) → Option (List (String × Value))
  | [] => some []
  | (.text name, content) :: rest => (asFields? rest).map ((name, content) :: ·)
  | _ => none

/-- The entries of a mapping with the last value for each key. -/
def distinctEntries (entries : List (Value × Value)) : List (Value × Value) :=
  entries.foldl (fun made entry => putEntry entry.1 entry.2 made) []

/-- The value of the entries of a mapping. -/
def mappingValue (entries : List (Value × Value)) : Value :=
  let distinct := distinctEntries entries
  match asFields? distinct with
  | some fields => .object fields
  | none => .mapping distinct

/-- The value of the entries of a set, whose items are the keys. -/
def setValue (entries : List (Value × Value)) : Value :=
  .set ((distinctEntries entries).map Prod.fst)

namespace Node

mutual

/-- The largest number of nodes on a way from this node to a leaf. -/
def height : Node → Nat
  | .scalar _ _ => 1
  | .sequence _ items => heightOfItems items + 1
  | .mapping _ entries => heightOfEntries entries + 1

/-- The largest height of some items. -/
def heightOfItems : List Node → Nat
  | [] => 0
  | item :: rest => max item.height (heightOfItems rest)

/-- The largest height of the keys and values of some entries. -/
def heightOfEntries : List (Node × Node) → Nat
  | [] => 0
  | (key, value) :: rest => max (max key.height value.height) (heightOfEntries rest)

end

mutual

/-- The text of a scalar, or of the scalar that a mapping gives as its value. -/
def scalarText? : Node → Option String
  | .scalar _ text => some text
  | .sequence _ _ => none
  | .mapping _ entries => valueText? entries

/-- The text of the scalar under the mark of a value. -/
def valueText? : List (Node × Node) → Option String
  | [] => none
  | (key, value) :: rest => if key.kind = .value then scalarText? value else valueText? rest

end

/-- A key whose mark of a value counts as a text. -/
def asKey : Node → Node
  | .scalar .value text => .scalar .text text
  | .sequence .value items => .sequence .text items
  | .mapping .value entries => .mapping .text entries
  | other => other

mutual

/-- The entries of a mapping: those that are merged into it, and its own. -/
def splitMerged : List (Node × Node) → Except Fault (List (Node × Node) × List (Node × Node))
  | [] => .ok ([], [])
  | (key, value) :: rest =>
    if key.kind = .merge then do
      let found ← mergedEntries value
      let (merged, own) ← splitMerged rest
      return (found ++ merged, own)
    else do
      let (merged, own) ← splitMerged rest
      return (merged, (asKey key, value) :: own)

/-- The entries that a node contributes where it is merged. -/
def mergedEntries : Node → Except Fault (List (Node × Node))
  | .scalar _ _ => .error .malformed
  | .sequence _ items => mergedItems items
  | .mapping _ entries => do
    let (merged, own) ← splitMerged entries
    return merged ++ own

/-- The entries that some mappings contribute where they are merged, those of the last one first. -/
def mergedItems : List Node → Except Fault (List (Node × Node))
  | [] => .ok []
  | .mapping _ entries :: rest => do
    let (merged, own) ← splitMerged entries
    let others ← mergedItems rest
    return others ++ merged ++ own
  | _ :: _ => .error .malformed

end

/-- Whether the value of a node is begun before its contents are known. -/
def isCollection (node : Node) : Bool :=
  match node.kind with
  | .sequence => true
  | .mapping => true
  | .set => true
  | .pairList => true
  | .orderedMapping => true
  | _ => false

/-- The flag of a word. -/
def flagOf (text : String) : Except Fault Bool :=
  let word := lowerWord text
  if ["yes", "true", "on"].contains word then .ok true
  else if ["no", "false", "off"].contains word then .ok false
  else .error .flagInvalid

/-- The date or time of a text. -/
def timeOf (text : String) : Except Fault Value :=
  match WrittenTime.read? (withoutFinalBreak text.toList) with
  | none => .error .timestampInvalid
  | some written =>
    match written.toValue with
    | .ok (.inl day) => .ok (.date day)
    | .ok (.inr time) => .ok (.timestamp time)
    | .error fault => .error (.calendar fault)

/-- The bytes of a base64 text. -/
def bytesOf (text : String) : Except Fault Value :=
  match Base64.decodeLenient text with
  | .ok content => .ok (.bytes content)
  | .error _ => .error .malformed

/-- The value of a scalar of a kind. -/
def scalarValue (kind : Kind) (text : String) : Except Fault Value :=
  match kind with
  | .null => .ok .null
  | .flag => (flagOf text).map .bool
  | .whole => (readWholeScalar text).map .int
  | .real => (readRealScalar text).map .float
  | .bytes => bytesOf text
  | .time => timeOf text
  | .text => .ok (.text text)
  | _ => .error .malformed

/-- The value of a node that is no collection. A mapping may give the text of one, but a time is
looked for in the node itself. -/
def leafValue (node : Node) : Except Fault Value :=
  match node.scalarText? with
  | none => .error .malformed
  | some text =>
    match node.kind, node with
    | .time, .mapping _ _ => .error .timestampNoText
    | kind, _ => scalarValue kind text

/-- Whether entries are merged into a mapping. -/
def merges : Node → Bool
  | .mapping _ entries => entries.any fun entry => entry.1.kind == .merge
  | _ => false

/-- The only entry of a mapping, which must not be one that is merged into it. -/
def onlyEntry (node : Node) : Except Fault (Node × Node) :=
  if node.merges then .error .entangled
  else
    match node with
    | .mapping _ [entry] => .ok entry
    | _ => .error .malformed

/-- A fault of a node itself. -/
def fail {Result : Type} (fault : Fault) : Except Located Result :=
  .error ⟨0, fault⟩

/-- A key, which must not be a collection. -/
def checkKey (node : Node) (key : Except Located Value) : Except Located Value :=
  if node.isCollection then fail .malformed else key

/-- The value of a node; the budget is the height of the node. -/
def toValue : Nat → Node → Except Located Value
  | 0, _ => fail .malformed
  | budget + 1, node =>
    let values (items : List Node) : Except Located (List Value) :=
      items.foldr (fun item rest => both List.cons (toValue budget item) rest) (.ok [])
    let entries (pairs : List (Node × Node)) : Except Located (List (Value × Value)) :=
      pairs.foldr (fun pair rest =>
        both List.cons
          (both Prod.mk (checkKey pair.1 (toValue budget pair.1)) (toValue budget pair.2)) rest)
        (.ok [])
    let pairs (items : List Node) : Except Located (List Value) :=
      items.foldr (fun item rest =>
        both List.cons
          (match item.onlyEntry with
            | .ok (key, value) => both Value.pair (toValue budget key) (toValue budget value)
            | .error fault => fail fault) rest)
        (.ok [])
    let inside (result : Except Located Value) : Except Located Value :=
      result.mapError Located.deeper
    let merged (own : List (Node × Node)) : Except Located (List (Value × Value)) :=
      match splitMerged own with
      | .ok (others, rest) => entries (others ++ rest)
      | .error fault => fail fault
    if node.isCollection then
      match node.kind, node with
      | .sequence, .sequence _ items => inside ((values items).map .list)
      | .mapping, .mapping _ own => inside ((merged own).map mappingValue)
      | .set, .mapping _ own => inside ((merged own).map setValue)
      | .pairList, .sequence _ items => inside ((pairs items).map .list)
      | .orderedMapping, .sequence _ items => inside ((pairs items).map .list)
      | _, _ => inside (fail .malformed)
    else node.leafValue.mapError fun fault => ⟨0, fault⟩

end Node

/-- The value of a document. -/
def read (text : String) : Except Fault Value := do
  let root ← Node.ofCut (cut text.toList)
  match root.toValue root.height with
  | .ok value => return value
  | .error located => .error located.fault

end ImageCatalog.Yaml
