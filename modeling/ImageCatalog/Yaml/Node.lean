import ImageCatalog.Yaml.Scalar
import ImageCatalog.Yaml.Token.Basic

/-!
# Nodes

The tokens of a document form a tree of scalars, sequences and mappings. Every node has a kind,
which comes from its tag or, for a scalar without a tag, from its form. An alias stands for the node
of its anchor, which must come first; if it is not complete, or has a mark of a value in it, the
document is entangled. Where the tokens stop the nodes fail with the fault of the tokens, unless
they fail before.

Every reading takes one unit of an explicit budget and, in turn with the others, at least one token.
-/

namespace ImageCatalog.Yaml

/-- A node of a document. -/
inductive Node
  | scalar (kind : Kind) (text : String)
  | sequence (kind : Kind) (items : List Node)
  | mapping (kind : Kind) (entries : List (Node × Node))

namespace Node

/-- The kind of a node. -/
def kind : Node → Kind
  | .scalar kind _ => kind
  | .sequence kind _ => kind
  | .mapping kind _ => kind

/-- A node that is not written. -/
def empty : Node :=
  .scalar .null ""

/-- The tokens that are left, and the anchors so far; the node of an anchor is missing as long as it
is not complete. -/
structure Reader where
  tokens : List Token
  anchors : List (String × Option Node)

/-- The anchor and the tag of a node. -/
structure Properties where
  anchor : Option String
  tag : Option WrittenTag

/-- What holds for a whole document: the meanings of its handles, and the fault behind its tokens if
they do not go on to its end. -/
structure Scope where
  handles : List (String × String)
  stop : Option Fault

/-- Look at the next token, which is an error if there is none because of a fault. -/
def lookAhead (stop : Option Fault) (tokens : List Token) : Except Fault Unit :=
  match tokens, stop with
  | [], some fault => .error fault
  | _, _ => .ok ()

/-- The fault of tokens of which the first one may not stand there. -/
def unexpected {Result : Type} (stop : Option Fault) (tokens : List Token) :
    Except Fault Result := do
  lookAhead stop tokens
  .error .malformed

/-- The anchor and the tag at the front, in either order. -/
def readProperties (stop : Option Fault) : List Token → Except Fault (Properties × List Token)
  | .anchor name :: .tag tag :: rest => .ok (⟨some name, some tag⟩, rest)
  | .anchor name :: rest => do
    lookAhead stop rest
    return (⟨some name, none⟩, rest)
  | .tag tag :: .anchor name :: rest => .ok (⟨some name, some tag⟩, rest)
  | .tag tag :: rest => do
    lookAhead stop rest
    return (⟨none, some tag⟩, rest)
  | tokens => .ok (⟨none, none⟩, tokens)

/-- The full text of a tag, by the meaning of its handle. -/
def fullTag (handles : List (String × String)) : Option WrittenTag → Except Fault (Option String)
  | none => .ok none
  | some tag =>
    match tag.handle with
    | none => .ok (some tag.suffix)
    | some handle =>
      match handles.lookup handle with
      | some meaning => .ok (some (meaning ++ tag.suffix))
      | none => .error .malformed

/-- The kind of a scalar. -/
def scalarKind (tag : Option String) (text : String) (plain : Bool) : Kind :=
  match tag with
  | none => if plain then .ofPlain text else .text
  | some full => if full = "!" then .ofForm text else .ofTag full

/-- The kind of a collection. -/
def collectionKind (tag : Option String) (usual : Kind) : Kind :=
  match tag with
  | none => usual
  | some full => if full = "!" then usual else .ofTag full

/-- Note that the node of an anchor is begun; an anchor must not be used twice. -/
def beginAnchor (anchor : Option String) (reader : Reader) : Except Fault Reader :=
  match anchor with
  | none => .ok reader
  | some name =>
    if (reader.anchors.lookup name).isSome then .error .malformed
    else .ok { reader with anchors := (name, none) :: reader.anchors }

/-- Note the complete node of an anchor. -/
def finishAnchor (anchor : Option String) (node : Node) (reader : Reader) : Reader :=
  match anchor with
  | none => reader
  | some name => { reader with anchors := (name, some node) :: reader.anchors }

mutual

/-- Whether a node has a mark of a value in it. -/
def marksValue : Node → Bool
  | .scalar kind _ => kind == .value
  | .sequence kind items => kind == .value || itemsMarkValue items
  | .mapping kind entries => kind == .value || entriesMarkValue entries

/-- Whether one of some items has a mark of a value in it. -/
def itemsMarkValue : List Node → Bool
  | [] => false
  | item :: rest => item.marksValue || itemsMarkValue rest

/-- Whether a key or a value of some entries has a mark of a value in it. -/
def entriesMarkValue : List (Node × Node) → Bool
  | [] => false
  | (key, value) :: rest => key.marksValue || value.marksValue || entriesMarkValue rest

end

/-- The node of an alias. -/
def resolveAlias (name : String) (reader : Reader) : Except Fault Node :=
  match reader.anchors.lookup name with
  | some (some node) => if node.marksValue then .error .entangled else .ok node
  | some none => .error .entangled
  | none => .error .malformed

/-- Whether an entry of a block sequence is left empty by the next token. -/
def leavesEntryEmpty : Option Token → Bool
  | some .blockEntry => true
  | some .blockEnd => true
  | _ => false

/-- Whether a key or a value of a block mapping is left empty by the next token. -/
def leavesSideEmpty : Option Token → Bool
  | some .key => true
  | some .value => true
  | some .blockEnd => true
  | _ => false

/-- Whether a value in brackets is left empty by the next token. -/
def leavesFlowEmpty : Option Token → Bool
  | some .flowEntry => true
  | some .flowSequenceEnd => true
  | some .flowMappingEnd => true
  | _ => false

/-- Whether a key in brackets is left empty by the next token. -/
def leavesFlowKeyEmpty : Option Token → Bool
  | some .value => true
  | other => leavesFlowEmpty other

/-- Where a node stands: in brackets, in a block, or in a block where a sequence needs no
indentation. -/
inductive Place
  | flow
  | block
  | unindented
deriving DecidableEq, Repr

mutual

/-- The node at the front. -/
def read (scope : Scope) (place : Place) :
    Nat → Reader → Except Fault (Node × Reader)
  | 0, _ => .error .malformed
  | budget + 1, reader =>
    match reader.tokens with
    | .alias name :: rest => do
      let node ← resolveAlias name reader
      return (node, { reader with tokens := rest })
    | tokens => do
      let (properties, rest) ← readProperties scope.stop tokens
      let tag ← fullTag scope.handles properties.tag
      lookAhead scope.stop rest
      let begun ← beginAnchor properties.anchor { reader with tokens := rest }
      let (node, after) ← readContent scope place tag
        (properties.anchor.isSome || properties.tag.isSome) budget begun
      return (node, finishAnchor properties.anchor node after)

/-- The content of a node whose properties are already read. -/
def readContent (scope : Scope) (place : Place) (tag : Option String)
    (mayBeEmpty : Bool) : Nat → Reader → Except Fault (Node × Reader)
  | 0, _ => .error .malformed
  | budget + 1, reader =>
    let sequence := Node.sequence (collectionKind tag .sequence)
    let mapping := Node.mapping (collectionKind tag .mapping)
    let next (rest : List Token) : Reader := { reader with tokens := rest }
    match reader.tokens with
    | .scalar text plain :: rest => .ok (.scalar (scalarKind tag text plain) text, next rest)
    | .flowSequenceStart :: rest => do
      let (items, after) ← readFlowItems scope true budget (next rest)
      return (sequence items, after)
    | .flowMappingStart :: rest => do
      let (entries, after) ← readFlowEntries scope true budget (next rest)
      return (mapping entries, after)
    | .blockSequenceStart :: rest =>
      if place = .flow then .error .malformed
      else do
        let (items, after) ← readBlockItems scope budget (next rest)
        return (sequence items, after)
    | .blockMappingStart :: rest =>
      if place = .flow then .error .malformed
      else do
        let (entries, after) ← readBlockEntries scope budget (next rest)
        return (mapping entries, after)
    | tokens =>
      if place = .unindented && tokens.head? == some .blockEntry then do
        let (items, after) ← readUnindentedItems scope budget reader
        return (sequence items, after)
      else if mayBeEmpty then .ok (.scalar (scalarKind tag "" true) "", reader)
      else .error .malformed

/-- The items of a sequence in a block, up to its end. -/
def readBlockItems (scope : Scope) :
    Nat → Reader → Except Fault (List Node × Reader)
  | 0, _ => .error .malformed
  | budget + 1, reader =>
    match reader.tokens with
    | .blockEntry :: rest => do
      let next : Reader := { reader with tokens := rest }
      let (item, afterItem) ←
        if leavesEntryEmpty rest.head? then pure (Node.empty, next)
        else read scope .block budget next
      let (items, after) ← readBlockItems scope budget afterItem
      return (item :: items, after)
    | .blockEnd :: rest => .ok ([], { reader with tokens := rest })
    | tokens => unexpected scope.stop tokens

/-- The items of a sequence that is not indented further than the mapping around it. -/
def readUnindentedItems (scope : Scope) :
    Nat → Reader → Except Fault (List Node × Reader)
  | 0, _ => .error .malformed
  | budget + 1, reader =>
    match reader.tokens with
    | .blockEntry :: rest => do
      let next : Reader := { reader with tokens := rest }
      let (item, afterItem) ←
        if leavesEntryEmpty rest.head? || leavesSideEmpty rest.head? then pure (Node.empty, next)
        else read scope .block budget next
      let (items, after) ← readUnindentedItems scope budget afterItem
      return (item :: items, after)
    | tokens => do
      lookAhead scope.stop tokens
      return ([], reader)

/-- The entries of a mapping in a block, up to its end. -/
def readBlockEntries (scope : Scope) :
    Nat → Reader → Except Fault (List (Node × Node) × Reader)
  | 0, _ => .error .malformed
  | budget + 1, reader =>
    match reader.tokens with
    | .key :: rest => do
      let next : Reader := { reader with tokens := rest }
      let (key, afterKey) ←
        if leavesSideEmpty rest.head? then pure (Node.empty, next)
        else read scope .unindented budget next
      let (value, afterValue) ← readBlockValue scope budget afterKey
      let (entries, after) ← readBlockEntries scope budget afterValue
      return ((key, value) :: entries, after)
    | .blockEnd :: rest => .ok ([], { reader with tokens := rest })
    | tokens => unexpected scope.stop tokens

/-- The value of an entry of a mapping in a block. -/
def readBlockValue (scope : Scope) :
    Nat → Reader → Except Fault (Node × Reader)
  | 0, _ => .error .malformed
  | budget + 1, reader =>
    match reader.tokens with
    | .value :: rest =>
      let next : Reader := { reader with tokens := rest }
      if leavesSideEmpty rest.head? then .ok (Node.empty, next)
      else read scope .unindented budget next
    | tokens => do
      lookAhead scope.stop tokens
      return (Node.empty, reader)

/-- The items of a sequence in brackets, up to its end. -/
def readFlowItems (scope : Scope) (first : Bool) :
    Nat → Reader → Except Fault (List Node × Reader)
  | 0, _ => .error .malformed
  | budget + 1, reader =>
    match reader.tokens with
    | .flowSequenceEnd :: rest => .ok ([], { reader with tokens := rest })
    | tokens => do
      let rest ←
        if first then pure tokens
        else match tokens with
          | .flowEntry :: more => pure more
          | others => unexpected scope.stop others
      match rest with
      | .flowSequenceEnd :: more => return ([], { reader with tokens := more })
      | .key :: more =>
        let (entry, afterEntry) ← readFlowEntry scope budget { reader with tokens := more }
        let (items, after) ← readFlowItems scope false budget afterEntry
        return (.mapping .mapping [entry] :: items, after)
      | _ =>
        let (item, afterItem) ← read scope .flow budget { reader with tokens := rest }
        let (items, after) ← readFlowItems scope false budget afterItem
        return (item :: items, after)

/-- The entries of a mapping in brackets, up to its end. -/
def readFlowEntries (scope : Scope) (first : Bool) :
    Nat → Reader → Except Fault (List (Node × Node) × Reader)
  | 0, _ => .error .malformed
  | budget + 1, reader =>
    match reader.tokens with
    | .flowMappingEnd :: rest => .ok ([], { reader with tokens := rest })
    | tokens => do
      let rest ←
        if first then pure tokens
        else match tokens with
          | .flowEntry :: more => pure more
          | others => unexpected scope.stop others
      match rest with
      | .flowMappingEnd :: more => return ([], { reader with tokens := more })
      | .key :: more =>
        let (entry, afterEntry) ← readFlowEntry scope budget { reader with tokens := more }
        let (entries, after) ← readFlowEntries scope false budget afterEntry
        return (entry :: entries, after)
      | _ =>
        let (key, afterKey) ← read scope .flow budget { reader with tokens := rest }
        let (entries, after) ← readFlowEntries scope false budget afterKey
        return ((key, Node.empty) :: entries, after)

/-- The entry behind the mark of a key in brackets. -/
def readFlowEntry (scope : Scope) :
    Nat → Reader → Except Fault ((Node × Node) × Reader)
  | 0, _ => .error .malformed
  | budget + 1, reader => do
    let (key, afterKey) ←
      if leavesFlowKeyEmpty reader.tokens.head? then pure (Node.empty, reader)
      else read scope .flow budget reader
    match afterKey.tokens with
    | .value :: rest =>
      let next : Reader := { afterKey with tokens := rest }
      let (value, after) ←
        if leavesFlowEmpty rest.head? then pure (Node.empty, next)
        else read scope .flow budget next
      return ((key, value), after)
    | tokens => do
      lookAhead scope.stop tokens
      return ((key, Node.empty), afterKey)

end

/-- The handles that need no declaration. -/
def usualHandles : List (String × String) :=
  [("!", "!"), ("!!", tagPrelude)]

/-- The declarations before a document: whether a version was declared, and the handles. -/
structure Declarations where
  versioned : Bool
  handles : List (String × String)

/-- The declarations at the front. -/
def readDeclarations (stop : Option Fault) (found : Declarations) :
    List Token → Except Fault (Declarations × List Token)
  | .directive (.version major) :: rest =>
    if found.versioned || major != 1 then .error .malformed
    else readDeclarations stop { found with versioned := true } rest
  | .directive (.tag handle meaning) :: rest =>
    if (found.handles.lookup handle).isSome then .error .malformed
    else readDeclarations stop { found with handles := (handle, meaning) :: found.handles } rest
  | .directive .other :: rest => readDeclarations stop found rest
  | tokens => do
    lookAhead stop tokens
    return (found, tokens)

/-- Whether a document without content ends before the next token. -/
def leavesDocumentEmpty : Option Token → Bool
  | none => true
  | some (.directive _) => true
  | some .documentStart => true
  | some .documentEnd => true
  | _ => false

/-- Check that nothing but marks of ends is left. Another document is an error, but only once its
declarations are read. -/
def checkEnd (stop : Option Fault) (tokens : List Token) : Except Fault Unit := do
  let others := tokens.dropWhile (· == .documentEnd)
  lookAhead stop others
  if others.isEmpty then return ()
  else
    let _ ← readDeclarations stop ⟨false, []⟩ others
    .error .malformed

/-- The content of a document. -/
def readRoot (scope : Scope) (tokens : List Token) : Except Fault Node := do
  let (node, after) ← read scope .block (4 * tokens.length + 4) ⟨tokens, []⟩
  checkEnd scope.stop after.tokens
  return node

/-- The only document in a row of tokens. -/
def ofCut (cut : Cut) : Except Fault Node :=
  match cut.tokens, cut.stop with
  | [], none => .ok Node.empty
  | .directive _ :: _, _ => readDeclared
  | .documentStart :: _, _ => readDeclared
  | tokens, stop => readRoot ⟨usualHandles, stop⟩ tokens
where
  /-- A document behind its declarations and the mark of its beginning. -/
  readDeclared : Except Fault Node := do
    let (declared, rest) ← readDeclarations cut.stop ⟨false, []⟩ cut.tokens
    match rest with
    | .documentStart :: content =>
      if leavesDocumentEmpty content.head? then
        checkEnd cut.stop content
        return Node.empty
      else readRoot ⟨declared.handles ++ usualHandles, cut.stop⟩ content
    | _ => .error .malformed

end Node

end ImageCatalog.Yaml
