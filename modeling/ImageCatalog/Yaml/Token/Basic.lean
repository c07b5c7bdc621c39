import ImageCatalog.Yaml.Fault

/-!
# Tokens

A document is a row of tokens: the marks of collections, entries, keys and values, whether they are
written or follow from the indentation, and the scalars, anchors, aliases and tags between them. A
tag is written with a handle, whose meaning is declared by a directive, or in full.

A text that cannot be cut into tokens to its end is cut up to a fault. The fault matters only if the
tokens before it are made up into nodes without one of their own.
-/

namespace ImageCatalog.Yaml

/-- A tag as it is written. -/
structure WrittenTag where
  handle : Option String
  suffix : String
deriving DecidableEq, Repr

/-- A line of instructions before a document. -/
inductive Directive
  | version (major : Nat)
  | tag (handle meaning : String)
  | other
deriving DecidableEq, Repr

/-- A token of a document. -/
inductive Token
  | directive (content : Directive)
  | documentStart
  | documentEnd
  | blockSequenceStart
  | blockMappingStart
  | blockEnd
  | flowSequenceStart
  | flowSequenceEnd
  | flowMappingStart
  | flowMappingEnd
  | blockEntry
  | flowEntry
  | key
  | value
  | alias (name : String)
  | anchor (name : String)
  | tag (content : WrittenTag)
  | scalar (chars : String) (plain : Bool)
deriving DecidableEq, Repr

/-- The tokens of a text, and the fault behind them if they are not all that the text would have. -/
structure Cut where
  tokens : List Token
  stop : Option Fault
deriving DecidableEq, Repr

end ImageCatalog.Yaml
