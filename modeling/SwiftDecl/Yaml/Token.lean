/-!
# Tokens of a document

A document is read as a list of tokens. The starts and ends of blocks, which a document shows by
its indentation, are tokens of their own.
-/

namespace SwiftDecl.Yaml

/-- A directive before a document. -/
inductive Directive where
  | version (major : Nat)
  | tag (handle : String) (replacement : String)
  | other
deriving DecidableEq, Repr

/-- A token. -/
inductive Token where
  | directive (d : Directive)
  | documentStart
  | documentEnd
  | blockSequenceStart
  | blockMappingStart
  | blockEnd
  | flowSequenceStart
  | flowSequenceEnd
  | flowMappingStart
  | flowMappingEnd
  | blockEntry
  | flowEntry
  | key
  | value
  | alias (name : String)
  | anchor (name : String)
  /-- A tag of a node. Without a handle it is spelled in full. -/
  | tag (handle : Option String) (suffix : String)
  /-- The text of a scalar. A plain one is written without quotes. -/
  | scalar (text : String) (plain : Bool)
deriving DecidableEq, Repr

end SwiftDecl.Yaml
