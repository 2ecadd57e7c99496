/-!
# Nodes of a document

A document is a graph of nodes: scalars, sequences and mappings, each with a tag that tells its
type. Collections refer to the nodes in them by their numbers, so that a node can lie in several
others, and in itself.
-/

namespace SwiftDecl.Yaml

/-- The type of a node. -/
inductive Tag where
  | null
  | bool
  | int
  | float
  | binary
  | timestamp
  | orderedMap
  | pairs
  | set
  | text
  | sequence
  | mapping
  /-- The key under which a mapping takes over the entries of others. -/
  | merge
  /-- The key under which a mapping holds the scalar that it stands for. -/
  | default
  | other (name : String)
deriving DecidableEq, Repr

namespace Tag

/-- What the names of the standard tags start with. -/
def standardHead : String :=
  "tag:yaml.org,2002:"

/-- The standard tags by the end of their names. -/
def standard : List (String × Tag) :=
  [("null", null), ("bool", bool), ("int", int), ("float", float), ("binary", binary),
   ("timestamp", timestamp), ("omap", orderedMap), ("pairs", pairs), ("set", set), ("str", text),
   ("seq", sequence), ("map", mapping), ("merge", merge), ("value", default)]

/-- The tag with a name. -/
def ofName (name : String) : Tag :=
  match standard.find? fun t => standardHead ++ t.1 == name with
  | some t => t.2
  | none => other name

end Tag

/-- The number of a node in its graph. -/
abbrev NodeId := Nat

/-- An entry of a mapping: its key and its value. -/
abbrev Entry := NodeId × NodeId

/-- What a node consists of. -/
inductive Content where
  | scalar (text : String)
  | sequence (items : List NodeId)
  | mapping (entries : List Entry)
deriving DecidableEq, Repr

/-- A node. -/
structure Node where
  tag : Tag
  content : Content
deriving DecidableEq, Repr

/-- The node where nothing is written. -/
def Node.nothing : Node :=
  ⟨.null, .scalar ""⟩

/-- Nodes by their numbers. -/
abbrev Nodes := Array Node

namespace Nodes

/-- The node with a number. -/
def node (ns : Nodes) (id : NodeId) : Node :=
  ns.getD id .nothing

/-- The entries of a node, if it is a mapping. -/
def entries? (ns : Nodes) (id : NodeId) : Option (List Entry) :=
  match (ns.node id).content with
  | .mapping entries => some entries
  | _ => none

/-- The node with a number gets another content. -/
def setContent (ns : Nodes) (id : NodeId) (content : Content) : Nodes :=
  ns.modify id fun n => { n with content }

/-- The node with a number gets another tag. -/
def setTag (ns : Nodes) (id : NodeId) (tag : Tag) : Nodes :=
  ns.modify id fun n => { n with tag }

end Nodes

/-- The nodes of a document, and the one that holds all others. -/
structure Graph where
  nodes : Nodes
  root : NodeId
deriving DecidableEq, Repr

end SwiftDecl.Yaml
