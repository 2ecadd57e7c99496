import SwiftDecl.Data.Key
import SwiftDecl.Yaml.Node.Merge
import SwiftDecl.Yaml.Node.Parser
import SwiftDecl.Yaml.Scalar.Binary

/-!
# Values of documents

A node gives the value that its tag tells, one value for all the places where it lies. The values
are made from the root on, level by level: a collection is there before what it holds, so it can
hold itself. Where several nodes are faulty, the one that is reached first counts.
-/

namespace SwiftDecl.Yaml

/-- The value of a node, with the values in it by the numbers of their nodes. -/
inductive Cell where
  | scalar (d : Data)
  /-- What is no number, by the word for it, is one value, and other texts for it spell others. -/
  | nan
  | list (items : List NodeId)
  | pairs (entries : List Entry)
  | set (entries : List Entry)
  | map (entries : List Entry)

namespace Cell

/-- The value can be a key. -/
def isKey : Cell → Bool
  | scalar d => d.isKey
  | nan => true
  | _ => false

/-- The two values are the same key, apart from being one value. -/
def sameKey : Cell → Cell → Bool
  | scalar a, scalar b => a.sameKey b
  | nan, nan => true
  | _, _ => false

end Cell

/-! ## Scalars -/

namespace Nodes

/-- The text of a scalar, or of the scalar that a mapping holds under the default key. -/
def scalarText (ns : Nodes) : (fuel : Nat) → NodeId → Except Fault String
  | 0, _ => .error (.value .endless)
  | fuel + 1, id =>
    match (ns.node id).content with
    | .scalar text => .ok text
    | .sequence _ => .error (.malformed .notScalar)
    | .mapping entries =>
      match entries.find? fun e => (ns.node e.1).tag == .default with
      | some (_, value) => scalarText ns fuel value
      | none => .error (.malformed .notScalar)

end Nodes

/-- The truth value of a word. -/
def truth (text : String) : Except ValueFault Bool :=
  let word := String.ofList (Text.lowerCase text.toList)
  match truthWords.find? fun w => w.1 == word with
  | some w => .ok w.2
  | none => .error (.truth word)

/-- The floating point number of a text. -/
def floatCell (text : String) : Except ValueFault Cell :=
  if Number.isNaNWord text then .ok .nan
  else (Number.float text).map fun x => .scalar (.float x)

/-- The value of a scalar with a tag. -/
def scalarCell (tag : Tag) (text : String) : Except Fault Cell :=
  match tag with
  | .null => .ok (.scalar .null)
  | .bool => ((truth text).map fun b => Cell.scalar (.bool b)).mapError .value
  | .int => ((Number.integer text).map fun i => Cell.scalar (.int i)).mapError .value
  | .float => (floatCell text).mapError .value
  | .binary =>
    match Binary.bytes? text with
    | some bs => .ok (.scalar (.bytes bs))
    | none => .error (.malformed .binary)
  | .timestamp => ((Timestamp.value text).map Cell.scalar).mapError .value
  | .text => .ok (.scalar (.text text))
  | _ => .error (.malformed .unknownTag)

/-! ## Making values -/

/-- The state of making values. -/
structure Making where
  nodes : Nodes
  /-- The values of the nodes that have been reached. -/
  cells : Array (Option Cell)
  /-- The collections that are still empty, the last one first. -/
  waiting : List NodeId := []
  /-- How many entries there are, which bounds the merging. -/
  entryCount : Nat

/-- A step of making values. -/
abbrev Maker := StateT Making (Except Fault)

namespace Maker

/-- The document is malformed. -/
def fail {α : Type} (m : Malformed) : Maker α :=
  throw (.malformed m)

/-- The content of a node. -/
def content (id : NodeId) : Maker Content := do
  return ((← get).nodes.node id).content

/-- The value of a node that has been reached. -/
def cell (id : NodeId) : Maker Cell := do
  return ((← get).cells.getD id none).getD (.scalar .null)

/-- Gives a node its value. -/
def setCell (id : NodeId) (c : Cell) : Maker Unit :=
  modify fun m => { m with cells := m.cells.setIfInBounds id (some c) }

/-- Gives a node an empty collection, which is to be filled later. -/
def wait (id : NodeId) (c : Cell) : Maker Unit := do
  setCell id c
  modify fun m => { m with waiting := id :: m.waiting }

/-- Makes the value of a scalar. -/
def makeScalar (id : NodeId) (tag : Tag) : Maker Unit := do
  let nodes := (← get).nodes
  let text ← nodes.scalarText (nodes.size + 1) id
  -- The text of a timestamp is looked at where it is written, and not where it is found.
  if tag = .timestamp ∧ (nodes.entries? id).isSome then throw (.value .notText)
  setCell id (← scalarCell tag text)

/-- Makes the value of a node, unless there is one. -/
def make (id : NodeId) : Maker Unit := do
  if ((← get).cells.getD id none).isSome then return
  match ((← get).nodes.node id).tag with
  | .sequence => wait id (.list [])
  | .orderedMap | .pairs => wait id (.pairs [])
  | .set => wait id (.set [])
  | .mapping => wait id (.map [])
  | .merge | .default | .other _ => fail .unknownTag
  | tag => makeScalar id tag

/-- Makes the values of an entry that stands for a pair: a mapping with one entry. -/
def pair (id : NodeId) : Maker Entry := do
  match ← content id with
  | .mapping [(key, value)] =>
    make key
    make value
    return (key, value)
  | _ => fail .notPair

/-- Puts an entry into a mapping. A key that is there keeps its place and its form. -/
def putEntry (key value : NodeId) : List Entry → Maker (List Entry)
  | [] => return [(key, value)]
  | (k, v) :: rest => do
    if k = key ∨ (← cell k).sameKey (← cell key) then return (k, value) :: rest
    else return (k, v) :: (← putEntry key value rest)

/-- Makes the values of entries, after others that have been made. -/
def makeEntries : (made : List Entry) → List Entry → Maker (List Entry)
  | made, [] => return made
  | made, (key, value) :: rest => do
    make key
    if !(← cell key).isKey then fail .keyNotHashable
    make value
    makeEntries (← putEntry key value made) rest

/-- Makes the entries of a mapping, with those that it takes over. -/
def mappingEntries (id : NodeId) : Maker (List Entry) := do
  let nodes := (← get).nodes
  if (nodes.entries? id).isNone then fail .notMapping
  match (Nodes.mergeInto id ((← get).entryCount + 1) []).run nodes with
  | .error m => fail m
  | .ok (_, nodes) =>
    modify fun m => { m with nodes }
    makeEntries [] ((nodes.entries? id).getD [])

/-- Fills a collection. -/
def fill (id : NodeId) : Maker Unit := do
  match ← cell id with
  | .list _ =>
    let .sequence items ← content id | fail .notSequence
    items.forM make
    setCell id (.list items)
  | .pairs _ =>
    let .sequence items ← content id | fail .notSequence
    setCell id (.pairs (← items.mapM pair))
  | .set _ => setCell id (.set (← mappingEntries id))
  | .map _ => setCell id (.map (← mappingEntries id))
  | _ => return

/-- Fills the collections that wait, and those that turn up in them. A node waits only once, so
there are no more rounds than nodes. -/
def fillAll : (fuel : Nat) → Maker Unit
  | 0 => return
  | fuel + 1 => do
    let waiting := (← get).waiting
    if waiting.isEmpty then return
    modify fun m => { m with waiting := [] }
    waiting.reverse.forM fill
    fillAll fuel

/-- Makes all values of a document. -/
def makeAll (root : NodeId) : Maker Unit := do
  make root
  fillAll (← get).nodes.size

end Maker

/-! ## Documents as data -/

/-- The value of a cell, from the values of others. -/
def Cell.data (value : NodeId → Data) : Cell → Data
  | scalar d => d
  | nan => .float (0 / 0)
  | list items => .list (items.map value)
  | pairs entries => .list (entries.map fun e => .tuple [value e.1, value e.2])
  | set entries => .set (entries.map fun e => value e.1)
  | map entries => .map (entries.map fun e => (value e.1, value e.2))

/-- The values of cells down to a depth, below which nothing is seen. -/
def valuesTo (cells : Array Cell) : (depth : Nat) → Array Data
  | 0 => cells.map fun _ => .null
  | depth + 1 =>
    let inner := valuesTo cells depth
    cells.map (Cell.data fun id => inner.getD id .null)

/-- How deep a document is looked into. A value that holds itself has no end. -/
def depthLimit : Nat := 32

/-- The value that a graph stands for. -/
def Graph.value (g : Graph) : Except Fault Data := do
  let start : Making :=
    { nodes := g.nodes, cells := Array.replicate g.nodes.size none,
      entryCount := g.nodes.countEntries }
  let (_, made) ← (Maker.makeAll g.root).run start
  let cells := made.cells.map fun c => c.getD (.scalar .null)
  return (valuesTo cells (min (cells.size + 1) depthLimit)).getD g.root .null

/-- The value of the document that a text holds. A text without a document has none. -/
def load (text : String) : Except Fault Data := do
  match ← Graph.ofText? text with
  | none => return .null
  | some g => g.value

end SwiftDecl.Yaml
