import SwiftDecl.Yaml.Node
import SwiftDecl.Yaml.Scalar.Implicit
import SwiftDecl.Yaml.Token.Scanner

/-!
# Reading nodes

The tokens of a document give its graph of nodes. A node can carry an anchor, under which an alias
later refers to it, and a tag, whose handle a directive can declare. Of two faults the one counts
that reading meets first: what is wrong with the tokens only counts where they are needed.
-/

namespace SwiftDecl.Yaml

/-- The state of reading nodes. -/
structure Reading where
  tokens : List Token
  /-- Why there are no more tokens than these. -/
  stop : Option Fault
  nodes : Nodes := #[]
  /-- What the handles of tags stand for. -/
  handles : List (String × String) := []
  /-- The nodes with anchors. -/
  anchors : List (String × NodeId) := []

/-- A step of reading nodes. -/
abbrev Reader := StateT Reading (Except Fault)

namespace Reader

/-- The document is malformed. -/
def fail {α : Type} (m : Malformed) : Reader α :=
  throw (.malformed m)

/-- The next token. -/
def peek : Reader (Option Token) := do
  let r ← get
  match r.tokens, r.stop with
  | t :: _, _ => return some t
  | [], some fault => throw fault
  | [], none => return none

/-- Passes the next token. -/
def skip : Reader Unit :=
  modify fun r => { r with tokens := r.tokens.tail }

/-- The next token is another one than those that fit. -/
def unexpected {α : Type} : Reader α := do
  fail (.unexpected (← peek))

/-- Passes a token if it is next. -/
def skipIf (t : Token) : Reader Bool := do
  if (← peek) = some t then
    skip
    return true
  else return false

/-- Passes a token that has to be next. -/
def expect (t : Token) : Reader Unit := do
  if !(← skipIf t) then unexpected

/-- The next token is one of some, or there is none. -/
def atAny (ts : List Token) : Reader Bool := do
  match ← peek with
  | some t => return ts.contains t
  | none => return false

/-! ## Anchors and tags -/

/-- Adds a node, which can carry an anchor. -/
def add (anchor : Option String) (n : Node) : Reader NodeId := do
  let id := (← get).nodes.size
  if let some name := anchor then
    if (← get).anchors.any fun a => a.1 == name then fail (.anchorTwice name)
    modify fun r => { r with anchors := (name, id) :: r.anchors }
  modify fun r => { r with nodes := r.nodes.push n }
  return id

/-- Adds a collection. Its anchor counts already in the nodes that it holds. -/
def addCollection (anchor : Option String) (tag : Tag) (content : Reader Content) :
    Reader NodeId := do
  let id ← add anchor ⟨tag, .sequence []⟩
  let content ← content
  modify fun r => { r with nodes := r.nodes.setContent id content }
  return id

/-- Adds the node where nothing is written. -/
def addNothing : Reader NodeId :=
  add none .nothing

/-- The node that an alias refers to. -/
def aliased (name : String) : Reader NodeId := do
  match (← get).anchors.find? fun a => a.1 == name with
  | some (_, id) => return id
  | none => fail (.undefinedAlias name)

/-- The name of a tag. -/
def tagName (handle : Option String) (suffix : String) : Reader String := do
  match handle with
  | none => return suffix
  | some h =>
    match (← get).handles.find? fun declared => declared.1 == h with
    | some declared => return declared.2 ++ suffix
    | none => fail (.undefinedHandle h)

/-- Reads a tag if one is next. -/
def tag? : Reader (Option (Option String × String)) := do
  match ← peek with
  | some (.tag handle suffix) =>
    skip
    return some (handle, suffix)
  | _ => return none

/-- Reads an anchor if one is next. -/
def anchor? : Reader (Option String) := do
  match ← peek with
  | some (.anchor name) =>
    skip
    return some name
  | _ => return none

/-- Reads the anchor and the tag of a node, in either order. -/
def properties : Reader (Option String × Option String) := do
  let first ← anchor?
  let tag ← tag?
  let anchor ← if first.isNone ∧ tag.isSome then anchor? else pure first
  -- The handle is looked up once both have been read.
  match tag with
  | some (handle, suffix) => return (anchor, some (← tagName handle suffix))
  | none => return (anchor, none)

/-- The tag of a scalar. The tag `!` leaves it to the text. -/
def scalarTag (tag : Option String) (text : String) (plain : Bool) : Tag :=
  match tag with
  | none => if plain then implicitTag text else .text
  | some "!" => implicitTag text
  | some name => Tag.ofName name

/-- The tag of a sequence or a mapping. -/
def collectionTag (tag : Option String) (implicit : Tag) : Tag :=
  match tag with
  | none => implicit
  | some "!" => implicit
  | some name => Tag.ofName name

/-! ## Nodes -/

mutual

/-- Reads a node. In a block it can be a block itself; as a key or a value in a block it can be a
sequence that is not indented. -/
def node (inBlock notIndented : Bool) : (fuel : Nat) → Reader NodeId
  | 0 => unexpected
  | fuel + 1 => do
    if let some (.alias name) ← peek then
      skip
      return ← aliased name
    let (anchor, tag) ← properties
    let found ← peek
    match found with
    | some (.scalar text plain) =>
      skip
      add anchor ⟨scalarTag tag text plain, .scalar text⟩
    | some .flowSequenceStart =>
      addCollection anchor (collectionTag tag .sequence) do
        skip
        return .sequence (← flowItems true fuel)
    | some .flowMappingStart =>
      addCollection anchor (collectionTag tag .mapping) do
        skip
        return .mapping (← flowEntries true fuel)
    | _ =>
      if notIndented ∧ found = some .blockEntry then
        addCollection anchor (collectionTag tag .sequence) do
          return .sequence (← plainItems fuel)
      else if inBlock ∧ found = some .blockSequenceStart then
        addCollection anchor (collectionTag tag .sequence) do
          skip
          return .sequence (← blockItems fuel)
      else if inBlock ∧ found = some .blockMappingStart then
        addCollection anchor (collectionTag tag .mapping) do
          skip
          return .mapping (← blockEntries fuel)
      else if anchor.isSome ∨ tag.isSome then
        add anchor ⟨scalarTag tag "" true, .scalar ""⟩
      else unexpected

/-- Reads the items of a sequence up to the end of its block. -/
def blockItems : (fuel : Nat) → Reader (List NodeId)
  | 0 => unexpected
  | fuel + 1 => do
    if ← skipIf .blockEntry then
      let item ←
        if ← atAny [.blockEntry, .blockEnd] then addNothing else node true false fuel
      return item :: (← blockItems fuel)
    else
      expect .blockEnd
      return []

/-- Reads the items of a sequence that is not indented. -/
def plainItems : (fuel : Nat) → Reader (List NodeId)
  | 0 => unexpected
  | fuel + 1 => do
    if ← skipIf .blockEntry then
      let item ←
        if ← atAny [.blockEntry, .key, .value, .blockEnd] then addNothing
        else node true false fuel
      return item :: (← plainItems fuel)
    else return []

/-- Reads the value of an entry in a block. -/
def blockValue : (fuel : Nat) → Reader NodeId
  | 0 => unexpected
  | fuel + 1 => do
    if ← skipIf .value then
      if ← atAny [.key, .value, .blockEnd] then addNothing else node true true fuel
    else addNothing

/-- Reads the entries of a mapping up to the end of its block. -/
def blockEntries : (fuel : Nat) → Reader (List Entry)
  | 0 => unexpected
  | fuel + 1 => do
    if ← skipIf .key then
      let key ←
        if ← atAny [.key, .value, .blockEnd] then addNothing else node true true fuel
      let value ← blockValue fuel
      return (key, value) :: (← blockEntries fuel)
    else
      expect .blockEnd
      return []

/-- Reads the value of an entry between brackets, which other tokens can end. -/
def flowValue (stop : Token) : (fuel : Nat) → Reader NodeId
  | 0 => unexpected
  | fuel + 1 => do
    if ← skipIf .value then
      if ← atAny [.flowEntry, stop] then addNothing else node false false fuel
    else addNothing

/-- Reads the items of a sequence up to its closing bracket. An item can be a mapping with a
single entry. -/
def flowItems (isFirst : Bool) : (fuel : Nat) → Reader (List NodeId)
  | 0 => unexpected
  | fuel + 1 => do
    if ← skipIf .flowSequenceEnd then return []
    if !isFirst then expect .flowEntry
    if ← skipIf .flowSequenceEnd then return []
    let item ←
      if ← skipIf .key then
        let key ←
          if ← atAny [.value, .flowEntry, .flowSequenceEnd] then addNothing
          else node false false fuel
        let value ← flowValue .flowSequenceEnd fuel
        add none ⟨.mapping, .mapping [(key, value)]⟩
      else node false false fuel
    return item :: (← flowItems false fuel)

/-- Reads the entries of a mapping up to its closing bracket. -/
def flowEntries (isFirst : Bool) : (fuel : Nat) → Reader (List Entry)
  | 0 => unexpected
  | fuel + 1 => do
    if ← skipIf .flowMappingEnd then return []
    if !isFirst then expect .flowEntry
    if ← skipIf .flowMappingEnd then return []
    let entry ←
      if ← skipIf .key then
        let key ←
          if ← atAny [.value, .flowEntry, .flowMappingEnd] then addNothing
          else node false false fuel
        pure (key, ← flowValue .flowMappingEnd fuel)
      else pure (← node false false fuel, ← addNothing)
    return entry :: (← flowEntries false fuel)

end

/-! ## Documents -/

/-- Reads the directives before a document. Of the version only the first number counts. -/
def directives (hasVersion : Bool) : List Token → Reader Unit
  | .directive (.version major) :: rest => do
    if hasVersion then fail .directiveTwice
    if major ≠ 1 then fail (.version major)
    skip
    directives true rest
  | .directive (.tag handle replacement) :: rest => do
    if (← get).handles.any fun h => h.1 == handle then fail .directiveTwice
    modify fun r => { r with handles := (handle, replacement) :: r.handles }
    skip
    directives hasVersion rest
  | .directive .other :: rest => do
    skip
    directives hasVersion rest
  | _ => return

/-- Reads the directives before a document and the mark of its start. -/
def documentStart : Reader Unit := do
  modify fun r => { r with handles := [] }
  directives false (← get).tokens
  expect .documentStart

/-- The handles that need no declaration. -/
def standardHandles : List (String × String) :=
  [("!", "!"), ("!!", Tag.standardHead)]

/-- Declares the standard handles, unless directives have declared them. -/
def declareStandard : Reader Unit :=
  modify fun r => { r with handles := r.handles ++ standardHandles }

/-- Passes the marks of the end of a document. -/
def documentEnds : List Token → Reader Unit
  | .documentEnd :: rest => do
    skip
    documentEnds rest
  | _ => return

/-- Reads the only document of a text, if there is one, and gives its root. -/
def document : Reader (Option NodeId) := do
  let fuel := 4 * (← get).tokens.length + 4
  match ← peek with
  | none => return none
  | some first =>
    let isExplicit := first matches .directive _ | .documentStart
    if isExplicit then documentStart
    declareStandard
    let isEmpty := match ← peek with
      | none => true
      | some (.directive _) => true
      | some t => t == .documentStart || t == .documentEnd
    let root ← if isExplicit && isEmpty then addNothing else node true false fuel
    documentEnds (← get).tokens
    if (← peek).isSome then
      documentStart
      fail .severalDocuments
    return some root

end Reader

/-- The graph of the document that a text holds. -/
def Graph.ofText? (text : String) : Except Fault (Option Graph) := do
  let scan := scan text
  let (root, reading) ← Reader.document.run { tokens := scan.tokens, stop := scan.stop }
  return root.map fun root => { nodes := reading.nodes, root }

end SwiftDecl.Yaml
