import SwiftDecl.Yaml.Fault
import SwiftDecl.Yaml.Node

/-!
# Merged mappings

A mapping takes over the entries of those that it names under the merge key. They stand before its
own, so that its own win, and of several mappings the first wins. What is taken over is final: the
mapping keeps its new entries for all nodes that refer to it.
-/

namespace SwiftDecl.Yaml

/-- A change of nodes that can fail. -/
abbrev Merger := StateT Nodes (Except Malformed)

namespace Nodes

/-- The first value under the merge key, and the entries without it. -/
def splitMerge? (ns : Nodes) : List Entry → Option (NodeId × List Entry)
  | [] => none
  | (key, value) :: rest =>
    if (ns.node key).tag = .merge then some (value, rest)
    else (splitMerge? ns rest).map fun (source, own) => (source, (key, value) :: own)

/-- The mappings that a value under the merge key names. -/
def sources (ns : Nodes) (id : NodeId) : Except Malformed (List NodeId) :=
  match (ns.node id).content with
  | .mapping _ => .ok [id]
  | .sequence items =>
    if items.all fun item => (ns.entries? item).isSome then .ok items else .error .notMergeable
  | .scalar _ => .error .notMergeable

/-- The default key is a plain text as a key of a mapping. -/
def plainKeys (ns : Nodes) (entries : List Entry) : Nodes :=
  entries.foldl
    (fun ns (key, _) => if (ns.node key).tag = .default then ns.setTag key .text else ns) ns

/-- Takes over what a mapping names under the merge key, after the entries that have been taken
over before. Each turn takes a merge key out of the nodes, so there are at most as many turns as
entries. -/
def mergeInto (id : NodeId) : (fuel : Nat) → (merged : List Entry) → Merger Unit
  | 0, _ => return
  | fuel + 1, merged => do
    let entries := ((← get).entries? id).getD []
    match (← get).splitMerge? entries with
    | some (source, own) =>
      modify fun ns => ns.setContent id (.mapping own)
      let parts ← (← (← get).sources source).mapM fun s => do
        mergeInto s fuel []
        return ((← get).entries? s).getD []
      mergeInto id fuel (merged ++ parts.reverse.flatten)
    | none =>
      modify fun ns => (ns.plainKeys entries).setContent id (.mapping (merged ++ entries))

/-- How many entries there are in all mappings. -/
def countEntries (ns : Nodes) : Nat :=
  ns.foldl (fun n node =>
    match node.content with
    | .mapping entries => n + entries.length
    | _ => n) 0

end Nodes

end SwiftDecl.Yaml
