/-
Mappings that take over the entries of others.

A mapping takes over the entries of the mappings under its keys `<<`: they come
first, so that its own entries win.  Of several mappings under one key the
first wins.  What is taken over is no longer under that key, so a mapping that
takes over itself gets no more than it has.
-/
import DataContract.Yaml.Node

namespace DataContract.Yaml

/-- A step that rearranges the entries of mappings. -/
abbrev Merge (α : Type) := StateT Graph (Except Fault) α

namespace Graph

/-- The entries of a node that is a mapping. -/
def entries (g : Graph) (id : NodeId) : List (NodeId × NodeId) :=
  match (g.get id).content with
  | .mapping entries => entries
  | _ => []

/-- The graph with other entries of a mapping. -/
def setEntries (g : Graph) (id : NodeId) (entries : List (NodeId × NodeId)) : Graph :=
  g.set id { g.get id with content := .mapping entries }

/-- The graph in which a key `=` is a text. -/
def settleKey (g : Graph) (id : NodeId) : Graph :=
  if (g.get id).tag == .value then g.set id { g.get id with tag := .str } else g

/-- The graph in which the keys `=` of a mapping are texts. -/
def settleKeys (g : Graph) (id : NodeId) : Graph :=
  (g.entries id).foldl (fun g (key, _) => g.settleKey key) g

/-- The first entry that takes over others: the node under its key, and the entries without it. -/
def firstMerge? (g : Graph) :
    List (NodeId × NodeId) → Option (NodeId × List (NodeId × NodeId))
  | [] => none
  | (key, item) :: rest =>
    if (g.get key).tag == .merge then some (item, rest)
    else (firstMerge? g rest).map (fun (source, others) => (source, (key, item) :: others))

/-- How many entries take over others. -/
def mergeCount (g : Graph) : Nat :=
  g.nodes.foldl (fun n node => match node.content with
    | .mapping entries => n + entries.countP (fun (key, _) => (g.get key).tag == .merge)
    | _ => n) 0

end Graph

namespace Merge

/-- The node, if it is a mapping. -/
def requireMapping (id : NodeId) : Merge Unit := do
  match ((← get).get id).content with
  | .mapping _ => return ()
  | _ => throw .malformed

mutual

/-- Put the entries that a mapping takes over in front of its own. -/
def flatten : Nat → NodeId → Merge Unit
  | 0, _ => return ()
  | fuel + 1, id => do
    modify (·.settleKeys id)
    let taken ← takeOver fuel id
    modify (fun g => g.setEntries id (taken ++ g.entries id))

/-- The entries that a mapping takes over, which it then no longer asks for. -/
def takeOver : Nat → NodeId → Merge (List (NodeId × NodeId))
  | 0, _ => return []
  | fuel + 1, id => do
    let g ← get
    match g.firstMerge? (g.entries id) with
    | none => return []
    | some (source, others) =>
      set (g.setEntries id others)
      let taken ← sourceEntries fuel source
      return taken ++ (← takeOver fuel id)

/-- The entries of a mapping, or of a sequence of mappings with the last one first. -/
def sourceEntries : Nat → NodeId → Merge (List (NodeId × NodeId))
  | 0, _ => return []
  | fuel + 1, id => do
    match ((← get).get id).content with
    | .scalar _ => throw .malformed
    | .mapping _ =>
      flatten fuel id
      return (← get).entries id
    | .sequence items =>
      items.forM (fun item => do
        requireMapping item
        flatten fuel item)
      let g ← get
      return items.reverse.flatMap g.entries

end

end Merge

/--
Flatten a mapping.  Each level of the recursion takes three steps, and one entry
fewer is left that takes over others.
-/
def Graph.flatten (g : Graph) (id : NodeId) : Except Fault Graph := do
  match g.firstMerge? (g.entries id) with
  | none => return g.settleKeys id
  | some _ =>
    let (_, g) ← (Merge.flatten (3 * g.mergeCount + 3) id).run g
    return g

end DataContract.Yaml
