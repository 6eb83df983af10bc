/-
The objects of a YAML text.

Every node becomes one object.  A collection is empty when it is first met and
waits to be filled; the collections are filled in the order in which they were
met, so of several faults the one counts that this order comes to first.  A
key has to be known when its mapping is filled, so it cannot be a collection.
-/
import DataContract.Document.Linked
import DataContract.Yaml.Content
import DataContract.Yaml.Merge

namespace DataContract.Yaml

/-- The objects so far. -/
structure Filling where
  graph : Graph
  /-- The objects of the nodes that have been met. -/
  objects : Array (Option Object)
  /-- The collections, in the order in which they were met. -/
  collections : Array NodeId

/-- A step that makes objects. -/
abbrev Fill (α : Type) := StateT Filling (Except Fault) α

namespace Fill

/-- Make a node the given object. -/
def assign (id : NodeId) (o : Object) : Fill Unit :=
  modify (fun f => { f with objects := f.objects.setIfInBounds id (some o) })

/-- The empty collection of a tag. -/
def emptyCollection? : Tag → Option Object
  | .seq => some (.list [])
  | .pairs => some (.pairs [])
  | .map => some (.map [])
  | .set => some (.set [])
  | _ => none

/-- Meet a node. -/
def meet (id : NodeId) : Fill Unit := do
  let f ← get
  match (f.objects[id]?).join with
  | some _ => return ()
  | none =>
    match emptyCollection? (f.graph.get id).tag with
    | some o =>
      assign id o
      modify (fun f => { f with collections := f.collections.push id })
    | none => assign id (.plain (← f.graph.scalarValue id))

/-- The value of a key. -/
def keyValue (id : NodeId) : Fill Value := do
  meet id
  match ((← get).objects[id]?).join with
  | some (.plain v) => return v
  | _ => throw .malformed

/-- The items of a sequence. -/
def sequenceItems (id : NodeId) : Fill (List NodeId) := do
  match ((← get).graph.get id).content with
  | .sequence items => return items
  | _ => throw .malformed

/-- The entries of a mapping, after those that it takes over. -/
def mappingEntries (id : NodeId) : Fill (List (NodeId × NodeId)) := do
  let f ← get
  match (f.graph.get id).content with
  | .mapping _ =>
    let graph ← f.graph.flatten id
    set { f with graph }
    return graph.entries id
  | _ => throw .malformed

/-- The entry of a mapping that has only one. -/
def singleEntry (id : NodeId) : Fill (NodeId × NodeId) := do
  match ((← get).graph.get id).content with
  | .mapping [entry] => return entry
  | _ => throw .malformed

/-- Fill a sequence. -/
def fillList (id : NodeId) : Fill Unit := do
  let items ← sequenceItems id
  items.forM meet
  assign id (.list items)

/-- Fill a list of pairs; each one is written as a mapping with one entry. -/
def fillPairs (id : NodeId) : Fill Unit := do
  let pairs ← (← sequenceItems id).mapM (fun item => do
    let (key, value) ← singleEntry item
    meet key
    meet value
    return (key, value))
  assign id (.pairs pairs)

/-- The entries of a mapping with the values of their keys. -/
def keyedEntries (id : NodeId) : Fill (List (Value × NodeId)) := do
  (← mappingEntries id).mapM (fun (key, item) => do
    let k ← keyValue key
    meet item
    return (k, item))

/-- Fill a mapping; of the same keys the first place and the last value stay. -/
def fillMap (id : NodeId) : Fill Unit := do
  let pairs ← keyedEntries id
  assign id (.map (pairs.foldl (fun acc (key, item) => putKey key item acc) []))

/-- Fill a set with the keys of a mapping. -/
def fillSet (id : NodeId) : Fill Unit := do
  let pairs ← keyedEntries id
  assign id (.set (Value.distinct (pairs.map (·.1))))

/-- Fill a collection. -/
def fill (id : NodeId) : Fill Unit := do
  match ((← get).graph.get id).tag with
  | .seq => fillList id
  | .pairs => fillPairs id
  | .map => fillMap id
  | .set => fillSet id
  | _ => return ()

/-- Fill the collections from the one at a place on. -/
def fillFrom : Nat → Nat → Fill Unit
  | 0, _ => return ()
  | fuel + 1, place => do
    match (← get).collections[place]? with
    | none => return ()
    | some id =>
      fill id
      fillFrom fuel (place + 1)

/-- The objects that can be reached from a node; a node is filled at most once. -/
def document (root : NodeId) : Fill Unit := do
  let size := (← get).graph.size
  meet root
  fillFrom size 0

end Fill

/-- The document of a graph. -/
def Graph.document (g : Graph) (root : NodeId) : Except Fault Linked := do
  let start : Filling :=
    { graph := g, objects := Array.replicate g.size none, collections := #[] }
  let (_, f) ← (Fill.document root).run start
  return ⟨f.objects.map (·.getD (.plain .null)), root⟩

/-- The document of a graph; a text without a node is null. -/
def Graph.documentOf (g : Graph) : Option NodeId → Except Fault Linked
  | none => .ok (.ofValue .null)
  | some root => g.document root

/-- The document of a YAML text, none of whose characters may be forbidden. -/
def parse (text : String) : Except Fault Linked := do
  let s := text.toList.map Text.received
  if s.all isAllowed then
    let (g, root) ← Graph.parse s
    g.documentOf root
  else .error .malformed

end DataContract.Yaml
