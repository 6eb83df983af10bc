/-
Reading a document along a schema.

Where a schema looks into a collection, the parts of the collection are values
on their own, as if each of them were the whole document.  A document whose
types lie in themselves has no such reading, since it would not end.
-/
import DataContract.Document.Fault
import DataContract.Document.Linked
import DataContract.Schema.Basic

namespace DataContract.Linked

/-- The schemas of the entries that a schema looks into. -/
def entrySchemas : Schema → List (String × Schema)
  | .record _ named => named
  | .variant options =>
    options.flatMap (fun (_, s) => match s with
      | .record _ named => named
      | _ => [])
  | _ => []

/-- A step of a reading along a schema. -/
abbrev Reading (α : Type) := StateT Settled (Except Fault) α

/-- A value on its own. -/
def alone {α : Type} (unfold : StateM Settled α) : Reading α :=
  fun settled => .ok (unfold.run settled)

/-- The value of an object along a schema. -/
def follow (d : Linked) : Nat → Schema → ObjectId → Reading Value
  | 0, _, _ => throw .recursive
  | fuel + 1, s, id =>
    match s.resolve, d.object id with
    | .list item, .list items => return .list (← items.mapM (follow d fuel item))
    | .list _, .pairs items => do
      let parts ← items.zipIdx.mapM (fun ((key, item), i) => alone (d.pairValueOf id i key item))
      return .list parts
    | s, .map entries => do
      let parts ← entries.mapM (fun (key, item) => do
        match (entrySchemas s).find? (fun n => key.isStr n.1) with
        | some (_, s) => return (key, ← follow d fuel s item)
        | none => return (key, ← alone (d.valueOf item)))
      return .map parts
    | _, _ => alone (d.valueOf id)

/--
The value of a document along a schema.  A type needs two steps for the types
in it, and other places of a schema lie fewer than six steps deep.
-/
def along (d : Linked) (s : Schema) : Except Fault Value :=
  (d.follow (2 * d.depthBound + 6) s d.root).run' d.unsettled

end DataContract.Linked
