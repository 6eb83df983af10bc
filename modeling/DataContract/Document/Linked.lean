/-
Documents in which a collection can have several places.

The parts of such a document are objects with numbers.  A collection holds the
numbers of its parts, so it can contain itself.  Unfolding an object gives a
value, a finite tree: it ends where it would enter a collection again that it
is inside of.
-/
import DataContract.Value.Basic

namespace DataContract

/-- The number of an object in its document. -/
abbrev ObjectId := Nat

/-- A part of a document. -/
inductive Object where
  | plain (v : Value)
  | list (items : List ObjectId)
  /-- A list of pairs. -/
  | pairs (items : List (ObjectId × ObjectId))
  | map (entries : List (Value × ObjectId))
  | set (items : List Value)

/-- A document: its objects, each under its number, and the one that stands for the whole. -/
structure Linked where
  objects : Array Object
  root : ObjectId

namespace Linked

/-- The object with a number. -/
def object (d : Linked) (id : ObjectId) : Object :=
  d.objects.getD id (.plain .null)

/-- A document of one value. -/
def ofValue (v : Value) : Linked := ⟨#[.plain v], 0⟩

/-- What an unfolding is inside of: an object, or one of the pairs that it holds. -/
structure Inside where
  object : ObjectId
  pair : Option Nat
  deriving DecidableEq

/-- The values of the objects that are known not to contain themselves. -/
abbrev Settled := Array (Option Value)

/-- A value, and whether it is all there: it does not end at a collection that it is inside of. -/
abbrev Unfolded := Value × Bool

/-- Unfold the two parts of a pair with a way to unfold objects. -/
def unfoldPair (unfold : ObjectId → StateM Settled Unfolded) (key item : ObjectId) :
    StateM Settled Unfolded := do
  let (k, whole) ← unfold key
  let (v, whole') ← unfold item
  return (.pair k v, whole && whole')

/-- Unfold an object inside of others. -/
def unfold (d : Linked) : Nat → List Inside → ObjectId → StateM Settled Unfolded
  | 0, _, _ => pure (.null, true)
  | fuel + 1, path, id => do
    let here := ⟨id, none⟩ :: path
    let entered := path.contains ⟨id, none⟩
    match ((← get)[id]?).join with
    | some v => return (v, true)
    | none =>
      let (v, whole) ←
        match d.object id with
        | .plain v => pure (v, true)
        | .set items => pure (.set items, true)
        | .list items =>
          if entered then pure (.again .list, false)
          else do
            let parts ← items.mapM (unfold d fuel here)
            pure (.list (parts.map (·.1)), parts.all (·.2))
        | .pairs items =>
          if entered then pure (.again .list, false)
          else do
            let parts ← items.zipIdx.mapM (fun ((key, item), i) =>
              if path.contains ⟨id, some i⟩ then pure (.again .pair, false)
              else unfoldPair (unfold d fuel (⟨id, some i⟩ :: here)) key item)
            pure (.list (parts.map (·.1)), parts.all (·.2))
        | .map entries =>
          if entered then pure (.again .map, false)
          else do
            let parts ← entries.mapM (fun (key, item) => do
              let (v, whole) ← unfold d fuel here item
              return ((key, v), whole))
            pure (.map (parts.map (·.1)), parts.all (·.2))
      if whole then modify (·.setIfInBounds id (some v))
      return (v, whole)

/-- No path enters an object twice, so the number of objects bounds the depth. -/
def depthBound (d : Linked) : Nat := d.objects.size + 1

/-- The value of an object on its own. -/
def valueOf (d : Linked) (id : ObjectId) : StateM Settled Value := do
  return (← d.unfold d.depthBound [] id).1

/-- The value of one of the pairs that an object holds, on its own. -/
def pairValueOf (d : Linked) (id : ObjectId) (index : Nat) (key item : ObjectId) :
    StateM Settled Value := do
  return (← unfoldPair (d.unfold d.depthBound [⟨id, some index⟩]) key item).1

/-- Nothing is known about the objects of a document yet. -/
def unsettled (d : Linked) : Settled :=
  Array.replicate d.objects.size none

end Linked

end DataContract
