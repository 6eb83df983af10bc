/-
The values that documents and configuration files hold.

A mapping keeps its entries in document order.  Two keys that are equal count
as one: the first spelling and its place stay, and the last value wins.  As
keys, truth values count as the numbers zero and one, and an integer equals the
floating-point number of the same value.

A document may refer to a collection from inside that collection.  A value is a
finite tree all the same: where it would enter a collection again that it lies
in, it ends with a mark of the collection's shape.
-/
import DataContract.Number.Binary64
import DataContract.Value.Calendar

namespace DataContract

/-- The shapes of the collections that can contain themselves. -/
inductive Shape where
  | list
  | map
  | pair
  deriving DecidableEq

/-- A value of a document. -/
inductive Value where
  | null
  | bool (b : Bool)
  | int (i : Int)
  | float (x : Binary64)
  /-- The result of a calculation that gives no number; it is the same as itself only. -/
  | noNumber (label : Nat)
  | str (s : String)
  | bytes (data : List UInt8)
  | date (d : Date)
  | moment (m : Moment)
  | list (items : List Value)
  | map (entries : List (Value × Value))
  | set (items : List Value)
  | pair (first second : Value)
  /-- A collection that this value lies in. -/
  | again (shape : Shape)

instance : Inhabited Value := ⟨.null⟩

namespace Value

/-- The number that a value is as a key, when it is a finite one. -/
def asInteger? : Value → Option Int
  | .bool b => some (if b then 1 else 0)
  | .int i => some i
  | .float x => x.toInt?
  | _ => none

/-- Whether two values are the same key. -/
def sameKey : Value → Value → Bool
  | .null, .null => true
  | .noNumber i, .noNumber j => i == j
  | .str s, .str t => s == t
  | .bytes s, .bytes t => s == t
  | .date d, .date e => d == e
  | .moment m, .moment n => m.same n
  | .float x, .float y => x == y || (x.isZero && y.isZero)
  | .pair a b, .pair c d => sameKey a c && sameKey b d
  | a, b =>
    match a.asInteger?, b.asInteger? with
    | some i, some j => i == j
    | _, _ => false

/-- Whether a value can be a key or a member of a set: every value that is not a collection. -/
def isKey : Value → Bool
  | .list _ => false
  | .map _ => false
  | .set _ => false
  | .pair a b => isKey a && isKey b
  | .again _ => false
  | _ => true

/-- Whether a value counts as present: not null, false, zero or empty. -/
def isPresent : Value → Bool
  | .null => false
  | .bool b => b
  | .int i => i ≠ 0
  | .float x => !x.isZero
  | .noNumber _ => true
  | .str s => s ≠ ""
  | .bytes data => !data.isEmpty
  | .list items => !items.isEmpty
  | .map entries => !entries.isEmpty
  | .set items => !items.isEmpty
  | .pair _ _ => true
  | .again _ => true
  | .date _ => true
  | .moment _ => true

/-- The text of a text value. -/
def asStr? : Value → Option String
  | .str s => some s
  | _ => none

/-- The members of a collection: the characters of a text, the keys of a mapping. -/
def members? : Value → Option (List Value)
  | .list items => some items
  | .bytes data => some (data.map (fun b => .int b.toNat))
  | .set items => some items
  | .map entries => some (entries.map (·.1))
  | .str s => some (s.toList.map (fun ch => .str (String.singleton ch)))
  | _ => none

/-- Whether a value is the text `name`. -/
def isStr (name : String) : Value → Bool
  | .str s => s == name
  | _ => false

end Value

/-- Set what belongs to a key: in the place of the same key, or at the end. -/
def putKey {α : Type} (key : Value) (a : α) : List (Value × α) → List (Value × α)
  | [] => [(key, a)]
  | (k, b) :: rest => if k.sameKey key then (k, a) :: rest else (k, b) :: putKey key a rest

/-- The entries of a mapping, in document order. -/
abbrev Entries := List (Value × Value)

namespace Entries

/-- The value of the entry named `name`. -/
def get? (entries : Entries) (name : String) : Option Value :=
  (entries.find? (fun e => e.1.isStr name)).map (·.2)

/-- Whether there is an entry named `name`. -/
def has (entries : Entries) (name : String) : Bool :=
  (get? entries name).isSome

/-- Set the value of a key: in the place of the same key, or at the end. -/
def insert (key value : Value) (entries : Entries) : Entries :=
  putKey key value entries

/-- The entries in which every key occurs once, at its first place and with its last value. -/
def ofPairs (pairs : List (Value × Value)) : Entries :=
  pairs.foldl (fun acc (k, v) => insert k v acc) []

end Entries

/-- The members of a set, each at its first occurrence. -/
def Value.distinct (items : List Value) : List Value :=
  items.foldl (fun acc v => if acc.any (·.sameKey v) then acc else acc ++ [v]) []

end DataContract
