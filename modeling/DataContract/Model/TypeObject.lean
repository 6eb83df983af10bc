/-
The type objects of a document.

A type object is a mapping; the objects nested in it are the items of its entry
`nested_types`.
-/
import DataContract.Value.Basic

namespace DataContract

/-- A type object of a document: its entries, and the type objects nested in it. -/
inductive TypeObject where
  | mk (entries : List (Value × Value)) (nested : List TypeObject)

namespace TypeObject

/-- The entries of a type object. -/
def entries : TypeObject → Entries
  | .mk es _ => es

/-- The type objects directly inside. -/
def nested : TypeObject → List TypeObject
  | .mk _ ns => ns

/-- The name of the entry that holds the nested type objects. -/
def nestedKey : String := "nested_types"

mutual

/-- The type object that a value is; a value that is no mapping has no entries. -/
def ofValue : Value → TypeObject
  | .map es => .mk es (ofEntries es)
  | _ => .mk [] []

/-- The type objects that the first entry of the right name holds. -/
def ofEntries : List (Value × Value) → List TypeObject
  | [] => []
  | e :: rest => (ofNamed? e).getD (ofEntries rest)

/-- The type objects that an entry of the right name holds. -/
def ofNamed? : Value × Value → Option (List TypeObject)
  | (key, v) => if key.isStr nestedKey then some (ofListValue v) else none

/-- The type objects that a list holds. -/
def ofListValue : Value → List TypeObject
  | .list items => ofItems items
  | _ => []

/-- The type objects that values are. -/
def ofItems : List Value → List TypeObject
  | [] => []
  | v :: rest => ofValue v :: ofItems rest

end

/-- The source file that a type object gives itself. -/
def source? (t : TypeObject) : Option String :=
  (t.entries.get? "source_file").map (fun v => v.asStr?.getD "")

/-- The name of a type object. -/
def name (t : TypeObject) : String :=
  ((t.entries.get? "name").bind Value.asStr?).getD ""

end TypeObject

end DataContract
