/-
Contract types and what is nested in them.
-/
import DataContract.Model.Member

namespace DataContract

/-- The kinds of contract types. -/
inductive TypeKind where
  | plainClass
  | staticClass
  | enum
  deriving DecidableEq

namespace TypeKind

/-- All of them. -/
def all : List TypeKind := [.plainClass, .staticClass, .enum]

/-- The word for a kind of type. -/
def word : TypeKind → String
  | .plainClass => "class"
  | .staticClass => "static_class"
  | .enum => "enum"

/-- The kind of type that a word names. -/
def ofWord? (w : String) : Option TypeKind :=
  all.find? (fun k => k.word == w)

end TypeKind

/-- What a type declares, without the types nested in it. -/
structure Declaration where
  name : String
  kind : TypeKind
  /-- The name of the base type. -/
  base : Option String
  isStatic : Bool
  /-- The XML documentation comment. -/
  documentation : Option String
  /-- The source file, relative to the root of its repository. -/
  sourceFile : String
  members : List Member
  deriving DecidableEq

namespace Declaration

/-- The properties, in order. -/
def properties (d : Declaration) : List Property :=
  d.members.filterMap fun | .property p => some p | _ => none

/-- The constants, in order. -/
def constants (d : Declaration) : List Constant :=
  d.members.filterMap fun | .constant c => some c | _ => none

/-- The values of an enumeration, in order. -/
def enumValues (d : Declaration) : List EnumValue :=
  d.members.filterMap fun | .enumValue v => some v | _ => none

/-- The methods, in order. -/
def methods (d : Declaration) : List Method :=
  d.members.filterMap fun | .method m => some m | _ => none

/-- The constructors, in order. -/
def constructors (d : Declaration) : List Constructor :=
  d.members.filterMap fun | .constructor c => some c | _ => none

/-- The base types that make a type an enumeration. -/
def enumBases : List String := ["Enum", "System.Enum"]

/-- The base types that every type has. -/
def rootBases : List String := ["Object", "object", "System.Object"]

/-- Whether a type is an enumeration, by its kind or by its base type. -/
def isEnum (d : Declaration) : Bool :=
  d.kind == .enum || d.base.any enumBases.contains

/-- The base type, unless it is the one that every type has. -/
def properBase? (d : Declaration) : Option String :=
  d.base.filter (fun b => b != "" && !rootBases.contains b)

/-- Whether a type has static members only and says so. -/
def isStaticClass (d : Declaration) : Bool :=
  (d.isStatic || d.kind == .staticClass) && d.members.all (·.head.isStatic)

end Declaration

/-- A contract type with the types nested in it. -/
inductive ContractType where
  | mk (decl : Declaration) (nested : List ContractType)

namespace ContractType

/-- What the type declares itself. -/
def decl : ContractType → Declaration
  | .mk d _ => d

/-- The types directly inside. -/
def nested : ContractType → List ContractType
  | .mk _ ns => ns

/-- The name of the type. -/
def name (t : ContractType) : String :=
  t.decl.name

mutual

/-- The type and all types nested in it, each before what is nested in it. -/
def walk : ContractType → List ContractType
  | .mk d ns => .mk d ns :: walkAll ns

/-- All types of a list and those nested in them. -/
def walkAll : List ContractType → List ContractType
  | [] => []
  | t :: rest => walk t ++ walkAll rest

end

mutual

/-- The type without the nested types whose names are excluded, at every depth. -/
def prune (excluded : String → Bool) : ContractType → ContractType
  | .mk d ns => .mk d (pruneAll excluded ns)

/-- The types of a list whose names are not excluded, each without what is excluded in it. -/
def pruneAll (excluded : String → Bool) : List ContractType → List ContractType
  | [] => []
  | t :: rest =>
    if excluded t.name then pruneAll excluded rest
    else prune excluded t :: pruneAll excluded rest

end

end ContractType

/-- A contract model: the types of one namespace. -/
structure Model where
  namespaceName : String
  irVersion : String
  types : List ContractType

namespace Model

/-- The first type at the top with a name. -/
def find? (m : Model) (name : String) : Option ContractType :=
  m.types.find? (fun t => t.name == name)

/-- The number of types at all depths. -/
def typeCount (m : Model) : Nat :=
  (ContractType.walkAll m.types).length

end Model

end DataContract
