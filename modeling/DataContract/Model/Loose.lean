/-
Type objects that no schema has checked.

A loose type keeps what its object gives it: any value can stand for a name, a
base type, a documentation or an initializer.  Only what has to be taken apart
is checked: its name, its kind, its members and the types nested in it, in this
order.
-/
import DataContract.Model.Reading

namespace DataContract

/-! ### Types -/

/-- A parameter that any value can name. -/
structure LooseParameter where
  name : Value
  type : TypeRef

/-- What every loose member has. -/
structure LooseHead where
  name : Value
  accessibility : Accessibility
  isStatic : Bool
  /-- The XML documentation comment; null if there is none. -/
  documentation : Value

/-- A loose property. -/
structure LooseProperty extends LooseHead where
  type : TypeRef
  /-- The text of the declaration after the name. -/
  initializer : Value

/-- A loose constant. -/
structure LooseConstant extends LooseHead where
  type : TypeRef
  /-- The text of the value. -/
  literal : String

/-- A loose method. -/
structure LooseMethod extends LooseHead where
  returnType : TypeRef
  parameters : List LooseParameter
  kind : MethodKind

/-- A loose constructor. -/
structure LooseConstructor extends LooseHead where
  parameters : List LooseParameter

/-- A loose member. -/
inductive LooseMember where
  | property (p : LooseProperty)
  | constant (c : LooseConstant)
  | enumValue (v : LooseHead)
  | method (m : LooseMethod)
  | constructor (c : LooseConstructor)

/-- Whether a loose member is static. -/
def LooseMember.isStatic : LooseMember → Bool
  | .property p => p.isStatic
  | .constant c => c.isStatic
  | .enumValue v => v.isStatic
  | .method m => m.isStatic
  | .constructor c => c.isStatic

/-- What a loose type declares, without the types nested in it. -/
structure LooseDeclaration where
  name : Value
  kind : TypeKind
  base : Value
  isStatic : Bool
  documentation : Value
  sourceFile : Value
  members : List LooseMember

/-- A loose type with the types nested in it. -/
inductive LooseType where
  | mk (decl : LooseDeclaration) (nested : List LooseType)

namespace LooseDeclaration

/-- The properties, in order. -/
def properties (d : LooseDeclaration) : List LooseProperty :=
  d.members.filterMap fun | .property p => some p | _ => none

/-- The constants, in order. -/
def constants (d : LooseDeclaration) : List LooseConstant :=
  d.members.filterMap fun | .constant c => some c | _ => none

/-- The values of an enumeration, in order. -/
def enumValues (d : LooseDeclaration) : List LooseHead :=
  d.members.filterMap fun | .enumValue v => some v | _ => none

/-- The methods, in order. -/
def methods (d : LooseDeclaration) : List LooseMethod :=
  d.members.filterMap fun | .method m => some m | _ => none

/-- The constructors, in order. -/
def constructors (d : LooseDeclaration) : List LooseConstructor :=
  d.members.filterMap fun | .constructor c => some c | _ => none

/-- Whether a type is an enumeration; a base type that cannot be compared with others is refused. -/
def isEnum (d : LooseDeclaration) : Except Crash Bool :=
  if d.kind == .enum then .ok true
  else if d.base.isKey then .ok (Declaration.enumBases.any (fun b => d.base.isStr b))
  else .error .notAKey

/-- The base type, unless it is the one that every type has. -/
def properBase? (d : LooseDeclaration) : Option String :=
  if d.base.isPresent && !Declaration.rootBases.any (fun b => d.base.isStr b) then some d.base.text
  else none

/-- Whether a type has static members only and says so. -/
def isStaticClass (d : LooseDeclaration) : Bool :=
  (d.isStatic || d.kind == .staticClass) && d.members.all (·.isStatic)

end LooseDeclaration

/-! ### Reading -/

namespace Entries

/-- An entry that must be there. -/
def needed (entries : Entries) (name : String) : Except Crash Value :=
  match entries.get? name with
  | some v => .ok v
  | none => .error .missingEntry

/-- An entry, or null. -/
def orNull (entries : Entries) (name : String) : Value :=
  (entries.get? name).getD .null

/-- The members of an entry that has to be a collection; there are none if the entry is missing. -/
def listed (entries : Entries) (name : String) : Except Crash (List Value) :=
  match entries.get? name with
  | some v =>
    match v.members? with
    | some items => .ok items
    | none => .error .notACollection
  | none => .ok []

end Entries

namespace LooseType

/-- The reference that a value writes. -/
def readReference : Value → Except Crash TypeRef
  | .str s => .ok (TypeRef.parse s)
  | _ => .error .notReadable

/-- A parameter. -/
def readParameter : Value → Except Crash LooseParameter
  | .map entries => do
    let name ← Entries.needed entries "name"
    return { name, type := ← readReference (← Entries.needed entries "type") }
  | _ => .error .notAnObject

/-- A list of parameters. -/
def readParameters (entries : Entries) : Except Crash (List LooseParameter) := do
  (← entries.listed "parameters").mapM readParameter

/-- What the members of a kind have, under a name. -/
def readHead (kind : MemberKind) (entries : Entries) (name : Value)
    (accessibility : Accessibility) : LooseHead where
  name := name
  accessibility := accessibility
  isStatic := entries.bool "is_static" (kind == .constant || kind == .enumValue)
  documentation := entries.orNull "documentation"

/-- A member, by its entries. -/
def readEntries (entries : Entries) : Except Crash LooseMember := do
  let tag ← entries.needed Schema.discriminator
  match tag.asStr?.bind MemberKind.ofWord? with
  | none => .error .unknownWord
  | some kind =>
    let accessibility ← entries.word "accessibility" Accessibility.ofWord? .publicAccess
    let name ←
      match kind with
      | .constructor => pure ((entries.get? "name").getD (.str ".ctor"))
      | _ => entries.needed "name"
    let head := readHead kind entries name accessibility
    match kind with
    | .property =>
      return .property { head with
        type := ← readReference (← entries.needed "type")
        initializer := entries.orNull "initializer_source_text" }
    | .constant =>
      let type ← readReference (← entries.needed "type")
      return .constant { head with
        type
        literal := ← readLiteral (← entries.needed "value") }
    | .enumValue => return .enumValue head
    | .method =>
      return .method { head with
        returnType := ← readReference ((entries.get? "return_type").getD (.str "void"))
        parameters := ← readParameters entries
        kind := ← entries.word "method_kind" MethodKind.ofWord? .ordinary }
    | .constructor => return .constructor { head with parameters := ← readParameters entries }

/-- A member. -/
def readMember : Value → Except Crash LooseMember
  | .map entries => readEntries entries
  | _ => .error .notAnObject

/-- What a type object declares itself. -/
def readDeclaration (sourceFile : Value) (entries : Entries) : Except Crash LooseDeclaration := do
  return {
    name := ← entries.needed "name"
    kind := ← entries.word "kind" TypeKind.ofWord? .plainClass
    members := ← (← entries.listed "members").mapM readMember
    base := entries.orNull "base_type"
    isStatic := entries.bool "is_static" false
    documentation := entries.orNull "documentation"
    sourceFile }

mutual

/-- The loose type that a value is, nested in one with a source file. -/
def ofValue (inherited : Value) : Value → Except Crash LooseType
  | .map entries => do
    let source := (Entries.get? entries "source_file").getD inherited
    let decl ← readDeclaration source entries
    return .mk decl (← ofEntries source entries)
  | _ => .error .notAMapping

/-- The loose types that the first entry of the right name lists. -/
def ofEntries (inherited : Value) : List (Value × Value) → Except Crash (List LooseType)
  | [] => .ok []
  | e :: rest => (ofNamed? inherited e).getD (ofEntries inherited rest)

/-- The loose types that an entry of the right name lists. -/
def ofNamed? (inherited : Value) : Value × Value → Option (Except Crash (List LooseType))
  | (key, v) => if key.isStr TypeObject.nestedKey then some (ofListed inherited v) else none

/-- The loose types that a collection lists: no member of another one than a list is a mapping. -/
def ofListed (inherited : Value) : Value → Except Crash (List LooseType)
  | .list items => ofItems inherited items
  | v =>
    match v.members? with
    | some [] => .ok []
    | some _ => .error .notAMapping
    | none => .error .notACollection

/-- The loose types that values are. -/
def ofItems (inherited : Value) : List Value → Except Crash (List LooseType)
  | [] => .ok []
  | v :: rest => do
    let first ← ofValue inherited v
    return first :: (← ofItems inherited rest)

end

/-- What the type declares itself. -/
def decl : LooseType → LooseDeclaration
  | .mk d _ => d

end LooseType

/-! ### Type objects, checked or not -/

/-- A type object that was read: a contract type if the schema accepts the object. -/
inductive ReadType where
  | contract (t : ContractType)
  | loose (t : LooseType)

namespace ReadType

/-- Read a type object at the top. -/
def ofValue (v : Value) : Except Crash ReadType :=
  if (Schema.issues .contractType [] v).isEmpty then
    (readType "" (TypeObject.ofValue v)).map .contract
  else (LooseType.ofValue (.str "") v).map .loose

/-- The name, which any value can be. -/
def name : ReadType → Value
  | .contract t => .str t.name
  | .loose t => t.decl.name

end ReadType

end DataContract
