/-
The members of a contract type.
-/
import DataContract.Model.TypeRef

namespace DataContract

/-- Who may use a member. -/
inductive Accessibility where
  | publicAccess
  | internalAccess
  | protectedAccess
  | privateAccess
  deriving DecidableEq

/-- The ways in which a method can be declared. -/
inductive MethodKind where
  | ordinary
  | operator
  | conversion
  | accessor
  deriving DecidableEq

/-- The kinds of members. -/
inductive MemberKind where
  | property
  | constant
  | enumValue
  | method
  | constructor
  deriving DecidableEq

/-! ### The words for them in a document -/

namespace Accessibility

/-- All of them. -/
def all : List Accessibility := [.publicAccess, .internalAccess, .protectedAccess, .privateAccess]

/-- The word for an accessibility. -/
def word : Accessibility → String
  | .publicAccess => "public"
  | .internalAccess => "internal"
  | .protectedAccess => "protected"
  | .privateAccess => "private"

/-- The accessibility that a word names. -/
def ofWord? (w : String) : Option Accessibility :=
  all.find? (fun a => a.word == w)

end Accessibility

namespace MethodKind

/-- All of them. -/
def all : List MethodKind := [.ordinary, .operator, .conversion, .accessor]

/-- The word for a kind of method. -/
def word : MethodKind → String
  | .ordinary => "ordinary"
  | .operator => "operator"
  | .conversion => "conversion"
  | .accessor => "accessor"

/-- The kind of method that a word names. -/
def ofWord? (w : String) : Option MethodKind :=
  all.find? (fun k => k.word == w)

end MethodKind

namespace MemberKind

/-- All of them. -/
def all : List MemberKind := [.property, .constant, .enumValue, .method, .constructor]

/-- The word for a kind of member. -/
def word : MemberKind → String
  | .property => "property"
  | .constant => "const_field"
  | .enumValue => "enum_value"
  | .method => "method"
  | .constructor => "constructor"

/-- The kind of member that a word names. -/
def ofWord? (w : String) : Option MemberKind :=
  all.find? (fun k => k.word == w)

end MemberKind

/-! ### The members -/

/-- A parameter of a method or a constructor. -/
structure Parameter where
  name : String
  type : TypeRef
  deriving DecidableEq

/-- What every member has. -/
structure MemberHead where
  name : String
  accessibility : Accessibility
  isStatic : Bool
  /-- The XML documentation comment. -/
  documentation : Option String
  deriving DecidableEq

/-- A property. -/
structure Property extends MemberHead where
  type : TypeRef
  /-- The text of the declaration after the name, such as `{ get; set; } = 5;`. -/
  initializer : Option String
  deriving DecidableEq

/-- A named constant. -/
structure Constant extends MemberHead where
  type : TypeRef
  /-- The text of the value. -/
  literal : String
  deriving DecidableEq

/-- A value of an enumeration. -/
structure EnumValue extends MemberHead
  deriving DecidableEq

/-- A method. -/
structure Method extends MemberHead where
  returnType : TypeRef
  parameters : List Parameter
  kind : MethodKind
  deriving DecidableEq

/-- A constructor. -/
structure Constructor extends MemberHead where
  parameters : List Parameter
  deriving DecidableEq

/-- A member of a contract type. -/
inductive Member where
  | property (p : Property)
  | constant (c : Constant)
  | enumValue (v : EnumValue)
  | method (m : Method)
  | constructor (c : Constructor)
  deriving DecidableEq

namespace Member

/-- What a member has in common with every other one. -/
def head : Member → MemberHead
  | .property p => p.toMemberHead
  | .constant c => c.toMemberHead
  | .enumValue v => v.toMemberHead
  | .method m => m.toMemberHead
  | .constructor c => c.toMemberHead

/-- The kind of a member. -/
def kind : Member → MemberKind
  | .property _ => .property
  | .constant _ => .constant
  | .enumValue _ => .enumValue
  | .method _ => .method
  | .constructor _ => .constructor

end Member

end DataContract
