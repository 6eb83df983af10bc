/-
The Java declarations of a contract type.

Fields come from properties and constants, constructors assign their
parameters to fields, and public static methods call the companion.  Instance
methods have no place in a contract.
-/
import DataContract.Java.Draft
import DataContract.Java.Initializer
import DataContract.Java.Source
import DataContract.Model.ContractType

namespace DataContract.Java

/-- The annotation of fields that are written to JSON. -/
def exposeType : String := "com.google.gson.annotations.Expose"

/-- The annotation that gives the name in JSON. -/
def serializedNameType : String := "com.google.gson.annotations.SerializedName"

/-- What decides the Java declarations of contracts. -/
structure Dialect where
  table : TypeTable
  companion : Companion

namespace Dialect

/-! ### Parameters -/

/-- Set the type of a parameter: in the place of one of the same name, or at the end. -/
def setParameter (p : FormalParameter) : List FormalParameter → List FormalParameter
  | [] => [p]
  | q :: rest => if q.name == p.name then p :: rest else q :: setParameter p rest

/-- The parameters after those of a list; two that have one name in Java become one. -/
def parametersAfter (x : Dialect) (owner : String) (acc : List FormalParameter) :
    List Parameter → Draft UnsupportedType (List FormalParameter)
  | [] => pure acc
  | p :: rest => do
    let type ← Draft.typeOf x.table p.type (owner ++ "(" ++ p.name ++ ")")
    x.parametersAfter owner (setParameter ⟨identifier p.name, type⟩ acc) rest

/-- The parameters of a constructor or a method in Java. -/
def parameters (x : Dialect) (owner : String) (ps : List Parameter) :
    Draft UnsupportedType (List FormalParameter) :=
  x.parametersAfter owner [] ps

/-! ### Members -/

/-- The names of the instance fields of a type. -/
def fieldNames (d : Declaration) : List String :=
  (d.properties.filter (fun p => !p.isStatic)).map (fun p => identifier p.name)

/-- The parameters without a field of the same name. -/
def unmatched (d : Declaration) (ps : List FormalParameter) : List String :=
  (ps.map (·.name)).filter (fun name => !(fieldNames d).contains name)

/-- The notice of parameters without a field of the same name. -/
def unmatchedNotice (type : String) (names : List String) : Notice :=
  ⟨.warning, type ++ " constructor parameter(s) " ++ commaSeparated names
    ++ " have no matching property"⟩

/-- A constructor in Java, unless it has no parameters. -/
def constructor (x : Dialect) (d : Declaration) (c : Constructor) :
    Draft UnsupportedType (List ClassMember) := do
  let ps ← x.parameters d.name c.parameters
  if ps.isEmpty then return []
  if !(unmatched d ps).isEmpty then
    Draft.notify (unmatchedNotice d.name (unmatched d ps))
  return [.constructor ⟨c.documentation, d.name, ps⟩]

/-- The notice of an initializer that does not end. -/
def initializerNotice (type property : String) (e : UnterminatedInitializer) : Notice :=
  ⟨.warning, type ++ "." ++ property ++ ": " ++ e.message ++ "; emitting without initializer"⟩

/-- The initial value of a property; that of a static one is kept in the companion. -/
def propertyValue (x : Dialect) (d : Declaration) (p : Property) :
    Draft UnsupportedType (Option String) :=
  if p.isStatic && !d.isStaticClass then
    return some (x.companion.reference d.name (identifier p.name))
  else
    match p.initializer.mapM extract with
    | .ok initializer => return initialValue initializer.join
    | .error e => do
      Draft.notify (initializerNotice d.name p.name e)
      return none

/-- A property as a field. -/
def property (x : Dialect) (d : Declaration) (p : Property) :
    Draft UnsupportedType ClassMember := do
  let type ← Draft.typeOf x.table p.type (d.name ++ "." ++ p.name)
  let value ← x.propertyValue d p
  return .field {
    documentation := p.documentation
    isPublic := p.accessibility == .publicAccess
    isStatic := p.isStatic
    type, value
    name := identifier p.name }

/-- A constant as a field. -/
def constant (x : Dialect) (d : Declaration) (c : Constant) :
    Draft UnsupportedType ClassMember := do
  let type ← Draft.typeOf x.table c.type (d.name ++ "." ++ c.name)
  return .constant {
    documentation := c.documentation
    isPublic := c.accessibility == .publicAccess
    type
    name := identifier c.name
    literal := c.literal }

/-- Whether a method is forwarded to the companion. -/
def isForwarded (m : Method) : Bool :=
  m.isStatic && m.kind == .ordinary && m.accessibility == .publicAccess

/-- A method that calls the companion. -/
def method (x : Dialect) (d : Declaration) (m : Method) : Draft UnsupportedType ClassMember := do
  let owner := d.name ++ "." ++ m.name
  let returnType ← Draft.typeOf x.table m.returnType owner
  let ps ← x.parameters owner m.parameters
  return .method {
    documentation := m.documentation
    returnType
    name := identifier m.name
    parameters := ps
    call := x.companion.call d.name (identifier m.name) (ps.map (·.name)) }

/-- The members of a class in Java. -/
def members (x : Dialect) (d : Declaration) : Draft UnsupportedType (List ClassMember) := do
  let constructors ← d.constructors.mapM (x.constructor d)
  let properties ← d.properties.mapM (x.property d)
  let constants ← d.constants.mapM (x.constant d)
  let methods ← (d.methods.filter isForwarded).mapM (x.method d)
  return constructors.flatten ++ properties ++ constants ++ methods

/-! ### Types -/

/-- An enumeration in Java. -/
def enumeration (d : Declaration) : Draft UnsupportedType TypeDeclaration := do
  Draft.require [serializedNameType, exposeType]
  return .enumeration ⟨d.documentation, "public enum", d.name, none⟩
    (d.enumValues.map (fun v => ⟨v.documentation, v.name, identifier v.name⟩))

/-- The words before the name of a class. -/
def classKeywords (isStatic : Bool) : String :=
  if isStatic then "public static class" else "public class"

/-- What opens a class; in Java only a nested class can be static. -/
def classHead (isNested : Bool) (d : Declaration) : TypeHead where
  documentation := d.documentation
  keywords := classKeywords (d.isStaticClass && isNested)
  name := d.name
  base := d.properBase?

mutual

/-- A type in Java, without the nested types whose names are excluded. -/
def type (x : Dialect) (excluded : String → Bool) (isNested : Bool) :
    ContractType → Draft UnsupportedType TypeDeclaration
  | .mk d nested =>
    if d.isEnum then enumeration d
    else do
      Draft.require (if d.isStaticClass then [] else [exposeType])
      let members ← x.members d
      let types ← x.types excluded nested
      return .classType (classHead isNested d) members types

/-- The types of a list whose names are not excluded, nested in Java. -/
def types (x : Dialect) (excluded : String → Bool) :
    List ContractType → Draft UnsupportedType (List TypeDeclaration)
  | [] => pure []
  | t :: rest =>
    if excluded t.name then x.types excluded rest
    else do
      let first ← x.type excluded true t
      return first :: (← x.types excluded rest)

end

end Dialect

end DataContract.Java
