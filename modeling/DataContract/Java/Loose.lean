/-
Writing the Java file of a loose type.

Every name is written as its text.  Where more than the text of a value is
needed, a value that does not have it ends the work: a documentation and an
initializer have to be texts, names that are compared have to be keys, and names
that are joined with others have to be texts.
-/
import DataContract.Java.Limit
import DataContract.Model.Loose

namespace DataContract.Java

/-- Drafting a loose type. -/
abbrev LooseDraft (α : Type) := Draft (Failure UnsupportedType) α

namespace LooseDraft

/-- Go on with a result, or crash. -/
def orCrash {α : Type} (result : Except Crash α) : LooseDraft α :=
  Draft.ofExcept (result.mapError .crash)

/-- The Java type of a reference, with its import. -/
def typeOf (t : TypeTable) (r : TypeRef) (member : String) : LooseDraft String :=
  (Draft.typeOf t r member).mapError .reported

end LooseDraft

/-! ### Values in the place of texts -/

/--
The name in Java of what a value names.  A value that is not present stays as it
is; of the others only a text has a first character to write small.
-/
def looseIdentifier (v : Value) : Except Crash Value :=
  if v.isPresent then
    match v with
    | .str s => .ok (.str (identifier s))
    | .list (.str _ :: _) => .error .notAText
    | .list _ => .error .notReadable
    | .map _ => .error .missingEntry
    | _ => .error .notAName
  else .ok v

/-- The name in Java of what a value names, as a key. -/
def keyIdentifier (v : Value) : Except Crash Value := do
  let name ← looseIdentifier v
  if name.isKey then return name else .error .notAKey

/-- A documentation, unless it is null. -/
def looseDocumentation : Value → Except Crash (Option String)
  | .null => .ok none
  | .str s => .ok (some s)
  | _ => .error .notReadable

/-- A text. -/
def textOf : Value → Except Crash String
  | .str s => .ok s
  | _ => .error .notAText

/-- The names of the instance fields of a loose type. -/
def looseFieldNames (d : LooseDeclaration) : Except Crash (List Value) :=
  (d.properties.filter (fun p => !p.isStatic)).mapM (fun p => keyIdentifier p.name)

namespace Dialect

open LooseDraft (orCrash)

/-! ### Parameters -/

/-- The parameters after those of a list; two that have one name in Java become one. -/
def looseParametersAfter (x : Dialect) (owner : String) (acc : List (Value × String)) :
    List LooseParameter → LooseDraft (List (Value × String))
  | [] => pure acc
  | p :: rest => do
    let name ← orCrash (looseIdentifier p.name)
    let type ← LooseDraft.typeOf x.table p.type (owner ++ "(" ++ p.name.text ++ ")")
    if name.isKey then x.looseParametersAfter owner (putKey name type acc) rest
    else orCrash (.error .notAKey)

/-- The parameters of a constructor or a method, by their names in Java. -/
def looseParameters (x : Dialect) (owner : String) (ps : List LooseParameter) :
    LooseDraft (List (Value × String)) :=
  x.looseParametersAfter owner [] ps

/-- Parameters as they are written. -/
def formalParameters (ps : List (Value × String)) : List FormalParameter :=
  ps.map (fun (name, type) => ⟨name.text, type⟩)

/-! ### Members -/

/-- A constructor in Java, unless it has no parameters. -/
def looseConstructor (x : Dialect) (d : LooseDeclaration) (fields : List Value)
    (c : LooseConstructor) : LooseDraft (List ClassMember) := do
  let ps ← x.looseParameters d.name.text c.parameters
  if ps.isEmpty then return []
  let unmatched := (ps.map (·.1)).filter (fun name => !fields.any (·.sameKey name))
  if !unmatched.isEmpty then
    let names ← orCrash (unmatched.mapM textOf)
    Draft.notify (unmatchedNotice d.name.text names)
  let documentation ← orCrash (looseDocumentation c.documentation)
  return [.constructor ⟨documentation, d.name.text, formalParameters ps⟩]

/-- The initial value of a property; that of a static one is kept in the companion. -/
def loosePropertyValue (x : Dialect) (d : LooseDeclaration) (p : LooseProperty) (name : Value) :
    LooseDraft (Option String) :=
  if p.isStatic && !d.isStaticClass then do
    let type ← orCrash (textOf d.name)
    return some (x.companion.reference type name.text)
  else
    match p.initializer with
    | .str s =>
      match extract s with
      | .ok initializer => return initialValue initializer
      | .error e => do
        Draft.notify (initializerNotice d.name.text p.name.text e)
        return none
    | v => if v.isPresent then orCrash (.error .notReadable) else return none

/-- A property as a field. -/
def looseProperty (x : Dialect) (d : LooseDeclaration) (p : LooseProperty) :
    LooseDraft ClassMember := do
  let documentation ← orCrash (looseDocumentation p.documentation)
  let name ← orCrash (looseIdentifier p.name)
  let type ← LooseDraft.typeOf x.table p.type (d.name.text ++ "." ++ p.name.text)
  let value ← x.loosePropertyValue d p name
  return .field {
    documentation
    isPublic := p.accessibility == .publicAccess
    isStatic := p.isStatic
    type, value
    name := name.text }

/-- A constant as a field. -/
def looseConstant (x : Dialect) (d : LooseDeclaration) (c : LooseConstant) :
    LooseDraft ClassMember := do
  let documentation ← orCrash (looseDocumentation c.documentation)
  let name ← orCrash (looseIdentifier c.name)
  let type ← LooseDraft.typeOf x.table c.type (d.name.text ++ "." ++ c.name.text)
  return .constant {
    documentation
    isPublic := c.accessibility == .publicAccess
    type
    name := name.text
    literal := c.literal }

/-- Whether a method is forwarded to the companion. -/
def isLooselyForwarded (m : LooseMethod) : Bool :=
  m.isStatic && m.kind == .ordinary && m.accessibility == .publicAccess

/-- A method that calls the companion. -/
def looseMethod (x : Dialect) (d : LooseDeclaration) (m : LooseMethod) :
    LooseDraft ClassMember := do
  let documentation ← orCrash (looseDocumentation m.documentation)
  let name ← orCrash (looseIdentifier m.name)
  let owner := d.name.text ++ "." ++ m.name.text
  let returnType ← LooseDraft.typeOf x.table m.returnType owner
  let ps ← x.looseParameters owner m.parameters
  let type ← orCrash (textOf d.name)
  let arguments ← orCrash (ps.mapM (fun p => textOf p.1))
  return .method {
    documentation
    returnType
    name := name.text
    parameters := formalParameters ps
    call := x.companion.call type name.text arguments }

/-- The members of a class in Java. -/
def looseMembers (x : Dialect) (d : LooseDeclaration) : LooseDraft (List ClassMember) := do
  let fields ← orCrash (looseFieldNames d)
  let constructors ← d.constructors.mapM (x.looseConstructor d fields)
  let properties ← d.properties.mapM (x.looseProperty d)
  let constants ← d.constants.mapM (x.looseConstant d)
  let methods ← (d.methods.filter isLooselyForwarded).mapM (x.looseMethod d)
  return constructors.flatten ++ properties ++ constants ++ methods

/-! ### Types -/

/-- A value of an enumeration. -/
def looseEnumConstant (v : LooseHead) : Except Crash EnumConstant := do
  let documentation ← looseDocumentation v.documentation
  let name ← looseIdentifier v.name
  return ⟨documentation, v.name.text, name.text⟩

/-- An enumeration in Java. -/
def looseEnumeration (d : LooseDeclaration) : LooseDraft TypeDeclaration := do
  Draft.require [serializedNameType, exposeType]
  let documentation ← orCrash (looseDocumentation d.documentation)
  let constants ← orCrash (d.enumValues.mapM looseEnumConstant)
  return .enumeration ⟨documentation, "public enum", d.name.text, none⟩ constants

mutual

/-- A type in Java, without the nested types whose names are excluded. -/
def looseType (x : Dialect) (excluded : Value → Bool) (isNested : Bool) :
    LooseType → LooseDraft TypeDeclaration
  | .mk d nested => do
    if ← orCrash d.isEnum then looseEnumeration d
    else
      Draft.require (if d.isStaticClass then [] else [exposeType])
      let documentation ← orCrash (looseDocumentation d.documentation)
      let members ← x.looseMembers d
      let types ← x.looseTypes excluded nested
      return .classType
        { documentation
          keywords := classKeywords (d.isStaticClass && isNested)
          name := d.name.text
          base := d.properBase? }
        members types

/-- The types of a list whose names are not excluded, nested in Java. -/
def looseTypes (x : Dialect) (excluded : Value → Bool) :
    List LooseType → LooseDraft (List TypeDeclaration)
  | [] => pure []
  | t :: rest =>
    if !t.decl.name.isKey then orCrash (.error .notAKey)
    else if excluded t.decl.name then x.looseTypes excluded rest
    else do
      let first ← x.looseType excluded true t
      return first :: (← x.looseTypes excluded rest)

end

end Dialect

/-! ### Files -/

namespace Writer

/-- The source file of a loose type, guessed from its name if it is not present. -/
def looseSourceOf (d : LooseDeclaration) : Except Crash String :=
  if d.sourceFile.isPresent then textOf d.sourceFile else .ok (d.name.text ++ ".cs")

/-- The names that the file of a loose type imports: those collected, without its own. -/
def looseImportedNames (w : Writer) (name : Value) (collected : List String) : List String :=
  (sortNames collected).filter (fun n => !name.isStr n && n != w.qualifiedName name.text)

/-- A failure to draft a type, as one to generate its file. -/
def draftFailure : Failure UnsupportedType → Failure EmitError
  | .reported e => .reported (.unsupported e)
  | .crash c => .crash c

/-- Generate the file of a loose type without the nested types whose names are excluded. -/
def emitLoose (w : Writer) (config : Config) (excluded : Value → Bool) (t : LooseType) :
    Emission (Failure EmitError) :=
  let name := t.decl.name
  let path := outputPath config name.text
  if !hasLicenseText config then ⟨.error (.crash (.document .tooManyDigits)), []⟩
  else
    match looseSourceOf t.decl with
    | .error c => ⟨.error (.crash c), []⟩
    | .ok source =>
      if isRooted source then ⟨.error (.reported (.rootedSource name.text source)), []⟩
      else
        let draft := w.toDialect.looseType excluded false t
        match draft.outcome with
        | .error e => ⟨.error (draftFailure e), draft.notices⟩
        | .ok type =>
          if isTooDeep type then ⟨.error (.crash (.document .tooDeep)), []⟩
          else if name.isKey then
            let imports := w.looseImportedNames name draft.imports
            let page := assemble (w.header config source path) imports (type.text w.docs "")
            ⟨.ok ⟨path, name.text, page.text⟩,
              draft.notices ++ [renderedNotice path imports.length]⟩
          else ⟨.error (.crash .notAKey), draft.notices⟩

/-- Generate the file of a type object that was read. -/
def emitRead (w : Writer) (config : Config) (excluded : Value → Bool) :
    ReadType → Emission (Failure EmitError)
  | .contract t => w.emitWithin config (fun name => excluded (.str name)) t
  | .loose t => w.emitLoose config excluded t

end Writer

end DataContract.Java
