/-
Reading a model from a document.

A type that gives no source file has that of the type it is nested in.  The
readers of single parts fail only on values that the schema refuses.
-/
import DataContract.Failure
import DataContract.Model.ContractType
import DataContract.Model.TypeObject
import DataContract.Path
import DataContract.Schema.Check

namespace DataContract

/-! ### Entries -/

namespace Entries

/-- A text entry that must be there. -/
def text (entries : Entries) (name : String) : Except Crash String :=
  match entries.get? name with
  | some (.str s) => .ok s
  | some _ => .error .notAText
  | none => .error .missingEntry

/-- A text entry, or nothing. -/
def text? (entries : Entries) (name : String) : Except Crash (Option String) :=
  match entries.get? name with
  | some (.str s) => .ok (some s)
  | some .null => .ok none
  | some _ => .error .notAText
  | none => .ok none

/-- A truth value, with the one that holds if the entry is missing. -/
def bool (entries : Entries) (name : String) (fallback : Bool) : Bool :=
  match entries.get? name with
  | some v => v.isPresent
  | none => fallback

/-- One of some words, with the one that holds if the entry is missing. -/
def word {α : Type} (entries : Entries) (name : String) (ofWord? : String → Option α)
    (fallback : α) : Except Crash α :=
  match entries.get? name with
  | some (.str s) =>
    match ofWord? s with
    | some a => .ok a
    | none => .error .unknownWord
  | some _ => .error .unknownWord
  | none => .ok fallback

/-- The items of a list entry; there are none if the entry is missing. -/
def items (entries : Entries) (name : String) : Except Crash (List Value) :=
  match entries.get? name with
  | some (.list vs) => .ok vs
  | some _ => .error .notACollection
  | none => .ok []

end Entries

/-- The entries of a value that is a mapping. -/
def entriesOf : Value → Except Crash Entries
  | .map entries => .ok entries
  | _ => .error .notAMapping

/-! ### Members -/

/-- The text of a constant: truth values are written in lower case. -/
def literalText : Value → String
  | .bool b => if b then "true" else "false"
  | v => v.text

/-- The text of a constant that has one. -/
def readLiteral (v : Value) : Except Crash String :=
  if v.hasText then .ok (literalText v) else .error (.document .tooManyDigits)

/-- A parameter. -/
def readParameter (v : Value) : Except Crash Parameter := do
  let entries ← entriesOf v
  return { name := ← entries.text "name", type := TypeRef.parse (← entries.text "type") }

/-- A list of parameters. -/
def readParameters (entries : Entries) : Except Crash (List Parameter) := do
  (← entries.items "parameters").mapM readParameter

/-- What every member has; constants and values of enumerations are static by themselves. -/
def readHead (kind : MemberKind) (entries : Entries) : Except Crash MemberHead := do
  let name ←
    match kind with
    | .constructor => (entries.text? "name").map (·.getD ".ctor")
    | _ => entries.text "name"
  let isStatic := entries.bool "is_static" (kind == .constant || kind == .enumValue)
  return {
    name, isStatic
    accessibility := ← entries.word "accessibility" Accessibility.ofWord? .publicAccess
    documentation := ← entries.text? "documentation" }

/-- A member. -/
def readMember (v : Value) : Except Crash Member := do
  let entries ← entriesOf v
  let tag ← entries.text "member"
  match MemberKind.ofWord? tag with
  | none => .error .unknownWord
  | some kind =>
    let head ← readHead kind entries
    match kind with
    | .property =>
      return .property { head with
        type := TypeRef.parse (← entries.text "type")
        initializer := ← entries.text? "initializer_source_text" }
    | .constant =>
      let type ← entries.text "type"
      match entries.get? "value" with
      | some value => return .constant { head with
          type := TypeRef.parse type
          literal := ← readLiteral value }
      | none => .error .missingEntry
    | .enumValue => return .enumValue { head with }
    | .method =>
      return .method { head with
        returnType := TypeRef.parse ((← entries.text? "return_type").getD "void")
        parameters := ← readParameters entries
        kind := ← entries.word "method_kind" MethodKind.ofWord? .ordinary }
    | .constructor => return .constructor { head with parameters := ← readParameters entries }

/-! ### Types -/

/-- What a type object declares itself. -/
def readDeclaration (sourceFile : String) (entries : Entries) : Except Crash Declaration := do
  return {
    name := ← entries.text "name"
    kind := ← entries.word "kind" TypeKind.ofWord? .plainClass
    base := ← entries.text? "base_type"
    isStatic := entries.bool "is_static" false
    members := ← (← entries.items "members").mapM readMember
    documentation := ← entries.text? "documentation"
    sourceFile }

mutual

/-- A type, nested in one with a source file. -/
def readType (inherited : String) : TypeObject → Except Crash ContractType
  | .mk entries nested => do
    let source := ((TypeObject.mk entries nested).source?).getD inherited
    let decl ← readDeclaration source entries
    return .mk decl (← readTypes source nested)

/-- Types nested in one with a source file. -/
def readTypes (inherited : String) : List TypeObject → Except Crash (List ContractType)
  | [] => .ok []
  | t :: rest => do
    let first ← readType inherited t
    return first :: (← readTypes inherited rest)

end

/-! ### Rules that the schema does not express -/

mutual

/-- The source files of a type object that are not relative. -/
def sourceIssues (place : Location) : TypeObject → List Issue
  | .mk entries nested =>
    (match (TypeObject.mk entries nested).source? with
      | some source =>
        if isRooted source then [⟨place ++ [.field "source_file"], .rootedSource source⟩] else []
      | none => [])
    ++ nestedSourceIssues (place ++ [.field TypeObject.nestedKey]) 0 nested

/-- The source files of type objects, from an index on, that are not relative. -/
def nestedSourceIssues (place : Location) (index : Nat) : List TypeObject → List Issue
  | [] => []
  | t :: rest =>
    sourceIssues (place ++ [.item index]) t ++ nestedSourceIssues place (index + 1) rest

end

/-- The issues of the type objects at the top, from an index on, with the names before them. -/
def topIssues (place : Location) (index : Nat) (seen : List String) :
    List TypeObject → List Issue
  | [] => []
  | t :: rest =>
    let here := place ++ [.item index]
    (if t.source?.all (· == "") then [⟨here, .noSourceFile t.name⟩] else [])
    ++ (if seen.contains t.name then [⟨here, .duplicate t.name⟩] else [])
    ++ sourceIssues here t
    ++ topIssues place (index + 1) (t.name :: seen) rest

/-- The issues of a list of type objects that the schema does not express. -/
def structureIssues (types : List TypeObject) : List Issue :=
  topIssues [.field "types"] 0 [] types

/-! ### Models -/

/-- Why a document holds no model. -/
inductive ModelError where
  /-- The file cannot be read. -/
  | unreadable (path : String)
  /-- The file holds no document. -/
  | invalid (path : String)
  /-- The document is no mapping. -/
  | notAMapping (path : String)
  /-- The document breaks rules of the schema or of its structure. -/
  | issues (issues : List Issue)
  /-- The document is of another version. -/
  | version (found : String)

/-- The message for the user. -/
def ModelError.message : ModelError → String
  | .unreadable path => "Cannot read model file " ++ path
  | .invalid path => "Invalid model file " ++ path
  | .notAMapping path => "Model file " ++ path ++ " must contain a mapping at the top level"
  | .issues list =>
    "Model does not match the IR schema:\n  " ++ "\n  ".intercalate (list.map Issue.message)
  | .version found => "Unsupported IR version " ++ found ++ " (expected " ++ supportedVersion ++ ")"

/-- The first number of a version. -/
def majorVersion (version : String) : String :=
  String.ofList (version.toList.takeWhile (· != '.'))

namespace Model

/-- The type objects at the top of a document. -/
def typeObjects (entries : Entries) : List TypeObject :=
  ((entries.get? "types").map TypeObject.ofListValue).getD []

/-- All issues of a document; its structure matters only if the schema accepts it. -/
def documentIssues (v : Value) : List Issue :=
  match Schema.documentIssues v with
  | [] =>
    match v with
    | .map entries => structureIssues (typeObjects entries)
    | _ => []
  | issues => issues

/-- The parts of a model. -/
def readParts (version : String) (entries : Entries) : Except Crash Model := do
  return {
    namespaceName := ← entries.text "namespace"
    irVersion := version
    types := ← readTypes "" (typeObjects entries) }

/-- Read a model from the value of a document. -/
def ofValue (v : Value) : Attempt ModelError Model :=
  match documentIssues v with
  | [] => do
    let entries ← (entriesOf v).mapError .crash
    let version ← (entries.text "ir_version").mapError .crash
    if majorVersion version ≠ majorVersion supportedVersion then
      .error (.reported (.version version))
    else (readParts version entries).mapError .crash
  | issues =>
    if issues.all (fun i => i.problem.hasMessage) then .error (.reported (.issues issues))
    else .error (.crash (.document .tooManyDigits))

end Model

end DataContract
