/-
The Java types of contract types.

A type of the contracts' own namespace keeps its name, since its Java class
stands beside the others.  Any other type needs an entry in the table, which
gives its Java type with the package; the package is left out where the type is
used, and the type is imported.
-/
import DataContract.Model.TypeRef

namespace DataContract.Java

open DataContract.Text

/-- A type as it is written in Java, and what has to be imported for it. -/
structure MappedType where
  name : String
  requiredImport : Option String
  deriving DecidableEq

/-- A type without an entry in the table, and the member that uses it. -/
structure UnsupportedType where
  type : String
  member : String
  deriving DecidableEq

/-- The message for the user. -/
def UnsupportedType.message (e : UnsupportedType) : String :=
  "Unsupported canonical type: " ++ e.type
    ++ (if e.member == "" then "" else " (member '" ++ e.member ++ "')")

/-- The Java types for one namespace of contracts. -/
structure TypeTable where
  namespaceName : String
  /-- Contract types with their Java types; of two entries for a type the first counts. -/
  targets : List (String × String)

namespace TypeTable

/-- The Java types of the types that every contract can use. -/
def standardTargets : List (String × String) := [
  ("void", "void"),
  ("bool", "boolean"),
  ("byte", "byte"),
  ("short", "short"),
  ("ushort", "int"),
  ("int", "int"),
  ("uint", "int"),
  ("long", "long"),
  ("ulong", "long"),
  ("float", "float"),
  ("double", "double"),
  ("string", "String"),
  ("System.DateTime", "java.util.Date"),
  ("System.Text.RegularExpressions.Regex", "java.util.regex.Pattern"),
  ("System.Collections.Generic.IDictionary<string, string>", "java.util.Map<String, String>"),
  ("System.Collections.Generic.IDictionary<string, string[]>", "java.util.Map<String, String[]>"),
  ("System.Uri", "java.net.URI"),
  ("System.Collections.Generic.IEnumerable<string>", "java.util.Collection<String>")]

/-- The standard table of a namespace. -/
def standard (namespaceName : String) : TypeTable :=
  ⟨namespaceName, standardTargets⟩

/-- The table with more entries, each in place of those before it. -/
def extend (t : TypeTable) (more : List (String × String)) : TypeTable :=
  { t with targets := more.reverse ++ t.targets }

/-- The entry for a type. -/
def target? (t : TypeTable) (base : List Char) : Option (List Char) :=
  (t.targets.find? (fun e => e.1.toList == base)).map (·.2.toList)

/--
Split a Java type into the name to import and the name to write.  A type without
a point before its type arguments needs no import.
-/
def splitQualified (target : List Char) : Option (List Char) × List Char :=
  let raw := target.takeWhile (· != '<')
  let arguments := target.dropWhile (· != '<')
  if raw.contains '.' then
    (some raw, ((raw.reverse.takeWhile (· != '.')).reverse) ++ arguments)
  else (none, target)

/-- The Java type of a type that is no array. -/
def element? (t : TypeTable) (base : List Char) : Option (Option (List Char) × List Char) :=
  match dropPrefix? (t.namespaceName.toList ++ ['.']) base with
  | some own => some (none, own)
  | none => (t.target? base).map splitQualified

/-- The name of a type without its marks, and whether it is marked as an array. -/
def unmark (type : List Char) (isArray : Bool) : List Char × Bool :=
  let base := dropSuffix TypeRef.nullMark type
  match dropSuffix? TypeRef.arrayMark base with
  | some elements => (dropSuffix TypeRef.nullMark elements, true)
  | none => (base, isArray)

/-- The Java type of a type.  Whether a value may be absent makes no difference in Java. -/
def map (t : TypeTable) (type : String) (isArray : Bool) (member : String) :
    Except UnsupportedType MappedType :=
  let (base, isArray) := unmark type.toList isArray
  match t.element? base with
  | some (required, name) =>
    .ok {
      name := String.ofList (name ++ (if isArray then TypeRef.arrayMark else []))
      requiredImport := required.map String.ofList }
  | none => .error ⟨type, member⟩

/-- The Java type of a reference. -/
def mapRef (t : TypeTable) (r : TypeRef) (member : String) : Except UnsupportedType MappedType :=
  t.map r.base r.isArray member

end TypeTable

end DataContract.Java
