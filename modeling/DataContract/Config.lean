/-
The settings of a run.
-/
import DataContract.Failure
import DataContract.Text.Occurrence
import DataContract.Value.Basic

namespace DataContract

/-- The settings of a run. -/
structure Config where
  /-- Takes the place of the model's namespace, if it is present. -/
  namespaceSetting : Value
  /-- The lines at the top of every file. -/
  licenseHeader : List Value
  /-- The names of the types that are left out. -/
  excluded : List Value
  /-- The Java package of the contracts. -/
  package : String
  /-- The directory of the Java sources. -/
  sourceRoot : String

namespace Config

/-- The lines at the top of every file, unless others are set. -/
def defaultLicenseHeader : List String :=
  ["Copyright (c) Microsoft Corporation.", "Licensed under the MIT license."]

/-- The settings that hold when none are given. -/
def default : Config where
  namespaceSetting := .null
  licenseHeader := defaultLicenseHeader.map .str
  excluded := []
  package := "com.microsoft.tunnels.contracts"
  sourceRoot := "java/src/main/java"

/-- The directory of the package. -/
def packageDirectory (c : Config) : String :=
  c.sourceRoot ++ "/"
    ++ String.ofList (c.package.toList.map (fun ch => if ch = '.' then '/' else ch))

/-- Whether a name is that of a type that is left out. -/
def excludes (c : Config) (name : String) : Bool :=
  c.excluded.any (Value.isStr name)

/-- Leave out more types. -/
def exclude (c : Config) (names : List String) : Config :=
  { c with excluded := Value.distinct (c.excluded ++ names.map .str) }

/-! ### Settings in a document -/

/-- Why settings are refused. -/
inductive Error where
  /-- The section of the Java settings is no mapping. -/
  | javaSection
  /-- A Java setting is no text, or an empty one. -/
  | javaSetting (key : String)
  /-- The file cannot be read or holds no document. -/
  | unreadable (path : String)
  /-- The document is no mapping. -/
  | notAMapping (path : String)

/-- The message for the user. -/
def Error.message : Error → String
  | .javaSection => "'java' section of the config must be a mapping"
  | .javaSetting key => "'java." ++ key ++ "' in the config must be a non-empty string"
  | .unreadable path => "Cannot load config " ++ path
  | .notAMapping path => "Config " ++ path ++ " must contain a mapping"

/-- The members of a value that has to be a collection. -/
def membersOf (v : Value) : Attempt Error (List Value) :=
  match v.members? with
  | some items => .ok items
  | none => .error (.crash .notACollection)

/-- The members of a setting that lists things; a setting that is not present lists none. -/
def listSetting : Option Value → Attempt Error (List Value)
  | some v => if v.isPresent then membersOf v else .ok []
  | none => .ok []

/-- The members of a setting that is a set. -/
def setSetting (v : Option Value) : Attempt Error (List Value) := do
  let items ← listSetting v
  if items.all Value.isKey then return Value.distinct items
  else .error (.crash .notAKey)

/-- The lines at the top of every file; a single text is one line. -/
def headerSetting : Value → Attempt Error (List Value)
  | .str s => .ok (if s == "" then [] else [.str s])
  | v => listSetting (some v)

/-- A Java setting, if it is set. -/
def javaSetting (java : Entries) (key fallback : String) : Attempt Error String :=
  match java.get? key with
  | none => .ok fallback
  | some .null => .ok fallback
  | some (.str s) => if s == "" then .error (.reported (.javaSetting key)) else .ok s
  | some _ => .error (.reported (.javaSetting key))

/-- The Java settings; a section that is not present sets none. -/
def javaSection (entries : Entries) : Attempt Error Entries :=
  match entries.get? "java" with
  | none => .ok []
  | some (.map java) => .ok java
  | some v => if v.isPresent then .error (.reported .javaSection) else .ok []

/-- The settings of a mapping. -/
def ofEntries (entries : Entries) : Attempt Error Config := do
  let java ← javaSection entries
  let package ← javaSetting java "package" default.package
  let sourceRoot ← javaSetting java "source_root" default.sourceRoot
  let excluded ← setSetting (entries.get? "excluded_types")
  let licenseHeader ←
    match entries.get? "license_header" with
    | none => pure default.licenseHeader
    | some v => headerSetting v
  return {
    namespaceSetting := (entries.get? "namespace").getD .null
    licenseHeader, excluded, package, sourceRoot }

/-- The settings of a document. -/
def ofValue : Value → Attempt Error Config
  | .map entries => ofEntries entries
  | _ => .error (.crash .notAMapping)

end Config

end DataContract
