/-
Writing the Java file of a contract type.

A file has the license, the path of the source that it was generated from, the
package, the imports and the type, in this order.
-/
import DataContract.Config
import DataContract.Java.Contract
import DataContract.Java.Page
import DataContract.Path

namespace DataContract.Java

/-- Why a file is not generated. -/
inductive EmitError where
  | unsupported (cause : UnsupportedType)
  /-- The source file is not relative to the root of its repository. -/
  | rootedSource (type source : String)
  deriving DecidableEq

/-- The message for the user. -/
def EmitError.message : EmitError → String
  | .unsupported cause => cause.message
  | .rootedSource type source =>
    type ++ ": source file '" ++ source ++ "' must be relative to the repository root"

/-- A generated file. -/
structure GeneratedFile where
  relativePath : String
  typeName : String
  text : String
  deriving DecidableEq

/-- What stays the same in all files that a generator writes. -/
structure Writer extends Dialect where
  docs : Javadoc
  package : String

namespace Writer

/-- The writer for the contracts of a namespace. -/
def standard (namespaceName : String) (config : Config) : Writer where
  table := TypeTable.standard namespaceName
  companion := {}
  docs := { namespaceName }
  package := config.package

/-- The path of the file of a type. -/
def outputPath (config : Config) (name : String) : String :=
  config.packageDirectory ++ "/" ++ name ++ ".java"

/-- The name of a type with its package. -/
def qualifiedName (w : Writer) (name : String) : String :=
  w.package ++ "." ++ name

/-- The source file of a type, guessed from its name if it is not given. -/
def sourceOf (d : Declaration) : String :=
  if d.sourceFile == "" then d.name ++ ".cs" else d.sourceFile

/-- A line of the license as a comment. -/
def licenseLine (v : Value) : String :=
  if v.isPresent then "// " ++ v.text else "//"

/-- The lines of a file before its imports, by the path of its source and its own. -/
def header (w : Writer) (config : Config) (source path : String) : List String :=
  config.licenseHeader.map licenseLine ++ [
    "// Generated from " ++ pathFrom (directoryOf path) source,
    "",
    "package " ++ w.package ++ ";",
    ""]

/-- The import lines of a file and the empty line after them. -/
def importBlock (names : List String) : String :=
  String.join (names.map (fun n => "import " ++ n ++ ";\n")) ++ "\n"

/-- The names that a file imports: those collected, without its own. -/
def importedNames (w : Writer) (name : String) (collected : List String) : List String :=
  (sortNames collected).filter (fun n => n != name && n != w.qualifiedName name)

/-- A page of lines. -/
def pageOf (lines : List String) : Page :=
  lines.foldl Page.writeLine Page.empty

/-- The page of a file: its header, its imports if there are any, and its type. -/
def assemble (header : List String) (imports : List String) (body : String) : Page :=
  let top := pageOf header
  let page := top.write body
  if imports.isEmpty then page else page.insert top.mark (importBlock imports)

/-- What came of generating a file, with the notices given on the way. -/
structure Emission (ε : Type) where
  outcome : Except ε GeneratedFile
  notices : List Notice

/-- The notice of a generated file. -/
def renderedNotice (path : String) (imports : Nat) : Notice :=
  ⟨.debug, "Rendered " ++ path ++ " with " ++ toString imports ++ " import(s)"⟩

/-- Generate the file of a type without the nested types whose names are excluded. -/
def emit (w : Writer) (config : Config) (excluded : String → Bool) (t : ContractType) :
    Emission EmitError :=
  let path := outputPath config t.name
  if isRooted (sourceOf t.decl) then
    ⟨.error (.rootedSource t.name (sourceOf t.decl)), []⟩
  else
    let draft := w.toDialect.type excluded false t
    match draft.outcome with
    | .error e => ⟨.error (.unsupported e), draft.notices⟩
    | .ok type =>
      let imports := w.importedNames t.name draft.imports
      let page := assemble (w.header config (sourceOf t.decl) path) imports (type.text w.docs "")
      ⟨.ok ⟨path, t.name, page.text⟩, draft.notices ++ [renderedNotice path imports.length]⟩

end Writer

end DataContract.Java
