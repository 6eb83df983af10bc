/-
Generating the files of all contract types of a model.

A type that cannot be generated is reported, and the work goes on with the next
one.  A file that the disk refuses ends the work, and so does one whose text has
no encoding.
-/
import DataContract.Disk
import DataContract.Java.Writer

namespace DataContract

open DataContract.Java (EmitError GeneratedFile Writer)

/-- Why a generator gives no file. -/
inductive GeneratorError where
  /-- There is no writer for the language. -/
  | language (name : String)
  /-- The model has no such type at the top. -/
  | notFound (type : String)
  /-- The type is left out. -/
  | excluded (type : String)
  /-- The type cannot be written. -/
  | emit (cause : EmitError)
  deriving DecidableEq

/-- The languages that there are writers for. -/
def languages : List String := ["java"]

/-- The message for the user. -/
def GeneratorError.message : GeneratorError → String
  | .language name =>
    "Unsupported target language '" ++ name ++ "'. Must be one of: ["
      ++ commaSeparated (languages.map quoteText) ++ "]"
  | .notFound type => "Type '" ++ type ++ "' not found in model"
  | .excluded type => "Type '" ++ type ++ "' is excluded from generation"
  | .emit cause => cause.message

/-! ### Batches -/

/-- A type that could not be generated. -/
structure BatchFailure where
  typeName : String
  error : EmitError
  deriving DecidableEq

/-- What came of generating all types of a model. -/
structure Batch where
  files : List GeneratedFile
  /-- The paths of the files that were written. -/
  written : List Path
  failures : List BatchFailure
  /-- The names of the types that were left out. -/
  skipped : List String
  deriving DecidableEq

namespace Batch

/-- Nothing generated. -/
def empty : Batch := ⟨[], [], [], []⟩

/-- Whether every type was generated. -/
def passed (b : Batch) : Bool :=
  b.failures.isEmpty

/-- The counts of a batch. -/
def summary (b : Batch) : String :=
  "[" ++ (if b.passed then "PASS" else "FAIL") ++ "] "
    ++ toString b.files.length ++ " generated, "
    ++ toString b.failures.length ++ " failed, "
    ++ toString b.skipped.length ++ " excluded"

end Batch

/-! ### Generators -/

/-- A generator of the files of a model. -/
structure Generator where
  model : Model
  config : Config
  writer : Writer

/-- What came of a batch: the disk after it, the notices on the way, and the result. -/
structure Run where
  disk : Disk
  notices : List Notice
  outcome : Except Crash Batch

namespace Run

/-- A run with notices before it and a change of its result. -/
def after (r : Run) (notices : List Notice) (f : Batch → Batch) : Run :=
  ⟨r.disk, notices ++ r.notices, r.outcome.map f⟩

end Run

namespace Generator

/-- The namespace of the contracts: the one that is set, or else that of the model. -/
def namespaceOf (model : Model) (config : Config) : Except Crash String :=
  match config.namespaceSetting with
  | .str s => .ok (if s == "" then model.namespaceName else s)
  | v => if v.isPresent then .error .notAText else .ok model.namespaceName

/-- The generator of a model in a language. -/
def create (model : Model) (config : Config) (language : String) :
    Attempt GeneratorError Generator :=
  if languages.contains language then do
    let namespaceName ← (namespaceOf model config).mapError .crash
    return ⟨model, config, Writer.standard namespaceName config⟩
  else .error (.reported (.language language))

/-- The types that get a file. -/
def contractTypes (g : Generator) : List ContractType :=
  g.model.types.filter (fun t => !g.config.excludes t.name)

/-- The names of the types at the top that are left out. -/
def skipped (g : Generator) : List String :=
  (g.model.types.map ContractType.name).filter g.config.excludes

/-- The file of one type. -/
def emit (g : Generator) (t : ContractType) : Writer.Emission EmitError :=
  g.writer.emit g.config g.config.excludes t

/-- Generate the file of the type with a name, without writing it. -/
def render (g : Generator) (name : String) : Except GeneratorError GeneratedFile × List Notice :=
  match g.model.find? name with
  | none => (.error (.notFound name), [])
  | some t =>
    if g.config.excludes name then (.error (.excluded name), [])
    else ((g.emit t).outcome.mapError .emit, (g.emit t).notices)

/-- The notice of a type that could not be generated. -/
def skippingNotice (name : String) (e : EmitError) : Notice :=
  ⟨.error, "Skipping " ++ name ++ ": " ++ e.message⟩

/-- The notice of a file that was written. -/
def wroteNotice (p : Path) : Notice :=
  ⟨.info, "Wrote " ++ p.text⟩

/-- Generate types one after another and write their files below a root, if there is one. -/
def generateTypes (g : Generator) (root : Option Path) (disk : Disk) : List ContractType → Run
  | [] => ⟨disk, [], .ok Batch.empty⟩
  | t :: rest =>
    let emission := g.emit t
    match emission.outcome with
    | .error e =>
      (g.generateTypes root disk rest).after (emission.notices ++ [skippingNotice t.name e])
        (fun b => { b with failures := ⟨t.name, e⟩ :: b.failures })
    | .ok file =>
      match root with
      | none =>
        (g.generateTypes root disk rest).after emission.notices
          (fun b => { b with files := file :: b.files })
      | some base =>
        let p := base.join (Path.parse file.relativePath)
        match disk.writeText p file.text with
        | (disk, .error e) => ⟨disk, emission.notices, .error (.disk e)⟩
        | (disk, .ok ()) =>
          (g.generateTypes root disk rest).after (emission.notices ++ [wroteNotice p])
            (fun b => { b with files := file :: b.files, written := p :: b.written })

/-- Generate all types that are not left out. -/
def generate (g : Generator) (root : Option Path) (disk : Disk) : Run :=
  (g.generateTypes root disk g.contractTypes).after []
    (fun b => { b with skipped := g.skipped })

end Generator

end DataContract
