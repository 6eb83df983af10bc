/-
Running a command.

A command reads and writes a disk, prints text and gives notices.  It ends with
an exit code, or it crashes.
-/
import DataContract.Console.Code
import DataContract.Console.Help
import DataContract.Console.Layout
import DataContract.Console.Markup
import DataContract.Document.Source
import DataContract.Generator.Limit
import DataContract.Schema.Export

namespace DataContract.Console

/-- What a command works on. -/
structure World where
  disk : Disk
  /-- What was printed. -/
  output : String
  notices : List Notice
  /-- The files that were written. -/
  written : List (Path × String)

/-- Why a command stops before its end. -/
inductive Stop where
  | exit (code : Nat)
  | crash (cause : Crash)
  deriving DecidableEq

/-- Work of a command. -/
abbrev Command := ExceptT Stop (StateM World)

/-- Stop with an exit code. -/
def exit {α : Type} (code : Nat) : Command α :=
  throw (.exit code)

/-- Stop with a crash. -/
def crash {α : Type} (c : Crash) : Command α :=
  throw (.crash c)

/-- Add to what is printed. -/
def put (s : List Char) : Command Unit :=
  if Text.isEncodable (String.ofList s) then
    modify (fun w => { w with output := w.output ++ String.ofList s })
  else crash .unprintable

/-- Print lines. -/
def putLines (lines : List (List Char)) : Command Unit :=
  put (lines.flatMap (· ++ ['\n']))

/-- Print a text without the sequences that control a terminal. -/
def echo (s : String) : Command Unit :=
  put (uncontrolled s.toList)

/-- Give notices. -/
def notify (notices : List Notice) : Command Unit :=
  modify (fun w => { w with notices := w.notices ++ notices })

/-- A message without its marks. -/
def unmarked (message : String) : Command (List Char) :=
  match shown message with
  | .ok s => pure s.toList
  | .error c => crash c

/-- Print a message on lines of its own. -/
def say (message : String) : Command Unit := do
  putLines (layText consoleWidth .fold (← unmarked message))

/-- Print a table: its title, the heads of its columns, and its rows. -/
def sayTable (title : String) (heads : List String) (rows : List (List String)) : Command Unit := do
  let cells ← rows.mapM (fun row => row.mapM unmarked)
  putLines (layTable (← unmarked title) (heads.map String.toList) cells)

/-! ### Loading -/

/-- The settings and the model, or a message and the end. -/
def loadBoth (modelPath : String) (configPath : Option String) : Command (Model × Config) := do
  let disk := (← get).disk
  match Config.load disk configPath with
  | .error (.reported e) =>
    say ("[red]Error:[/] " ++ e.message)
    exit 2
  | .error (.crash c) => crash c
  | .ok config =>
    match Model.load disk modelPath with
    | .error (.reported e) =>
      say ("[red]Invalid model:[/] " ++ e.message)
      exit 2
    | .error (.crash c) => crash c
    | .ok model =>
      notify [model.loadNotice modelPath]
      return (model, config)

/-! ### Commands -/

/-- Generate all files of a model. -/
def runGenerate (modelPath output : String) (configPath : Option String) (language : String)
    (exclude : List String) : Command Unit := do
  say ("\n[bold blue]contractgen[/] — Generating " ++ language ++ " contracts: "
    ++ modelPath ++ "\n")
  let (model, config) ← loadBoth modelPath configPath
  match Generator.create model (config.exclude exclude) language with
  | .error (.reported _) => exit 1
  | .error (.crash c) => crash c
  | .ok generator =>
    let run := generator.generateWithin (some (Path.parse output)) (← get).disk
    modify (fun w => { w with disk := run.disk })
    notify run.notices
    match run.outcome with
    | .error c => crash c
    | .ok batch =>
      modify (fun w => { w with written := batch.written.zip (batch.files.map (·.text)) })
      sayTable ("Generated Contracts (" ++ toString batch.files.length ++ ")") ["Type", "Path"]
        (batch.files.map (fun f => [f.typeName, f.relativePath]))
      if !batch.passed then
        say "\n[red]Failed:[/]"
        for failure in batch.failures do
          say ("  [red]x[/] " ++ failure.typeName ++ ": " ++ failure.error.message)
      say "Generation Result"
      say batch.summary
      if !batch.passed then exit 1

/-- Print the file of one type. -/
def runRender (modelPath type : String) (configPath : Option String) (plain : Bool) :
    Command Unit := do
  let (model, config) ← loadBoth modelPath configPath
  match Generator.create model config "java" with
  | .error (.reported e) =>
    say ("[red]Error:[/] " ++ e.message)
    exit 1
  | .error (.crash c) => crash c
  | .ok generator =>
    let (outcome, notices) := generator.renderWithin type
    notify notices
    match outcome with
    | .error (.reported e) =>
      say ("[red]Error:[/] " ++ e.message)
      exit 1
    | .error (.crash c) => crash c
    | .ok file =>
      if plain then echo file.text else putLines (layCode consoleWidth file.text.toList)

/-- Check a model. -/
def runValidate (modelPath : String) : Command Unit := do
  say ("\n[bold blue]contractgen[/] — Validating: " ++ modelPath ++ "\n")
  match Model.load (← get).disk modelPath with
  | .error (.crash c) => crash c
  | .error (.reported e) =>
    say "[red]Model validation FAILED:[/]"
    let problems := match e with
      | .issues issues => issues.map Issue.message
      | e => [e.message]
    for problem in problems do
      say ("  [red]x[/] " ++ problem)
    exit 1
  | .ok model =>
    say ("  [green]v[/] " ++ toString model.typeCount ++ " type(s) in namespace "
      ++ model.namespaceName)
    say "\n[green]Valid![/]"

/-- List the types of a model. -/
def runTypes (modelPath : String) (configPath : Option String) : Command Unit := do
  let (model, config) ← loadBoth modelPath configPath
  sayTable (model.namespaceName ++ " (" ++ toString model.types.length ++ " types)")
    ["Name", "Kind", "Members", "Nested", "Generated"]
    (model.types.map (fun t => [
      t.name, t.decl.kind.word, toString t.decl.members.length, toString t.nested.length,
      if config.excludes t.name then "[red]N[/]" else "[green]Y[/]"]))

/-- Do what the user asks for. -/
def perform : Invocation → Command Unit
  | .generate model output config language exclude =>
    runGenerate model output config language exclude
  | .render model type config plain => runRender model type config plain
  | .validate model => runValidate model
  | .types model config => runTypes model config
  | .schema => echo (Schema.documentText ++ "\n")
  | .version => echo versionText
  | .help none => echo programHelp
  | .help (some c) => echo (commandHelp c)

/-- What came of a command. -/
structure Outcome where
  world : World
  exitCode : Nat
  crash : Option Crash
  usage : Option UsageError

/-- Run the program on a disk. -/
def run (disk : Disk) (args : List String) : Outcome :=
  let start : World := ⟨disk, "", [], []⟩
  match readArguments args with
  | .error e => ⟨start, 2, none, some e⟩
  | .ok invocation =>
    match (perform invocation).run start with
    | (.ok (), world) => ⟨world, 0, none, none⟩
    | (.error (.exit code), world) => ⟨world, code, none, none⟩
    | (.error (.crash c), world) => ⟨world, 1, some c, none⟩

/-- The files that the program may read. -/
def inputPaths : Invocation → List String
  | .generate model _ config _ _ => [model, config.getD Config.defaultFile]
  | .render model _ config _ => [model, config.getD Config.defaultFile]
  | .validate model => [model]
  | .types model config => [model, config.getD Config.defaultFile]
  | _ => []

end DataContract.Console
