/-
The arguments of the command line.

Options can stand anywhere among the arguments of a command, but before the
name of the command only the program's own ones can.  After `--` nothing is an
option, except that a word in the place of the command which is none and looks
like an option is read again as one.
-/
import DataContract.Generator
import DataContract.Text.Word

namespace DataContract.Console

/-- An option. -/
structure OptionSpec where
  /-- The name, which follows two dashes. -/
  long : String
  /-- The letter, which follows one dash. -/
  short : Option Char
  takesValue : Bool

/-- Why arguments are refused. -/
inductive UsageError where
  | noSuchOption (option : String)
  | missingValue (option : String)
  | unwantedValue (option : String)
  | missingArgument (name : String)
  | extraArguments
  | noSuchCommand (name : String)
  | missingCommand
  | badChoice (value : String)
  deriving DecidableEq

/-- The message for the user. -/
def UsageError.message : UsageError → String
  | .noSuchOption option => "No such option: " ++ option
  | .missingValue option => "Option '" ++ option ++ "' requires an argument."
  | .unwantedValue option => "Option '" ++ option ++ "' does not take a value."
  | .missingArgument name => "Missing argument '" ++ name ++ "'."
  | .extraArguments => "Got unexpected extra arguments"
  | .noSuchCommand name => "No such command '" ++ name ++ "'."
  | .missingCommand => "Missing command."
  | .badChoice value =>
    "'" ++ value ++ "' is not one of " ++ commaSeparated (languages.map quoteText)

/-- Arguments sorted into options with their values and the rest. -/
structure Arguments where
  /-- The options in order; a flag has an empty value. -/
  options : List (String × String)
  positional : List String

namespace Arguments

/-- The values of an option. -/
def values (a : Arguments) (option : String) : List String :=
  (a.options.filter (fun o => o.1 == option)).map (·.2)

/-- The last value of an option. -/
def value? (a : Arguments) (option : String) : Option String :=
  (a.values option).getLast?

/-- Whether an option is given. -/
def has (a : Arguments) (option : String) : Bool :=
  a.options.any (fun o => o.1 == option)

end Arguments

/-! ### Options -/

/-- Options found in one argument, and the one whose value is the next argument. -/
structure Found where
  options : List (String × String)
  pending : Option String

/-- A long option after its dashes. -/
def longOption (specs : List OptionSpec) (arg : List Char) : Except UsageError Found :=
  let name := String.ofList (arg.takeWhile (· != '='))
  match specs.find? (fun s => s.long == name), arg.dropWhile (· != '=') with
  | none, _ => .error (.noSuchOption ("--" ++ name))
  | some spec, [] => .ok (if spec.takesValue then ⟨[], some name⟩ else ⟨[(name, "")], none⟩)
  | some spec, _ :: value =>
    if spec.takesValue then .ok ⟨[(name, String.ofList value)], none⟩
    else .error (.unwantedValue ("--" ++ name))

/-- Short options after their dash; the first one with a value takes the rest as its value. -/
def shortOptions (specs : List OptionSpec) : List Char → Except UsageError Found
  | [] => .ok ⟨[], none⟩
  | c :: rest =>
    match specs.find? (fun s => s.short == some c) with
    | none => .error (.noSuchOption ("-" ++ String.singleton c))
    | some spec =>
      if spec.takesValue then
        .ok (if rest.isEmpty then ⟨[], some spec.long⟩
          else ⟨[(spec.long, String.ofList rest)], none⟩)
      else do
        let found ← shortOptions specs rest
        return { found with options := (spec.long, "") :: found.options }

/-- The options in an argument, or nothing if it is none. -/
def optionsIn (specs : List OptionSpec) (arg : String) : Option (Except UsageError Found) :=
  match arg.toList with
  | '-' :: '-' :: c :: rest => some (longOption specs (c :: rest))
  | '-' :: c :: rest => some (shortOptions specs (c :: rest))
  | _ => none

/--
Sort arguments.  Unless options can stand anywhere, the first argument that is
no option ends them.
-/
def sortArguments (specs : List OptionSpec) (anywhere : Bool) (pending : Option String) :
    List String → Except UsageError Arguments
  | [] =>
    match pending with
    | some option => .error (.missingValue option)
    | none => .ok ⟨[], []⟩
  | arg :: rest =>
    match pending with
    | some option => do
      let more ← sortArguments specs anywhere none rest
      return { more with options := (option, arg) :: more.options }
    | none =>
      if arg == "--" then .ok ⟨[], rest⟩
      else
        match optionsIn specs arg with
        | some found => do
          let found ← found
          let more ← sortArguments specs anywhere found.pending rest
          return { more with options := found.options ++ more.options }
        | none =>
          if anywhere then do
            let more ← sortArguments specs anywhere none rest
            return { more with positional := arg :: more.positional }
          else .ok ⟨[], arg :: rest⟩

/-! ### Commands -/

/-- The commands. -/
inductive CommandName where
  | generate
  | render
  | validate
  | types
  | schema
  deriving DecidableEq

namespace CommandName

/-- All of them. -/
def all : List CommandName := [.generate, .render, .schema, .types, .validate]

/-- The word for a command. -/
def word : CommandName → String
  | .generate => "generate"
  | .render => "render"
  | .validate => "validate"
  | .types => "types"
  | .schema => "schema"

/-- The command that a word names. -/
def ofWord? (w : String) : Option CommandName :=
  all.find? (fun c => c.word == w)

/-- The option that asks for help. -/
def helpOption : OptionSpec := ⟨"help", none, false⟩

/-- The option that names the file of the settings. -/
def configOption : OptionSpec := ⟨"config", some 'c', true⟩

/-- The options of a command. -/
def options : CommandName → List OptionSpec
  | .generate => [
    ⟨"output", some 'o', true⟩, configOption, ⟨"language", some 'l', true⟩,
    ⟨"exclude", some 'x', true⟩, helpOption]
  | .render => [configOption, ⟨"plain", none, false⟩, helpOption]
  | .validate => [helpOption]
  | .types => [configOption, helpOption]
  | .schema => [helpOption]

/-- The names of the arguments of a command. -/
def parameters : CommandName → List String
  | .generate => ["MODEL_PATH"]
  | .render => ["MODEL_PATH", "TYPE_NAME"]
  | .validate => ["MODEL_PATH"]
  | .types => ["MODEL_PATH"]
  | .schema => []

end CommandName

/-- What the user asks for. -/
inductive Invocation where
  | generate (model output : String) (config : Option String) (language : String)
    (exclude : List String)
  | render (model type : String) (config : Option String) (plain : Bool)
  | validate (model : String)
  | types (model : String) (config : Option String)
  | schema
  | version
  /-- Help on the program, or on one command. -/
  | help (command : Option CommandName)
  deriving DecidableEq

/-- Check that there is one argument for each parameter. -/
def checkCount : List String → List String → Except UsageError Unit
  | [], [] => .ok ()
  | name :: _, [] => .error (.missingArgument name)
  | [], _ :: _ => .error .extraArguments
  | _ :: names, _ :: args => checkCount names args

/-- What the user asks of a command. -/
def readCommand (c : CommandName) (args : List String) : Except UsageError Invocation := do
  let a ← sortArguments c.options true none args
  if a.has "help" then return .help (some c)
  let language := (a.value? "language").getD "java"
  if !languages.contains language then .error (.badChoice language)
  checkCount c.parameters a.positional
  let model := a.positional.head?.getD ""
  let config := a.value? "config"
  match c with
  | .generate =>
    return .generate model ((a.value? "output").getD ".") config language (a.values "exclude")
  | .render => return .render model (a.positional.getLast?.getD "") config (a.has "plain")
  | .validate => return .validate model
  | .types => return .types model config
  | .schema => return .schema

/-- The options of the program. -/
def programOptions : List OptionSpec :=
  [⟨"version", none, false⟩, ⟨"verbose", some 'v', false⟩, CommandName.helpOption]

/-- The first of the options that end the program at once. -/
def eagerOption? (a : Arguments) : Option Invocation :=
  a.options.findSome? fun o =>
    if o.1 == "version" then some .version
    else if o.1 == "help" then some (.help none)
    else none

/-- Whether a word looks like an option: it does not start with a letter or a digit. -/
def resemblesOption (word : String) : Bool :=
  match word.toList with
  | [] => false
  | c :: _ => !Text.isAlphanumeric c

/-- What the user asks for with arguments that start with no command, though one is expected. -/
def readUnknown (word : String) (rest : List String) : Except UsageError Invocation := do
  if resemblesOption word then
    let a ← sortArguments programOptions false none (word :: rest)
    if let some invocation := eagerOption? a then return invocation
  .error (.noSuchCommand word)

/-- What the user asks for. -/
def readArguments (args : List String) : Except UsageError Invocation := do
  let a ← sortArguments programOptions false none args
  match eagerOption? a with
  | some invocation => return invocation
  | none =>
    match a.positional with
    | [] => .error .missingCommand
    | word :: rest =>
      match CommandName.ofWord? word with
      | some c => readCommand c rest
      | none => readUnknown word rest

/-- Whether the user wants to see all notices. -/
def isVerbose (args : List String) : Bool :=
  match sortArguments programOptions false none args with
  | .ok a => a.has "verbose"
  | .error _ => false

end DataContract.Console
