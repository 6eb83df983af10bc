/-
The help texts of the command line.
-/
import DataContract.Console.Arguments

namespace DataContract.Console

/-- The name of the program. -/
def programName : String := "contractgen"

/-- The version of the program. -/
def programVersion : String := "0.3.0"

/-- What the version option prints. -/
def versionText : String :=
  programName ++ ", version " ++ programVersion ++ "\n"

/-- Lines of help. -/
def helpLines (lines : List String) : String :=
  String.join (lines.map (· ++ "\n"))

/-- The help on the program. -/
def programHelp : String := helpLines [
  "Usage: contractgen [OPTIONS] COMMAND [ARGS]...",
  "",
  "  contractgen — mirror canonical data contracts into other SDK languages.",
  "",
  "  Reads a canonical contract model (YAML or JSON IR) and writes one idiomatic",
  "  source file per contract type.",
  "",
  "Options:",
  "  --version      Show the version and exit.",
  "  -v, --verbose  Enable debug logging",
  "  --help         Show this message and exit.",
  "",
  "Commands:",
  "  generate  Generate contract sources for every type in MODEL_PATH.",
  "  render    Print the generated source for one TYPE_NAME without writing...",
  "  schema    Print the JSON Schema for IR model files.",
  "  types     List the top-level types in a model and whether they are...",
  "  validate  Validate a model file against the IR schema."]

/-- The help on a command. -/
def commandHelp : CommandName → String
  | .generate => helpLines [
    "Usage: contractgen generate [OPTIONS] MODEL_PATH",
    "",
    "  Generate contract sources for every type in MODEL_PATH.",
    "",
    "Options:",
    "  -o, --output TEXT      Repo root the generated files are written under",
    "  -c, --config TEXT      Path to contractgen.yaml",
    "  -l, --language [java]",
    "  -x, --exclude TEXT     Type name to leave out (repeatable)",
    "  --help                 Show this message and exit."]
  | .render => helpLines [
    "Usage: contractgen render [OPTIONS] MODEL_PATH TYPE_NAME",
    "",
    "  Print the generated source for one TYPE_NAME without writing files.",
    "",
    "Options:",
    "  -c, --config TEXT  Path to contractgen.yaml",
    "  --plain            Print raw text without highlighting",
    "  --help             Show this message and exit."]
  | .validate => helpLines [
    "Usage: contractgen validate [OPTIONS] MODEL_PATH",
    "",
    "  Validate a model file against the IR schema.",
    "",
    "Options:",
    "  --help  Show this message and exit."]
  | .types => helpLines [
    "Usage: contractgen types [OPTIONS] MODEL_PATH",
    "",
    "  List the top-level types in a model and whether they are generated.",
    "",
    "Options:",
    "  -c, --config TEXT  Path to contractgen.yaml",
    "  --help             Show this message and exit."]
  | .schema => helpLines [
    "Usage: contractgen schema [OPTIONS]",
    "",
    "  Print the JSON Schema for IR model files.",
    "",
    "Options:",
    "  --help  Show this message and exit."]

end DataContract.Console
