/-
The issues of a document, and where they are.
-/
import DataContract.Schema.Basic
import DataContract.Value.Text

namespace DataContract

/-- One step into a document. -/
inductive Step where
  | field (name : String)
  | item (index : Nat)
  deriving DecidableEq

/-- The text of a step. -/
def Step.text : Step → String
  | .field name => "." ++ name
  | .item index => "[" ++ toString index ++ "]"

/-- A place in a document, as the steps that lead to it. -/
abbrev Location := List Step

/-- The text of a place. -/
def Location.text (l : Location) : String :=
  if l.isEmpty then "/" else String.join (l.map Step.text)

/-- What can be wrong at a place of a document. -/
inductive Problem where
  /-- The value has another type. -/
  | wrongType (expected got : String)
  /-- The value is none of the words allowed. -/
  | notAllowed (value : String) (allowed : List String)
  /-- The text is too short. -/
  | tooShort (least length : Nat)
  /-- The text does not fit the pattern. -/
  | mismatch (text : String) (pattern : Pattern)
  /-- A required entry is missing. -/
  | missing (name : String)
  /-- The tag of the item names no variant. -/
  | unknownVariant (tag : Value) (known : List String)
  /-- The item has no tag. -/
  | noVariant
  /-- A type at the top does not say where it comes from. -/
  | noSourceFile (name : String)
  /-- A type at the top has the name of an earlier one. -/
  | duplicate (name : String)
  /-- A source file is not given relative to the root of its repository. -/
  | rootedSource (source : String)

/-- A list of words as messages give it. -/
def wordList (words : List String) : String :=
  "[" ++ commaSeparated (words.map quoteText) ++ "]"

/-- The message for the user. -/
def Problem.message : Problem → String
  | .wrongType expected got => "expected type '" ++ expected ++ "', got " ++ got
  | .notAllowed value allowed =>
    "value '" ++ value ++ "' not in allowed values " ++ wordList allowed
  | .tooShort least length =>
    "string too short (min " ++ toString least ++ ", got " ++ toString length ++ ")"
  | .mismatch text pattern =>
    "string '" ++ text ++ "' does not match pattern '" ++ pattern.text ++ "'"
  | .missing name => "missing required property '" ++ name ++ "'"
  | .unknownVariant tag known =>
    "unknown variant '" ++ tag.text ++ "', expected one of " ++ wordList known
  | .noVariant => "item does not match any of the allowed schemas"
  | .noSourceFile name => "top-level type '" ++ name ++ "' has no source_file"
  | .duplicate name => "duplicate top-level type '" ++ name ++ "'"
  | .rootedSource source => "'" ++ source ++ "' must be relative to the repository root"

/-- Whether a problem has a message: the tag that it quotes has a text. -/
def Problem.hasMessage : Problem → Bool
  | .unknownVariant tag _ => tag.hasText
  | _ => true

/-- A problem at a place of a document. -/
structure Issue where
  location : Location
  problem : Problem

/-- The message for the user. -/
def Issue.message (i : Issue) : String :=
  i.location.text ++ ": " ++ i.problem.message

end DataContract
