/-
The schema of contract documents.

A schema says which values are allowed.  Types nest, so the schema of a type
refers to itself; members come in variants, of which an entry named `member`
selects one.
-/
import DataContract.Model.ContractType
import DataContract.Text.Occurrence
import DataContract.Text.Word

namespace DataContract

open DataContract.Text

/-! ### Patterns -/

/-- The patterns that texts are held to. -/
inductive Pattern where
  | typeReference
  | version
  | typeName
  deriving DecidableEq

namespace Pattern

/-- The pattern as a regular expression. -/
def text : Pattern → String
  | .typeReference => "^[A-Za-z_][\\w.<>, \\[\\]?]*$"
  | .version => "^\\d+\\.\\d+$"
  | .typeName => "^[A-Za-z_]\\w*$"

/-- A letter of the Latin alphabet without marks, or an underscore. -/
def isNameStart (c : Char) : Bool :=
  c.isAlpha || c == '_'

/-- A character of a written type reference. -/
def isReferenceChar (c : Char) : Bool :=
  isWord c || ['.', '<', '>', ',', ' ', '[', ']', '?'].contains c

/-- A first character of one class and any number of another one. -/
def isHeaded (first rest : Char → Bool) : List Char → Bool
  | [] => false
  | c :: s => first c && s.all rest

/-- Digits, a point and digits. -/
def isVersion (s : List Char) : Bool :=
  match pieces '.' s with
  | [major, minor] =>
    !major.isEmpty && major.all isDecimal && !minor.isEmpty && minor.all isDecimal
  | _ => false

/-- Whether a text fits a pattern; a line feed may follow it. -/
def fits (p : Pattern) (s : String) : Bool :=
  let s := dropFinalLineFeed s.toList
  match p with
  | .typeReference => isHeaded isNameStart isReferenceChar s
  | .version => isVersion s
  | .typeName => isHeaded isNameStart isWord s

end Pattern

/-! ### Schemas -/

/-- The rules for a text. -/
structure TextRule where
  /-- The least number of characters. -/
  minLength : Option Nat := none
  pattern : Option Pattern := none
  description : Option String := none

/-- A schema. -/
inductive Schema where
  /-- A text. -/
  | text (rule : TextRule)
  /-- One of some words. -/
  | word (allowed : List String)
  /-- A truth value. -/
  | boolean
  /-- A list of items. -/
  | list (items : Schema)
  /-- A mapping in which some entries are required and some have schemas. -/
  | record (required : List String) (entries : List (String × Schema))
  /-- A mapping whose entry named `member` selects the schema. -/
  | variant (options : List (String × Schema))
  /-- A contract type. -/
  | contractType

namespace Schema

/-- The entry that selects a variant. -/
def discriminator : String := "member"

/-- A text that is not empty. -/
def nonEmpty : Schema := .text { minLength := some 1 }

/-- A reference to a type. -/
def typeReference : Schema :=
  .text {
    minLength := some 1
    pattern := some .typeReference
    description := some "Canonical display form, e.g. 'string', 'string?', 'System.Uri[]'." }

/-- A list of parameters. -/
def parameters : Schema :=
  .list (.record ["name", "type"] [("name", nonEmpty), ("type", typeReference)])

/-- The entries that every member can have. -/
def memberEntries : List (String × Schema) := [
  ("name", nonEmpty),
  ("accessibility", .word (Accessibility.all.map Accessibility.word)),
  ("is_static", .boolean),
  ("documentation", .text {})]

/-- What a kind of member requires beside its name for the variant. -/
def required : MemberKind → List String
  | .property => ["name", "type"]
  | .constant => ["name", "type", "value"]
  | .enumValue => ["name"]
  | .method => ["name"]
  | .constructor => []

/-- The entries of its own that a kind of member can have. -/
def ownEntries : MemberKind → List (String × Schema)
  | .property => [("type", typeReference), ("initializer_source_text", .text {})]
  | .constant => [("type", typeReference)]
  | .enumValue => []
  | .method => [
    ("return_type", typeReference),
    ("parameters", parameters),
    ("method_kind", .word (MethodKind.all.map MethodKind.word))]
  | .constructor => [("parameters", parameters)]

/-- The schema of a kind of member. -/
def memberOf (k : MemberKind) : Schema :=
  .record (discriminator :: required k)
    ((discriminator, .word [k.word]) :: memberEntries ++ ownEntries k)

/-- A member. -/
def member : Schema :=
  .variant (MemberKind.all.map (fun k => (k.word, memberOf k)))

/-- A contract type, in terms of itself. -/
def typeRecord : Schema :=
  .record ["name"] [
    ("name", .text { pattern := some .typeName }),
    ("kind", .word (TypeKind.all.map TypeKind.word)),
    ("base_type", .text {}),
    ("is_static", .boolean),
    ("documentation", .text {}),
    ("source_file", .text {}),
    ("members", .list member),
    ("nested_types", .list .contractType)]

/-- A contract document. -/
def document : Schema :=
  .record ["ir_version", "namespace", "types"] [
    ("ir_version", .text {
      pattern := some .version
      description := some "Version of the IR schema this document targets." }),
    ("namespace", .text {
      minLength := some 1
      description := some "Canonical namespace of the contract types." }),
    ("types", .list .contractType)]

/-- The rules that a schema stands for: those of a type, where it refers to it. -/
def resolve : Schema → Schema
  | .contractType => typeRecord
  | s => s

end Schema

/-- The version of the documents that are read. -/
def supportedVersion : String := "1.0"

end DataContract
