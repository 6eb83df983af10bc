/-
The schema of contract documents as a JSON Schema.
-/
import DataContract.Json.Printer
import DataContract.Schema.Basic

namespace DataContract.Schema

/-- An entry of a mapping. -/
def entry (name : String) (v : Value) : Value × Value :=
  (.str name, v)

/-- An entry that is left out if there is nothing in it. -/
def optionalEntry (name : String) (v : Option Value) : List (Value × Value) :=
  (v.map (entry name)).toList

/-- A list of texts. -/
def textList (items : List String) : Value :=
  .list (items.map .str)

mutual

/-- A schema as the entries of a JSON Schema. -/
def toEntries : Schema → List (Value × Value)
  | .text rule =>
    entry "type" (.str "string")
      :: optionalEntry "minLength" (rule.minLength.map (fun n => .int n))
      ++ optionalEntry "pattern" (rule.pattern.map (fun p => .str p.text))
      ++ optionalEntry "description" (rule.description.map .str)
  | .word allowed => [entry "type" (.str "string"), entry "enum" (textList allowed)]
  | .boolean => [entry "type" (.str "boolean")]
  | .list items => [entry "type" (.str "array"), entry "items" (.map (toEntries items))]
  | .record required entries => [
    entry "type" (.str "object"),
    entry "required" (textList required),
    entry "properties" (.map (namedEntries entries))]
  | .variant options => [entry "oneOf" (.list (optionValues options))]
  | .contractType => [entry "$ref" (.str "#/$defs/type")]

/-- Named schemas as the entries of a mapping. -/
def namedEntries : List (String × Schema) → List (Value × Value)
  | [] => []
  | s :: rest => namedEntry s :: namedEntries rest

/-- A named schema as an entry of a mapping. -/
def namedEntry : String × Schema → Value × Value
  | (name, s) => entry name (.map (toEntries s))

/-- The variants as a list. -/
def optionValues : List (String × Schema) → List Value
  | [] => []
  | s :: rest => optionValue s :: optionValues rest

/-- A variant as a value. -/
def optionValue : String × Schema → Value
  | (_, s) => .map (toEntries s)

end

/-- The schema of contract documents as a JSON Schema. -/
def documentValue : Value :=
  .map ([
    entry "$schema" (.str "https://json-schema.org/draft/2020-12/schema"),
    entry "$id" (.str ("https://contractgen.dev/schema/ir/v" ++ supportedVersion)),
    entry "title" (.str "Canonical Contract Model"),
    entry "description" (.str ("Intermediate representation of a data-contract model, produced "
      ++ "once upstream and consumed read-only by every target-language writer."))]
    ++ toEntries document
    ++ [entry "$defs" (.map [entry "type" (.map (toEntries typeRecord))])])

/-- The text of the JSON Schema of contract documents. -/
def documentText : String :=
  Json.print 0 documentValue

end DataContract.Schema
