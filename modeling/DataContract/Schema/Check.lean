/-
Checking a document against a schema.

The recursion goes on the document.  A value of the wrong type has that one
issue; a mapping first lacks its required entries, then has the issues of its
entries in document order.
-/
import DataContract.Schema.Issue

namespace DataContract.Schema

/-- The type that a schema demands, as messages give it. -/
def expected : Schema → String
  | .text _ => "string"
  | .word _ => "string"
  | .boolean => "boolean"
  | .list _ => "array"
  | .record _ _ => "object"
  | .variant _ => "object"
  | .contractType => "object"

/-- The issue of a value of the wrong type. -/
def wrongType (s : Schema) (v : Value) (place : Location) : List Issue :=
  [⟨place, .wrongType s.expected v.typeName⟩]

/-- The issues of a text. -/
def textIssues (rule : TextRule) (written : String) (place : Location) : List Issue :=
  (match rule.minLength with
    | some least => if written.length < least then [⟨place, .tooShort least written.length⟩] else []
    | none => [])
  ++ (match rule.pattern with
    | some p => if p.fits written then [] else [⟨place, .mismatch written p⟩]
    | none => [])

/-- The issues of a value that has no parts. -/
def scalarIssues (s : Schema) (v : Value) (place : Location) : List Issue :=
  match s, v with
  | .text rule, .str written => textIssues rule written place
  | .word allowed, .str written =>
    if allowed.contains written then [] else [⟨place, .notAllowed written allowed⟩]
  | .boolean, .bool _ => []
  | s, v => wrongType s v place

/-- The required entries that a mapping lacks. -/
def missingIssues (required : List String) (entries : Entries) (place : Location) : List Issue :=
  (required.filter (fun name => !entries.has name)).map (fun name => ⟨place, .missing name⟩)

/-- The schema of the variant that an item selects, or the issue of an item that selects none. -/
def select (options : List (String × Schema)) (item : Value) (place : Location) :
    Except Issue Schema :=
  match item with
  | .map entries =>
    match Entries.get? entries discriminator with
    | some tag =>
      match options.find? (fun o => tag.isStr o.1) with
      | some o => .ok o.2
      | none =>
        .error ⟨place ++ [.field discriminator], .unknownVariant tag (options.map (·.1))⟩
    | none => .error ⟨place, .noVariant⟩
  | _ => .error ⟨place, .noVariant⟩

mutual

/-- The issues of a value. -/
def issues (s : Schema) (place : Location) : Value → List Issue
  | .list items =>
    match s.resolve with
    | .list item => itemIssues item place 0 items
    | s => wrongType s (.list items) place
  | .map entries =>
    match s.resolve with
    | .record required named =>
      missingIssues required entries place ++ entryIssues named place entries
    | s => wrongType s (.map entries) place
  | v => scalarIssues s.resolve v place

/-- The issues of the items of a list from an index on. -/
def itemIssues (item : Schema) (place : Location) (index : Nat) : List Value → List Issue
  | [] => []
  | v :: rest =>
    (match item with
      | .variant options =>
        match select options v (place ++ [.item index]) with
        | .ok s => issues s (place ++ [.item index]) v
        | .error issue => [issue]
      | s => issues s (place ++ [.item index]) v)
    ++ itemIssues item place (index + 1) rest

/-- The issues of the entries of a mapping. -/
def entryIssues (named : List (String × Schema)) (place : Location) :
    List (Value × Value) → List Issue
  | [] => []
  | e :: rest => oneEntryIssues named place e ++ entryIssues named place rest

/-- The issues of an entry; one whose name has no schema has none. -/
def oneEntryIssues (named : List (String × Schema)) (place : Location) :
    Value × Value → List Issue
  | (key, v) =>
    match named.find? (fun n => key.isStr n.1) with
    | some (name, s) => issues s (place ++ [.field name]) v
    | none => []

end

/-- The issues of a document. -/
def documentIssues (v : Value) : List Issue :=
  issues document [] v

end DataContract.Schema
