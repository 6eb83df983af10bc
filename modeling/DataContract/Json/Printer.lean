/-
Writing JSON text, with two blanks for each level of nesting.

Only what a schema holds is written: texts, numbers, truth values, lists and
mappings with texts as keys.  Every character outside ASCII is escaped.
-/
import DataContract.Number.Numeral
import DataContract.Text.CodePoint
import DataContract.Text.Hexadecimal
import DataContract.Value.Basic

namespace DataContract.Json

open DataContract.Text

/-- A UTF-16 unit as an escape. -/
def unitEscape (n : Nat) : List Char :=
  '\\' :: 'u' :: hexDigits 4 n

/-- A character inside quotes. -/
def escape (c : Char) : List Char :=
  match c with
  | '"' => ['\\', '"']
  | '\\' => ['\\', '\\']
  | '\n' => ['\\', 'n']
  | '\r' => ['\\', 'r']
  | '\t' => ['\\', 't']
  | '\x08' => ['\\', 'b']
  | '\x0c' => ['\\', 'f']
  | c =>
    if 0x20 ≤ c.toNat && c.toNat < 0x7f then [c]
    else if codeOf c < 0x10000 then unitEscape (codeOf c)
    else
      let n := c.toNat - 0x10000
      unitEscape (0xd800 + n / 0x400) ++ unitEscape (0xdc00 + n % 0x400)

/-- A text between quotes. -/
def quote (s : String) : String :=
  "\"" ++ String.ofList (s.toList.flatMap escape) ++ "\""

/-- A new line at a level of nesting. -/
def newLine (level : Nat) : String :=
  "\n" ++ "".pushn ' ' (2 * level)

/-- Lines between brackets, or the brackets alone if there are none. -/
def bracketed (opening closing : String) (level : Nat) (lines : List String) : String :=
  if lines.isEmpty then opening ++ closing
  else opening ++ newLine (level + 1) ++ ("," ++ newLine (level + 1)).intercalate lines
    ++ newLine level ++ closing

mutual

/-- The text of a value at a level of nesting. -/
def print (level : Nat) : Value → String
  | .null => "null"
  | .bool b => if b then "true" else "false"
  | .int i => intText i
  | .float x => x.text
  | .noNumber _ => Binary64.nan.text
  | .str s => quote s
  | .bytes data => bracketed "[" "]" level (data.map (fun b => intText b.toNat))
  | .date d => quote d.text
  | .moment m => quote m.text
  | .list items => bracketed "[" "]" level (printItems (level + 1) items)
  | .set items => bracketed "[" "]" level (printItems (level + 1) items)
  | .map entries => bracketed "\x7b" "\x7d" level (printEntries (level + 1) entries)
  | .pair a b => bracketed "[" "]" level [print (level + 1) a, print (level + 1) b]
  | .again _ => "null"

/-- The texts of the items of a list. -/
def printItems (level : Nat) : List Value → List String
  | [] => []
  | item :: rest => print level item :: printItems level rest

/-- The texts of the entries of a mapping. -/
def printEntries (level : Nat) : List (Value × Value) → List String
  | [] => []
  | entry :: rest => printEntry level entry :: printEntries level rest

/-- The text of one entry of a mapping. -/
def printEntry (level : Nat) : Value × Value → String
  | (key, value) => print level key ++ ": " ++ print level value

end

end DataContract.Json
