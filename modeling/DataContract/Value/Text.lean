/-
The text of a value.

A text stands for itself at the top and is quoted inside a collection; dates
and moments are written as calendar text at the top, and by the construction
that makes them inside a collection.  A number with more digits than can be
read is not written either, so a value that holds one has no text.
-/
import DataContract.Document.Fault
import DataContract.Number.Numeral
import DataContract.Text.Quoted
import DataContract.Value.Basic

namespace DataContract

/-- A quoted text. -/
def quoteText (s : String) : String :=
  String.ofList (Text.quoted s.toList)

/-- Items between commas. -/
def commaSeparated (items : List String) : String :=
  ", ".intercalate items

/-- A byte of quoted bytes: one of a printable character of ASCII stands for itself. -/
def quotedByte (quote : Char) (b : UInt8) : List Char :=
  if b < 0x7f then Text.quotedChar quote (Char.ofNat b.toNat)
  else '\\' :: 'x' :: Text.hexDigits 2 b.toNat

/-- Quoted bytes. -/
def quoteBytes (data : List UInt8) : String :=
  let quote := Text.quoteFor (data.map (fun b => Char.ofNat b.toNat))
  String.ofList ('b' :: quote :: data.flatMap (quotedByte quote) ++ [quote])

/-- The mark of a collection that is entered again. -/
def Shape.mark : Shape → String
  | .list => "[...]"
  | .map => "\x7b...\x7d"
  | .pair => "(...)"

namespace Date

/-- The date by its construction. -/
def construction (d : Date) : String :=
  "datetime.date(" ++ commaSeparated (([d.year, d.month, d.day]).map toString) ++ ")"

end Date

namespace Moment

/-- The offset by its construction, in whole days and seconds. -/
def offsetConstruction (minutes : Int) : String :=
  if minutes = 0 then "datetime.timezone.utc"
  else if minutes < 0 then
    "datetime.timezone(datetime.timedelta(days=-1, seconds="
      ++ intText (86400 + minutes * 60) ++ "))"
  else "datetime.timezone(datetime.timedelta(seconds=" ++ intText (minutes * 60) ++ "))"

/-- The moment by its construction; zero seconds and microseconds at the end are left out. -/
def construction (m : Moment) : String :=
  let clock :=
    if m.microsecond ≠ 0 then [m.hour, m.minute, m.second, m.microsecond]
    else if m.second ≠ 0 then [m.hour, m.minute, m.second]
    else [m.hour, m.minute]
  let zone := match m.offset with
    | none => []
    | some minutes => ["tzinfo=" ++ offsetConstruction minutes]
  "datetime.datetime("
    ++ commaSeparated
      (([m.date.year, m.date.month, m.date.day] ++ clock).map toString ++ zone) ++ ")"

end Moment

namespace Value

mutual

/-- The text of a value inside a collection. -/
def innerText : Value → String
  | .null => "None"
  | .bool b => if b then "True" else "False"
  | .int i => intText i
  | .float x => x.text
  | .noNumber _ => Binary64.nan.text
  | .str s => quoteText s
  | .bytes data => quoteBytes data
  | .date d => d.construction
  | .moment m => m.construction
  | .list items => "[" ++ commaSeparated (itemTexts items) ++ "]"
  | .map entries => "\x7b" ++ commaSeparated (entryTexts entries) ++ "\x7d"
  | .set items =>
    match items with
    | [] => "set()"
    | item :: rest => "\x7b" ++ commaSeparated (innerText item :: itemTexts rest) ++ "\x7d"
  | .pair a b => "(" ++ innerText a ++ ", " ++ innerText b ++ ")"
  | .again shape => shape.mark

/-- The texts of the items of a collection. -/
def itemTexts : List Value → List String
  | [] => []
  | item :: rest => innerText item :: itemTexts rest

/-- The texts of the entries of a mapping. -/
def entryTexts : List (Value × Value) → List String
  | [] => []
  | entry :: rest => entryText entry :: entryTexts rest

/-- The text of one entry of a mapping. -/
def entryText : Value × Value → String
  | (key, value) => innerText key ++ ": " ++ innerText value

end

/-- The text of a value. -/
def text : Value → String
  | .str s => s
  | .date d => d.text
  | .moment m => m.text
  | v => v.innerText

/-- Whether an integer has few enough digits to be written. -/
def isWritable (i : Int) : Bool :=
  i.natAbs < Nat.pow 10 maxDigits

mutual

/-- Whether a value has a text: all its integers are short enough. -/
def hasText : Value → Bool
  | .int i => isWritable i
  | .list items => itemsHaveText items
  | .map entries => entriesHaveText entries
  | .set items => itemsHaveText items
  | .pair a b => hasText a && hasText b
  | _ => true

/-- Whether all items of a collection have a text. -/
def itemsHaveText : List Value → Bool
  | [] => true
  | item :: rest => hasText item && itemsHaveText rest

/-- Whether all entries of a mapping have a text. -/
def entriesHaveText : List (Value × Value) → Bool
  | [] => true
  | entry :: rest => entryHasText entry && entriesHaveText rest

/-- Whether an entry of a mapping has a text. -/
def entryHasText : Value × Value → Bool
  | (key, value) => hasText key && hasText value

end

/-- The name of a value's type, as messages give it. -/
def typeName : Value → String
  | .null => "NoneType"
  | .bool _ => "bool"
  | .int _ => "int"
  | .float _ => "float"
  | .noNumber _ => "float"
  | .str _ => "str"
  | .bytes _ => "bytes"
  | .date _ => "date"
  | .moment _ => "datetime"
  | .list _ => "list"
  | .map _ => "dict"
  | .set _ => "set"
  | .pair _ _ => "tuple"
  | .again .list => "list"
  | .again .map => "dict"
  | .again .pair => "tuple"

end Value

end DataContract
