/-
Tags: what kind of value a node of a YAML text stands for.

A plain scalar without a tag gets one from its text.  Numbers may have
underscores, a leading zero makes them octal, and colons divide them in base
sixty; a floating-point number needs a point, and its exponent a sign.  One
line feed may follow such a text.
-/
import DataContract.Text.Occurrence
import DataContract.Yaml.Timestamp

namespace DataContract.Yaml

open DataContract.Text (pieces)

/-- The kind of value that a node stands for. -/
inductive Tag where
  | null
  | bool
  | int
  | float
  | timestamp
  | str
  | seq
  | map
  | set
  /-- A list of pairs. -/
  | pairs
  /-- Bytes in base sixty-four. -/
  | binary
  | merge
  | value
  | other
  deriving DecidableEq

namespace Tag

/-- The start of the names of the standard tags. -/
def standardStart : String := "tag:yaml.org,2002:"

/-- The standard tags by the rest of their names. -/
def standard : List (String × Tag) := [
  ("null", .null), ("bool", .bool), ("int", .int), ("float", .float), ("timestamp", .timestamp),
  ("str", .str), ("seq", .seq), ("map", .map), ("set", .set), ("omap", .pairs), ("pairs", .pairs),
  ("binary", .binary), ("merge", .merge), ("value", .value)]

/-- The tag with a given name. -/
def ofName (name : String) : Tag :=
  match standard.find? (fun (rest, _) => standardStart ++ rest == name) with
  | some (_, t) => t
  | none => .other

end Tag

/-! ### The tag of a plain scalar -/

/-- A digit or an underscore. -/
def isSpacedDigit (c : Char) : Bool := c.isDigit || c == '_'

/-- The text after one sign, if it starts with one. -/
def dropSign : List Char → List Char
  | '-' :: rest => rest
  | '+' :: rest => rest
  | s => s

/-- Digits with underscores, the first one being a digit that passes `p`. -/
def isSpacedNumber (p : Char → Bool) : List Char → Bool
  | c :: rest => p c && c.isDigit && rest.all isSpacedDigit
  | [] => false

/-- A part of a number in base sixty after a colon: one digit, or two that are below sixty. -/
def isSixtieth : List Char → Bool
  | [c] => c.isDigit
  | [d, c] => '0' ≤ d && d ≤ '5' && c.isDigit
  | _ => false

/-- A number in base sixty with at least two parts; its first digit passes `p`. -/
def isSexagesimal (p : Char → Bool) (s : List Char) : Bool :=
  match pieces ':' s with
  | whole :: part :: more => isSpacedNumber p whole && (part :: more).all isSixtieth
  | _ => false

/-- A text that is not empty and whose characters all pass `p`. -/
def isRunOf (p : Char → Bool) (s : List Char) : Bool :=
  !s.isEmpty && s.all p

/-- An integer: binary, octal, decimal, hexadecimal or in base sixty. -/
def isIntText (s : List Char) : Bool :=
  let s := dropSign s
  (match s with
    | '0' :: 'b' :: rest => isRunOf (fun c => c == '0' || c == '1' || c == '_') rest
    | '0' :: 'x' :: rest =>
      isRunOf (fun c => c.isDigit || ('a' ≤ c && c ≤ 'f') || ('A' ≤ c && c ≤ 'F') || c == '_') rest
    | '0' :: rest => rest.all (fun c => ('0' ≤ c && c ≤ '7') || c == '_')
    | _ => isSpacedNumber (· != '0') s)
  || isSexagesimal (· != '0') s

/-- Nothing, or an exponent with a sign. -/
def isSignedExponent : List Char → Bool
  | [] => true
  | e :: sign :: rest =>
    (e == 'e' || e == 'E') && (sign == '-' || sign == '+') && isRunOf Char.isDigit rest
  | _ => false

/-- A floating-point number. -/
def isFloatText (s : List Char) : Bool :=
  let unsigned := dropSign s
  (match Text.splitFirst? ['.'] unsigned with
    | some (whole, rest) =>
      let exponent := rest.dropWhile isSpacedDigit
      (isSpacedNumber (fun _ => true) whole && isSignedExponent exponent)
        || (isSexagesimal (fun _ => true) whole && exponent.isEmpty)
    | none => false)
  || (match s with
    | '.' :: c :: rest => c.isDigit && isSignedExponent (rest.dropWhile isSpacedDigit)
    | _ => false)
  || [".inf", ".Inf", ".INF"].any (·.toList == unsigned)
  || [".nan", ".NaN", ".NAN"].any (·.toList == s)

/-- A truth value. -/
def isBoolText (s : List Char) : Bool :=
  ["yes", "Yes", "YES", "no", "No", "NO", "true", "True", "TRUE", "false", "False", "FALSE",
    "on", "On", "ON", "off", "Off", "OFF"].any (·.toList == s)

/-- The null value. -/
def isNullText (s : List Char) : Bool :=
  ["", "~", "null", "Null", "NULL"].any (·.toList == s)

/-- An indicator that no value may consist of. -/
def isIndicatorText (s : List Char) : Bool :=
  s == ['!'] || s == ['&'] || s == ['*']

/-- The tag of a plain scalar. -/
def plainTag (text : String) : Tag :=
  let s := Text.dropFinalLineFeed text.toList
  if s.isEmpty && text != "" then .str
  else if isBoolText s then .bool
  else if isFloatText s then .float
  else if isIntText s then .int
  else if s == ['<', '<'] then .merge
  else if isNullText s then .null
  else if isTimestampText s then .timestamp
  else if s == ['='] then .value
  else if isIndicatorText s then .other
  else .str

end DataContract.Yaml
