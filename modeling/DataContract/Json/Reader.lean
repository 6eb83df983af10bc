/-
Reading JSON text.

Beside the standard's texts the constants `NaN`, `Infinity` and `-Infinity` are
read.  A number with a fraction or an exponent is a floating-point number, any
other number an integer of any size up to the digit limit.  An object keeps its
keys at their first place and with their last value.
-/
import DataContract.Document.Fault
import DataContract.Text.CodePoint
import DataContract.Text.Hexadecimal
import DataContract.Text.Occurrence
import DataContract.Value.Basic

namespace DataContract.Json

open DataContract.Text

/-- The white space between the tokens of JSON text. -/
def isSpace (c : Char) : Bool :=
  c == ' ' || c == '\t' || c == '\n' || c == '\r'

/-- The text after its white space. -/
def skip (s : List Char) : List Char :=
  s.dropWhile isSpace

/-- The value of four hexadecimal digits. -/
def unit? (a b c d : Char) : Option Nat :=
  hexNumber? [a, b, c, d]

/-- The character that a one-letter escape stands for. -/
def escaped? : Char → Option Char
  | '"' => some '"'
  | '\\' => some '\\'
  | '/' => some '/'
  | 'b' => some '\x08'
  | 'f' => some '\x0c'
  | 'n' => some '\n'
  | 'r' => some '\r'
  | 't' => some '\t'
  | _ => none

/-- The characters up to the closing quote, and the text after it. -/
def stringBody : List Char → Except Fault (List Char × List Char)
  | '"' :: rest => .ok ([], rest)
  | '\\' :: 'u' :: a :: b :: c :: d :: '\\' :: 'u' :: e :: f :: g :: h :: rest =>
    match unit? a b c d, unit? e f g h with
    | some high, some low =>
      if isHighUnit high && isLowUnit low then do
        let (chars, after) ← stringBody rest
        return (charOfPair high low :: chars, after)
      else do
        let (chars, after) ← stringBody ('\\' :: 'u' :: e :: f :: g :: h :: rest)
        return (charOfCode high :: chars, after)
    | some n, none => do
      let (chars, after) ← stringBody ('\\' :: 'u' :: e :: f :: g :: h :: rest)
      return (charOfCode n :: chars, after)
    | none, _ => .error .malformed
  | '\\' :: 'u' :: a :: b :: c :: d :: rest =>
    match unit? a b c d with
    | some n => do
      let (chars, after) ← stringBody rest
      return (charOfCode n :: chars, after)
    | none => .error .malformed
  | '\\' :: letter :: rest =>
    match escaped? letter with
    | some c => do
      let (chars, after) ← stringBody rest
      return (c :: chars, after)
    | none => .error .malformed
  | c :: rest =>
    if c == '\\' || c.toNat < 0x20 then .error .malformed
    else do
      let (chars, after) ← stringBody rest
      return (c :: chars, after)
  | [] => .error .malformed

/-- The digits at the start of a text, and the text after them. -/
def digits (s : List Char) : List Char × List Char :=
  (s.takeWhile Char.isDigit, s.dropWhile Char.isDigit)

/-- The value of a run of digits. -/
def digitsValue (ds : List Char) : Nat :=
  ds.foldl (fun n c => n * 10 + (c.toNat - '0'.toNat)) 0

/-- The whole part of a number: one zero, or digits that do not start with zero. -/
def wholePart : List Char → Option (List Char × List Char)
  | '0' :: rest => some (['0'], rest)
  | c :: rest => if c.isDigit then some (digits (c :: rest)) else none
  | [] => none

/-- The digits of a fraction, if a point with digits follows. -/
def fractionPart : List Char → Option (List Char) × List Char
  | '.' :: rest =>
    match digits rest with
    | ([], _) => (none, '.' :: rest)
    | (ds, after) => (some ds, after)
  | s => (none, s)

/-- The exponent, if one follows. -/
def exponentPart (s : List Char) : Option Int × List Char :=
  match s with
  | e :: rest =>
    if e == 'e' || e == 'E' then
      let (negative, unsigned) := match rest with
        | '-' :: r => (true, r)
        | '+' :: r => (false, r)
        | r => (false, r)
      match digits unsigned with
      | ([], _) => (none, s)
      | (ds, after) =>
        let n : Int := digitsValue ds
        (some (if negative then -n else n), after)
    else (none, s)
  | [] => (none, s)

/-- A number without its sign. -/
def unsignedNumber (negative : Bool) (s : List Char) : Except Fault (Value × List Char) :=
  match wholePart s with
  | none => .error .malformed
  | some (whole, rest) =>
    let (fraction, rest) := fractionPart rest
    let (exponent, rest) := exponentPart rest
    match fraction, exponent with
    | none, none =>
      if maxDigits < whole.length then .error .tooManyDigits
      else
        let n : Int := digitsValue whole
        .ok (.int (if negative then -n else n), rest)
    | _, _ =>
      let part := fraction.getD []
      let x := Binary64.ofDecimal negative (digitsValue (whole ++ part))
        (exponent.getD 0 - part.length)
      .ok (.float x, rest)

/-- The constants, with their values. -/
def constants : List (String × Value) := [
  ("null", .null), ("true", .bool true), ("false", .bool false), ("NaN", .float .nan),
  ("Infinity", .float (.infinite false)), ("-Infinity", .float (.infinite true))]

/-- A constant at the start of a text. -/
def constant? (s : List Char) : Option (Value × List Char) :=
  constants.findSome? (fun (name, v) => (dropPrefix? name.toList s).map (fun rest => (v, rest)))

/-- A constant or a number. -/
def atom (s : List Char) : Except Fault (Value × List Char) :=
  match constant? s with
  | some hit => .ok hit
  | none =>
    match s with
    | '-' :: rest => unsignedNumber true rest
    | s => unsignedNumber false s

/-- How deep values may lie in each other. -/
def maxDepth : Nat := 988

mutual

/-- A value at the start of a text, and the text after it; values may lie in it up to a depth. -/
def value : Nat → Nat → List Char → Except Fault (Value × List Char)
  | 0, _, _ => .error .malformed
  | _ + 1, 0, _ => .error .tooDeep
  | fuel + 1, depth + 1, s =>
    match s with
    | '"' :: rest => do
      let (chars, after) ← stringBody rest
      return (.str (String.ofList chars), after)
    | '[' :: rest =>
      match skip rest with
      | ']' :: after => .ok (.list [], after)
      | start => do
        let (items, after) ← items fuel depth start
        return (.list items, after)
    | '\x7b' :: rest =>
      match skip rest with
      | '\x7d' :: after => .ok (.map [], after)
      | start => do
        let (pairs, after) ← members fuel depth start
        return (.map (Entries.ofPairs pairs), after)
    | s => atom s

/-- The items of an array, up to its closing bracket. -/
def items : Nat → Nat → List Char → Except Fault (List Value × List Char)
  | 0, _, _ => .error .malformed
  | fuel + 1, depth, s => do
    let (item, rest) ← value fuel depth s
    match skip rest with
    | ']' :: after => return ([item], after)
    | ',' :: next => do
      let (more, after) ← items fuel depth (skip next)
      return (item :: more, after)
    | _ => .error .malformed

/-- The members of an object, up to its closing brace. -/
def members : Nat → Nat → List Char → Except Fault (List (Value × Value) × List Char)
  | 0, _, _ => .error .malformed
  | fuel + 1, depth, s =>
    match s with
    | '"' :: rest => do
      let (key, rest) ← stringBody rest
      match skip rest with
      | ':' :: rest => do
        let (item, rest) ← value fuel depth (skip rest)
        let pair := (Value.str (String.ofList key), item)
        match skip rest with
        | '\x7d' :: after => return ([pair], after)
        | ',' :: next => do
          let (more, after) ← members fuel depth (skip next)
          return (pair :: more, after)
        | _ => .error .malformed
      | _ => .error .malformed
    | _ => .error .malformed

end

/--
The value of a JSON text.  Every step of the reader takes a character, so the
length bounds its steps.
-/
def parse (text : String) : Except Fault Value := do
  let s := text.toList.map received
  let (v, rest) ← value (2 * s.length + 2) maxDepth (skip s)
  if (skip rest).isEmpty then return v else .error .malformed

end DataContract.Json
