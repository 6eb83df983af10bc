/-
Reading numbers from text.

Blanks around a number are skipped, a sign may stand before it, and digits of
every script are digits.
-/
import DataContract.Document.Fault
import DataContract.Number.Binary64
import DataContract.Text.Blank
import DataContract.Text.Occurrence
import DataContract.Text.Word

namespace DataContract

open DataContract.Text

/-- The sign of a text, and the text after it. -/
def splitSign : List Char → Bool × List Char
  | '-' :: rest => (true, rest)
  | '+' :: rest => (false, rest)
  | s => (false, s)

/-- The value of a digit of a base up to sixteen. -/
def digitIn? (base : Nat) (c : Char) : Option Nat :=
  let value := match digitValue? c with
    | some n => some n
    | none =>
      if 'a' ≤ c && c ≤ 'f' then some (c.toNat - 'a'.toNat + 10)
      else if 'A' ≤ c && c ≤ 'F' then some (c.toNat - 'A'.toNat + 10)
      else none
  value.filter (· < base)

/-- The value of a run of digits that is not empty. -/
def digitsIn? (base : Nat) (s : List Char) : Option Nat :=
  if s.isEmpty then none
  else s.foldlM (fun n c => (digitIn? base c).map (n * base + ·)) 0

/-- What may stand before the digits of a number in a base that is a power of two. -/
def baseMarks : Nat → List (List Char)
  | 2 => [['0', 'b'], ['0', 'B']]
  | 8 => [['0', 'o'], ['0', 'O']]
  | 16 => [['0', 'x'], ['0', 'X']]
  | _ => []

/-- An integer in a base. -/
def readInt (base : Nat) (s : List Char) : Except Fault Int :=
  let (negative, unsigned) := splitSign (trim s)
  let ds := ((baseMarks base).findSome? (fun mark => dropPrefix? mark unsigned)).getD unsigned
  match digitsIn? base ds with
  | none => .error .notANumber
  | some n =>
    if base = 10 && maxDigits < ds.length then .error .tooManyDigits
    else .ok (if negative then -(n : Int) else n)

/-- The digits at the start of a text, and the text after them. -/
def splitDigits (s : List Char) : List Char × List Char :=
  (s.takeWhile isDecimal, s.dropWhile isDecimal)

/-- An exponent, zero if none is written. -/
def readExponent : List Char → Option Int
  | [] => some 0
  | e :: rest =>
    if e == 'e' || e == 'E' then
      let (negative, ds) := splitSign rest
      (digitsIn? 10 ds).map (fun n => if negative then -(n : Int) else n)
    else none

/-- A floating-point number without a sign. -/
def readMagnitude (negative : Bool) (s : List Char) : Option Binary64 :=
  let lowered := String.ofList (s.map Char.toLower)
  if lowered == "inf" || lowered == "infinity" then some (.infinite negative)
  else if lowered == "nan" then some .nan
  else do
    let (whole, rest) := splitDigits s
    let (part, rest) := match rest with
      | '.' :: rest => splitDigits rest
      | rest => ([], rest)
    let n ← digitsIn? 10 (whole ++ part)
    let e ← readExponent rest
    return .ofDecimal negative n (e - part.length)

/-- A floating-point number. -/
def readFloat (s : List Char) : Except Fault Binary64 :=
  let (negative, unsigned) := splitSign (trim s)
  match readMagnitude negative unsigned with
  | some x => .ok x
  | none => .error .notANumber

end DataContract
