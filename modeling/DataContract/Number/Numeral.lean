/-
How numbers are written.

Integers are written in base ten.  A floating-point number is written with the
digits of the shortest decimal that reads back, positionally while the exponent
of its first digit lies from -4 to 15 and with an exponent of at least two
digits elsewhere; a positional number always shows a decimal point.
-/
import DataContract.Number.Shortest

namespace DataContract

/-- The decisions of a text format for floating-point numbers. -/
structure NumeralFormat where
  /-- The least leading exponent that is written positionally. -/
  minPositional : Int
  /-- The least leading exponent that is written with an exponent again. -/
  maxPositional : Int
  /-- The least number of digits of a written exponent. -/
  exponentDigits : Nat
  infinity : String
  notANumber : String

namespace NumeralFormat

/-- A digit string filled up with zeros on the left. -/
def padLeft (width : Nat) (s : String) : String :=
  String.ofList (List.replicate (width - s.length) '0') ++ s

/-- Digits with a decimal point after the first `point` of them. -/
def positional (digits : String) (point : Int) : String :=
  if point ≤ 0 then
    "0." ++ String.ofList (List.replicate (-point).toNat '0') ++ digits
  else
    let whole := digits.toList.take point.toNat
    let part := digits.toList.drop point.toNat
    String.ofList (whole ++ List.replicate (point.toNat - whole.length) '0') ++ "."
      ++ (if part.isEmpty then "0" else String.ofList part)

/-- Digits with an exponent that counts from the first of them. -/
def scientific (f : NumeralFormat) (digits : String) (leading : Int) : String :=
  let mantissa := match digits.toList with
    | [] => ""
    | [d] => d.toString
    | d :: rest => d.toString ++ "." ++ String.ofList rest
  mantissa ++ "e" ++ (if leading < 0 then "-" else "+")
    ++ padLeft f.exponentDigits (toString leading.natAbs)

/-- The text of a positive decimal. -/
def decimal (f : NumeralFormat) (d : Decimal) : String :=
  let digits := toString d.digits
  let leading := d.exponent + digits.length - 1
  if f.minPositional ≤ leading && leading < f.maxPositional then positional digits (leading + 1)
  else f.scientific digits leading

/-- The text of a floating-point number. -/
def write (f : NumeralFormat) : Binary64 → String
  | .nan => f.notANumber
  | .infinite negative => (if negative then "-" else "") ++ f.infinity
  | .finite negative m e =>
    (if negative then "-" else "")
      ++ (if m = 0 then "0.0" else f.decimal (Binary64.shortest m e))

end NumeralFormat

/-- Numbers in messages and in generated text. -/
def Binary64.format : NumeralFormat where
  minPositional := -4
  maxPositional := 16
  exponentDigits := 2
  infinity := "inf"
  notANumber := "nan"

/-- The text of a floating-point number. -/
def Binary64.text (x : Binary64) : String :=
  Binary64.format.write x

/-- The text of an integer. -/
def intText (i : Int) : String :=
  (if i < 0 then "-" else "") ++ String.ofList (Nat.toDigits 10 i.natAbs)

end DataContract
