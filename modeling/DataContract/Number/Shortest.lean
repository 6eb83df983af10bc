/-
The shortest decimal that reads back as a given floating-point number.

Around a positive number `m * 2 ^ e` lies the interval of the reals that round
to it; its ends belong to it exactly when the mantissa is even.  For one digit,
two digits and so on, the two decimals of that length next to the number are
tried: the first length with a hit wins, and of two hits the nearer one, a tie
going to the even last digit.  Seventeen digits always suffice.
-/
import DataContract.Number.Binary64

namespace DataContract

/-- The decimal `digits * 10 ^ exponent`. -/
structure Decimal where
  digits : Nat
  exponent : Int
  deriving DecidableEq

namespace Decimal

/-- The decimal without zeros at the end of its digits, at most `fuel` of them. -/
def stripZeros : Nat → Decimal → Decimal
  | 0, d => d
  | fuel + 1, d =>
    if d.digits % 10 = 0 ∧ d.digits ≠ 0 then stripZeros fuel ⟨d.digits / 10, d.exponent + 1⟩ else d

/-- `d` as a fraction over `unit`, so that it can be compared with multiples of `1 / unit`. -/
def scaled (d : Decimal) (unit : Nat) : Nat × Nat :=
  if 0 ≤ d.exponent then (d.digits * Nat.pow 10 d.exponent.toNat * unit, 1)
  else (d.digits * unit, Nat.pow 10 (-d.exponent).toNat)

end Decimal

/--
The reals that round to a number, in units of `1 / unit`: the number itself,
the two ends, and whether the ends belong to it.
-/
structure RoundingInterval where
  low : Nat
  value : Nat
  high : Nat
  unit : Nat
  closed : Bool

namespace RoundingInterval

/-- The interval of `m * 2 ^ e`; below a power of two the next number is twice as near. -/
def ofMantissa (m : Nat) (e : Int) : RoundingInterval :=
  let below := if m = Nat.pow 2 52 ∧ Binary64.minExponent < e then 1 else 2
  let shift := e - 2
  let factor := if 0 ≤ shift then Nat.pow 2 shift.toNat else 1
  { low := (4 * m - below) * factor
    value := 4 * m * factor
    high := (4 * m + 2) * factor
    unit := if 0 ≤ shift then 1 else Nat.pow 2 (-shift).toNat
    closed := m % 2 = 0 }

/-- Whether a decimal lies in the interval. -/
def holds (r : RoundingInterval) (d : Decimal) : Bool :=
  let (n, k) := d.scaled r.unit
  if r.closed then r.low * k ≤ n && n ≤ r.high * k else r.low * k < n && n < r.high * k

/-- The distance of a decimal from the number, in units that depend on its exponent only. -/
def distance (r : RoundingInterval) (d : Decimal) : Nat :=
  let (n, k) := d.scaled r.unit
  if n ≤ r.value * k then r.value * k - n else n - r.value * k

/-- The exponent of the first decimal digit of the number. -/
def leadingExponent (r : RoundingInterval) : Int :=
  let guess := (Binary64.decimalLength r.value : Int) - (Binary64.decimalLength r.unit : Int)
  let (n, k) := Decimal.scaled ⟨1, guess⟩ r.unit
  if n ≤ r.value * k then guess else guess - 1

/-- The largest decimal with exponent `exponent` that is at most the number. -/
def floorAt (r : RoundingInterval) (exponent : Int) : Decimal :=
  let (n, k) := Decimal.scaled ⟨1, exponent⟩ r.unit
  ⟨r.value * k / n, exponent⟩

/-- Of the two decimals next to the number at an exponent, the one to write, if there is one. -/
def hitAt (r : RoundingInterval) (exponent : Int) : Option Decimal :=
  let lower := r.floorAt exponent
  let upper : Decimal := ⟨lower.digits + 1, exponent⟩
  match r.holds lower, r.holds upper with
  | false, false => none
  | true, false => some lower
  | false, true => some upper
  | true, true =>
    let a := r.distance lower
    let b := r.distance upper
    if a < b then some lower
    else if b < a then some upper
    else if lower.digits % 2 = 0 then some lower else some upper

/-- The first hit among the lengths that are left, the next length being `length`. -/
def search (r : RoundingInterval) (leading : Int) : (left : Nat) → (length : Nat) → Decimal
  | 0, length => r.floorAt (leading - length + 1)
  | left + 1, length =>
    match r.hitAt (leading - length + 1) with
    | some d => d
    | none => search r leading left (length + 1)

end RoundingInterval

/-- The shortest decimal that reads back as the positive number `m * 2 ^ e`. -/
def Binary64.shortest (m : Nat) (e : Int) : Decimal :=
  let r := RoundingInterval.ofMantissa m e
  (r.search r.leadingExponent 17 1).stripZeros 20

end DataContract
