/-
Dates and moments of the proleptic Gregorian calendar, years 1 to 9999.
-/
namespace DataContract

/-- A day. -/
structure Date where
  year : Nat
  month : Nat
  day : Nat
  deriving DecidableEq

/-- A time of a day, with the distance of its clock from universal time in minutes if known. -/
structure Moment where
  date : Date
  hour : Nat
  minute : Nat
  second : Nat
  microsecond : Nat
  offset : Option Int
  deriving DecidableEq

/-- A number in base ten, filled up with zeros on the left. -/
def zeroPadded (width n : Nat) : String :=
  let digits := Nat.toDigits 10 n
  String.ofList (List.replicate (width - digits.length) '0' ++ digits)

namespace Date

/-- Whether a year has a twenty-ninth of February. -/
def isLeapYear (year : Nat) : Bool :=
  year % 4 = 0 && (year % 100 ≠ 0 || year % 400 = 0)

/-- The number of days of a month. -/
def daysInMonth (year month : Nat) : Nat :=
  if month = 2 then (if isLeapYear year then 29 else 28)
  else if month = 4 || month = 6 || month = 9 || month = 11 then 30
  else 31

/-- Whether the calendar has this day. -/
def isValid (d : Date) : Bool :=
  1 ≤ d.year && d.year ≤ 9999 && 1 ≤ d.month && d.month ≤ 12
    && 1 ≤ d.day && d.day ≤ daysInMonth d.year d.month

/-- The number of days before this one since the first day of year 1. -/
def dayNumber (d : Date) : Nat :=
  let years := d.year - 1
  let before := (List.range (d.month - 1)).foldl (fun days m => days + daysInMonth d.year (m + 1)) 0
  365 * years + years / 4 - years / 100 + years / 400 + before + (d.day - 1)

/-- The text `YYYY-MM-DD`. -/
def text (d : Date) : String :=
  zeroPadded 4 d.year ++ "-" ++ zeroPadded 2 d.month ++ "-" ++ zeroPadded 2 d.day

end Date

namespace Moment

/-- Whether the calendar and the clock have this moment. -/
def isValid (m : Moment) : Bool :=
  m.date.isValid && m.hour ≤ 23 && m.minute ≤ 59 && m.second ≤ 59 && m.microsecond ≤ 999999
    && (match m.offset with
      | none => true
      | some minutes => -1440 < minutes && minutes < 1440)

/-- The offset as `+hh:mm` or `-hh:mm`, empty when it is not known. -/
def offsetText (m : Moment) : String :=
  match m.offset with
  | none => ""
  | some minutes =>
    (if minutes < 0 then "-" else "+") ++ zeroPadded 2 (minutes.natAbs / 60) ++ ":"
      ++ zeroPadded 2 (minutes.natAbs % 60)

/-- The text `YYYY-MM-DD hh:mm:ss`, with microseconds and offset when there are any. -/
def text (m : Moment) : String :=
  m.date.text ++ " " ++ zeroPadded 2 m.hour ++ ":" ++ zeroPadded 2 m.minute ++ ":"
    ++ zeroPadded 2 m.second
    ++ (if m.microsecond = 0 then "" else "." ++ zeroPadded 6 m.microsecond) ++ m.offsetText

/-- Microseconds since the first day of year 1 on the moment's own clock. -/
def clockTime (m : Moment) : Int :=
  (((m.date.dayNumber * 24 + m.hour) * 60 + m.minute) * 60 + m.second) * 1000000 + m.microsecond

/-- Whether two moments are the same; a moment with a known offset differs from one without. -/
def same (a b : Moment) : Bool :=
  match a.offset, b.offset with
  | none, none => a.clockTime == b.clockTime
  | some x, some y => a.clockTime - x * 60000000 == b.clockTime - y * 60000000
  | _, _ => false

end Moment

end DataContract
