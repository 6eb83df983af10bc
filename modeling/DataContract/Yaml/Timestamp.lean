/-
Dates and times in YAML text.
-/
import DataContract.Text.Occurrence
import DataContract.Value.Calendar

namespace DataContract.Yaml

/-- The digits at the start of a text, at most `most` of them, and the text after them. -/
def leadingDigits (most : Nat) (s : List Char) : List Char × List Char :=
  let ds := (s.take most).takeWhile Char.isDigit
  (ds, s.drop ds.length)

/-- A number of `least` to `most` digits at the start of a text, its length and what follows. -/
def number? (least most : Nat) (s : List Char) : Option (Nat × Nat × List Char) :=
  let (ds, rest) := leadingDigits most s
  if least ≤ ds.length then
    some (ds.foldl (fun n d => n * 10 + (d.toNat - '0'.toNat)) 0, ds.length, rest)
  else none

/-- The text after a character that it starts with. -/
def after? (c : Char) : List Char → Option (List Char)
  | d :: rest => if c == d then some rest else none
  | [] => none

/-- Spaces and tabs at the start of a text are dropped. -/
def dropGap (s : List Char) : List Char :=
  s.dropWhile (fun c => c == ' ' || c == '\t')

/-- What stands between a date and a time: the letter T, or spaces and tabs. -/
def timeStart? : List Char → Option (List Char)
  | c :: rest =>
    if c == 'T' || c == 't' then some rest
    else if c == ' ' || c == '\t' then some (dropGap rest)
    else none
  | [] => none

/-- The microseconds of a fraction: its first six digits. -/
def microseconds (ds : List Char) : Nat :=
  let six := ds.take 6
  (six ++ List.replicate (6 - six.length) '0').foldl (fun n d => n * 10 + (d.toNat - '0'.toNat)) 0

/-- The clock offset at the end of a time, in minutes. -/
def offset? : List Char → Option (Option Int)
  | [] => some none
  | s =>
    match dropGap s with
    | ['Z'] => some (some 0)
    | sign :: rest =>
      if sign == '-' || sign == '+' then do
        let (hours, _, rest) ← number? 1 2 rest
        let minutes ← match rest with
          | [] => some 0
          | ':' :: rest => do
            let (minutes, _, rest) ← number? 2 2 rest
            if rest.isEmpty then some minutes else none
          | _ => none
        let total : Int := (hours * 60 + minutes : Nat)
        return some (if sign == '-' then -total else total)
      else none
    | [] => none

/-- A date or a moment as it is written, which the calendar need not have. -/
inductive Stamp where
  /-- A date, and whether its month and day have two digits. -/
  | date (d : Date) (full : Bool)
  | moment (m : Moment)

/-- The time after a date. -/
def time? (date : Date) (s : List Char) : Option Moment := do
  let (hour, _, s) ← number? 1 2 s
  let s ← after? ':' s
  let (minute, _, s) ← number? 2 2 s
  let s ← after? ':' s
  let (second, _, s) ← number? 2 2 s
  let (fraction, s) := match s with
    | '.' :: rest => (rest.takeWhile Char.isDigit, rest.dropWhile Char.isDigit)
    | s => ([], s)
  let offset ← offset? s
  return { date, hour, minute, second, microsecond := microseconds fraction, offset }

/-- The date or moment that a text spells. -/
def stamp? (s : List Char) : Option Stamp := do
  let (year, _, s) ← number? 4 4 s
  let s ← after? '-' s
  let (month, monthDigits, s) ← number? 1 2 s
  let s ← after? '-' s
  let (day, dayDigits, s) ← number? 1 2 s
  let date : Date := ⟨year, month, day⟩
  if s.isEmpty then return .date date (monthDigits == 2 && dayDigits == 2)
  else
    let s ← timeStart? s
    let m ← time? date s
    return .moment m

/-- A plain scalar that is a date or a moment. -/
def isTimestampText (s : List Char) : Bool :=
  match stamp? s with
  | some (.date _ full) => full
  | some (.moment _) => true
  | none => false

end DataContract.Yaml
