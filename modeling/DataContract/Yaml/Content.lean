/-
The values of YAML scalars.

A tag decides what a text stands for.  A mapping can stand for a scalar too: for
that of its entry with the key `=`.
-/
import DataContract.Number.Reading
import DataContract.Text.Base64
import DataContract.Value.Basic
import DataContract.Yaml.Node

namespace DataContract.Yaml

open DataContract.Text (pieces)

/-! ### Texts -/

/-- The sign of a number, and its text after the sign. -/
def signed (s : List Char) : Except Fault (Bool × List Char) :=
  if s.isEmpty then .error .emptyNumber else .ok (splitSign s)

/-- Digits in base sixty, the last one first. -/
def sexagesimal : List Int → Int
  | [] => 0
  | d :: rest => d + 60 * sexagesimal rest

/-- An integer. -/
def intValue (text : String) : Except Fault Int := do
  let (negative, s) ← signed (text.toList.filter (· != '_'))
  let n ←
    match s with
    | ['0'] => pure 0
    | '0' :: 'b' :: ds => readInt 2 ds
    | '0' :: 'x' :: ds => readInt 16 ds
    | '0' :: _ => readInt 8 s
    | [] => .error .emptyNumber
    | s =>
      if s.contains ':' then do
        let digits ← (pieces ':' s).mapM (readInt 10)
        pure (sexagesimal digits.reverse)
      else readInt 10 s
  return if negative then -n else n

/--
Digits in base sixty, the last one first, summed from the last one in floating
point.  The weight of every digit has to be in the range.
-/
def sexagesimalFloat (sum : Binary64) (weight : Int) : List Binary64 → Except Fault Binary64
  | [] => .ok sum
  | d :: rest =>
    match Binary64.ofInt weight with
    | .infinite _ => .error .numberRange
    | w => sexagesimalFloat (sum.add (d.mul w)) (weight * 60) rest

/-- A floating-point number; of those that are no number only `.nan` is the same everywhere. -/
def floatValue (label : Nat) (text : String) : Except Fault Value := do
  let (negative, s) ← signed ((text.toList.filter (· != '_')).map Char.toLower)
  if s == ".inf".toList then return .float (.infinite negative)
  else if s == ".nan".toList then return .float .nan
  else
    let x ←
      if s.contains ':' then do
        let digits ← (pieces ':' s).mapM readFloat
        sexagesimalFloat (.zero false) 1 digits.reverse
      else readFloat s
    return match x with
      | .nan => .noNumber label
      | x => .float (if negative then x.neg else x)

/-- A truth value, in any case. -/
def boolValue (text : String) : Except Fault Bool :=
  let word := String.ofList (text.toList.map Char.toLower)
  if ["yes", "true", "on"].contains word then .ok true
  else if ["no", "false", "off"].contains word then .ok false
  else .error .notATruthValue

/-- A date or a moment that the calendar has. -/
def timestampValue (text : String) : Except Fault Value :=
  match stamp? (Text.dropFinalLineFeed text.toList) with
  | none => .error .notADate
  | some (.date d _) => if d.isValid then .ok (.date d) else .error .impossibleDate
  | some (.moment m) => if m.isValid then .ok (.moment m) else .error .impossibleDate

/-- Bytes. -/
def binaryValue (text : String) : Except Fault Value :=
  match Text.ofBase64? text.toList with
  | some data => .ok (.bytes data)
  | none => .error .malformed

/-- The value of a text with a tag; the label tells one result that is no number from another. -/
def textValue (label : Nat) (tag : Tag) (text : String) : Except Fault Value :=
  match tag with
  | .null => .ok .null
  | .bool => (boolValue text).map .bool
  | .int => (intValue text).map .int
  | .float => floatValue label text
  | .timestamp => timestampValue text
  | .str => .ok (.str text)
  | .binary => binaryValue text
  | _ => .error .malformed

/-! ### Nodes -/

namespace Graph

/-- The text of a scalar, or of the entry with the key `=` of a mapping. -/
def scalarText (g : Graph) : Nat → NodeId → Except Fault String
  | 0, _ => .error .recursive
  | fuel + 1, id =>
    match (g.get id).content with
    | .scalar text => .ok text
    | .sequence _ => .error .malformed
    | .mapping entries =>
      match entries.find? (fun (key, _) => (g.get key).tag == .value) with
      | some (_, item) => scalarText g fuel item
      | none => .error .malformed

/-- Whether a node is written as a scalar. -/
def isScalar (g : Graph) (id : NodeId) : Bool :=
  match (g.get id).content with
  | .scalar _ => true
  | _ => false

/-- The value of a node that its tag makes a scalar; only a text of its own can be a date. -/
def scalarValue (g : Graph) (id : NodeId) : Except Fault Value := do
  let tag := (g.get id).tag
  let text ← g.scalarText (g.size + 1) id
  if tag == .timestamp && !g.isScalar id then .error .notAScalar else textValue id tag text

end Graph

end DataContract.Yaml
