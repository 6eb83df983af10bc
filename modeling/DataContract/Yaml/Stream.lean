/-
YAML text that is read in pieces.

The characters of a piece are looked at when the reading comes to the piece, so
a fault in front of it counts before a character that the piece may not hold.
-/
import DataContract.Yaml.Filling

namespace DataContract.Yaml

/-- How many characters the first piece has. -/
def firstPiece : Nat := 8192

/-- How many characters every other piece has. -/
def nextPiece : Nat := 4096

/-- How many characters stand before the piece with the character at an index. -/
def lengthBefore (index : Nat) : Nat :=
  if index < firstPiece then 0
  else firstPiece + (index - firstPiece) / nextPiece * nextPiece

/-- The fault that a text is found to have before its end, if it is another one than its form. -/
def earlyFault? (s : List Char) : Option Fault :=
  match Graph.parse s with
  | .error .malformed => none
  | .error fault => some fault
  | .ok _ => none

/-- The document of a YAML text that is read in pieces. -/
def parseInPieces (text : String) : Except Fault Linked :=
  let s := text.toList.map Text.received
  match s.findIdx? (fun c => !isAllowed c) with
  | none => do
    let (g, root) ← Graph.parse s
    g.documentOf root
  | some index => .error ((earlyFault? (s.take (lengthBefore index))).getD .malformed)

end DataContract.Yaml
