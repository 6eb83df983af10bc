/-
The text of a file while it is written.

A page is a row of pieces.  A mark remembers a place in it, so that a piece
which is only known later can be put there.
-/
import DataContract.Value.Text

namespace DataContract.Java

/-- Insert a name into a list in strictly increasing order. -/
def insertName (name : String) : List String → List String
  | [] => [name]
  | n :: rest =>
    if name < n then name :: n :: rest
    else if name = n then n :: rest
    else n :: insertName name rest

/-- The names of a list in strictly increasing order, each of them once. -/
def sortNames (names : List String) : List String :=
  names.foldr insertName []

/-- A file while it is written: its pieces. -/
structure Page where
  pieces : List String

namespace Page

/-- A page with nothing on it. -/
def empty : Page := ⟨[]⟩

/-- Add a piece at the end. -/
def write (p : Page) (s : String) : Page :=
  ⟨p.pieces ++ [s]⟩

/-- Add a line at the end. -/
def writeLine (p : Page) (s : String) : Page :=
  p.write (s ++ "\n")

/-- The place after the last piece. -/
def mark (p : Page) : Nat :=
  p.pieces.length

/-- The place that an index means: below zero it counts from the end, too far is the nearest. -/
def placeOf (p : Page) (index : Int) : Nat :=
  let n : Int := p.pieces.length
  (min n (max 0 (if index < 0 then index + n else index))).toNat

/-- Put a piece at a place. -/
def insert (p : Page) (index : Int) (s : String) : Page :=
  let k := p.placeOf index
  ⟨p.pieces.take k ++ s :: p.pieces.drop k⟩

/-- The whole text. -/
def text (p : Page) : String :=
  String.join p.pieces

end Page

end DataContract.Java
