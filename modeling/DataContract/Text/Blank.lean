/-
Blank characters, and text without its blank ends.

A character is blank when Unicode calls it white space, or when it is one of
the four separator controls U+001C to U+001F.
-/
import DataContract.Text.Range

namespace DataContract.Text

/-- The blank characters. -/
def blankRanges : List CodeRange := [
  ⟨0x0009, 0x000d⟩, ⟨0x001c, 0x0020⟩, ⟨0x0085, 0x0085⟩, ⟨0x00a0, 0x00a0⟩, ⟨0x1680, 0x1680⟩,
  ⟨0x2000, 0x200a⟩, ⟨0x2028, 0x2029⟩, ⟨0x202f, 0x202f⟩, ⟨0x205f, 0x205f⟩, ⟨0x3000, 0x3000⟩]

/-- White space of any script. -/
def isBlank (c : Char) : Bool :=
  inRanges blankRanges c

/-- The text from its first character that is not blank. -/
def trimLeft (s : List Char) : List Char :=
  s.dropWhile isBlank

/-- The text up to its last character that is not blank. -/
def trimRight (s : List Char) : List Char :=
  (s.reverse.dropWhile isBlank).reverse

/-- The text without its blank ends. -/
def trim (s : List Char) : List Char :=
  trimRight (trimLeft s)

/-- Whether every character is blank. -/
def allBlank (s : List Char) : Bool :=
  s.all isBlank

/-- The runs of characters that are not blank, in order. -/
def words (s : List Char) : List (List Char) :=
  (s.splitBy (fun a b => isBlank a == isBlank b)).filter (fun run => !allBlank run)

end DataContract.Text
