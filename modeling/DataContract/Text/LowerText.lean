/-
The lower-case form of a text.

It is that of its characters, except that a capital sigma at the end of a word
has a form of its own.
-/
import DataContract.Text.Lowercase
import DataContract.Text.Word

namespace DataContract.Text

/-- A letter of any script. -/
def isLetter (c : Char) : Bool :=
  isAlphanumeric c && !isDecimal c

/-- The lower-case form of a text after a letter, or after anything else. -/
def lowerAfter (letter : Bool) : List Char → List Char
  | [] => []
  | c :: rest =>
    (if c == 'Σ' then (if letter && !(rest.head?.any isLetter) then ['ς'] else ['σ']) else lower c)
      ++ lowerAfter (isLetter c) rest

/-- The lower-case form of a text. -/
def lowerText (s : List Char) : List Char :=
  lowerAfter false s

end DataContract.Text
