/-
Code points, and the characters that hold them.

An escape can name one half of a pair of UTF-16 units.  The half is a code point
but no character, and a text with such a half in it cannot be encoded.  It is
held by the character of the last private plane that lies `halfOffset` above it.
The private characters that are used up for this do not stand for themselves: the
replacement character is read in their place.
-/
namespace DataContract.Text

/-- Whether a UTF-16 unit opens a pair. -/
def isHighUnit (n : Nat) : Bool := 0xd800 ≤ n && n ≤ 0xdbff

/-- Whether a UTF-16 unit closes a pair. -/
def isLowUnit (n : Nat) : Bool := 0xdc00 ≤ n && n ≤ 0xdfff

/-- Whether a code point is half a pair. -/
def isHalfUnit (n : Nat) : Bool := isHighUnit n || isLowUnit n

/-- How far above half a pair the character lies that holds it. -/
def halfOffset : Nat := 0x100000

/-- Whether a character holds half a pair. -/
def isHalf (c : Char) : Bool := isHalfUnit (c.toNat - halfOffset)

/-- A character as it is read: one that would hold half a pair is replaced. -/
def received (c : Char) : Char :=
  if isHalf c then Char.ofNat 0xfffd else c

/-- The character of a code point. -/
def charOfCode (n : Nat) : Char :=
  if isHalfUnit n then Char.ofNat (halfOffset + n) else received (Char.ofNat n)

/-- The character of a pair of UTF-16 units. -/
def charOfPair (high low : Nat) : Char :=
  received (Char.ofNat (0x10000 + (high - 0xd800) * 0x400 + (low - 0xdc00)))

/-- The code point that a character holds. -/
def codeOf (c : Char) : Nat :=
  if isHalf c then c.toNat - halfOffset else c.toNat

/-- Whether a text has an encoding: none of its characters holds half a pair. -/
def isEncodable (s : String) : Bool :=
  s.toList.all (fun c => !isHalf c)

/-- Whether a character can stand in a path, where some of the halves stand for single bytes. -/
def isPathChar (c : Char) : Bool :=
  !isHalf c || (0xdc80 ≤ codeOf c && codeOf c ≤ 0xdcff)

end DataContract.Text
