/-
Bytes written in base sixty-four.

Four characters stand for three bytes.  Characters outside the alphabet are
skipped; a mark of the missing end counts only from the third place of a group
on, and the text ends where the marks fill up a group.
-/
namespace DataContract.Text

/-- The value of a character of the alphabet. -/
def sextet? (c : Char) : Option Nat :=
  if 'A' ≤ c && c ≤ 'Z' then some (c.toNat - 'A'.toNat)
  else if 'a' ≤ c && c ≤ 'z' then some (c.toNat - 'a'.toNat + 26)
  else if '0' ≤ c && c ≤ '9' then some (c.toNat - '0'.toNat + 52)
  else if c == '+' then some 62
  else if c == '/' then some 63
  else none

/-- The bytes that a group of sextets completes: one fewer than there are sextets. -/
def groupBytes : List Nat → List UInt8
  | a :: b :: rest =>
    (a * 4 + b / 16).toUInt8 ::
      match rest with
      | [] => []
      | c :: rest =>
        (b % 16 * 16 + c / 4).toUInt8 ::
          match rest with
          | [] => []
          | d :: _ => [(c % 4 * 64 + d).toUInt8]
  | _ => []

/--
The bytes of a text after the sextets of an open group and some marks of a
missing end; `none` if the last group stays open.
-/
def base64Bytes? (group : List Nat) (marks : Nat) : List Char → Option (List UInt8)
  | [] => if group.isEmpty then some [] else none
  | c :: rest =>
    if c == '=' then
      if group.length < 2 then base64Bytes? group marks rest
      else if 4 ≤ group.length + marks + 1 then some (groupBytes group)
      else base64Bytes? group (marks + 1) rest
    else
      match sextet? c with
      | none => base64Bytes? group marks rest
      | some n =>
        if group.length = 3 then (base64Bytes? [] 0 rest).map (groupBytes (group ++ [n]) ++ ·)
        else base64Bytes? (group ++ [n]) 0 rest

/-- The bytes that a text of ASCII characters stands for. -/
def ofBase64? (s : List Char) : Option (List UInt8) :=
  if s.all (fun c => c.toNat < 0x80) then base64Bytes? [] 0 s else none

end DataContract.Text
