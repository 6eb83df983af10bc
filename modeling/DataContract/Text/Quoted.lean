/-
Quoted text: a text as it appears inside a message or inside a list.

The text stands between single quotes, or between double quotes when it holds a
single quote and no double quote.  The quote in use and the backslash are
escaped by a backslash, line feed, carriage return and tab have their letter,
and any other character that is not printable is given by its code point.
-/
import DataContract.Text.CodePoint
import DataContract.Text.Hexadecimal
import DataContract.Text.Printable

namespace DataContract.Text

/-- A character by its code point, in two, four or eight hexadecimal digits. -/
def codePointEscape (c : Char) : List Char :=
  let n := codeOf c
  if n < 0x100 then '\\' :: 'x' :: hexDigits 2 n
  else if n < 0x10000 then '\\' :: 'u' :: hexDigits 4 n
  else '\\' :: 'U' :: hexDigits 8 n

/-- A character of a text that stands between `quote` characters. -/
def quotedChar (quote c : Char) : List Char :=
  if c == quote || c == '\\' then ['\\', c]
  else if c == '\n' then ['\\', 'n']
  else if c == '\r' then ['\\', 'r']
  else if c == '\t' then ['\\', 't']
  else if isPrintable c then [c]
  else codePointEscape c

/-- The quote that a text is put between. -/
def quoteFor (s : List Char) : Char :=
  if s.contains '\'' && !s.contains '"' then '"' else '\''

/-- The quoted text. -/
def quoted (s : List Char) : List Char :=
  let quote := quoteFor s
  quote :: s.flatMap (quotedChar quote) ++ [quote]

end DataContract.Text
