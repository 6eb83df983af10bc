/-
Source code and plain text on the console.

Lines of source code are cut at the width of the console.  Plain text loses the
sequences that control a terminal, and its line breaks are line feeds.
-/
import DataContract.Console.Markup
import DataContract.Text.Cell

namespace DataContract.Console

open DataContract.Text

/-- The distance between two tab stops in source code. -/
def codeTabStop : Nat := 4

/-- Tabs as spaces up to the next tab stop; columns start anew after a line break. -/
def expandCodeTabs (column : Nat) : List Char → List Char
  | [] => []
  | c :: rest =>
    if c == '\t' then
      let spaces := codeTabStop - column % codeTabStop
      List.replicate spaces ' ' ++ expandCodeTabs (column + spaces) rest
    else c :: expandCodeTabs (if c == '\n' || c == '\r' then 0 else column + 1) rest

/-- The lines of source code; a carriage return ends a line too. -/
def codeLines (s : List Char) : List (List Char) :=
  s.splitOnP (fun c => c == '\n' || c == '\r')

/-- Source code in lines of at most `width` cells. -/
def layCode (width : Nat) (s : List Char) : List (List Char) :=
  (codeLines (expandCodeTabs 0 s)).map (fun line =>
    (splitCells width (line.filter (fun c => !isDropped c))).1)

/-- The text after a sequence that controls a terminal, from behind its bracket. -/
def afterControl? (s : List Char) : Option (List Char) :=
  match s.dropWhile (fun c => c.isDigit || c == ';' || c == '?') with
  | c :: after => if c.isAlpha then some after else none
  | [] => none

/-- The rule that drops sequences that control a terminal. -/
def controlRule : Rule
  | '\x1b' :: '[' :: rest => (afterControl? rest).map (fun after => ([], after))
  | _ => none

/-- A text without sequences that control a terminal, and with line feeds as line breaks. -/
def uncontrolled (s : List Char) : List Char :=
  replaceAll ['\r', '\n'] ['\n'] (substitute controlRule s)

end DataContract.Console
