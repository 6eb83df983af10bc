/-
How the console lays out text.

A line that is too wide is broken before a word.  A word that is wider than a
line starts on a line of its own and is either cut into lines or shortened to
one line that ends with three dots.  A table gives every column the width of its
widest cell; when there is not enough room, the widest columns give way.
-/
import DataContract.Text.Blank
import DataContract.Text.Cell

namespace DataContract.Console

open DataContract.Text

/-- How many cells a line of the console has. -/
def consoleWidth : Nat := 4000

/-- What becomes of a word that is wider than a line. -/
inductive Overflow where
  /-- It is cut into lines. -/
  | fold
  /-- It is shortened. -/
  | shorten
  deriving DecidableEq

/-! ### Lines -/

/-- The distance between two tab stops. -/
def tabStop : Nat := 8

/-- A line with its tabs as spaces up to the next tab stop. -/
def expandLineTabs (column : Nat) : List Char → List Char
  | [] => []
  | c :: rest =>
    if c == '\t' then
      let spaces := tabStop - column % tabStop
      List.replicate spaces ' ' ++ expandLineTabs (column + spaces) rest
    else c :: expandLineTabs (column + charCells c) rest

/-- The lines of a text. -/
def linesOf (s : List Char) : List (List Char) :=
  s.splitOn '\n'

/-- The words of a line, each with the blanks after it and the first one with those before it. -/
def spacedWords (line : List Char) : List (List Char) :=
  let runs := line.splitBy (fun a b => isBlank a == isBlank b)
  match runs with
  | first :: rest =>
    if allBlank first then
      match rest with
      | [] => []
      | word :: rest => attach (first ++ word) rest
    else attach first rest
  | [] => []
where
  /-- The words from one on, with the runs of blanks attached to the words before them. -/
  attach (word : List Char) : List (List Char) → List (List Char)
    | [] => [word]
    | [run] => if allBlank run then [word ++ run] else [word, run]
    | run :: next :: rest =>
      if allBlank run then (word ++ run) :: attach next rest
      else word :: attach run (next :: rest)

/-- A word in pieces of at most `width` cells; the fuel counts characters. -/
def chopWord (width : Nat) : Nat → List Char → List (List Char)
  | 0, word => [word]
  | fuel + 1, word =>
    match splitCells width word with
    | (_, []) => [word]
    | ([], c :: rest) => [c] :: chopWord width fuel rest
    | (piece, rest) => piece :: chopWord width fuel rest

/-- Lines that are being filled: the finished ones, and the one at the end with its width. -/
structure Fill where
  done : List (List Char)
  last : List Char
  used : Nat

namespace Fill

/-- Break the line. -/
def newLine (f : Fill) (line : List Char) (used : Nat) : Fill :=
  if f.last.isEmpty then { f with last := line, used }
  else ⟨f.done ++ [f.last], line, used⟩

/-- Put a word after the words so far. -/
def add (width : Nat) (overflow : Overflow) (f : Fill) (word : List Char) : Fill :=
  let needed := cells (trimRight word)
  if needed ≤ width - f.used && f.used ≤ width then
    { f with last := f.last ++ word, used := f.used + cells word }
  else if width < needed then
    match overflow with
    | .fold =>
      (chopWord width word.length word).foldl (fun f piece => f.newLine piece (cells piece)) f
    | .shorten => f.newLine word (cells word)
  else if f.used = 0 then { f with last := f.last ++ word }
  else f.newLine word (cells word)

end Fill

/-- A line without the blanks at its end that are too much. -/
def cropBlanks (width : Nat) (line : List Char) : List Char :=
  let blanks := line.length - (trimRight line).length
  line.take (line.length - min blanks (line.length - width))

/-- The mark of a line that is shortened. -/
def dots : Char := '…'

/-- A line that is not too wide. -/
def fitLine (width : Nat) (overflow : Overflow) (line : List Char) : List Char :=
  if cells line ≤ width then line
  else
    match overflow with
    | .fold => (splitCells width line).1
    | .shorten => (splitCells (width - 1) line).1 ++ [dots]

/-- A line in lines that are not too wide. -/
def breakLine (width : Nat) (overflow : Overflow) (line : List Char) : List (List Char) :=
  let line := expandLineTabs 0 line
  let words := spacedWords line
  let lines :=
    if words.isEmpty then [line]
    else
      let f := words.foldl (Fill.add width overflow) ⟨[], [], 0⟩
      f.done ++ [f.last]
  lines.map (fun line => fitLine width overflow (cropBlanks width line))

/-- A text in lines that are not too wide. -/
def layText (width : Nat) (overflow : Overflow) (s : List Char) : List (List Char) :=
  (linesOf s).flatMap (breakLine width overflow)

/-! ### Tables -/

/-- The characters that end a line when the width of a text is measured. -/
def endsLine (c : Char) : Bool :=
  [10, 11, 12, 13, 28, 29, 30, 0x85, 0x2028, 0x2029].contains c.toNat

/-- How many cells the widest line of a text takes. -/
def widestLine (s : List Char) : Nat :=
  ((s.splitOnP endsLine).map cells).foldl max 0

/-- The blanks on both sides of a cell of a table. -/
def padding : Nat := 2

/-- The cells of lines between and around the columns of a table. -/
def frameWidth (columns : Nat) : Nat := columns + 1

/-- A quotient rounded to the nearest number, a half to the even one. -/
def roundQuotient (n d : Nat) : Nat :=
  let q := n / d
  let twice := 2 * (n % d)
  if twice < d then q
  else if d < twice then q + 1
  else if q % 2 = 0 then q else q + 1

/-- Take cells away from the columns that are `widest`: at most `most` from each. -/
def reduceWidest (widest most : Nat) : Nat → Nat → List Nat → List Nat
  | _, _, [] => []
  | excess, shares, w :: rest =>
    if w = widest && shares != 0 then
      let taken := min most (roundQuotient excess shares)
      (w - taken) :: reduceWidest widest most (excess - taken) (shares - 1) rest
    else w :: reduceWidest widest most excess shares rest

/-- How many cells columns take together. -/
def total (widths : List Nat) : Nat :=
  widths.foldl (· + ·) 0

/-- Narrow the widest columns until the columns fit; every step takes at least a cell away. -/
def collapse (room : Nat) : Nat → List Nat → List Nat
  | 0, widths => widths
  | fuel + 1, widths =>
    if total widths ≤ room then widths
    else
      let widest := widths.foldl max 0
      let second := (widths.filter (· != widest)).foldl max 0
      let excess := total widths - room
      collapse room fuel
        (reduceWidest widest (min excess (widest - second)) excess (widths.count widest) widths)

/-- The widths of the columns of a table with all its rows, with their padding. -/
def columnWidths (columns : Nat) (rows : List (List (List Char))) : List Nat :=
  let room := consoleWidth - frameWidth columns
  let widths := (List.range columns).map fun i =>
    min room ((rows.map (fun row => widestLine (row.getD i []))).foldl max 0 + padding)
  collapse room (total widths) widths

/-- The lines of a row; each cell is laid out in its column. -/
def layRow (widths : List Nat) (row : List (List Char)) : List (List Char) :=
  let laid := (row.zip widths).map (fun (cell, width) => layText (width - padding) .shorten cell)
  let height := (laid.map List.length).foldl max 1
  (List.range height).map (fun i =>
    [' ', ' '].intercalate (laid.map (fun lines => lines.getD i [])))

/-- The lines of a table: its title, the heads of its columns, and its rows. -/
def layTable (title : List Char) (heads : List (List Char)) (rows : List (List (List Char))) :
    List (List Char) :=
  let widths := columnWidths heads.length (heads :: rows)
  layText (total widths + frameWidth heads.length) .fold title
    ++ (heads :: rows).flatMap (layRow widths)

end DataContract.Console
