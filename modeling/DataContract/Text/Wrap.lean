/-
Filling lines with words.

The text is made of runs of spaces and runs of other characters, once its tabs
are expanded and its other separators have become spaces.  Lines are filled
greedily with whole runs: a run is never cut, so a run longer than the line
width stands alone on its line.  A blank run is dropped at the end of a line,
and at the start of every line but the first.
-/
import DataContract.Text.Blank

namespace DataContract.Text

/-- The characters at which a line may be broken. -/
def isSeparator (c : Char) : Bool :=
  c == ' ' || (0x9 ≤ c.toNat && c.toNat ≤ 0xd)

/-- The distance between two tab stops. -/
def tabWidth : Nat := 8

/-- Tabs as spaces up to the next tab stop; columns start anew after a line break. -/
def expandTabs (column : Nat) : List Char → List Char
  | [] => []
  | c :: s =>
    if c == '\t' then
      let pad := tabWidth - column % tabWidth
      List.replicate pad ' ' ++ expandTabs (column + pad) s
    else if c == '\n' || c == '\r' then c :: expandTabs 0 s
    else c :: expandTabs (column + 1) s

/-- The text with its tabs expanded and every separator turned into a space. -/
def spaced (s : List Char) : List Char :=
  (expandTabs 0 s).map (fun c => if isSeparator c then ' ' else c)

/-- The runs of spaces and the runs of other characters, in order. -/
def runs (s : List Char) : List (List Char) :=
  (spaced s).splitBy (fun a b => (a == ' ') == (b == ' '))

/-- The longest start of a list of runs that fits into `room` characters, and the other runs. -/
def takeFitting (room : Nat) : List (List Char) → List (List Char) × List (List Char)
  | [] => ([], [])
  | run :: rest =>
    if run.length ≤ room then
      let (line, rest) := takeFitting (room - run.length) rest
      (run :: line, rest)
    else ([], run :: rest)

/-- The runs of the next line: those that fit, or one run alone when even the first does not. -/
def takeLine (width : Nat) (rs : List (List Char)) : List (List Char) × List (List Char) :=
  match takeFitting width rs with
  | ([], run :: rest) => ([run], rest)
  | split => split

/-- A list of runs without a blank first run. -/
def dropBlankHead : List (List Char) → List (List Char)
  | run :: rest => if allBlank run then rest else run :: rest
  | [] => []

/-- A list of runs without a blank last run. -/
def dropBlankLast (rs : List (List Char)) : List (List Char) :=
  match rs.getLast? with
  | some run => if allBlank run then rs.dropLast else rs
  | none => rs

theorem takeFitting_length (room : Nat) (rs : List (List Char)) :
    (takeFitting room rs).1.length + (takeFitting room rs).2.length = rs.length := by
  induction rs generalizing room with
  | nil => simp [takeFitting]
  | cons run rest ih =>
    simp only [takeFitting]
    split
    · have := ih (room - run.length)
      simp only [List.length_cons]
      omega
    · simp

theorem takeLine_rest_lt (width : Nat) {rs : List (List Char)} (h : rs ≠ []) :
    (takeLine width rs).2.length < rs.length := by
  have hlen := takeFitting_length width rs
  have hpos := List.length_pos_iff.2 h
  unfold takeLine
  split
  · next run rest heq =>
    simp only [heq, List.length_cons, List.length_nil] at hlen
    show rest.length < rs.length
    omega
  · next hne =>
    match hsplit : takeFitting width rs with
    | ([], []) => simp only [hsplit, List.length_nil] at hlen; omega
    | ([], run :: rest) => exact absurd hsplit (hne run rest)
    | (run :: line, rest) =>
      simp only [hsplit, List.length_cons] at hlen
      show rest.length < rs.length
      omega

/-- The runs that the next line starts with: a blank one opens the first line only. -/
def lineStart (first : Bool) (rs : List (List Char)) : List (List Char) :=
  if first then rs else dropBlankHead rs

theorem lineStart_length_le (first : Bool) (rs : List (List Char)) :
    (lineStart first rs).length ≤ rs.length := by
  unfold lineStart dropBlankHead
  split
  · exact Nat.le_refl _
  · split
    · split <;> simp
    · simp

/-- Fill lines of `width` characters; `first` says whether no line was filled before. -/
def fill (width : Nat) (first : Bool) (rs : List (List Char)) : List (List Char) :=
  if h : lineStart first rs = [] then []
  else
    have : (takeLine width (lineStart first rs)).2.length < rs.length :=
      Nat.lt_of_lt_of_le (takeLine_rest_lt width h) (lineStart_length_le first rs)
    let line := dropBlankLast (takeLine width (lineStart first rs)).1
    let rest := (takeLine width (lineStart first rs)).2
    if line.isEmpty then fill width first rest
    else line.flatten :: fill width false rest
termination_by rs.length

/-- The lines of a text at a width of at least one; a text without words is one empty line. -/
def wrap (width : Int) (s : List Char) : List (List Char) :=
  match fill (max width 1).toNat true (runs s) with
  | [] => [[]]
  | lines => lines

end DataContract.Text
