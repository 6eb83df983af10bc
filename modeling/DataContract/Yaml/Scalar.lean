/-
Scalars of YAML text: plain, quoted and block scalars.

Each reader starts at a place and gives the text of the scalar and the place
after it.  Inside a scalar one line break becomes a space, unless blank lines
follow it: then the blank lines' breaks stand for it.  The loops count
characters, so the number of characters that are left bounds them.
-/
import DataContract.Document.Fault
import DataContract.Text.CodePoint
import DataContract.Text.Hexadecimal
import DataContract.Yaml.Cursor

namespace DataContract.Yaml

/-- The text of a line break with blank lines after it: a single break folds to a space. -/
def folded (lineBreak : List Char) (blankLines : List Char) : List Char :=
  if lineBreak != ['\n'] then lineBreak ++ blankLines
  else if blankLines.isEmpty then [' ']
  else blankLines

/-! ### Plain scalars -/

/-- Where plain text ends: a gap, a colon before a gap, and the indicators of a flow collection. -/
def endsPlain (inFlow : Bool) (c next : Char) : Bool :=
  isGap c || (c == ':' && (isGap next || (inFlow && ",[]\x7b\x7d".toList.contains next)))
    || (inFlow && ",?[]\x7b\x7d".toList.contains c)

/-- The number of characters of plain text at the start. -/
def plainLength (inFlow : Bool) : List Char → Nat
  | [] => 0
  | c :: rest =>
    if endsPlain inFlow c (rest.headD endMark) then 0 else plainLength inFlow rest + 1

/-- What lies between two pieces of a plain scalar. -/
structure PlainGap where
  /-- The text that the gap stands for; `none` before a document mark. -/
  text : Option (List Char)
  /-- Whether the gap has a line break. -/
  broken : Bool
  cursor : Cursor

/-- Blank lines and the indentation after them; `none` in front of a document mark. -/
def plainBlankLines : Nat → Cursor → Option (List Char) × Cursor
  | 0, c => (some [], c)
  | fuel + 1, c =>
    if c.peek == ' ' then plainBlankLines fuel c.next
    else if isBreak c.peek then
      let (br, after) := c.lineBreak
      if after.atDocumentMark then (none, after)
      else
        let (more, last) := plainBlankLines fuel after
        (more.map (br ++ ·), last)
    else (some [], c)

/-- The gap after a piece of a plain scalar. -/
def plainGap (c : Cursor) : PlainGap :=
  let (spaces, c) := c.takeWhile (· == ' ')
  if isBreak c.peek then
    let (br, after) := c.lineBreak
    if after.atDocumentMark then ⟨none, true, after⟩
    else
      let (blankLines, last) := plainBlankLines after.left after
      ⟨blankLines.map (folded br), true, last⟩
  else ⟨some spaces, false, c⟩

/-- A scalar, the place after it, and whether a line break was crossed since its last character. -/
structure PlainScalar where
  text : List Char
  broken : Bool
  cursor : Cursor

/-- The pieces of a plain scalar that is indented by at least `indent` columns. -/
def plainPieces (inFlow : Bool) (indent : Int) : Nat → Cursor → PlainScalar
  | 0, c => ⟨[], false, c⟩
  | fuel + 1, c =>
    let length := if c.peek == '#' then 0 else plainLength inFlow c.rest
    if length = 0 then ⟨[], false, c⟩
    else
      let piece := c.rest.take length
      let gap := plainGap (c.skip length)
      match gap.text with
      | none => ⟨piece, true, gap.cursor⟩
      | some between =>
        if between.isEmpty || gap.cursor.peek == '#'
            || (!inFlow && (gap.cursor.column : Int) < indent) then
          ⟨piece, gap.broken, gap.cursor⟩
        else
          let more := plainPieces inFlow indent fuel gap.cursor
          if more.text.isEmpty then ⟨piece, gap.broken, more.cursor⟩
          else ⟨piece ++ between ++ more.text, more.broken, more.cursor⟩

/-- A plain scalar inside a block that is indented by `parent` columns. -/
def plainScalar (inFlow : Bool) (parent : Int) (c : Cursor) : PlainScalar :=
  plainPieces inFlow (parent + 1) (c.left + 1) c

/-! ### Quoted scalars -/

/-- The character that a one-letter escape stands for. -/
def escapeLetter? : Char → Option Char
  | '0' => some '\x00'
  | 'a' => some '\x07'
  | 'b' => some '\x08'
  | 't' => some '\t'
  | '\t' => some '\t'
  | 'n' => some '\n'
  | 'v' => some '\x0b'
  | 'f' => some '\x0c'
  | 'r' => some '\r'
  | 'e' => some '\x1b'
  | ' ' => some ' '
  | '"' => some '"'
  | '\\' => some '\\'
  | '/' => some '/'
  | 'N' => some '\x85'
  | '_' => some '\xa0'
  | 'L' => some '\u2028'
  | 'P' => some '\u2029'
  | _ => none

/-- The number of hexadecimal digits after the letter of a code point escape. -/
def escapeWidth? : Char → Option Nat
  | 'x' => some 2
  | 'u' => some 4
  | 'U' => some 8
  | _ => none

/-- The character of a code point. -/
def codePoint (n : Nat) : Except Fault Char :=
  if n < 0x110000 then .ok (Text.charOfCode n)
  else if n < 0x80000000 then .error .codePointRange
  else .error .codePointWidth

/-- Blank lines inside a quoted scalar, and the indentation after them. -/
def quotedBlankLines : Nat → Cursor → Except Fault (List Char × Cursor)
  | 0, c => .ok ([], c)
  | fuel + 1, c =>
    if c.atDocumentMark then .error .malformed
    else
      let c := c.skipWhile (fun x => x == ' ' || x == '\t')
      if isBreak c.peek then do
        let (br, after) := c.lineBreak
        let (more, last) ← quotedBlankLines fuel after
        return (br ++ more, last)
      else .ok ([], c)

/-- An escape after its backslash: its text and the place after it. -/
def escape (c : Cursor) : Except Fault (List Char × Cursor) :=
  match escapeLetter? c.peek with
  | some x => .ok ([x], c.next)
  | none =>
    match escapeWidth? c.peek with
    | some width =>
      let ds := c.next.rest.take width
      match Text.hexNumber? ds with
      | some n =>
        if ds.length = width then do
          let x ← codePoint n
          return ([x], c.next.skip width)
        else .error .malformed
      | none => .error .malformed
    | none =>
      if isBreak c.peek then
        let after := c.lineBreak.2
        quotedBlankLines (after.left + 1) after
      else .error .malformed

/-- White space inside a quoted scalar: kept on one line, folded over several. -/
def quotedGap (c : Cursor) : Except Fault (List Char × Cursor) := do
  let (spaces, c) := c.takeWhile (fun x => x == ' ' || x == '\t')
  if c.peek == endMark then .error .malformed
  else if isBreak c.peek then
    let (br, after) := c.lineBreak
    let (blankLines, last) ← quotedBlankLines (after.left + 1) after
    return (folded br blankLines, last)
  else return (spaces, c)

/-- The body of a quoted scalar, up to and with the closing `quote`. -/
def quotedBody (quote : Char) : Nat → Cursor → Except Fault (List Char × Cursor)
  | 0, _ => .error .malformed
  | fuel + 1, c =>
    let x := c.peek
    if x == quote then
      if quote == '\'' && c.peekAt 1 == '\'' then do
        let (text, last) ← quotedBody quote fuel (c.skip 2)
        return ('\'' :: text, last)
      else .ok ([], c.next)
    else if quote == '"' && x == '\\' then do
      let (part, after) ← escape c.next
      let (text, last) ← quotedBody quote fuel after
      return (part ++ text, last)
    else if isGap x then do
      let (part, after) ← quotedGap c
      let (text, last) ← quotedBody quote fuel after
      return (part ++ text, last)
    else do
      let (text, last) ← quotedBody quote fuel c.next
      return (x :: text, last)

/-- A quoted scalar, from its opening quote. -/
def quotedScalar (c : Cursor) : Except Fault (List Char × Cursor) :=
  quotedBody c.peek (c.left + 1) c.next

/-! ### Block scalars -/

/-- What becomes of the line breaks at the end of a block scalar. -/
inductive Chomping where
  | strip
  | clip
  | keep
  deriving DecidableEq

/-- The header of a block scalar: its chomping and its explicit indentation. -/
structure BlockHeader where
  chomping : Chomping
  increment : Option Nat

/-- The chomping indicator of a character. -/
def chomping? : Char → Option Chomping
  | '+' => some .keep
  | '-' => some .strip
  | _ => none

/-- An indentation indicator: a digit that is not zero. -/
def increment (c : Char) : Except Fault (Option Nat) :=
  if c.isDigit then
    if c == '0' then .error .malformed else .ok (some (c.toNat - '0'.toNat))
  else .ok none

/-- The header of a block scalar, and the place after its line. -/
def blockHeader (c : Cursor) : Except Fault (BlockHeader × Cursor) := do
  let (header, c) ← match chomping? c.peek with
    | some chomping => do
      let inc ← increment c.next.peek
      pure (BlockHeader.mk chomping inc, if inc.isSome then c.skip 2 else c.next)
    | none => do
      let inc ← increment c.peek
      match inc with
      | none => pure (BlockHeader.mk .clip none, c)
      | some _ =>
        match chomping? c.next.peek with
        | some chomping => pure (BlockHeader.mk chomping inc, c.skip 2)
        | none => pure (BlockHeader.mk .clip inc, c.next)
  if !isSpaceOrEnd c.peek then .error .malformed
  else
    let c := c.skipSpaces.skipComment
    if !isBreakOrEnd c.peek then .error .malformed
    else return (header, c.lineBreak.2)

/-- Leading blank lines of a block scalar, and the widest indentation among them. -/
def blockIndentation : Nat → Cursor → List Char × Nat × Cursor
  | 0, c => ([], 0, c)
  | fuel + 1, c =>
    if c.peek == ' ' then
      let (breaks, widest, last) := blockIndentation fuel c.next
      (breaks, max c.next.column widest, last)
    else if isBreak c.peek then
      let (br, after) := c.lineBreak
      let (breaks, widest, last) := blockIndentation fuel after
      (br ++ breaks, widest, last)
    else ([], 0, c)

/-- The breaks of the blank lines of a block scalar, and the place at the next line's text. -/
def blockBreaks (indent : Nat) : Nat → Cursor → List Char × Cursor
  | 0, c => ([], c)
  | fuel + 1, c =>
    let c := c.skipSpacesTo indent
    if isBreak c.peek then
      let (br, after) := c.lineBreak
      let (breaks, last) := blockBreaks indent fuel after
      (br ++ breaks, last)
    else ([], c)

/-- Whether a line of a block scalar keeps its breaks: it starts with white space. -/
def isMoreIndented (c : Cursor) : Bool :=
  c.peek == ' ' || c.peek == '\t'

/-- The lines of a block scalar with the breaks before them, and the breaks after the last. -/
def blockLines (fold : Bool) (chomping : Chomping) (indent : Nat) :
    Nat → List Char → Cursor → List Char × Cursor
  | 0, _, c => ([], c)
  | fuel + 1, breaks, c =>
    if c.column = indent && c.peek != endMark then
      let (text, after) := c.takeWhile (fun x => !isBreakOrEnd x)
      let (br, after) := after.lineBreak
      let (nextBreaks, next) := blockBreaks indent (after.left + 1) after
      if next.column = indent && next.peek != endMark then
        let joint :=
          if fold && br == ['\n'] && !isMoreIndented c && !isMoreIndented next then
            (if nextBreaks.isEmpty then [' '] else [])
          else br
        let (more, last) := blockLines fold chomping indent fuel nextBreaks next
        (breaks ++ text ++ joint ++ more, last)
      else
        let tail := match chomping with
          | .strip => []
          | .clip => br
          | .keep => br ++ nextBreaks
        (breaks ++ text ++ tail, next)
    else (if chomping == .keep then breaks else [], c)

/-- A block scalar inside a block that is indented by `parent` columns, from its indicator. -/
def blockScalar (fold : Bool) (parent : Int) (c : Cursor) : Except Fault (List Char × Cursor) := do
  let (header, c) ← blockHeader c.next
  let least := (max (parent + 1) 1).toNat
  let (indent, breaks, c) := match header.increment with
    | none =>
      let (breaks, widest, last) := blockIndentation (c.left + 1) c
      (max least widest, breaks, last)
    | some n =>
      let indent := least + n - 1
      let (breaks, last) := blockBreaks indent (c.left + 1) c
      (indent, breaks, last)
  return blockLines fold header.chomping indent (c.left + 1) breaks c

end DataContract.Yaml
