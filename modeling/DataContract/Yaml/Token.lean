/-
Tokens of YAML text.

Indentation is turned into tokens here: a block collection opens with a start
token at its first entry and closes with an end token when a line starts to the
left of it.  A key need not be announced: the place of everything that could be
a key on the current line is remembered, and when a colon follows, the key
token goes to that place.  Such a key lies on one line and within 1024
characters of its colon.

Tokens are read when they are asked for, and no further than it takes to know
that the next one is no key, so that a fault of the text counts only if the
reading comes to it.
-/
import DataContract.Yaml.Scalar

namespace DataContract.Yaml

/-- A directive before a document. -/
inductive Directive where
  | version (major minor : Nat)
  | tagHandle (handle start : String)
  | unknown

/-- A token of YAML text. -/
inductive Token where
  | directive (d : Directive)
  | documentStart
  | documentEnd
  | streamEnd
  | blockSequenceStart
  | blockMappingStart
  | blockEnd
  | flowSequenceStart
  | flowSequenceEnd
  | flowMappingStart
  | flowMappingEnd
  | flowEntry
  | blockEntry
  | key
  | value
  | alias (name : String)
  | anchor (name : String)
  | tag (handle : Option String) (suffix : String)
  | scalar (text : String) (plain : Bool)

/-! ### Names, tags and directives -/

/-- A name after an indicator. -/
def anchorName (c : Cursor) : Except Fault (String × Cursor) :=
  let (name, c) := c.next.takeWhile isNameChar
  if name.isEmpty then .error .malformed
  else if isGap c.peek || "?:,]\x7d%@`".toList.contains c.peek then .ok (String.ofList name, c)
  else .error .malformed

/-- A character of a tag. -/
def isTagChar (c : Char) : Bool :=
  c.isAlphanum || "-;/?:@&=+$,_.!~*'()[]".toList.contains c

/-- The bytes of percent escapes, and the place after them. -/
def escapedBytes : Nat → Cursor → Except Fault (List UInt8 × Cursor)
  | 0, c => .ok ([], c)
  | fuel + 1, c =>
    match c.rest with
    | '%' :: a :: b :: _ =>
      match Text.hexNumber? [a, b] with
      | some n => do
        let (more, last) ← escapedBytes fuel (c.skip 3)
        return (n.toUInt8 :: more, last)
      | none => .error .malformed
    | '%' :: _ => .error .malformed
    | _ => .ok ([], c)

/-- The text of a tag, in which percent escapes spell UTF-8. -/
def tagText : Nat → Cursor → Except Fault (List Char × Cursor)
  | 0, c => .ok ([], c)
  | fuel + 1, c =>
    if c.peek == '%' then do
      let (bytes, after) ← escapedBytes c.left c
      match String.fromUTF8? (ByteArray.mk bytes.toArray) with
      | some part => do
        let (more, last) ← tagText fuel after
        return (part.toList ++ more, last)
      | none => .error .malformed
    else if isTagChar c.peek then do
      let (more, last) ← tagText fuel c.next
      return (c.peek :: more, last)
    else .ok ([], c)

/-- A tag text that is not empty. -/
def tagSuffix (c : Cursor) : Except Fault (String × Cursor) := do
  let (text, last) ← tagText (c.left + 1) c
  if text.isEmpty && last.index = c.index then .error .malformed
  else return (String.ofList text, last)

/-- A tag handle: one exclamation mark before a space, or a name between two of them. -/
def tagHandle (c : Cursor) : Except Fault (String × Cursor) :=
  if c.peek != '!' then .error .malformed
  else if c.peekAt 1 == ' ' then .ok ("!", c.next)
  else
    let (name, after) := c.next.takeWhile isNameChar
    if after.peek == '!' then .ok ("!" ++ String.ofList name ++ "!", after.next)
    else .error .malformed

/-- A tag, from its exclamation mark. -/
def tagToken (c : Cursor) : Except Fault (Token × Cursor) := do
  let (token, c) ←
    if c.peekAt 1 == '<' then do
      let (suffix, c) ← tagSuffix (c.skip 2)
      if c.peek == '>' then pure (Token.tag none suffix, c.next) else .error .malformed
    else if isGap (c.peekAt 1) then pure (Token.tag none "!", c.next)
    else if (c.next.rest.takeWhile (fun x => !isSpaceOrEnd x)).contains '!' then do
      let (handle, c) ← tagHandle c
      let (suffix, c) ← tagSuffix c
      pure (Token.tag (some handle) suffix, c)
    else do
      let (suffix, c) ← tagSuffix c.next
      pure (Token.tag (some "!") suffix, c)
  if isSpaceOrEnd c.peek then return (token, c) else .error .malformed

/-- A number of a version directive. -/
def versionNumber (c : Cursor) : Except Fault (Nat × Cursor) :=
  let (ds, c) := c.takeWhile Char.isDigit
  if ds.isEmpty then .error .malformed
  else if maxDigits < ds.length then .error .tooManyDigits
  else .ok (ds.foldl (fun n d => n * 10 + (d.toNat - '0'.toNat)) 0, c)

/-- A directive, from its percent sign. -/
def directiveToken (c : Cursor) : Except Fault (Token × Cursor) := do
  let (name, c) := c.next.takeWhile isNameChar
  if name.isEmpty || !isSpaceOrEnd c.peek then .error .malformed
  else
    let (directive, c) ←
      if name == "YAML".toList then do
        let (major, c) ← versionNumber c.skipSpaces
        if c.peek != '.' then .error .malformed
        else
          let (minor, c) ← versionNumber c.next
          if isSpaceOrEnd c.peek then pure (Directive.version major minor, c) else .error .malformed
      else if name == "TAG".toList then do
        let (handle, c) ← tagHandle c.skipSpaces
        if c.peek != ' ' then .error .malformed
        else
          let (start, c) ← tagSuffix c.skipSpaces
          if isSpaceOrEnd c.peek then pure (Directive.tagHandle handle start, c)
          else .error .malformed
      else pure (Directive.unknown, c.skipWhile (fun x => !isBreakOrEnd x))
    let c := c.skipSpaces.skipComment
    if isBreakOrEnd c.peek then return (.directive directive, c.lineBreak.2) else .error .malformed

/-! ### The token reader -/

/-- A place that becomes a key when a colon follows. -/
structure KeyPlace where
  /-- How many tokens stand before the key. -/
  position : Nat
  /-- Whether a colon has to follow, since a mapping at this column is open. -/
  required : Bool
  index : Nat
  line : Nat
  column : Nat

/-- The state of the token reader. -/
structure Scanner where
  cursor : Cursor
  /-- How many flow collections are open. -/
  flowLevel : Nat
  /-- The column of the innermost block collection, -1 outside of any. -/
  indent : Int
  /-- The columns of the block collections around it. -/
  indents : List Int
  /-- Whether a key without an indicator may start here. -/
  keyAllowed : Bool
  /-- The possible keys, at most one for each flow level. -/
  keys : List (Nat × KeyPlace)
  /-- The tokens that wait to be taken, the next one first. -/
  queue : List Token
  /-- How many tokens have been taken. -/
  taken : Nat
  /-- Whether the last token of the text has been read. -/
  finished : Bool

namespace Scanner

/-- The reader at the start of a text. -/
def start (s : List Char) : Scanner :=
  { cursor := .start s, flowLevel := 0, indent := -1, indents := [], keyAllowed := true,
    keys := [], queue := [], taken := 0, finished := false }

/-- Whether the reader is inside a flow collection. -/
def inFlow (s : Scanner) : Bool := s.flowLevel != 0

/-- The reader with one more token. -/
def push (s : Scanner) (t : Token) : Scanner := { s with queue := s.queue ++ [t] }

/-- The reader with a token at the place where `position` tokens stand before it. -/
def insert (s : Scanner) (position : Nat) (t : Token) : Scanner :=
  { s with queue := s.queue.insertIdx (position - s.taken) t }

/-- The place of the next token: after white space and comments. -/
def toNextToken : Nat → Scanner → Scanner
  | 0, s => s
  | fuel + 1, s =>
    let c := s.cursor.skipSpaces.skipComment
    if isBreak c.peek then
      toNextToken fuel
        { s with cursor := c.lineBreak.2, keyAllowed := s.keyAllowed || !s.inFlow }
    else { s with cursor := c }

/-- Whether a possible key has become impossible. -/
def isStale (s : Scanner) (k : KeyPlace) : Bool :=
  k.line != s.cursor.line || 1024 < s.cursor.index - k.index

/-- Forget the possible keys that have become impossible. -/
def dropStaleKeys (s : Scanner) : Except Fault Scanner :=
  if s.keys.any (fun (_, k) => s.isStale k && k.required) then .error .malformed
  else .ok { s with keys := s.keys.filter (fun (_, k) => !s.isStale k) }

/-- Forget the possible key of the current flow level. -/
def dropKey (s : Scanner) : Except Fault Scanner :=
  if s.keys.any (fun (level, k) => level == s.flowLevel && k.required) then .error .malformed
  else .ok { s with keys := s.keys.filter (fun (level, _) => level != s.flowLevel) }

/-- Remember that the next token may be a key. -/
def saveKey (s : Scanner) : Except Fault Scanner :=
  if s.keyAllowed then do
    let s ← s.dropKey
    let place : KeyPlace :=
      { position := s.taken + s.queue.length
        required := !s.inFlow && s.indent == (s.cursor.column : Int)
        index := s.cursor.index
        line := s.cursor.line
        column := s.cursor.column }
    return { s with keys := (s.flowLevel, place) :: s.keys }
  else .ok s

/-- Close the block collections among `outer` that are indented by more than `column`. -/
def closeBlocks (column : Int) : List Int → Scanner → Scanner
  | [], s => s
  | outer :: rest, s =>
    if column < s.indent then
      closeBlocks column rest { s.push .blockEnd with indent := outer, indents := rest }
    else s

/-- Close the block collections that are indented by more than `column`. -/
def unwind (column : Int) (s : Scanner) : Scanner :=
  if s.inFlow then s else closeBlocks column s.indents s

/-- Open a block collection at a column, if it is to the right of the current one. -/
def openBlock (column : Nat) (s : Scanner) : Bool × Scanner :=
  if s.indent < (column : Int) then
    (true, { s with indent := column, indents := s.indent :: s.indents })
  else (false, s)

/-- Open a block collection here, if it is a new one, with its start token. -/
def openBlockHere (t : Token) (s : Scanner) : Scanner :=
  let (opened, s) := s.openBlock s.cursor.column
  if opened then s.push t else s

/-- The reader after the next `n` characters, which make up a token. -/
def take (s : Scanner) (n : Nat) (t : Token) : Scanner :=
  { s.push t with cursor := s.cursor.skip n }

/-- A directive or a document mark: everything that is open ends here. -/
def endBlocks (s : Scanner) : Except Fault Scanner := do
  let s ← (s.unwind (-1)).dropKey
  return { s with keyAllowed := false }

/-- An opening bracket. -/
def flowStart (s : Scanner) (t : Token) : Except Fault Scanner := do
  let s ← s.saveKey
  return { s.take 1 t with flowLevel := s.flowLevel + 1, keyAllowed := true }

/-- A closing bracket. -/
def flowEnd (s : Scanner) (t : Token) : Except Fault Scanner := do
  let s ← s.dropKey
  if s.flowLevel = 0 then .error .malformed
  else return { s.take 1 t with flowLevel := s.flowLevel - 1, keyAllowed := false }

/-- A comma of a flow collection. -/
def flowEntry (s : Scanner) : Except Fault Scanner := do
  let s ← s.dropKey
  return { s.take 1 .flowEntry with keyAllowed := true }

/-- A hyphen of a block sequence. -/
def blockEntry (s : Scanner) : Except Fault Scanner := do
  if !s.inFlow && !s.keyAllowed then .error .malformed
  else
    let s := if s.inFlow then s else s.openBlockHere .blockSequenceStart
    let s ← s.dropKey
    return { s.take 1 .blockEntry with keyAllowed := true }

/-- A question mark before a key. -/
def explicitKey (s : Scanner) : Except Fault Scanner := do
  if !s.inFlow && !s.keyAllowed then .error .malformed
  else
    let s := if s.inFlow then s else s.openBlockHere .blockMappingStart
    let s ← s.dropKey
    return { s.take 1 .key with keyAllowed := !s.inFlow }

/-- A colon after a key. -/
def valueMark (s : Scanner) : Except Fault Scanner := do
  match s.keys.find? (fun (level, _) => level == s.flowLevel) with
  | some (_, k) =>
    let s := { s with keys := s.keys.filter (fun (level, _) => level != s.flowLevel) }
    let s := s.insert k.position .key
    let (opened, s) := if s.inFlow then (false, s) else s.openBlock k.column
    let s := if opened then s.insert k.position .blockMappingStart else s
    return { s.take 1 .value with keyAllowed := false }
  | none =>
    if !s.inFlow && !s.keyAllowed then .error .malformed
    else
      let s := if s.inFlow then s else s.openBlockHere .blockMappingStart
      let s ← s.dropKey
      return { s.take 1 .value with keyAllowed := !s.inFlow }

/-- A token that may be a key and that a reader of its own reads. -/
def node (s : Scanner) (read : Cursor → Except Fault (Token × Cursor)) : Except Fault Scanner := do
  let s ← s.saveKey
  let (t, c) ← read s.cursor
  return { s.push t with cursor := c, keyAllowed := false }

/-- A plain scalar. -/
def plain (s : Scanner) : Except Fault Scanner := do
  let s ← s.saveKey
  let p := plainScalar s.inFlow s.indent s.cursor
  let pushed := s.push (.scalar (String.ofList p.text) true)
  return { pushed with cursor := p.cursor, keyAllowed := p.broken }

/-- A block scalar. -/
def block (s : Scanner) (fold : Bool) : Except Fault Scanner := do
  let s ← s.dropKey
  let (text, c) ← blockScalar fold s.indent s.cursor
  return { s.push (.scalar (String.ofList text) false) with cursor := c, keyAllowed := true }

/-- Whether a plain scalar may start here. -/
def atPlain (s : Scanner) : Bool :=
  let x := s.cursor.peek
  if isGap x || "-?:,[]\x7b\x7d#&*!|>'\"%@`".toList.contains x then
    !isGap (s.cursor.peekAt 1) && (x == '-' || (!s.inFlow && (x == '?' || x == ':')))
  else true

/-- Read one token, with the tokens that indentation and keys add around it. -/
def step (s : Scanner) : Except Fault Scanner := do
  let s ← (s.toNextToken (s.cursor.left + 1)).dropStaleKeys
  let s := s.unwind s.cursor.column
  let x := s.cursor.peek
  let gap := isGap (s.cursor.peekAt 1)
  let atLineStart := s.cursor.column = 0
  if x == endMark then
    let s ← s.endBlocks
    return { s.push .streamEnd with finished := true }
  else if x == '%' && atLineStart then
    let s ← s.endBlocks
    let (t, c) ← directiveToken s.cursor
    return { s.push t with cursor := c }
  else if x == '-' && atLineStart && s.cursor.atDocumentMark then
    let s ← s.endBlocks
    return s.take 3 .documentStart
  else if x == '.' && atLineStart && s.cursor.atDocumentMark then
    let s ← s.endBlocks
    return s.take 3 .documentEnd
  else if x == '[' then s.flowStart .flowSequenceStart
  else if x == '\x7b' then s.flowStart .flowMappingStart
  else if x == ']' then s.flowEnd .flowSequenceEnd
  else if x == '\x7d' then s.flowEnd .flowMappingEnd
  else if x == ',' then s.flowEntry
  else if x == '-' && gap then s.blockEntry
  else if x == '?' && (s.inFlow || gap) then s.explicitKey
  else if x == ':' && (s.inFlow || gap) then s.valueMark
  else if x == '*' then
    s.node (fun c => (anchorName c).map (fun (name, c) => (.alias name, c)))
  else if x == '&' then
    s.node (fun c => (anchorName c).map (fun (name, c) => (.anchor name, c)))
  else if x == '!' then s.node tagToken
  else if x == '|' && !s.inFlow then s.block false
  else if x == '>' && !s.inFlow then s.block true
  else if x == '\'' || x == '"' then
    s.node (fun c =>
      (quotedScalar c).map (fun (text, c) => (.scalar (String.ofList text) false, c)))
  else if s.atPlain then s.plain
  else .error .malformed

/-- Whether the next token can become a key, or there is none. -/
def needsMore (s : Scanner) : Bool :=
  !s.finished && (s.queue.isEmpty || s.keys.any (fun (_, k) => k.position == s.taken))

/-- Read on until the next token is known; every step takes a character or ends the text. -/
def settle : Nat → Scanner → Except Fault Scanner
  | 0, s => .ok s
  | fuel + 1, s => do
    let s ← if s.finished || s.queue.isEmpty then pure s else s.dropStaleKeys
    if s.needsMore then settle fuel (← s.step) else return s

/-- The reader with the next token known, if there is one. -/
def ready (s : Scanner) : Except Fault Scanner :=
  s.settle (s.cursor.left + 2)

/-- The reader after the next token has been taken. -/
def drop (s : Scanner) : Scanner :=
  { s with queue := s.queue.tail, taken := s.taken + s.queue.length - s.queue.tail.length }

/-- The reader at the start of a text; a byte order mark is skipped there. -/
def ofText (s : List Char) : Scanner :=
  match s with
  | '\ufeff' :: rest => start rest
  | s => start s

end Scanner

end DataContract.Yaml
