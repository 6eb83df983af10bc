/-
Literals: the parameters of the actions that marks can carry.

A literal is a number, a truth value, a quoted text, or a collection of literals
between parentheses or braces.  Between brackets white space may hold line
breaks and comments.  Members of sets and keys must not be sets or mappings.
-/
import DataContract.Document.Fault
import DataContract.Text.Hexadecimal
import DataContract.Text.Occurrence
import DataContract.Text.Word

namespace DataContract.Console.Literal

open DataContract.Text

/-- What a literal is to the literal around it. -/
inductive Kind where
  /-- A real number, and whether it has a sign. -/
  | real (isSigned : Bool)
  /-- An imaginary number, and whether it has a sign. -/
  | imaginary (isSigned : Bool)
  /-- Any other literal that can be a key. -/
  | constant
  /-- A literal that cannot be a key. -/
  | container
  deriving DecidableEq

/-- Whether a literal can be a key. -/
def Kind.isKey (k : Kind) : Bool := k != .container

/-- A part of a literal at the start of a text, and the text after it. -/
abbrev Scan (α : Type) := List Char → Option (α × List Char)

/-! ### White space -/

/-- The text after white space; inside brackets it can hold line breaks and comments. -/
def skipGap (inside : Bool) : Nat → List Char → List Char
  | 0, s => s
  | fuel + 1, s =>
    match s with
    | '\\' :: '\r' :: '\n' :: rest => skipGap inside fuel rest
    | '\\' :: '\n' :: rest => skipGap inside fuel rest
    | c :: rest =>
      if c == ' ' || c == '\t' || c == '\x0c' then skipGap inside fuel rest
      else if inside && (c == '\n' || c == '\r') then skipGap inside fuel rest
      else if inside && c == '#' then skipGap inside fuel (rest.dropWhile (· != '\n'))
      else s
    | [] => []

/-- The text after all white space. -/
def skip (inside : Bool) (s : List Char) : List Char :=
  skipGap inside s.length s

/-! ### Numbers -/

/-- A run of digits, in which single underscores may stand between two digits. -/
def digitRun (p : Char → Bool) : List Char → List Char × List Char
  | [] => ([], [])
  | c :: rest =>
    if p c then
      let (ds, after) := digitRun p rest
      (c :: ds, after)
    else if c == '_' && rest.head?.any p then digitRun p rest
    else ([], c :: rest)

/-- A run of digits that is not empty and starts with a digit. -/
def digits? (p : Char → Bool) (s : List Char) : Option (List Char × List Char) :=
  if s.head?.any p then some (digitRun p s) else none

/-- A whole number in a base that is a power of two. -/
def basedNumber? : Scan Unit
  | '0' :: base :: rest =>
    let digit? : Option (Char → Bool) := match base.toLower with
      | 'x' => some (fun c => (hexValue? c).isSome)
      | 'o' => some (fun c => '0' ≤ c && c ≤ '7')
      | 'b' => some (fun c => c == '0' || c == '1')
      | _ => none
    match digit? with
    | some p =>
      let rest := match rest with
        | '_' :: r => r
        | r => r
      (digits? p rest).map (fun (_, after) => ((), after))
    | none => none
  | _ => none

/-- The text after an exponent, if one follows. -/
def skipExponent (s : List Char) : Option (List Char) :=
  match s with
  | e :: rest =>
    if e == 'e' || e == 'E' then
      let unsigned := match rest with
        | '+' :: r => r
        | '-' :: r => r
        | r => r
      (digits? Char.isDigit unsigned).map (·.2)
    else none
  | [] => none

/-- A number in base ten: whether it is whole, its first digits, and the text after it. -/
def decimal? (s : List Char) : Option (Bool × List Char × List Char) := do
  let (whole, rest) := (digits? Char.isDigit s).getD ([], s)
  let (point, part, rest) := match rest with
    | '.' :: r =>
      let (part, after) := (digits? Char.isDigit r).getD ([], r)
      (true, part, after)
    | r => (false, [], r)
  if whole.isEmpty && part.isEmpty then none
  match skipExponent rest with
  | some after => return (false, whole, after)
  | none => return (!point, whole, rest)

/-- Whether the digits of a whole number may be written so. -/
def isWholeNumber (ds : List Char) : Bool :=
  (ds.head? != some '0' || ds.all (· == '0')) && ds.length ≤ maxDigits

/-- A number without a sign. -/
def number? (s : List Char) : Option (Kind × List Char) := do
  let (kind, rest) ← match basedNumber? s with
    | some (_, rest) => some (Kind.real false, rest)
    | none => do
      let (isWhole, ds, rest) ← decimal? s
      match rest with
      | c :: after =>
        if c == 'j' || c == 'J' then some (Kind.imaginary false, after)
        else if isWhole && !isWholeNumber ds then none
        else some (Kind.real false, rest)
      | [] => if isWhole && !isWholeNumber ds then none else some (Kind.real false, rest)
  if rest.head?.any isWord then none else some (kind, rest)

/-! ### Quoted texts -/

/-- How a quoted text is read. -/
structure Quoting where
  /-- Backslashes stand for themselves. -/
  raw : Bool
  /-- The text stands for bytes. -/
  binary : Bool
  deriving DecidableEq

/-- The letters before a quoted text. -/
def quotings : List (String × Quoting) := [
  ("", ⟨false, false⟩), ("r", ⟨true, false⟩), ("u", ⟨false, false⟩), ("b", ⟨false, true⟩),
  ("br", ⟨true, true⟩), ("rb", ⟨true, true⟩)]

/-- The text after some hexadecimal digits. -/
def skipHex (width : Nat) (s : List Char) : Option (List Char) :=
  match hexNumber? (s.take width) with
  | some n => if width ≤ s.length && n < 0x110000 then some (s.drop width) else none
  | none => none

/-- The text after an escape, from behind its backslash. -/
def skipEscape (q : Quoting) : List Char → Option (List Char)
  | [] => none
  | c :: rest =>
    if q.raw then some rest
    else if c == 'x' then skipHex 2 rest
    else if q.binary then some rest
    else if c == 'u' then skipHex 4 rest
    else if c == 'U' then skipHex 8 rest
    else if c == 'N' then
      match rest with
      | '\x7b' :: name =>
        match name.dropWhile (· != '\x7d') with
        | _ :: after => if name.head? == some '\x7d' then none else some after
        | [] => none
      | _ => none
    else some rest

/-- The text after the body of a quoted text, which ends with `closing`. -/
def skipQuoted (q : Quoting) (closing : List Char) : Nat → List Char → Option (List Char)
  | 0, _ => none
  | fuel + 1, s =>
    match dropPrefix? closing s with
    | some after => some after
    | none =>
      match s with
      | [] => none
      | '\\' :: rest => (skipEscape q rest).bind (skipQuoted q closing fuel)
      | c :: rest =>
        if (closing.length = 1 && (c == '\n' || c == '\r'))
            || (q.binary && 0x7f < c.toNat) then none
        else skipQuoted q closing fuel rest

/-- One quoted text, and whether it stands for bytes. -/
def quotedText? (s : List Char) : Option (Bool × List Char) := do
  let letters := s.takeWhile (fun c => c != '\'' && c != '"')
  let q ← quotings.lookup (String.ofList (letters.map Char.toLower))
  match s.drop letters.length with
  | a :: b :: c :: rest =>
    let closing := if a == b && b == c then [a, a, a] else [a]
    let body := if a == b && b == c then rest else b :: c :: rest
    return (q.binary, ← skipQuoted q closing (body.length + 1) body)
  | a :: rest => return (q.binary, ← skipQuoted q [a] (rest.length + 1) rest)
  | [] => none

/-- Quoted texts after each other, which have to be of one kind. -/
def quotedTexts? (inside : Bool) : Nat → List Char → Option (Bool × List Char)
  | 0, _ => none
  | fuel + 1, s => do
    let (binary, rest) ← quotedText? s
    match quotedText? (skip inside rest) with
    | none =>
      if (skip inside rest).head?.any (fun c => c == '\'' || c == '"') then none
      else return (binary, rest)
    | some _ =>
      let (more, last) ← quotedTexts? inside fuel (skip inside rest)
      if more == binary then return (binary, last) else none

/-! ### Words -/

/-- The words that are literals. -/
def constants : List String := ["True", "False", "None"]

/-- A word that is a literal, or an empty set. -/
def word? (inside : Bool) (s : List Char) : Option (Kind × List Char) :=
  match s with
  | '.' :: '.' :: '.' :: rest => some (.constant, rest)
  | s =>
    let name := s.takeWhile isWord
    let rest := s.drop name.length
    if constants.contains (String.ofList name) then some (.constant, rest)
    else if name == "set".toList then
      match skip inside rest with
      | '(' :: inner =>
        match skip true inner with
        | ')' :: after => some (.container, after)
        | _ => none
      | _ => none
    else none

/-! ### Literals -/

/-- Brackets lie in each other no deeper than this. -/
def maxNesting : Nat := 200

/-- The kind of a number with a sign. -/
def Kind.signed? : Kind → Option Kind
  | .real false => some (.real true)
  | .imaginary false => some (.imaginary true)
  | _ => none

/-- The kind of the sum of a real and an imaginary number. -/
def Kind.sum? : Kind → Kind → Option Kind
  | .real _, .imaginary false => some .constant
  | _, _ => none

/-- The kind of some literals together. -/
def together (kinds : List Kind) : Kind :=
  if kinds.all Kind.isKey then .constant else .container

mutual

/-- A literal without a sign, inside some brackets. -/
def atom : Nat → Nat → Scan Kind
  | 0, _, _ => none
  | fuel + 1, depth, s =>
    let inside := depth != 0
    match s with
    | '(' :: rest =>
      if maxNesting ≤ depth then none
      else
        match skip true rest with
        | ')' :: after => some (.constant, after)
        | start => do
          let (kinds, comma, rest) ← items fuel (depth + 1) start
          match rest, kinds with
          | ')' :: after, [k] => return (if comma then together [k] else k, after)
          | ')' :: after, ks => return (together ks, after)
          | _, _ => none
    | '\x7b' :: rest =>
      if maxNesting ≤ depth then none
      else
        match skip true rest with
        | '\x7d' :: after => some (.container, after)
        | start => braced fuel (depth + 1) start
    | s =>
      match number? s with
      | some found => some found
      | none =>
        match quotedTexts? inside fuel s with
        | some (_, rest) => some (.constant, rest)
        | none => word? inside s

/-- A literal, which can have a sign or be a sum. -/
def literal : Nat → Nat → Scan Kind
  | 0, _, _ => none
  | fuel + 1, depth, s => do
    let inside := depth != 0
    let (first, rest) ← match s with
      | c :: unsigned =>
        if c == '+' || c == '-' then do
          let (k, rest) ← atom fuel depth (skip inside unsigned)
          pure (← k.signed?, rest)
        else atom fuel depth s
      | [] => none
    match skip inside rest with
    | c :: next =>
      if c == '+' || c == '-' then do
        let (second, last) ← atom fuel depth (skip inside next)
        return (← first.sum? second, last)
      else return (first, rest)
    | [] => return (first, rest)

/-- Literals between commas, whether a comma is there, and the text after the white space. -/
def items : Nat → Nat → List Char → Option (List Kind × Bool × List Char)
  | 0, _, _ => none
  | fuel + 1, depth, s => do
    let inside := depth != 0
    let (k, rest) ← literal fuel depth s
    match skip inside rest with
    | ',' :: next =>
      match items fuel depth (skip inside next) with
      | some (ks, _, last) => return (k :: ks, true, last)
      | none =>
        match skip inside next with
        | [] => return ([k], true, [])
        | c :: after => if c == ')' || c == '\x7d' then return ([k], true, c :: after) else none
    | last => return ([k], false, last)

/-- The members of a set or the entries of a mapping, up to the closing brace. -/
def braced : Nat → Nat → Scan Kind
  | 0, _, _ => none
  | fuel + 1, depth, s => do
    let (k, rest) ← literal fuel depth s
    if !k.isKey then none
    match skip true rest with
    | ':' :: _ => entries fuel depth s
    | _ =>
      let (ks, _, last) ← items fuel depth s
      match last with
      | '\x7d' :: after => if ks.all Kind.isKey then return (.container, after) else none
      | _ => none

/-- The entries of a mapping, up to the closing brace. -/
def entries : Nat → Nat → Scan Kind
  | 0, _, _ => none
  | fuel + 1, depth, s => do
    let (key, rest) ← literal fuel depth s
    if !key.isKey then none
    match skip true rest with
    | ':' :: value => do
      let (_, rest) ← literal fuel depth (skip true value)
      match skip true rest with
      | '\x7d' :: after => return (.container, after)
      | ',' :: next =>
        match skip true next with
        | '\x7d' :: after => return (.container, after)
        | start => entries fuel depth start
      | _ => none
    | _ => none

end

/-- Whether a text is a literal, or several between commas. -/
def isLiteral (s : List Char) : Bool :=
  match items (4 * s.length + 4) 0 (skip false s) with
  | some (_, _, rest) => (skip true rest).isEmpty
  | none => false

end DataContract.Console.Literal
