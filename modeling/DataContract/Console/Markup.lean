/-
Marks in the messages of the console.

A mark stands in brackets and starts with a small letter or one of `#`, `/` and
`@`; it changes the style and is not shown.  A backslash before a bracket makes
it text.  A mark that starts with a slash closes an earlier one of the same
style.  A mark that starts with `@` carries an action, whose parameters have to
be literals when the mark is closed.
-/
import DataContract.Console.Emoji
import DataContract.Console.Literal
import DataContract.Console.Style

namespace DataContract.Console

open DataContract.Text

/-! ### The parts of a message -/

/-- Whether a character can start a mark. -/
def startsMark (c : Char) : Bool :=
  ('a' ≤ c && c ≤ 'z') || c == '#' || c == '/' || c == '@'

/-- The mark at the start of a text after its bracket, and the text after the mark. -/
def mark? : List Char → Option (List Char × List Char)
  | [] => none
  | c :: rest =>
    if startsMark c then
      match rest.dropWhile (fun d => d != '[' && d != ']') with
      | ']' :: after => some (c :: rest.takeWhile (fun d => d != '[' && d != ']'), after)
      | _ => none
    else none

/-- A part of a message. -/
inductive Piece where
  | text (s : List Char)
  | mark (content : List Char)

/-- A piece of text in front of pieces, if there is any text. -/
def textPiece (s : List Char) (rest : List Piece) : List Piece :=
  if s.isEmpty then rest else .text s :: rest

/--
The pieces of a message, after the characters before it in reverse.  A bracket
that starts no mark loses one backslash.  The fuel counts characters.
-/
def piecesFuel : Nat → List Char → List Char → List Piece
  | 0, before, s => textPiece (before.reverse ++ s) []
  | fuel + 1, before, s =>
    match s with
    | [] => textPiece before.reverse []
    | c :: rest =>
      let slashes := s.takeWhile (· == '\\')
      match s.dropWhile (· == '\\') with
      | '[' :: inner =>
        match mark? inner with
        | some (content, after) =>
          textPiece before.reverse (textPiece (slashes.take (slashes.length / 2))
            (if slashes.length % 2 = 1 then
              .text ('[' :: content ++ [']']) :: piecesFuel fuel [] after
            else .mark content :: piecesFuel fuel [] after))
        | none => piecesFuel fuel ('[' :: slashes.dropLast ++ before) inner
      | _ => piecesFuel fuel (c :: before) rest

/-- The pieces of a message. -/
def piecesOf (s : List Char) : List Piece :=
  piecesFuel (s.length + 1) [] s

/-! ### Marks -/

/-- A mark that has been opened. -/
structure OpenMark where
  /-- The normal form of its style. -/
  name : List Char
  /-- What follows its name. -/
  parameters : Option (List Char)

/-- The name of a mark, and what follows it after an equals sign. -/
def splitMark (content : List Char) : List Char × Option (List Char) :=
  match content.dropWhile (· != '=') with
  | [] => (content, none)
  | _ :: parameters => (content.takeWhile (· != '='), some parameters)

/-- The parameters of an action: those in parentheses after its name, or none after a name alone. -/
def actionParameters (s : List Char) : List Char :=
  let name := s.takeWhile (fun c => isWord c || c == '.')
  match s.drop name.length with
  | [] => "()".toList
  | '(' :: rest =>
    if rest.getLast? == some ')' && !rest.contains '\n' then '(' :: rest else s
  | _ => s

/-- Check a mark that is closed: the parameters of an action have to be literals. -/
def checkClosed (m : OpenMark) : Except Crash Unit :=
  match m.name, m.parameters with
  | '@' :: _, some parameters =>
    if parameters.isEmpty || Literal.isLiteral (actionParameters (trim parameters)) then .ok ()
    else .error .malformedAction
  | _, _ => .ok ()

/-- The last mark with a name, and the marks without it. -/
def takeMark? (name : List Char) : List OpenMark → Option (OpenMark × List OpenMark)
  | [] => none
  | m :: rest =>
    if m.name == name then some (m, rest)
    else (takeMark? name rest).map (fun (found, others) => (found, m :: others))

/-- Close the mark with a name, or the last one if no name is given. -/
def closeMark (name : List Char) (opened : List OpenMark) : Except Crash (List OpenMark) := do
  let found ←
    if name.isEmpty then
      pure (match opened with
        | [] => none
        | m :: rest => some (m, rest))
    else pure (takeMark? (← Style.normalName name) opened)
  match found with
  | none => .error .unmatchedMark
  | some (m, rest) =>
    checkClosed m
    return rest

/-- The marks that are open after one more mark. -/
def passMark (content : List Char) (opened : List OpenMark) : Except Crash (List OpenMark) := do
  match splitMark content with
  | ('/' :: closing, _) => closeMark (trim closing) opened
  | (name, parameters) => return ⟨← Style.normalName name, parameters⟩ :: opened

/-- The text of pieces after some marks were opened. -/
def showPieces (opened : List OpenMark) : List Piece → Except Crash (List Char)
  | [] => .ok []
  | .text s :: rest => do return Emoji.replaceNames s ++ (← showPieces opened rest)
  | .mark content :: rest => do showPieces (← passMark content opened) rest

/-- The control characters that the console drops. -/
def isDropped (c : Char) : Bool :=
  [7, 8, 11, 12, 13].contains c.toNat

/-- What the console shows of a message. -/
def shown (message : String) : Except Crash String := do
  let s ← showPieces [] (piecesOf message.toList)
  return String.ofList (s.filter (fun c => !isDropped c))

end DataContract.Console
