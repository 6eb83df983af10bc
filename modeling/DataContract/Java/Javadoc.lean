/-
Javadoc blocks from XML documentation comments.

A comment is first made one line, with its references and code written the way
of Javadoc.  Then its sections are laid out in a fixed order, each wrapped to
the width that the indent leaves.
-/
import DataContract.Java.Identifier
import DataContract.Text.Blank
import DataContract.Text.Occurrence
import DataContract.Text.Word
import DataContract.Text.Wrap

namespace DataContract.Java

open DataContract.Text

/-! ### Inline tags -/

/-- A line feed and the blanks after it become one blank. -/
def lineBreakRule : Rule
  | '\n' :: rest => some ([' '], rest.dropWhile (· == ' '))
  | _ => none

/-- The end of a tag after an attribute: a quote, perhaps a blank, and `/>`. -/
def tagEnd? (s : List Char) : Option (List Char) :=
  match s with
  | '"' :: ' ' :: '/' :: '>' :: rest => some rest
  | '"' :: '/' :: '>' :: rest => some rest
  | _ => none

/-- A Javadoc tag with its content. -/
def inlineTag (name content : List Char) : List Char :=
  "\x7b@".toList ++ name ++ [' '] ++ content ++ ['\x7d']

/-- A name of at least one word character, and the text after it. -/
def wordRun? (s : List Char) : Option (List Char × List Char) :=
  let word := s.takeWhile isWord
  if word.isEmpty then none else some (word, s.dropWhile isWord)

/-- A type, a point and a member, then the end of the tag. -/
def memberTarget? (s : List Char) : Option (List Char × List Char) := do
  let (type, rest) ← wordRun? s
  let rest ← dropPrefix? ['.'] rest
  let (member, rest) ← wordRun? rest
  let rest ← tagEnd? rest
  let link := type ++ ['#'] ++ (identifier (String.ofList member)).toList
  return (inlineTag "link".toList link, rest)

/-- Any target up to the quote, then the end of the tag. -/
def typeTarget? (s : List Char) : Option (List Char × List Char) := do
  let target := s.takeWhile (· != '"')
  if target.isEmpty then none
  else
    let rest ← tagEnd? (s.dropWhile (· != '"'))
    return (inlineTag "link".toList target, rest)

/-- A target with the start `own` left out, if it can be read so, or else with all of it. -/
def withoutOwn (own : List Char) (target? : Rule) : Rule := fun s =>
  ((dropPrefix? own s).bind target?).or (target? s)

/-- A reference to a property, a field, a method or an event. -/
def memberRule (namespaceName : List Char) : Rule := fun s => do
  match (← dropPrefix? "<see cref=\"".toList s) with
  | kind :: ':' :: rest =>
    if ['P', 'F', 'M', 'E'].contains kind then
      withoutOwn (namespaceName ++ ['.']) memberTarget? rest
    else none
  | _ => none

/-- A reference to anything. -/
def typeRule (namespaceName : List Char) : Rule := fun s => do
  match (← dropPrefix? "<see cref=\"".toList s) with
  | kind :: ':' :: rest =>
    if kind == '\n' then none else withoutOwn (namespaceName ++ ['.']) typeTarget? rest
  | _ => none

/-- A tag whose attribute is code. -/
def codeAttributeRule (opening : List Char) : Rule := fun s => do
  let s ← dropPrefix? opening s
  let code := s.takeWhile (· != '"')
  if code.isEmpty then none
  else
    let rest ← tagEnd? (s.dropWhile (· != '"'))
    return (inlineTag "code".toList code, rest)

/-- A tag whose content is code. -/
def codeRule : Rule := fun s => do
  let s ← dropPrefix? "<c>".toList s
  let (code, rest) ← splitFirst? "</c>".toList s
  return (inlineTag "code".toList code, rest)

/-- The rules for inline tags, in the order in which they are applied. -/
def inlineRules (namespaceName : List Char) : List Rule := [
  lineBreakRule,
  memberRule namespaceName,
  typeRule namespaceName,
  codeAttributeRule "<see langword=\"".toList,
  codeAttributeRule "<paramref name=\"".toList,
  codeAttributeRule "<typeparamref name=\"".toList,
  codeRule]

/-- A comment on one line, with its references and code written the way of Javadoc. -/
def flatten (namespaceName : String) (comment : String) : List Char :=
  (inlineRules namespaceName.toList).foldl (fun s rule => substitute rule s)
    (comment.toList.filter (· != '\r'))

/-! ### Sections -/

/-- The content of a section that reaches to the last closing tag, without blank ends. -/
def outerSection (opening closing text : List Char) : List Char :=
  match splitFirst? opening text with
  | some (_, after) => trim ((beforeLast? closing after).getD [])
  | none => []

/-- The content of a section that reaches to the next closing tag, without blank ends. -/
def innerSection (opening closing text : List Char) : List Char :=
  match splitFirst? opening text with
  | some (_, after) => trim (((splitFirst? closing after).map (·.1)).getD [])
  | none => []

/-- The parameter section at the start of a text: name and description, and the text after it. -/
def parameterSection? (s : List Char) : Option ((List Char × List Char) × List Char) := do
  let s ← dropPrefix? "<param name=\"".toList s
  let name := s.takeWhile (· != '"')
  if name.isEmpty then none
  else
    let s ← dropPrefix? "\">".toList (s.dropWhile (· != '"'))
    let (description, rest) ← splitFirst? "</param>".toList s
    return ((name, description), rest)

/-- The parameter sections of a text from left to right; the fuel counts characters. -/
def parameterSectionsFuel : Nat → List Char → List (List Char × List Char)
  | 0, _ => []
  | _ + 1, [] => []
  | fuel + 1, c :: s =>
    match parameterSection? (c :: s) with
    | some (found, rest) => found :: parameterSectionsFuel fuel rest
    | none => parameterSectionsFuel fuel s

/-- The parameter sections of a text from left to right. -/
def parameterSections (s : List Char) : List (List Char × List Char) :=
  parameterSectionsFuel s.length s

/-! ### Blocks -/

/-- How documentation is written. -/
structure Javadoc where
  /-- The namespace that references leave out. -/
  namespaceName : String
  /-- The number of columns of a line. -/
  maxWidth : Int := 90

namespace Javadoc

/-- The lines of a part of a comment; nothing blank stands at their ends. -/
def partLines (indent : List Char) (width : Int) (part : List Char) : List (List Char) :=
  (wrap width part).map (fun line => trimRight (indent ++ " * ".toList ++ line))

/-- The `@param` and `@return` parts of a comment. -/
def tagParts (text : List Char) : List (List Char) :=
  let returns := innerSection "<returns>".toList "</returns>".toList text
  (parameterSections text).map (fun (name, description) =>
    "@param ".toList ++ (identifier (String.ofList name)).toList ++ [' '] ++ trim description)
  ++ (if returns.isEmpty then [] else ["@return ".toList ++ returns])

/-- The lines between the two ends of a block. -/
def bodyLines (indent : List Char) (width : Int) (text : List Char) : List (List Char) :=
  let summary := outerSection "<summary>".toList "</summary>".toList text
  let remarks := outerSection "<remarks>".toList "</remarks>".toList text
  let tags := tagParts text
  let divider := indent ++ " *".toList
  partLines indent width summary
  ++ (if remarks.isEmpty then [] else divider :: partLines indent width remarks)
  ++ (if tags.isEmpty then [] else divider :: tags.flatMap (partLines indent width))

/-- The block of a comment; a comment that is absent or blank has none. -/
def block (j : Javadoc) (indent : String) (comment : Option String) : String :=
  match comment with
  | none => ""
  | some comment =>
    if allBlank comment.toList then ""
    else
      let margin := indent.toList
      let width := j.maxWidth - 3 - margin.length
      let lines := [margin ++ "/**".toList]
        ++ bodyLines margin width (flatten j.namespaceName comment)
        ++ [margin ++ " */".toList]
      String.ofList (lines.flatMap (· ++ ['\n']))

end Javadoc

end DataContract.Java
