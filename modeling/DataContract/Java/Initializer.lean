/-
Initial values of properties.

The initializer of a property is cut out of the text of its declaration and
changed word by word into Java; it is not parsed.  A word made of two to four
capitalised parts that is not called is taken for a member.
-/
import DataContract.Java.Identifier
import DataContract.Text.Blank
import DataContract.Text.Occurrence
import DataContract.Text.Word
import DataContract.Value.Text

namespace DataContract.Java

open DataContract.Text

/-- A declaration with an initializer that does not end. -/
structure UnterminatedInitializer where
  source : String
  deriving DecidableEq

/-- The message for the user. -/
def UnterminatedInitializer.message (e : UnterminatedInitializer) : String :=
  "Initializer has no terminator: " ++ quoteText e.source

/-- The text after the first `=` of the first line. -/
def afterEquals? : List Char → Option (List Char)
  | [] => none
  | c :: rest => if c == '=' then some rest else if c == '\n' then none else afterEquals? rest

/-- The initializer of a declaration: what stands between the first line's `=` and the next `;`. -/
def extract (source : String) : Except UnterminatedInitializer (Option String) :=
  match afterEquals? source.toList with
  | none => .ok none
  | some rest =>
    match splitFirst? [';'] rest with
    | some (value, _) => .ok (some (String.ofList (trim value)))
    | none => .error ⟨source⟩

/-- Capital letters of the Latin alphabet. -/
def isCapital (c : Char) : Bool := 'A' ≤ c && c ≤ 'Z'

/-- Small letters of the Latin alphabet. -/
def isSmall (c : Char) : Bool := 'a' ≤ c && c ≤ 'z'

/-- A capital and at least one small letter, and the text after them. -/
def capitalised? : List Char → Option (List Char × List Char)
  | c :: d :: rest =>
    if isCapital c && isSmall d then some (c :: d :: rest.takeWhile isSmall, rest.dropWhile isSmall)
    else none
  | _ => none

/-- At most `limit` capitalised parts: how many there are, their text, and the text after them. -/
def capitalisedParts : Nat → List Char → Nat × List Char × List Char
  | 0, s => (0, [], s)
  | limit + 1, s =>
    match capitalised? s with
    | some (part, rest) =>
      match capitalisedParts limit rest with
      | (n, parts, rest) => (n + 1, part ++ parts, rest)
    | none => (0, [], s)

/-- Whether a word that ends here is whole and not called. -/
def endsUncalled : List Char → Bool
  | [] => true
  | c :: _ => !isWord c && c != '('

/-- A word of two to four capitalised parts starts with a small letter, unless it is called. -/
def memberWordRule : Rule := fun s =>
  match capitalisedParts 4 s with
  | (n, word, rest) =>
    if 2 ≤ n && endsUncalled rest then
      some ((identifier (String.ofList word)).toList, rest)
    else none

/-- The texts that are replaced first, in order. -/
def javaReplacements : List (String × String) :=
  [("new Regex", "java.util.regex.Pattern.compile"), ("Replace", "replace")]

/-- An expression after replacements, with members written as in Java; a blank one is none. -/
def convertWith (replacements : List (String × String)) (expression : Option String) :
    Option String :=
  match expression with
  | none => none
  | some expression =>
    let s := trim expression.toList
    if s.isEmpty then none
    else
      let replaced := replacements.foldl (fun s r => replaceAll r.1.toList r.2.toList s) s
      some (String.ofList (substitute memberWordRule replaced))

/-- An expression with members written as in Java and nothing else replaced. -/
def convertMembers (expression : Option String) : Option String :=
  convertWith [] expression

/-- An expression in Java. -/
def convert (expression : Option String) : Option String :=
  convertWith javaReplacements expression

/-- The initializers that stand for no value. -/
def nullInitializers : List String := ["null", "null!"]

/-- The initial value in Java of a property, unless it has none. -/
def initialValue (initializer : Option String) : Option String :=
  (convert initializer).filter (fun v => !nullInitializers.contains v)

end DataContract.Java
