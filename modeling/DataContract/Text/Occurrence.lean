/-
Occurrences of one text in another: what stands before the first or the last
of them, what stands after, and the text with all of them replaced.
-/
namespace DataContract.Text

/-- What follows `pre`, when `s` starts with it. -/
def dropPrefix? (pre s : List Char) : Option (List Char) :=
  match pre, s with
  | [], s => some s
  | _ :: _, [] => none
  | p :: pre, c :: s => if p = c then dropPrefix? pre s else none

/-- What precedes `suf`, when `s` ends with it. -/
def dropSuffix? (suf s : List Char) : Option (List Char) :=
  (dropPrefix? suf.reverse s.reverse).map List.reverse

/-- `s` without one `suf` at its end, or `s` itself when it does not end so. -/
def dropSuffix (suf s : List Char) : List Char :=
  (dropSuffix? suf s).getD s

/-- A text without the line feed at its end. -/
def dropFinalLineFeed (s : List Char) : List Char :=
  match s.getLast? with
  | some '\n' => s.dropLast
  | _ => s

/-- What stands before and after the first occurrence of `pat`. -/
def splitFirst? (pat : List Char) : List Char → Option (List Char × List Char)
  | [] => if pat.isEmpty then some ([], []) else none
  | c :: s =>
    match dropPrefix? pat (c :: s) with
    | some after => some ([], after)
    | none => (splitFirst? pat s).map (fun (before, after) => (c :: before, after))

/-- What stands before the last occurrence of `pat`. -/
def beforeLast? (pat s : List Char) : Option (List Char) :=
  (splitFirst? pat.reverse s.reverse).map (fun (_, before) => before.reverse)

/-- The pieces of a text between its occurrences of a character. -/
def pieces (sep : Char) (s : List Char) : List (List Char) :=
  match s with
  | [] => [[]]
  | c :: rest =>
    if c == sep then [] :: pieces sep rest
    else
      match pieces sep rest with
      | piece :: more => (c :: piece) :: more
      | [] => [[c]]

/--
A pattern that matches at the start of a text: the replacement of what it
matched and the rest of the text.
-/
abbrev Rule := List Char → Option (List Char × List Char)

/--
Apply a rule from left to right: where it matches, its replacement is written
and the search goes on after the match; elsewhere one character is copied.  The
fuel counts characters, so the length of the text is always enough.
-/
def substituteFuel (rule : Rule) : Nat → List Char → List Char
  | 0, s => s
  | _ + 1, [] => []
  | fuel + 1, c :: s =>
    match rule (c :: s) with
    | some (replacement, rest) => replacement ++ substituteFuel rule fuel rest
    | none => c :: substituteFuel rule fuel s

/-- The text with every match of the rule replaced. -/
def substitute (rule : Rule) (s : List Char) : List Char :=
  substituteFuel rule s.length s

/-- The rule that replaces one text by another. -/
def Rule.literal (old new : List Char) : Rule := fun s =>
  (dropPrefix? old s).map (fun rest => (new, rest))

/-- The text with every occurrence of `old` replaced by `new`. -/
def replaceAll (old new s : List Char) : List Char :=
  substitute (Rule.literal old new) s

end DataContract.Text
