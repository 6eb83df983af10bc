/-
Emoji in the messages of the console.

A name between two colons stands for an emoji, in any case of letters.  The end
`-text` or `-emoji` of a name asks for one of the two ways to show it.  A name
that no emoji has stays as it is, with both of its colons.
-/
import DataContract.Console.Emoji.NamesAtoB
import DataContract.Console.Emoji.NamesC
import DataContract.Console.Emoji.NamesDtoE
import DataContract.Console.Emoji.NamesF
import DataContract.Console.Emoji.NamesGtoL
import DataContract.Console.Emoji.NamesM
import DataContract.Console.Emoji.NamesNtoO
import DataContract.Console.Emoji.NamesOthers
import DataContract.Console.Emoji.NamesPtoR
import DataContract.Console.Emoji.NamesS
import DataContract.Console.Emoji.NamesTtoV
import DataContract.Console.Emoji.NamesWtoZ
import DataContract.Text.Blank
import DataContract.Text.LowerText
import DataContract.Text.Occurrence

namespace DataContract.Console.Emoji

open DataContract.Text

/-- The emoji by their names. -/
def tables : List (List (String × String)) := [
  namesAtoB, namesC, namesDtoE, namesF, namesGtoL, namesM, namesNtoO, namesPtoR, namesS, namesTtoV,
  namesWtoZ, namesOthers]

/-- The emoji with a name. -/
def named? (name : String) : Option String :=
  tables.findSome? (fun table => table.lookup name)

/-- The ways to show an emoji that a name can ask for, with the characters that do so. -/
def variants : List (List Char × Char) := [("-emoji".toList, '\ufe0f'), ("-text".toList, '\ufe0e')]

/-- A name without the variant that it asks for, and the character for the variant. -/
def splitVariant (name : List Char) : List Char × List Char :=
  match variants.findSome? (fun (ending, c) => (dropSuffix? ending name).map (fun n => (n, c))) with
  | some (bare, c) => (bare, [c])
  | none => (name, [])

/-- What a name between colons stands for. -/
def expand (name : List Char) : List Char :=
  let (bare, variant) := splitVariant name
  match named? (String.ofList (lowerText bare)) with
  | some emoji => emoji.toList ++ variant
  | none => ':' :: name ++ [':']

/-- The rule that replaces names between colons. -/
def rule : Rule
  | ':' :: rest =>
    let name := rest.takeWhile (fun c => c != ':' && !isBlank c)
    match rest.drop name.length with
    | ':' :: after => some (expand name, after)
    | _ => none
  | _ => none

/-- The text with its emoji. -/
def replaceNames (s : List Char) : List Char :=
  substitute rule s

end DataContract.Console.Emoji
