/-
Styles that the marks of a message name.

A style has attributes, colours and a link.  Names that mean the same style have
one normal form: the attributes in a fixed order, the colour, the background
and the link.  A name that means no style is its own normal form, in lower case.
-/
import DataContract.Failure
import DataContract.Text.Blank
import DataContract.Text.Hexadecimal
import DataContract.Text.LowerText
import DataContract.Text.Occurrence

namespace DataContract.Console

open DataContract.Text

/-! ### Colours -/

/-- The colours that have a name. -/
def colorNames : List String := [
  "black", "red", "green", "yellow", "blue", "magenta", "cyan", "white", "bright_black",
  "bright_red", "bright_green", "bright_yellow", "bright_blue", "bright_magenta", "bright_cyan",
  "bright_white", "grey0", "gray0", "navy_blue", "dark_blue", "blue3", "blue1", "dark_green",
  "deep_sky_blue4", "dodger_blue3", "dodger_blue2", "green4", "spring_green4", "turquoise4",
  "deep_sky_blue3", "dodger_blue1", "green3", "spring_green3", "dark_cyan", "light_sea_green",
  "deep_sky_blue2", "deep_sky_blue1", "spring_green2", "cyan3", "dark_turquoise", "turquoise2",
  "green1", "spring_green1", "medium_spring_green", "cyan2", "cyan1", "dark_red", "deep_pink4",
  "purple4", "purple3", "blue_violet", "orange4", "grey37", "gray37", "medium_purple4",
  "slate_blue3", "royal_blue1", "chartreuse4", "dark_sea_green4", "pale_turquoise4", "steel_blue",
  "steel_blue3", "cornflower_blue", "chartreuse3", "cadet_blue", "sky_blue3", "steel_blue1",
  "pale_green3", "sea_green3", "aquamarine3", "medium_turquoise", "chartreuse2", "sea_green2",
  "sea_green1", "aquamarine1", "dark_slate_gray2", "dark_magenta", "dark_violet", "purple",
  "light_pink4", "plum4", "medium_purple3", "slate_blue1", "yellow4", "wheat4", "grey53", "gray53",
  "light_slate_grey", "light_slate_gray", "medium_purple", "light_slate_blue", "dark_olive_green3",
  "dark_sea_green", "light_sky_blue3", "sky_blue2", "dark_sea_green3", "dark_slate_gray3",
  "sky_blue1", "chartreuse1", "light_green", "pale_green1", "dark_slate_gray1", "red3",
  "medium_violet_red", "magenta3", "dark_orange3", "indian_red", "hot_pink3", "medium_orchid3",
  "medium_orchid", "medium_purple2", "dark_goldenrod", "light_salmon3", "rosy_brown", "grey63",
  "gray63", "medium_purple1", "gold3", "dark_khaki", "navajo_white3", "grey69", "gray69",
  "light_steel_blue3", "light_steel_blue", "yellow3", "dark_sea_green2", "light_cyan3",
  "light_sky_blue1", "green_yellow", "dark_olive_green2", "dark_sea_green1", "pale_turquoise1",
  "deep_pink3", "magenta2", "hot_pink2", "orchid", "medium_orchid1", "orange3", "light_pink3",
  "pink3", "plum3", "violet", "light_goldenrod3", "tan", "misty_rose3", "thistle3", "plum2",
  "khaki3", "light_goldenrod2", "light_yellow3", "grey84", "gray84", "light_steel_blue1", "yellow2",
  "dark_olive_green1", "honeydew2", "light_cyan1", "red1", "deep_pink2", "deep_pink1", "magenta1",
  "orange_red1", "indian_red1", "hot_pink", "dark_orange", "salmon1", "light_coral",
  "pale_violet_red1", "orchid2", "orchid1", "orange1", "sandy_brown", "light_salmon1",
  "light_pink1", "pink1", "plum1", "gold1", "navajo_white1", "misty_rose1", "thistle1", "yellow1",
  "light_goldenrod1", "khaki1", "wheat1", "cornsilk1", "grey100", "gray100", "grey3", "gray3",
  "grey7", "gray7", "grey11", "gray11", "grey15", "gray15", "grey19", "gray19", "grey23", "gray23",
  "grey27", "gray27", "grey30", "gray30", "grey35", "gray35", "grey39", "gray39", "grey42",
  "gray42", "grey46", "gray46", "grey50", "gray50", "grey54", "gray54", "grey58", "gray58",
  "grey62", "gray62", "grey66", "gray66", "grey70", "gray70", "grey74", "gray74", "grey78",
  "gray78", "grey82", "gray82", "grey85", "gray85", "grey89", "gray89", "grey93", "gray93"]

/-- The largest value of a part of a colour, and the largest number of a colour. -/
def maxColor : Nat := 255

/-- The text between a word with an opening parenthesis and a closing one. -/
def enclosed? (opening : String) (s : List Char) : Option (List Char) :=
  (dropPrefix? opening.toList s).bind (dropSuffix? [')'])

/-- The value of some digits of any script. -/
def digitsNumber (ds : List Char) : Nat :=
  ds.foldl (fun n d => n * 10 + (digitValue? d).getD 0) 0

/-- Whether a colour is given by six hexadecimal digits. -/
def isHexColor : List Char → Bool
  | '#' :: ds => ds.length = 6 && ds.all (fun c => c.isDigit || ('a' ≤ c && c ≤ 'f'))
  | _ => false

/-- Whether a colour is given by its number. -/
def isNumberedColor (s : List Char) : Bool :=
  match enclosed? "color(" s with
  | some ds =>
    !ds.isEmpty && ds.length ≤ 3 && ds.all Char.isDigit && digitsNumber ds ≤ maxColor
  | none => false

/-- Whether a colour is given by its three parts, none of which may be left out. -/
def isMixedColor (s : List Char) : Except Crash Bool :=
  match enclosed? "rgb(" s with
  | some inner =>
    if !inner.isEmpty && inner.all (fun c => isDecimal c || c == ',') then
      match pieces ',' inner with
      | [red, green, blue] =>
        let parts := [red, green, blue]
        if parts.any (fun p => p.isEmpty || maxDigits < p.length) then .error .malformedColor
        else .ok (parts.all (fun p => digitsNumber p ≤ maxColor))
      | _ => .ok false
    else .ok false
  | none => .ok false

/-- Whether a word in lower case names a colour. -/
def isColor (s : List Char) : Except Crash Bool := do
  if s == "default".toList || colorNames.contains (String.ofList s) || isHexColor s
      || isNumberedColor s then return true
  else isMixedColor s

/-! ### Styles -/

/-- The attributes of a style in the order of its normal form. -/
def attributeNames : List String := [
  "bold", "dim", "italic", "underline", "blink", "blink2", "reverse", "conceal", "strike",
  "underline2", "frame", "encircle", "overline"]

/-- The short names of attributes. -/
def shortAttributes : List (String × String) := [
  ("b", "bold"), ("d", "dim"), ("i", "italic"), ("u", "underline"), ("r", "reverse"),
  ("c", "conceal"), ("s", "strike"), ("uu", "underline2"), ("o", "overline")]

/-- The attribute that a word names. -/
def attribute? (word : List Char) : Option String :=
  let name := String.ofList word
  if attributeNames.contains name then some name else shortAttributes.lookup name

/-- A style. -/
structure Style where
  /-- The attributes that are set or unset, the last ones first. -/
  attributes : List (String × Bool) := []
  color : Option (List Char) := none
  background : Option (List Char) := none
  link : Option (List Char) := none

namespace Style

/-- The style of some words, if they mean one, on top of another style. -/
def ofWords? (style : Style) : List (List Char) → Except Crash (Option Style)
  | [] => .ok (some style)
  | word :: rest =>
    let lowered := lowerText word
    if lowered == "on".toList then
      match rest with
      | [] => .ok none
      | color :: rest => do
        let color := lowerText color
        if (← isColor color) then ofWords? { style with background := some color } rest
        else return none
    else if lowered == "not".toList then
      match rest with
      | [] => .ok none
      | word :: rest =>
        match attribute? word with
        | some name => ofWords? { style with attributes := (name, false) :: style.attributes } rest
        | none => .ok none
    else if lowered == "link".toList then
      match rest with
      | [] => .ok none
      | target :: rest => ofWords? { style with link := some target } rest
    else
      match attribute? lowered with
      | some name => ofWords? { style with attributes := (name, true) :: style.attributes } rest
      | none => do
        if (← isColor lowered) then ofWords? { style with color := some lowered } rest
        else return none

/-- The words of the normal form of a style. -/
def words (style : Style) : List (List Char) :=
  attributeNames.filterMap (fun name =>
    (style.attributes.lookup name).map (fun isSet =>
      ((if isSet then "" else "not ") ++ name).toList))
  ++ style.color.toList
  ++ (style.background.map (fun c => [['o', 'n'], c])).getD []
  ++ (style.link.map (fun l => ["link".toList, l])).getD []

/-- The name of the style that changes nothing. -/
def noneName : List Char := "none".toList

/-- The normal form of a style. -/
def text (style : Style) : List Char :=
  match style.words with
  | [] => noneName
  | words => [' '].intercalate words

/-- The normal form of the name of a style. -/
def normalName (name : List Char) : Except Crash (List Char) := do
  if trim name == noneName || allBlank name then return noneName
  match (← ofWords? {} (Text.words name)) with
  | some style => return style.text
  | none => return lowerText (trim name)

end Style

end DataContract.Console
