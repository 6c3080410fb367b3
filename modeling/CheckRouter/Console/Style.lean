import CheckRouter.Text.Blank
import CheckRouter.Text.Digit
import CheckRouter.Text.Lines

/-!
# Styles

A style is written as words: attributes, a colour, a background and a link. `Style.normalise` writes
styles that look the same in one way, so that a closing tag finds its opening one.
-/

namespace CheckRouter.Console

structure Style where
  attributes : List (String × Bool) := []
  colour : Option String := none
  background : Option String := none
  link : Option String := none

namespace Style

def colourNames : List String :=
  ["black", "red", "green", "yellow", "blue", "magenta", "cyan", "white", "bright_black",
    "bright_red", "bright_green", "bright_yellow", "bright_blue", "bright_magenta", "bright_cyan",
    "bright_white", "grey0", "gray0", "navy_blue", "dark_blue", "blue3", "blue1", "dark_green",
    "deep_sky_blue4", "dodger_blue3", "dodger_blue2", "green4", "spring_green4", "turquoise4",
    "deep_sky_blue3", "dodger_blue1", "green3", "spring_green3", "dark_cyan", "light_sea_green",
    "deep_sky_blue2", "deep_sky_blue1", "spring_green2", "cyan3", "dark_turquoise", "turquoise2",
    "green1", "spring_green1", "medium_spring_green", "cyan2", "cyan1", "dark_red", "deep_pink4",
    "purple4", "purple3", "blue_violet", "orange4", "grey37", "gray37", "medium_purple4",
    "slate_blue3", "royal_blue1", "chartreuse4", "dark_sea_green4", "pale_turquoise4", "steel_blue",
    "steel_blue3", "cornflower_blue", "chartreuse3", "cadet_blue", "sky_blue3", "steel_blue1",
    "pale_green3", "sea_green3", "aquamarine3", "medium_turquoise", "chartreuse2", "sea_green2",
    "sea_green1", "aquamarine1", "dark_slate_gray2", "dark_magenta", "dark_violet", "purple",
    "light_pink4", "plum4", "medium_purple3", "slate_blue1", "yellow4", "wheat4", "grey53",
    "gray53", "light_slate_grey", "light_slate_gray", "medium_purple", "light_slate_blue",
    "dark_olive_green3", "dark_sea_green", "light_sky_blue3", "sky_blue2", "dark_sea_green3",
    "dark_slate_gray3", "sky_blue1", "chartreuse1", "light_green", "pale_green1",
    "dark_slate_gray1", "red3", "medium_violet_red", "magenta3", "dark_orange3", "indian_red",
    "hot_pink3", "medium_orchid3", "medium_orchid", "medium_purple2", "dark_goldenrod",
    "light_salmon3", "rosy_brown", "grey63", "gray63", "medium_purple1", "gold3", "dark_khaki",
    "navajo_white3", "grey69", "gray69", "light_steel_blue3", "light_steel_blue", "yellow3",
    "dark_sea_green2", "light_cyan3", "light_sky_blue1", "green_yellow", "dark_olive_green2",
    "dark_sea_green1", "pale_turquoise1", "deep_pink3", "magenta2", "hot_pink2", "orchid",
    "medium_orchid1", "orange3", "light_pink3", "pink3", "plum3", "violet", "light_goldenrod3",
    "tan", "misty_rose3", "thistle3", "plum2", "khaki3", "light_goldenrod2", "light_yellow3",
    "grey84", "gray84", "light_steel_blue1", "yellow2", "dark_olive_green1", "honeydew2",
    "light_cyan1", "red1", "deep_pink2", "deep_pink1", "magenta1", "orange_red1", "indian_red1",
    "hot_pink", "dark_orange", "salmon1", "light_coral", "pale_violet_red1", "orchid2", "orchid1",
    "orange1", "sandy_brown", "light_salmon1", "light_pink1", "pink1", "plum1", "gold1",
    "navajo_white1", "misty_rose1", "thistle1", "yellow1", "light_goldenrod1", "khaki1", "wheat1",
    "cornsilk1", "grey100", "gray100", "grey3", "gray3", "grey7", "gray7", "grey11", "gray11",
    "grey15", "gray15", "grey19", "gray19", "grey23", "gray23", "grey27", "gray27", "grey30",
    "gray30", "grey35", "gray35", "grey39", "gray39", "grey42", "gray42", "grey46", "gray46",
    "grey50", "gray50", "grey54", "gray54", "grey58", "gray58", "grey62", "gray62", "grey66",
    "gray66", "grey70", "gray70", "grey74", "gray74", "grey78", "gray78", "grey82", "gray82",
    "grey85", "gray85", "grey89", "gray89", "grey93", "gray93"]

def attributeNames : List String :=
  ["bold", "dim", "italic", "underline", "blink", "blink2", "reverse", "conceal", "strike",
    "underline2", "frame", "encircle", "overline"]

def shortNames : List (String × String) :=
  [("d", "dim"), ("b", "bold"), ("i", "italic"), ("u", "underline"), ("r", "reverse"),
    ("c", "conceal"), ("s", "strike"), ("uu", "underline2"), ("o", "overline")]

def attribute? (word : String) : Option String :=
  if attributeNames.contains word then some word else shortNames.lookup word

/-- What stands between a beginning and a closing parenthesis. -/
def between? (beginning : String) (word : List Char) : Option (List Char) :=
  if beginning.toList.isPrefixOf word && word.getLast? = some ')' then
    some (word.drop beginning.length).dropLast
  else none

def isByte (digits : List Char) : Bool :=
  !digits.isEmpty && digits.all Text.isDigit && Text.numeral digits ≤ 255

def isColour (word : String) : Bool :=
  let text := word.toList
  let isHex (c : Char) := c.isDigit || ('a' ≤ c && c ≤ 'f')
  let numbered := match between? "color(" text with
    | some digits => digits.length ≤ 3 && digits.all Char.isDigit && isByte digits
    | none => false
  let mixed := match between? "rgb(" text with
    | some parts =>
      let parts := Text.pieces ',' parts
      parts.length == 3 && parts.all isByte
    | none => false
  word == "default" || colourNames.contains word ||
    (text.head? == some '#' && text.length == 7 && text.tail.all isHex) || numbered || mixed

def set (style : Style) (name : String) (value : Bool) : Style :=
  { style with attributes := (name, value) :: style.attributes }

def ofWords (style : Style) : List String → Option Style
  | [] => some style
  | [word] =>
    let lower := word.map Char.toLower
    if lower = "on" || lower = "not" || lower = "link" then none
    else
      match attribute? lower with
      | some name => some (style.set name true)
      | none => if isColour lower then some { style with colour := some lower } else none
  | word :: next :: rest =>
    let lower := word.map Char.toLower
    if lower = "on" then
      let background := next.map Char.toLower
      if isColour background then ofWords { style with background := some background } rest
      else none
    else if lower = "not" then
      (attribute? next).bind fun name => ofWords (style.set name false) rest
    else if lower = "link" then ofWords { style with link := some next } rest
    else
      match attribute? lower with
      | some name => ofWords (style.set name true) (next :: rest)
      | none =>
        if isColour lower then ofWords { style with colour := some lower } (next :: rest) else none

def words (style : Style) : List String :=
  let attributes := attributeNames.filterMap fun name =>
    (style.attributes.lookup name).map fun value => if value then name else "not " ++ name
  let background := style.background.elim [] fun name => ["on", name]
  let link := style.link.elim [] fun target => ["link", target]
  attributes ++ style.colour.toList ++ background ++ link

def text (style : Style) : String :=
  if style.words.isEmpty then "none" else " ".intercalate style.words

/-- The one way in which a style is written. What is no style stays as it is, in small letters and
without the blanks around it. -/
def normalise (definition : String) : String :=
  let plain := Text.strip definition
  if plain = "none" then "none"
  else
    match ofWords {} ((Text.blankWords definition.toList).map String.ofList) with
    | some style => style.text
    | none => plain.map Char.toLower

end Style

end CheckRouter.Console
