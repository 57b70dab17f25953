import ChunkGraph.Data.Keyed
import ChunkGraph.Failure
import ChunkGraph.Number.Literal
import ChunkGraph.Text.Search

/-!
# Styles of printed texts

A tag names a style by words: attributes like `bold`, each perhaps behind `not`,
a color, the color of the ground behind `on`, and a link behind `link`. A style
has a standard form, in which its words have a fixed order and no short names, so
that a tag can be closed by any other name of the same style. Words that name no
style stand for themselves.

## Main definitions

* `Style`, `Style.ofWords` — styles, and the one that words name.
* `Style.written` — the standard form.
* `Style.standardName` — the standard form of a name.
-/

namespace ChunkGraph.Markup

/-- Attributes in the order of the standard form. -/
def attributes : List String :=
  ["bold", "dim", "italic", "underline", "blink", "blink2", "reverse", "conceal", "strike",
    "underline2", "frame", "encircle", "overline"]

/-- Short names of attributes. -/
def shortAttributes : List (String × String) :=
  [("d", "dim"), ("b", "bold"), ("i", "italic"), ("u", "underline"), ("r", "reverse"),
    ("c", "conceal"), ("s", "strike"), ("uu", "underline2"), ("o", "overline")]

/-- The attribute that a word names. -/
def attribute? (word : List Char) : Option String :=
  let name := String.ofList word
  if attributes.contains name then some name else shortAttributes.lookup name

/-- Names of colors. -/
def colorNames : List String := [
  "black", "red", "green", "yellow", "blue", "magenta", "cyan", "white", "bright_black",
  "bright_red", "bright_green", "bright_yellow", "bright_blue", "bright_magenta",
  "bright_cyan", "bright_white", "grey0", "gray0", "navy_blue", "dark_blue", "blue3", "blue1",
  "dark_green", "deep_sky_blue4", "dodger_blue3", "dodger_blue2", "green4", "spring_green4",
  "turquoise4", "deep_sky_blue3", "dodger_blue1", "green3", "spring_green3", "dark_cyan",
  "light_sea_green", "deep_sky_blue2", "deep_sky_blue1", "spring_green2", "cyan3",
  "dark_turquoise", "turquoise2", "green1", "spring_green1", "medium_spring_green", "cyan2",
  "cyan1", "dark_red", "deep_pink4", "purple4", "purple3", "blue_violet", "orange4", "grey37",
  "gray37", "medium_purple4", "slate_blue3", "royal_blue1", "chartreuse4", "dark_sea_green4",
  "pale_turquoise4", "steel_blue", "steel_blue3", "cornflower_blue", "chartreuse3",
  "cadet_blue", "sky_blue3", "steel_blue1", "pale_green3", "sea_green3", "aquamarine3",
  "medium_turquoise", "chartreuse2", "sea_green2", "sea_green1", "aquamarine1",
  "dark_slate_gray2", "dark_magenta", "dark_violet", "purple", "light_pink4", "plum4",
  "medium_purple3", "slate_blue1", "yellow4", "wheat4", "grey53", "gray53",
  "light_slate_grey", "light_slate_gray", "medium_purple", "light_slate_blue",
  "dark_olive_green3", "dark_sea_green", "light_sky_blue3", "sky_blue2", "dark_sea_green3",
  "dark_slate_gray3", "sky_blue1", "chartreuse1", "light_green", "pale_green1",
  "dark_slate_gray1", "red3", "medium_violet_red", "magenta3", "dark_orange3", "indian_red",
  "hot_pink3", "medium_orchid3", "medium_orchid", "medium_purple2", "dark_goldenrod",
  "light_salmon3", "rosy_brown", "grey63", "gray63", "medium_purple1", "gold3", "dark_khaki",
  "navajo_white3", "grey69", "gray69", "light_steel_blue3", "light_steel_blue", "yellow3",
  "dark_sea_green2", "light_cyan3", "light_sky_blue1", "green_yellow", "dark_olive_green2",
  "dark_sea_green1", "pale_turquoise1", "deep_pink3", "magenta2", "hot_pink2", "orchid",
  "medium_orchid1", "orange3", "light_pink3", "pink3", "plum3", "violet", "light_goldenrod3",
  "tan", "misty_rose3", "thistle3", "plum2", "khaki3", "light_goldenrod2", "light_yellow3",
  "grey84", "gray84", "light_steel_blue1", "yellow2", "dark_olive_green1", "honeydew2",
  "light_cyan1", "red1", "deep_pink2", "deep_pink1", "magenta1", "orange_red1", "indian_red1",
  "hot_pink", "dark_orange", "salmon1", "light_coral", "pale_violet_red1", "orchid2",
  "orchid1", "orange1", "sandy_brown", "light_salmon1", "light_pink1", "pink1", "plum1",
  "gold1", "navajo_white1", "misty_rose1", "thistle1", "yellow1", "light_goldenrod1",
  "khaki1", "wheat1", "cornsilk1", "grey100", "gray100", "grey3", "gray3", "grey7", "gray7",
  "grey11", "gray11", "grey15", "gray15", "grey19", "gray19", "grey23", "gray23", "grey27",
  "gray27", "grey30", "gray30", "grey35", "gray35", "grey39", "gray39", "grey42", "gray42",
  "grey46", "gray46", "grey50", "gray50", "grey54", "gray54", "grey58", "gray58", "grey62",
  "gray62", "grey66", "gray66", "grey70", "gray70", "grey74", "gray74", "grey78", "gray78",
  "grey82", "gray82", "grey85", "gray85", "grey89", "gray89", "grey93", "gray93"]

/-! ## Colors -/

/-- The text between a word with an opening bracket and a closing bracket at the end. -/
def argumentsOf? (word text : List Char) : Option (List Char) :=
  match Text.dropFront? (word ++ ['(']) text with
  | some rest => if rest.getLast? == some ')' then some rest.dropLast else none
  | none => none

/-- A number of at most 255. -/
def isLevel (digits : List Char) : Bool :=
  match Number.readInt digits with
  | .ok n => n ≤ 255
  | .error _ => false

/-- One to three plain digits that are a number of at most 255. -/
def isColorNumber (digits : List Char) : Bool :=
  !digits.isEmpty && digits.length ≤ 3 && digits.all Text.isAsciiDigit && isLevel digits

/-- Three numbers of at most 255 with commas between them; it is a failure if one is missing. -/
def areLevels (text : List Char) : Except Failure Bool :=
  let numbers := Text.splitOn ',' text
  if !text.all (fun c => (Text.digitValue? c).isSome || c == ',') || numbers.length != 3 then
    .ok false
  else if numbers.contains [] then .error (.notAnInteger 10 "")
  else .ok (numbers.all isLevel)

/-- A word in lower case names a color. -/
def isColor (word : List Char) : Except Failure Bool :=
  let name := String.ofList word
  if name == "default" || colorNames.contains name then .ok true
  else
    match word, argumentsOf? "color".toList word, argumentsOf? "rgb".toList word with
    | '#' :: digits, _, _ =>
        .ok (digits.length == 6 && digits.all fun c => (Text.baseDigit? 16 c).isSome)
    | _, some digits, _ => .ok (isColorNumber digits)
    | _, _, some numbers => areLevels numbers
    | _, _, _ => .ok false

/-! ## Styles -/

/-- A style. -/
structure Style where
  /-- Attributes that are set, or set to be absent. -/
  marks : List (String × Bool) := []
  /-- The color. -/
  color : Option (List Char) := none
  /-- The color of the ground. -/
  ground : Option (List Char) := none
  /-- The link. -/
  link : Option (List Char) := none
  deriving DecidableEq, Repr

namespace Style

/-- The style with an attribute. -/
def mark (s : Style) (name : String) (there : Bool) : Style :=
  { s with marks := Keyed.put name there s.marks }

/-- The style with what one word adds that stands for itself. -/
def addWord (s : Style) (word : List Char) : Except Failure (Option Style) :=
  match attribute? word with
  | some name => .ok (some (s.mark name true))
  | none => (isColor word).map fun found => if found then some { s with color := word } else none

/-- The style with what a word adds that stands behind another one, if that asks for it. -/
def addBehind? (s : Style) (word next : List Char) : Option (Except Failure (Option Style)) :=
  match String.ofList word with
  | "on" =>
      let color := Text.lower next
      some ((isColor color).map fun found =>
        if found then some { s with ground := color } else none)
  | "not" => some (.ok ((attribute? next).map fun name => s.mark name false))
  | "link" => some (.ok (some { s with link := next }))
  | _ => none

/-- The style that words name, if they name one. -/
def ofWords (s : Style) : List (List Char) → Except Failure (Option Style)
  | [] => .ok (some s)
  | [word] =>
      let word := Text.lower word
      if ["on", "not", "link"].contains (String.ofList word) then .ok none else s.addWord word
  | word :: next :: rest =>
      let word := Text.lower word
      match s.addBehind? word next with
      | some (.ok (some s)) => ofWords s rest
      | some stopped => stopped
      | none =>
          match s.addWord word with
          | .ok (some s) => ofWords s (next :: rest)
          | stopped => stopped

/-- The words of the standard form. -/
def words (s : Style) : List (List Char) :=
  let marks := attributes.flatMap fun name =>
    match s.marks.lookup name with
    | some true => [name.toList]
    | some false => ["not".toList, name.toList]
    | none => []
  let behind (word : String) (next : Option (List Char)) : List (List Char) :=
    next.elim [] fun next => [word.toList, next]
  marks ++ s.color.toList ++ behind "on" s.ground ++ behind "link" s.link

/-- The standard form. -/
def written (s : Style) : List Char :=
  if s.words.isEmpty then "none".toList else Text.join [' '] s.words

/-- The standard form of a name. -/
def standardName (name : List Char) : Except Failure (List Char) :=
  if Text.trim name == "none".toList then .ok "none".toList
  else
    (ofWords {} (Text.words name)).map fun
      | some s => s.written
      | none => Text.lower (Text.trim name)

end Style

end ChunkGraph.Markup
