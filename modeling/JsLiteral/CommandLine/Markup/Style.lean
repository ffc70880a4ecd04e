import JsLiteral.Failure
import JsLiteral.Text.Blank
import JsLiteral.Text.Decimal
import JsLiteral.Text.LowerCase

/-!
# Styles

A style is written as words: attributes, each with `not` before it to switch it off, a colour,
`on` and a background colour, `link` and an address. Of two words that say different things the
later one counts. Two styles are the same if `Style.toText` writes them alike, whatever
abbreviations and order they were given in.
-/

namespace JsLiteral.Markup

/-! ## Attributes -/

inductive Attribute where
  | bold
  | dim
  | italic
  | underline
  | blink
  | blinkFast
  | reverse
  | conceal
  | strike
  | underlineTwice
  | frame
  | encircle
  | overline
deriving DecidableEq, Repr

namespace Attribute

/-- All attributes in the order they are written in. -/
def all : List Attribute := [bold, dim, italic, underline, blink, blinkFast, reverse, conceal,
  strike, underlineTwice, frame, encircle, overline]

/-- The full name of an attribute. -/
def name : Attribute → Text
  | bold => "bold"
  | dim => "dim"
  | italic => "italic"
  | underline => "underline"
  | blink => "blink"
  | blinkFast => "blink2"
  | reverse => "reverse"
  | conceal => "conceal"
  | strike => "strike"
  | underlineTwice => "underline2"
  | frame => "frame"
  | encircle => "encircle"
  | overline => "overline"

/-- The short name of an attribute. -/
def shortName? : Attribute → Option Text
  | bold => some "b"
  | dim => some "d"
  | italic => some "i"
  | underline => some "u"
  | reverse => some "r"
  | conceal => some "c"
  | strike => some "s"
  | underlineTwice => some "uu"
  | overline => some "o"
  | _ => none

/-- The attribute that a word names. -/
def ofName? (word : Text) : Option Attribute :=
  all.find? fun a => a.name == word || a.shortName? == some word

end Attribute

/-! ## Colours -/

/-- The colours that have names. -/
def colorNames : List String := [
  "aquamarine1", "aquamarine3", "black", "blue", "blue1", "blue3", "blue_violet", "bright_black",
  "bright_blue", "bright_cyan", "bright_green", "bright_magenta", "bright_red", "bright_white",
  "bright_yellow", "cadet_blue", "chartreuse1", "chartreuse2", "chartreuse3", "chartreuse4",
  "cornflower_blue", "cornsilk1", "cyan", "cyan1", "cyan2", "cyan3", "dark_blue", "dark_cyan",
  "dark_goldenrod", "dark_green", "dark_khaki", "dark_magenta", "dark_olive_green1",
  "dark_olive_green2", "dark_olive_green3", "dark_orange", "dark_orange3", "dark_red",
  "dark_sea_green", "dark_sea_green1", "dark_sea_green2", "dark_sea_green3", "dark_sea_green4",
  "dark_slate_gray1", "dark_slate_gray2", "dark_slate_gray3", "dark_turquoise", "dark_violet",
  "deep_pink1", "deep_pink2", "deep_pink3", "deep_pink4", "deep_sky_blue1", "deep_sky_blue2",
  "deep_sky_blue3", "deep_sky_blue4", "dodger_blue1", "dodger_blue2", "dodger_blue3", "gold1",
  "gold3", "gray0", "gray100", "gray11", "gray15", "gray19", "gray23", "gray27", "gray3",
  "gray30", "gray35", "gray37", "gray39", "gray42", "gray46", "gray50", "gray53", "gray54",
  "gray58", "gray62", "gray63", "gray66", "gray69", "gray7", "gray70", "gray74", "gray78",
  "gray82", "gray84", "gray85", "gray89", "gray93", "green", "green1", "green3", "green4",
  "green_yellow", "grey0", "grey100", "grey11", "grey15", "grey19", "grey23", "grey27", "grey3",
  "grey30", "grey35", "grey37", "grey39", "grey42", "grey46", "grey50", "grey53", "grey54",
  "grey58", "grey62", "grey63", "grey66", "grey69", "grey7", "grey70", "grey74", "grey78",
  "grey82", "grey84", "grey85", "grey89", "grey93", "honeydew2", "hot_pink", "hot_pink2",
  "hot_pink3", "indian_red", "indian_red1", "khaki1", "khaki3", "light_coral", "light_cyan1",
  "light_cyan3", "light_goldenrod1", "light_goldenrod2", "light_goldenrod3", "light_green",
  "light_pink1", "light_pink3", "light_pink4", "light_salmon1", "light_salmon3",
  "light_sea_green", "light_sky_blue1", "light_sky_blue3", "light_slate_blue", "light_slate_gray",
  "light_slate_grey", "light_steel_blue", "light_steel_blue1", "light_steel_blue3",
  "light_yellow3", "magenta", "magenta1", "magenta2", "magenta3", "medium_orchid",
  "medium_orchid1", "medium_orchid3", "medium_purple", "medium_purple1", "medium_purple2",
  "medium_purple3", "medium_purple4", "medium_spring_green", "medium_turquoise",
  "medium_violet_red", "misty_rose1", "misty_rose3", "navajo_white1", "navajo_white3",
  "navy_blue", "orange1", "orange3", "orange4", "orange_red1", "orchid", "orchid1", "orchid2",
  "pale_green1", "pale_green3", "pale_turquoise1", "pale_turquoise4", "pale_violet_red1", "pink1",
  "pink3", "plum1", "plum2", "plum3", "plum4", "purple", "purple3", "purple4", "red", "red1",
  "red3", "rosy_brown", "royal_blue1", "salmon1", "sandy_brown", "sea_green1", "sea_green2",
  "sea_green3", "sky_blue1", "sky_blue2", "sky_blue3", "slate_blue1", "slate_blue3",
  "spring_green1", "spring_green2", "spring_green3", "spring_green4", "steel_blue", "steel_blue1",
  "steel_blue3", "tan", "thistle1", "thistle3", "turquoise2", "turquoise4", "violet", "wheat1",
  "wheat4", "white", "yellow", "yellow1", "yellow2", "yellow3", "yellow4"]

/-- The value of a colour component: a natural number in the digits of any script. -/
def component (t : Text) : Except Failure Nat :=
  if t.isEmpty then .error .emptyNumber
  else .ok (t.foldl (fun n (c : CodePoint) => 10 * n + c.decimal?.getD 0) 0)

/-- What stands between an opening with its bracket and a closing bracket at the end. -/
def inBrackets? (opening word : Text) : Option Text :=
  if opening.isPrefixOf word && word.getLast? == some (CodePoint.scalar ')') then
    some ((word.drop opening.length).dropLast)
  else none

/-- Whether three components in digits and commas make a colour. -/
def isMixture (t : Text) : Except Failure Bool :=
  if t.isEmpty || !t.all (fun (c : CodePoint) => c.decimal?.isSome || c == ',') then .ok false
  else
    match Text.splitBy (· == ',') t with
    | [red, green, blue] => do
      let parts ← [red, green, blue].mapM component
      pure (parts.all (· ≤ 255))
    | _ => .ok false

/-- Whether a lower-case word is a colour: a name, `#` and six hexadecimal digits, a number up
to 255 or a mixture of three such numbers. -/
def isColor (word : Text) : Except Failure Bool :=
  if word = Text.ofString "default" || colorNames.any (fun n => Text.ofString n == word) then
    .ok true
  else if word.head? = some (CodePoint.scalar '#') then
    .ok (word.length == 7 && (word.drop 1).all fun (c : CodePoint) => c.hexDigit?.isSome)
  else match inBrackets? "color(" word, inBrackets? "rgb(" word with
    | some digits, _ =>
      .ok (!digits.isEmpty && digits.length ≤ 3 && digits.all CodePoint.isDigit
        && digits.foldl (fun n (c : CodePoint) => 10 * n + c.digit?.getD 0) 0 ≤ 255)
    | none, some parts => isMixture parts
    | none, none => .ok false

/-! ## Styles -/

/-- What a style says. -/
structure Style where
  /-- Attributes that are switched on or off, the last word first. -/
  attributes : List (Attribute × Bool) := []
  color : Option Text := none
  background : Option Text := none
  link : Option Text := none
deriving DecidableEq, Repr, Inhabited

namespace Style

/-- Adds what words say; `none` if they are no style. -/
def readWords (s : Style) : List Text → Except Failure (Option Style)
  | [] => .ok (some s)
  | word :: rest =>
    let lower := word.lower
    if lower = Text.ofString "on" then
      match rest with
      | [] => .ok none
      | color :: rest => do
        if ← isColor color.lower then readWords { s with background := some color.lower } rest
        else pure none
    else if lower = Text.ofString "not" then
      match rest with
      | [] => .ok none
      | name :: rest =>
        match Attribute.ofName? name with
        | some a => readWords { s with attributes := (a, false) :: s.attributes } rest
        | none => .ok none
    else if lower = Text.ofString "link" then
      match rest with
      | [] => .ok none
      | address :: rest => readWords { s with link := some address } rest
    else match Attribute.ofName? lower with
      | some a => readWords { s with attributes := (a, true) :: s.attributes } rest
      | none => do
        if ← isColor lower then readWords { s with color := some lower } rest
        else pure none

/-- The style that a text writes, if it writes one. -/
def read (t : Text) : Except Failure (Option Style) :=
  if Text.trim t = Text.ofString "none" then .ok (some {})
  else readWords {} ((Text.splitBy CodePoint.isBlank t).filter fun word => !word.isEmpty)

/-- The words of a style in their order. -/
def words (s : Style) : List Text :=
  Attribute.all.filterMap (fun a => match List.lookup a s.attributes with
    | some true => some a.name
    | some false => some (("not " : Text) ++ a.name)
    | none => none)
  ++ s.color.toList
  ++ s.background.toList.map (("on " : Text) ++ ·)
  ++ s.link.toList.map (("link " : Text) ++ ·)

/-- The written form of a style. -/
def toText (s : Style) : Text :=
  if s.words.isEmpty then "none" else Text.join " " s.words

/-- The name by which tags are compared: the written form of a style, and what is no style
without the blanks around it and in lower case. -/
def normalize (t : Text) : Except Failure Text := do
  match ← read t with
  | some s => pure s.toText
  | none => pure (Text.trim t).lower

end Style

end JsLiteral.Markup
