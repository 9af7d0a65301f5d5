import Placement.Text.Blank
import Placement.Text.Word

/-!
# Placement.Page.Style — descriptions of styles

A style is described by words: attributes, `not` in front of an attribute, a
colour, `on` in front of the colour of the ground, and `link` in front of an
address. Two descriptions of one style have the same normal form. A text that
describes no style is its own normal form, in small letters.
-/

namespace Placement.Page

/-- The small form of a letter, for the letters of the first 256 characters and for the signs that
look like two of them. -/
def toSmall (c : CodePoint) : CodePoint :=
  if 'À' ≤ c ∧ c ≤ 'Þ' ∧ c ≠ '×' then CodePoint.ofNat (c.toNat + 0x20)
  else if c = '\u212a' then 'k'
  else if c = '\u212b' then 'å'
  else Text.toAsciiSmall c

/-- The words of a text, between its blanks. -/
def wordsOf (t : Text) : List Text :=
  ((Text.splitOn ' ' (Text.squeeze t))).filter (!·.isEmpty)

/-- The names of the colours. -/
def colourNames : String :=
  "black red green yellow blue magenta cyan white bright_black bright_red bright_green
bright_yellow bright_blue bright_magenta bright_cyan bright_white grey0 gray0 navy_blue
dark_blue blue3 blue1 dark_green deep_sky_blue4 dodger_blue3 dodger_blue2 green4 spring_green4
turquoise4 deep_sky_blue3 dodger_blue1 green3 spring_green3 dark_cyan light_sea_green
deep_sky_blue2 deep_sky_blue1 spring_green2 cyan3 dark_turquoise turquoise2 green1
spring_green1 medium_spring_green cyan2 cyan1 dark_red deep_pink4 purple4 purple3 blue_violet
orange4 grey37 gray37 medium_purple4 slate_blue3 royal_blue1 chartreuse4 dark_sea_green4
pale_turquoise4 steel_blue steel_blue3 cornflower_blue chartreuse3 cadet_blue sky_blue3
steel_blue1 pale_green3 sea_green3 aquamarine3 medium_turquoise chartreuse2 sea_green2
sea_green1 aquamarine1 dark_slate_gray2 dark_magenta dark_violet purple light_pink4 plum4
medium_purple3 slate_blue1 yellow4 wheat4 grey53 gray53 light_slate_grey light_slate_gray
medium_purple light_slate_blue dark_olive_green3 dark_sea_green light_sky_blue3 sky_blue2
dark_sea_green3 dark_slate_gray3 sky_blue1 chartreuse1 light_green pale_green1
dark_slate_gray1 red3 medium_violet_red magenta3 dark_orange3 indian_red hot_pink3
medium_orchid3 medium_orchid medium_purple2 dark_goldenrod light_salmon3 rosy_brown grey63
gray63 medium_purple1 gold3 dark_khaki navajo_white3 grey69 gray69 light_steel_blue3
light_steel_blue yellow3 dark_sea_green2 light_cyan3 light_sky_blue1 green_yellow
dark_olive_green2 dark_sea_green1 pale_turquoise1 deep_pink3 magenta2 hot_pink2 orchid
medium_orchid1 orange3 light_pink3 pink3 plum3 violet light_goldenrod3 tan misty_rose3
thistle3 plum2 khaki3 light_goldenrod2 light_yellow3 grey84 gray84 light_steel_blue1 yellow2
dark_olive_green1 honeydew2 light_cyan1 red1 deep_pink2 deep_pink1 magenta1 orange_red1
indian_red1 hot_pink dark_orange salmon1 light_coral pale_violet_red1 orchid2 orchid1 orange1
sandy_brown light_salmon1 light_pink1 pink1 plum1 gold1 navajo_white1 misty_rose1 thistle1
yellow1 light_goldenrod1 khaki1 wheat1 cornsilk1 grey100 gray100 grey3 gray3 grey7 gray7
grey11 gray11 grey15 gray15 grey19 gray19 grey23 gray23 grey27 gray27 grey30 gray30 grey35
gray35 grey39 gray39 grey42 gray42 grey46 gray46 grey50 gray50 grey54 gray54 grey58 gray58
grey62 gray62 grey66 gray66 grey70 gray70 grey74 gray74 grey78 gray78 grey82 gray82 grey85
gray85 grey89 gray89 grey93 gray93"

/-- The attributes in the order in which they are written, with their short names. -/
def attributeNames : List (String × String) :=
  [("bold", "b"), ("dim", "d"), ("italic", "i"), ("underline", "u"), ("blink", "blink"),
   ("blink2", "blink2"), ("reverse", "r"), ("conceal", "c"), ("strike", "s"),
   ("underline2", "uu"), ("frame", "frame"), ("encircle", "encircle"), ("overline", "o")]

/-- The attribute that a word names. -/
def attribute? (word : Text) : Option Text :=
  (attributeNames.find? fun (name, short) => name.text == word || short.text == word).map
    (·.1.text)

/-! ## Colours -/

/-- A number of up to three digits that is no greater than 255. -/
def isShade (t : Text) : Bool :=
  t.length ≤ 3 && t.all Text.isAsciiDigit && !t.isEmpty &&
    t.foldl (fun n c => 10 * n + (c.toNat - 0x30)) 0 ≤ 255

/-- A colour by its six hexadecimal digits. -/
def isHexColour (t : Text) : Bool :=
  match t with
  | '#' :: digits =>
    digits.length == 6 && digits.all fun c => Text.isAsciiDigit c || ('a' ≤ c && c ≤ 'f')
  | _ => false

/-- A colour by its number, or by its three shades. -/
def isNumberedColour (t : Text) : Bool :=
  match Text.between? "color(".text ')' t, Text.between? "rgb(".text ')' t with
  | some number, _ => isShade number
  | _, some shades => (Text.splitOn ',' shades).length == 3 && (Text.splitOn ',' shades).all isShade
  | _, _ => false

/-- Whether a word in small letters is a colour. -/
def isColour (word : Text) : Bool :=
  word == "default".text || (wordsOf colourNames.text).contains word || isHexColour word ||
    isNumberedColour word

/-! ## Normal forms -/

/-- What the words of a description say; a later word counts more than an earlier one. -/
structure Style where
  attributes : List (Text × Bool)
  colour : Option Text
  ground : Option Text
  link : Option Text
deriving DecidableEq, Repr

/-- A style that says nothing. -/
def Style.plain : Style := ⟨[], none, none, none⟩

/-- A style with what more words say, if they describe one. -/
def Style.ofWords? (s : Style) : List Text → Option Style
  | [] => some s
  | given :: words =>
    let word := given.map toSmall
    if word = "on".text then
      match words with
      | ground :: words =>
        let ground := ground.map toSmall
        if isColour ground then Style.ofWords? { s with ground := some ground } words else none
      | [] => none
    else if word = "not".text then
      match words with
      | name :: words => do
        Style.ofWords? { s with attributes := (← attribute? name, false) :: s.attributes } words
      | [] => none
    else if word = "link".text then
      match words with
      | address :: words => Style.ofWords? { s with link := some address } words
      | [] => none
    else match attribute? word with
      | some name => Style.ofWords? { s with attributes := (name, true) :: s.attributes } words
      | none => if isColour word then Style.ofWords? { s with colour := some word } words else none

/-- The words of a style, in the one order. -/
def Style.words (s : Style) : List Text :=
  (attributeNames.flatMap fun (name, _) =>
    match s.attributes.lookup name.text with
    | some true => [name.text]
    | some false => ["not".text, name.text]
    | none => []) ++
  s.colour.toList ++
  (s.ground.map fun ground => ["on".text, ground]).getD [] ++
  (s.link.map fun address => ["link".text, address]).getD []

/-- The normal form of a description. -/
def normalStyle (t : Text) : Text :=
  let words := wordsOf t
  if words = ["none".text] then "none".text
  else match Style.plain.ofWords? words with
    | some s => if s.words.isEmpty then "none".text else [.char ' '].intercalate s.words
    | none => (Text.trim t).map toSmall

end Placement.Page
