import Railroad.Members
import Railroad.Text.Case
import Railroad.Text.Lines
import Railroad.Text.Words

namespace Railroad

structure Style where
  attributes : Members Bool := []
  colour : Option String := none
  background : Option String := none
  link : Option String := none

inductive StyleFault where
  | unknown
  | noDigits
  deriving DecidableEq, Repr

namespace Style

def attributeNames : List String :=
  ["bold", "dim", "italic", "underline", "blink", "blink2", "reverse", "conceal", "strike",
    "underline2", "frame", "encircle", "overline"]

def abbreviations : List (String × String) :=
  [("b", "bold"), ("d", "dim"), ("i", "italic"), ("u", "underline"), ("r", "reverse"),
    ("c", "conceal"), ("s", "strike"), ("uu", "underline2"), ("o", "overline")]

def attribute? (word : String) : Option String :=
  if word ∈ attributeNames then some word else abbreviations.lookup word

def colourNames : List (List Char) :=
  words "default
    black red green yellow blue magenta cyan white bright_black bright_red bright_green
    bright_yellow bright_blue bright_magenta bright_cyan bright_white grey0 gray0 navy_blue
    dark_blue blue3 blue1 dark_green deep_sky_blue4 dodger_blue3 dodger_blue2 green4
    spring_green4 turquoise4 deep_sky_blue3 dodger_blue1 green3 spring_green3 dark_cyan
    light_sea_green deep_sky_blue2 deep_sky_blue1 spring_green2 cyan3 dark_turquoise
    turquoise2 green1 spring_green1 medium_spring_green cyan2 cyan1 dark_red deep_pink4
    purple4 purple3 blue_violet orange4 grey37 gray37 medium_purple4 slate_blue3 royal_blue1
    chartreuse4 dark_sea_green4 pale_turquoise4 steel_blue steel_blue3 cornflower_blue
    chartreuse3 cadet_blue sky_blue3 steel_blue1 pale_green3 sea_green3 aquamarine3
    medium_turquoise chartreuse2 sea_green2 sea_green1 aquamarine1 dark_slate_gray2
    dark_magenta dark_violet purple light_pink4 plum4 medium_purple3 slate_blue1 yellow4
    wheat4 grey53 gray53 light_slate_grey light_slate_gray medium_purple light_slate_blue
    dark_olive_green3 dark_sea_green light_sky_blue3 sky_blue2 dark_sea_green3
    dark_slate_gray3 sky_blue1 chartreuse1 light_green pale_green1 dark_slate_gray1 red3
    medium_violet_red magenta3 dark_orange3 indian_red hot_pink3 medium_orchid3
    medium_orchid medium_purple2 dark_goldenrod light_salmon3 rosy_brown grey63 gray63
    medium_purple1 gold3 dark_khaki navajo_white3 grey69 gray69 light_steel_blue3
    light_steel_blue yellow3 dark_sea_green2 light_cyan3 light_sky_blue1 green_yellow
    dark_olive_green2 dark_sea_green1 pale_turquoise1 deep_pink3 magenta2 hot_pink2 orchid
    medium_orchid1 orange3 light_pink3 pink3 plum3 violet light_goldenrod3 tan misty_rose3
    thistle3 plum2 khaki3 light_goldenrod2 light_yellow3 grey84 gray84 light_steel_blue1
    yellow2 dark_olive_green1 honeydew2 light_cyan1 red1 deep_pink2 deep_pink1 magenta1
    orange_red1 indian_red1 hot_pink dark_orange salmon1 light_coral pale_violet_red1
    orchid2 orchid1 orange1 sandy_brown light_salmon1 light_pink1 pink1 plum1 gold1
    navajo_white1 misty_rose1 thistle1 yellow1 light_goldenrod1 khaki1 wheat1 cornsilk1
    grey100 gray100 grey3 gray3 grey7 gray7 grey11 gray11 grey15 gray15 grey19 gray19 grey23
    gray23 grey27 gray27 grey30 gray30 grey35 gray35 grey39 gray39 grey42 gray42 grey46
    gray46 grey50 gray50 grey54 gray54 grey58 gray58 grey62 gray62 grey66 gray66 grey70
    gray70 grey74 gray74 grey78 gray78 grey82 gray82 grey85 gray85 grey89 gray89 grey93
    gray93".toList

def between? (opening closing : String) (s : List Char) : Option (List Char) :=
  if opening.toList.isPrefixOf s && closing.toList.isSuffixOf s then
    some ((s.drop opening.length).take (s.length - opening.length - closing.length))
  else none

def toNumber (ds : List Char) : Nat := ds.foldl (fun n d => 10 * n + (d.toNat - '0'.toNat)) 0

def checkNumbers (s : List Char) : Except StyleFault Unit :=
  match splitAt ',' s with
  | [red, green, blue] =>
    if red.isEmpty || green.isEmpty || blue.isEmpty then .error .noDigits
    else if [red, green, blue].all fun ds => toNumber ds ≤ 255 then .ok ()
    else .error .unknown
  | _ => .error .unknown

/-- Colours have names, six hexadecimal digits, a number or three numbers. -/
def checkColour (s : List Char) : Except StyleFault Unit :=
  if colourNames.contains s then .ok ()
  else match s, between? "color(" ")" s, between? "rgb(" ")" s with
    | '#' :: ds, _, _ =>
      if ds.length = 6 && ds.all fun c => c.isDigit || ('a' ≤ c && c ≤ 'f') then .ok ()
      else .error .unknown
    | _, some ds, _ =>
      if 0 < ds.length && ds.length ≤ 3 && ds.all Char.isDigit && toNumber ds ≤ 255 then .ok ()
      else .error .unknown
    | _, none, some ds =>
      if !ds.isEmpty && ds.all fun c => c.isDigit || c = ',' then checkNumbers ds
      else .error .unknown
    | _, none, none => .error .unknown

def addWords (style : Style) : List (List Char) → Except StyleFault Style
  | [] => .ok style
  | word :: ws =>
    let lower := lowerText word
    let name := String.ofList lower
    if name = "on" then
      match ws with
      | [] => .error .unknown
      | colour :: ws => do
        let colour := lowerText colour
        checkColour colour
        addWords { style with background := some (String.ofList colour) } ws
    else if name = "not" then
      match ws with
      | [] => .error .unknown
      | word :: ws =>
        match attribute? (String.ofList word) with
        | some a => addWords { style with attributes := Members.put a false style.attributes } ws
        | none => .error .unknown
    else if name = "link" then
      match ws with
      | [] => .error .unknown
      | target :: ws => addWords { style with link := some (String.ofList target) } ws
    else match attribute? name with
      | some a => addWords { style with attributes := Members.put a true style.attributes } ws
      | none => do
        checkColour lower
        addWords { style with colour := some name } ws

def name (style : Style) : String :=
  let attributes := attributeNames.filterMap fun a =>
    (Members.get? a style.attributes).map fun on => if on then a else "not " ++ a
  let parts := attributes ++ style.colour.toList ++
    (style.background.map ("on " ++ ·)).toList ++ (style.link.map ("link " ++ ·)).toList
  if parts.isEmpty then "none" else " ".intercalate parts

/-- The name of the style that a text describes.  What describes none is its own name, in lower
case. -/
def nameOf (s : List Char) : Except StyleFault String :=
  if trim isSpace s = "none".toList then .ok "none"
  else match addWords {} (words s) with
    | .ok style => .ok style.name
    | .error .unknown => .ok (String.ofList (lowerText (trim isSpace s)))
    | .error .noDigits => .error .noDigits

end Style

end Railroad
