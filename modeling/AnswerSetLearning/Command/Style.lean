import AnswerSetLearning.Text.Lines
import AnswerSetLearning.Text.LowerCase

namespace AnswerSetLearning.Markup

inductive Attribute
  | bold
  | dim
  | italic
  | underline
  | blink
  | blink2
  | reverse
  | conceal
  | strike
  | underline2
  | frame
  | encircle
  | overline
  deriving DecidableEq

namespace Attribute

def name : Attribute → String
  | bold => "bold"
  | dim => "dim"
  | italic => "italic"
  | underline => "underline"
  | blink => "blink"
  | blink2 => "blink2"
  | reverse => "reverse"
  | conceal => "conceal"
  | strike => "strike"
  | underline2 => "underline2"
  | frame => "frame"
  | encircle => "encircle"
  | overline => "overline"

def all : List Attribute :=
  [bold, dim, italic, underline, blink, blink2, reverse, conceal, strike, underline2, frame,
    encircle, overline]

def abbreviations : List (String × Attribute) :=
  [("b", bold), ("d", dim), ("i", italic), ("u", underline), ("r", reverse), ("c", conceal),
    ("s", strike), ("uu", underline2), ("o", overline)]

def ofText? (s : String) : Option Attribute :=
  (all.find? (·.name = s)).or (abbreviations.lookup s)

end Attribute

def colourNames : List String :=
  ["default", "black", "red", "green", "yellow", "blue", "magenta", "cyan", "white",
    "bright_black", "bright_red", "bright_green", "bright_yellow", "bright_blue",
    "bright_magenta", "bright_cyan", "bright_white", "grey0", "gray0", "navy_blue", "dark_blue",
    "blue3", "blue1", "dark_green", "deep_sky_blue4", "dodger_blue3", "dodger_blue2", "green4",
    "spring_green4", "turquoise4", "deep_sky_blue3", "dodger_blue1", "green3", "spring_green3",
    "dark_cyan", "light_sea_green", "deep_sky_blue2", "deep_sky_blue1", "spring_green2", "cyan3",
    "dark_turquoise", "turquoise2", "green1", "spring_green1", "medium_spring_green", "cyan2",
    "cyan1", "dark_red", "deep_pink4", "purple4", "purple3", "blue_violet", "orange4", "grey37",
    "gray37", "medium_purple4", "slate_blue3", "royal_blue1", "chartreuse4", "dark_sea_green4",
    "pale_turquoise4", "steel_blue", "steel_blue3", "cornflower_blue", "chartreuse3",
    "cadet_blue", "sky_blue3", "steel_blue1", "pale_green3", "sea_green3", "aquamarine3",
    "medium_turquoise", "chartreuse2", "sea_green2", "sea_green1", "aquamarine1",
    "dark_slate_gray2", "dark_magenta", "dark_violet", "purple", "light_pink4", "plum4",
    "medium_purple3", "slate_blue1", "yellow4", "wheat4", "grey53", "gray53", "light_slate_grey",
    "light_slate_gray", "medium_purple", "light_slate_blue", "dark_olive_green3",
    "dark_sea_green", "light_sky_blue3", "sky_blue2", "dark_sea_green3", "dark_slate_gray3",
    "sky_blue1", "chartreuse1", "light_green", "pale_green1", "dark_slate_gray1", "red3",
    "medium_violet_red", "magenta3", "dark_orange3", "indian_red", "hot_pink3", "medium_orchid3",
    "medium_orchid", "medium_purple2", "dark_goldenrod", "light_salmon3", "rosy_brown", "grey63",
    "gray63", "medium_purple1", "gold3", "dark_khaki", "navajo_white3", "grey69", "gray69",
    "light_steel_blue3", "light_steel_blue", "yellow3", "dark_sea_green2", "light_cyan3",
    "light_sky_blue1", "green_yellow", "dark_olive_green2", "dark_sea_green1", "pale_turquoise1",
    "deep_pink3", "magenta2", "hot_pink2", "orchid", "medium_orchid1", "orange3", "light_pink3",
    "pink3", "plum3", "violet", "light_goldenrod3", "tan", "misty_rose3", "thistle3", "plum2",
    "khaki3", "light_goldenrod2", "light_yellow3", "grey84", "gray84", "light_steel_blue1",
    "yellow2", "dark_olive_green1", "honeydew2", "light_cyan1", "red1", "deep_pink2",
    "deep_pink1", "magenta1", "orange_red1", "indian_red1", "hot_pink", "dark_orange", "salmon1",
    "light_coral", "pale_violet_red1", "orchid2", "orchid1", "orange1", "sandy_brown",
    "light_salmon1", "light_pink1", "pink1", "plum1", "gold1", "navajo_white1", "misty_rose1",
    "thistle1", "yellow1", "light_goldenrod1", "khaki1", "wheat1", "cornsilk1", "grey100",
    "gray100", "grey3", "gray3", "grey7", "gray7", "grey11", "gray11", "grey15", "gray15",
    "grey19", "gray19", "grey23", "gray23", "grey27", "gray27", "grey30", "gray30", "grey35",
    "gray35", "grey39", "gray39", "grey42", "gray42", "grey46", "gray46", "grey50", "gray50",
    "grey54", "gray54", "grey58", "gray58", "grey62", "gray62", "grey66", "gray66", "grey70",
    "gray70", "grey74", "gray74", "grey78", "gray78", "grey82", "gray82", "grey85", "gray85",
    "grey89", "gray89", "grey93", "gray93"]

def between? (start : String) (cs : List Char) : Option (List Char) :=
  if start.toList.isPrefixOf cs && cs.getLast? = some ')' then
    some (cs.drop start.length).dropLast
  else none

def isByte (cs : List Char) : Bool :=
  !cs.isEmpty && cs.all isAsciiDigit && digitsValue cs ≤ 255

def isColour (s : String) : Bool :=
  let cs := s.toList
  let isHex (c : Char) : Bool := isAsciiDigit c || ('a' ≤ c && c ≤ 'f')
  colourNames.contains s ||
    (cs.head? = some '#' && cs.length = 7 && cs.tail.all isHex) ||
    (between? "color(" cs).any (fun n => n.length ≤ 3 && isByte n) ||
    (between? "rgb(" cs).any fun parts =>
      (splitAtEach ',' parts).length = 3 && (splitAtEach ',' parts).all isByte

structure Style where
  /-- the attributes that are named, and whether they are wanted -/
  attributes : List (Attribute × Bool)
  colour : Option String
  background : Option String
  link : Option String
  deriving DecidableEq

namespace Style

def plain : Style := ⟨[], none, none, none⟩

def addWords (s : Style) : List String → Option Style
  | [] => some s
  | w :: ws =>
    let word := String.ofList (inSmallLetters w.toList)
    match word, ws with
    | "on", [] | "not", [] | "link", [] => none
    | "on", w :: ws =>
      let word := String.ofList (inSmallLetters w.toList)
      if isColour word then addWords { s with background := some word } ws else none
    | "not", w :: ws =>
      match Attribute.ofText? w with
      | some a => addWords { s with attributes := (a, false) :: s.attributes } ws
      | none => none
    | "link", w :: ws => addWords { s with link := some w } ws
    | word, ws =>
      match Attribute.ofText? word with
      | some a => addWords { s with attributes := (a, true) :: s.attributes } ws
      | none => if isColour word then addWords { s with colour := some word } ws else none

def text (s : Style) : String :=
  let attributes := Attribute.all.filterMap fun a =>
    (s.attributes.lookup a).map fun wanted => if wanted then a.name else "not " ++ a.name
  let background := s.background.map fun c => "on " ++ c
  let link := s.link.map fun l => "link " ++ l
  match attributes ++ s.colour.toList ++ background.toList ++ link.toList with
  | [] => "none"
  | parts => joinWith " " parts

end Style

def wordsOf (cs : List Char) : List String :=
  ((cs.splitBy fun a b => isBlank a = isBlank b).filter fun w => !w.any isBlank).map .ofList

/-- The normal form of the name of a tag. A name that is no style is only trimmed and written in
small letters. -/
def normalName (cs : List Char) : String :=
  if trimBlanks cs = "none".toList then Style.plain.text
  else match Style.plain.addWords (wordsOf cs) with
    | some s => s.text
    | none => .ofList (inSmallLetters (trimBlanks cs))

end AnswerSetLearning.Markup
