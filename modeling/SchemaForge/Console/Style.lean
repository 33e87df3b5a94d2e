import SchemaForge.Text.LetterCase
import SchemaForge.Text.Lines
import SchemaForge.Text.Numeral

/-!
# Styles

A style is spelled by words: traits, each with `not` in front to switch it off,
a colour, a colour behind `on` for the background, and an address behind `link`. A
colour is a name, six hexadecimal digits behind `#`, a number as in `color(7)`, or
three parts as in `rgb(1,2,3)`.

Words in another order can spell the same style, so styles are compared by their
`normalForm`: the traits in a fixed order, then the colours, then the link.
Words that spell no style are compared in small letters.
-/

namespace SchemaForge

/-- What a style can switch on or off. -/
inductive Trait where
  | bold | dim | italic | underline | blink | blink2 | reverse | conceal | strike | underline2
  | frame | encircle | overline
deriving DecidableEq

namespace Trait

/-- The traits in their order, with their names and the short forms of these. -/
def names : List (Trait × Text × Option Text) :=
  [(bold, "bold", some "b"), (dim, "dim", some "d"), (italic, "italic", some "i"),
    (underline, "underline", some "u"), (blink, "blink", none), (blink2, "blink2", none),
    (reverse, "reverse", some "r"), (conceal, "conceal", some "c"), (strike, "strike", some "s"),
    (underline2, "underline2", some "uu"), (frame, "frame", none), (encircle, "encircle", none),
    (overline, "overline", some "o")]

/-- The trait of a name. -/
def ofName? (word : Text) : Option Trait :=
  (names.find? (fun (_, name, short) => word = name || short = some word)).map Prod.fst

end Trait

/-- Why words spell no style. -/
inductive StyleFault where
  /-- A word is neither a trait nor a colour, or something is missing behind it. -/
  | unknown
  /-- A part of a colour is no number. -/
  | numeral (fault : NumeralFault)
deriving DecidableEq

/-- A style. -/
structure Style where
  /-- The traits that are switched on or off. -/
  traits : List (Trait × Bool) := []
  /-- The colour. -/
  color : Option Text := none
  /-- The colour of the background. -/
  background : Option Text := none
  /-- The address it links to. -/
  link : Option Text := none
deriving DecidableEq, Inhabited

namespace Style

/-- The names of colours, some in a row. -/
def colorRows : List String :=
  ["default black red green yellow blue magenta cyan white bright_black bright_red",
    "bright_green bright_yellow bright_blue bright_magenta bright_cyan bright_white grey0 gray0",
    "navy_blue dark_blue blue3 blue1 dark_green deep_sky_blue4 dodger_blue3 dodger_blue2 green4",
    "spring_green4 turquoise4 deep_sky_blue3 dodger_blue1 green3 spring_green3 dark_cyan",
    "light_sea_green deep_sky_blue2 deep_sky_blue1 spring_green2 cyan3 dark_turquoise",
    "turquoise2 green1 spring_green1 medium_spring_green cyan2 cyan1 dark_red deep_pink4",
    "purple4 purple3 blue_violet orange4 grey37 gray37 medium_purple4 slate_blue3 royal_blue1",
    "chartreuse4 dark_sea_green4 pale_turquoise4 steel_blue steel_blue3 cornflower_blue",
    "chartreuse3 cadet_blue sky_blue3 steel_blue1 pale_green3 sea_green3 aquamarine3",
    "medium_turquoise chartreuse2 sea_green2 sea_green1 aquamarine1 dark_slate_gray2",
    "dark_magenta dark_violet purple light_pink4 plum4 medium_purple3 slate_blue1 yellow4",
    "wheat4 grey53 gray53 light_slate_grey light_slate_gray medium_purple light_slate_blue",
    "dark_olive_green3 dark_sea_green light_sky_blue3 sky_blue2 dark_sea_green3",
    "dark_slate_gray3 sky_blue1 chartreuse1 light_green pale_green1 dark_slate_gray1 red3",
    "medium_violet_red magenta3 dark_orange3 indian_red hot_pink3 medium_orchid3 medium_orchid",
    "medium_purple2 dark_goldenrod light_salmon3 rosy_brown grey63 gray63 medium_purple1 gold3",
    "dark_khaki navajo_white3 grey69 gray69 light_steel_blue3 light_steel_blue yellow3",
    "dark_sea_green2 light_cyan3 light_sky_blue1 green_yellow dark_olive_green2 dark_sea_green1",
    "pale_turquoise1 deep_pink3 magenta2 hot_pink2 orchid medium_orchid1 orange3 light_pink3",
    "pink3 plum3 violet light_goldenrod3 tan misty_rose3 thistle3 plum2 khaki3 light_goldenrod2",
    "light_yellow3 grey84 gray84 light_steel_blue1 yellow2 dark_olive_green1 honeydew2",
    "light_cyan1 red1 deep_pink2 deep_pink1 magenta1 orange_red1 indian_red1 hot_pink",
    "dark_orange salmon1 light_coral pale_violet_red1 orchid2 orchid1 orange1 sandy_brown",
    "light_salmon1 light_pink1 pink1 plum1 gold1 navajo_white1 misty_rose1 thistle1 yellow1",
    "light_goldenrod1 khaki1 wheat1 cornsilk1 grey100 gray100 grey3 gray3 grey7 gray7 grey11",
    "gray11 grey15 gray15 grey19 gray19 grey23 gray23 grey27 gray27 grey30 gray30 grey35 gray35",
    "grey39 gray39 grey42 gray42 grey46 gray46 grey50 gray50 grey54 gray54 grey58 gray58 grey62",
    "gray62 grey66 gray66 grey70 gray70 grey74 gray74 grey78 gray78 grey82 gray82 grey85 gray85",
    "grey89 gray89 grey93 gray93"]

/-- The names of colours. -/
def colorNames : List Text :=
  colorRows.flatMap (fun row => Text.splitOn (' ' : Char) (Text.ofString row))

/-- What stands between a beginning and a closing parenthesis. -/
def inParentheses? (beginning : Text) (word : Text) : Option Text :=
  (Text.after? word beginning).bind (fun rest =>
    if rest.getLast? = some (CodePoint.ofChar ')') then some rest.dropLast else none)

/-- Whether a word is a colour by its number, which has at most three digits. -/
def isNumbered (word : Text) : Bool :=
  match inParentheses? "color(" word with
  | none => false
  | some digits =>
    !digits.isEmpty && digits.length ≤ 3 && digits.all CodePoint.isDigit &&
      Text.toNat 10 digits ≤ 255

/-- Whether a word is a colour by six hexadecimal digits. -/
def isHexadecimal (word : Text) : Bool :=
  match Text.after? word "#" with
  | none => false
  | some digits => digits.length = 6 && digits.all CodePoint.isHexDigit

/-- Whether a word is a colour by its three parts. -/
def isMixed (word : Text) : Except StyleFault Bool :=
  let isPart (c : CodePoint) : Bool := c.decimal?.isSome || c = ','
  match inParentheses? "rgb(" word with
  | none => .ok false
  | some inside =>
    let parts := Text.splitOn (',' : Char) inside
    if inside.all isPart && parts.length = 3 then
      match parts.mapM (Numeral.readWhole 10) with
      | .ok numbers => .ok (numbers.all (fun number => number ≤ 255))
      | .error fault => .error (.numeral fault)
    else .ok false

/-- The name of a colour, in small letters. -/
def colorOf (word : Text) : Except StyleFault Text := do
  let name := Text.lower word
  if colorNames.contains name || isHexadecimal name || isNumbered name then pure name
  else if ← isMixed name then pure name
  else throw .unknown

/-- A style with one trait switched on or off. -/
def withTrait (style : Style) (trait : Trait) (on : Bool) : Style :=
  { style with
    traits := style.traits.filter (fun held => held.1 ≠ trait) ++ [(trait, on)] }

/-- A style with the meaning of further words. -/
def addWords (style : Style) : List Text → Except StyleFault Style
  | [] => .ok style
  | word :: rest => do
    let name := Text.lower word
    if name = ("on" : Text) then
      match rest with
      | [] => throw .unknown
      | color :: others => addWords { style with background := some (← colorOf color) } others
    else if name = ("not" : Text) then
      match rest with
      | [] => throw .unknown
      | word :: others =>
        match Trait.ofName? word with
        | none => throw .unknown
        | some trait => addWords (style.withTrait trait false) others
    else if name = ("link" : Text) then
      match rest with
      | [] => throw .unknown
      | address :: others => addWords { style with link := some address } others
    else
      match Trait.ofName? name with
      | some trait => addWords (style.withTrait trait true) rest
      | none => addWords { style with color := some (← colorOf name) } rest

/-- The words of a text. -/
def wordsOf (text : Text) : List Text :=
  let blank (c : CodePoint) : CodePoint := if c.isSpace then CodePoint.ofChar ' ' else c
  (Text.splitOn (' ' : Char) (text.map blank)).filter (fun word => !word.isEmpty)

/-- The style that a text spells. A lone `none` is the style without any effect. -/
def ofText (text : Text) : Except StyleFault Style :=
  match wordsOf text with
  | [word] => if word = ("none" : Text) then .ok {} else addWords {} [word]
  | words => addWords {} words

/-- The words of a style in their normal order. -/
def words (style : Style) : List Text :=
  let traits :=
    Trait.names.flatMap (fun (trait, name, _) =>
      (style.traits.filter (fun held => held.1 = trait)).map (fun (_, on) =>
        if on then name else Text.concat ["not ", name]))
  let behind (word : Text) (value : Option Text) : List Text :=
    value.toList.map (fun value => Text.concat [word, " ", value])
  traits ++ style.color.toList ++ behind "on" style.background ++ behind "link" style.link

/-- The normal form of a text that may spell a style. Texts with one normal form mean the
same. -/
def normalForm (text : Text) : Except NumeralFault Text :=
  match ofText text with
  | .ok style =>
    match style.words with
    | [] => .ok "none"
    | words => .ok (Text.join " " words)
  | .error .unknown => .ok (Text.lower (Text.trim CodePoint.isSpace text))
  | .error (.numeral fault) => .error fault

end Style

end SchemaForge
