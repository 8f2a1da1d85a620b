/-
  The styles that tags of markup name.

  * A style is a sequence of words: attributes, which `not` in front switches
    off, a colour, a background behind `on`, and an address behind `link`;
  * two definitions of one style have one normal form (`TagStyle.normalize`),
    and a text that defines no style is its own normal form in lower case.
-/
import ShellHighlight.Text.Case
import ShellHighlight.Text.Integer

namespace ShellHighlight.Console

/-- Why a text defines no style. -/
inductive TagStyleError where
  /-- A word is out of place. -/
  | malformed
  /-- An amount of a colour is no number. -/
  | amount (e : IntegerError)
  deriving DecidableEq, Repr

/-! ## Colours -/

/-- The names of colours. -/
def tagColors : List Text :=
  Text.words
  "black red green yellow blue magenta cyan white bright_black bright_red bright_green
   bright_yellow bright_blue bright_magenta bright_cyan bright_white grey0 gray0 navy_blue
   dark_blue blue3 blue1 dark_green deep_sky_blue4 dodger_blue3 dodger_blue2 green4
   spring_green4 turquoise4 deep_sky_blue3 dodger_blue1 green3 spring_green3 dark_cyan
   light_sea_green deep_sky_blue2 deep_sky_blue1 spring_green2 cyan3 dark_turquoise turquoise2
   green1 spring_green1 medium_spring_green cyan2 cyan1 dark_red deep_pink4 purple4 purple3
   blue_violet orange4 grey37 gray37 medium_purple4 slate_blue3 royal_blue1 chartreuse4
   dark_sea_green4 pale_turquoise4 steel_blue steel_blue3 cornflower_blue chartreuse3
   cadet_blue sky_blue3 steel_blue1 pale_green3 sea_green3 aquamarine3 medium_turquoise
   chartreuse2 sea_green2 sea_green1 aquamarine1 dark_slate_gray2 dark_magenta dark_violet
   purple light_pink4 plum4 medium_purple3 slate_blue1 yellow4 wheat4 grey53 gray53
   light_slate_grey light_slate_gray medium_purple light_slate_blue dark_olive_green3
   dark_sea_green light_sky_blue3 sky_blue2 dark_sea_green3 dark_slate_gray3 sky_blue1
   chartreuse1 light_green pale_green1 dark_slate_gray1 red3 medium_violet_red magenta3
   dark_orange3 indian_red hot_pink3 medium_orchid3 medium_orchid medium_purple2 dark_goldenrod
   light_salmon3 rosy_brown grey63 gray63 medium_purple1 gold3 dark_khaki navajo_white3 grey69
   gray69 light_steel_blue3 light_steel_blue yellow3 dark_sea_green2 light_cyan3
   light_sky_blue1 green_yellow dark_olive_green2 dark_sea_green1 pale_turquoise1 deep_pink3
   magenta2 hot_pink2 orchid medium_orchid1 orange3 light_pink3 pink3 plum3 violet
   light_goldenrod3 tan misty_rose3 thistle3 plum2 khaki3 light_goldenrod2 light_yellow3 grey84
   gray84 light_steel_blue1 yellow2 dark_olive_green1 honeydew2 light_cyan1 red1 deep_pink2
   deep_pink1 magenta1 orange_red1 indian_red1 hot_pink dark_orange salmon1 light_coral
   pale_violet_red1 orchid2 orchid1 orange1 sandy_brown light_salmon1 light_pink1 pink1 plum1
   gold1 navajo_white1 misty_rose1 thistle1 yellow1 light_goldenrod1 khaki1 wheat1 cornsilk1
   grey100 gray100 grey3 gray3 grey7 gray7 grey11 gray11 grey15 gray15 grey19 gray19 grey23
   gray23 grey27 gray27 grey30 gray30 grey35 gray35 grey39 gray39 grey42 gray42 grey46 gray46
   grey50 gray50 grey54 gray54 grey58 gray58 grey62 gray62 grey66 gray66 grey70 gray70 grey74
   gray74 grey78 gray78 grey82 gray82 grey85 gray85 grey89 gray89 grey93 gray93".toList

/-- The text between a beginning and an end. -/
def between? (first last t : Text) : Option Text :=
  if first.isPrefixOf t && last.isSuffixOf t && first.length + last.length ≤ t.length then
    some ((t.drop first.length).take (t.length - first.length - last.length))
  else none

/-- Whether `t` is a colour by six hexadecimal digits. -/
def isHexColor (t : Text) : Bool :=
  match t with
  | '#' :: digits => digits.length == 6 && digits.all fun c => (hexValue? c).isSome
  | _ => false

/-- Whether `t` is a colour by its number, up to 255. -/
def isNumberedColor (t : Text) : Bool :=
  match between? "color(".toList [')'] t with
  | some ds => 1 ≤ ds.length && ds.length ≤ 3 && ds.all Char.isDigit &&
      digitsValue (ds.filterMap digitValue?) ≤ 255
  | none => false

/-- The three amounts of a colour, each up to 255. -/
def readAmounts (amounts : Text) : Except TagStyleError Unit := do
  if amounts.isEmpty || !amounts.all (fun c => c == ',' || (digitValue? c).isSome) then
    throw .malformed
  match amounts.splitOn ',' with
  | [r, g, b] =>
    let r ← (readInteger r).mapError .amount
    let g ← (readInteger g).mapError .amount
    let b ← (readInteger b).mapError .amount
    if r ≤ 255 && g ≤ 255 && b ≤ 255 then return () else throw .malformed
  | _ => throw .malformed

/-- The normal form of a colour. -/
def tagColor (word : Text) : Except TagStyleError Text :=
  let name := Text.lower word
  if name == "default".toList || tagColors.contains name || isHexColor name ||
      isNumberedColor name then .ok name
  else match between? "rgb(".toList [')'] name with
    | some amounts => (readAmounts amounts).map fun _ => name
    | none => .error .malformed

/-! ## Attributes -/

/-- The attributes, in the order of the normal form. -/
def tagAttributes : List Text :=
  ["bold", "dim", "italic", "underline", "blink", "blink2", "reverse", "conceal", "strike",
   "underline2", "frame", "encircle", "overline"].map String.toList

/-- Short names of attributes. -/
def attributeShortcuts : List (Text × Text) :=
  [("d", "dim"), ("b", "bold"), ("i", "italic"), ("u", "underline"), ("r", "reverse"),
   ("c", "conceal"), ("s", "strike"), ("uu", "underline2"), ("o", "overline")].map
    fun r => (r.1.toList, r.2.toList)

/-- The attribute that a word names. -/
def tagAttribute? (word : Text) : Option Text :=
  if tagAttributes.contains word then some word else attributeShortcuts.lookup word

/-! ## Styles -/

/-- A style. An attribute may be on, off or left alone. -/
structure TagStyle where
  attributes : List (Text × Bool)
  color : Option Text
  background : Option Text
  link : Option Text
  deriving DecidableEq, Repr

/-- What a word of a definition has to be because of the word before it. -/
inductive TagWord where
  | any | negated | background | address
  deriving DecidableEq, Repr

namespace TagStyle

/-- The style that changes nothing. -/
def plain : TagStyle := ⟨[], none, none, none⟩

/-- Switches an attribute. -/
def switch (s : TagStyle) (name : Text) (on : Bool) : TagStyle :=
  { s with attributes := (name, on) :: s.attributes }

/-- Reads one word of a definition. -/
def read (state : TagStyle × TagWord) (word : Text) :
    Except TagStyleError (TagStyle × TagWord) :=
  let (s, expected) := state
  match expected with
  | .negated =>
    match tagAttribute? word with
    | some name => .ok (s.switch name false, .any)
    | none => .error .malformed
  | .background => (tagColor word).map fun c => ({ s with background := some c }, .any)
  | .address => .ok ({ s with link := some word }, .any)
  | .any =>
    let name := Text.lower word
    if name == "on".toList then .ok (s, .background)
    else if name == "not".toList then .ok (s, .negated)
    else if name == "link".toList then .ok (s, .address)
    else match tagAttribute? name with
      | some a => .ok (s.switch a true, .any)
      | none => (tagColor name).map fun c => ({ s with color := some c }, .any)

/-- The style that a definition describes. -/
def ofText (t : Text) : Except TagStyleError TagStyle := do
  match ← (Text.words t).foldlM read (plain, .any) with
  | (s, .any) => return s
  | _ => throw .malformed

/-- The words of the normal form. -/
def words (s : TagStyle) : List Text :=
  (tagAttributes.flatMap fun a =>
    match s.attributes.lookup a with
    | some true => [a]
    | some false => ["not".toList, a]
    | none => []) ++
  s.color.toList ++
  (s.background.map fun c => ["on".toList, c]).getD [] ++
  (s.link.map fun l => ["link".toList, l]).getD []

/-- The normal form of a style. -/
def toText (s : TagStyle) : Text :=
  if s.words.isEmpty then "none".toList else List.intercalate [' '] s.words

/-- The normal form of a definition. -/
def normalize (t : Text) : Except IntegerError Text :=
  if t.isEmpty || Text.trim t == "none".toList then .ok "none".toList
  else match ofText t with
    | .ok s => .ok s.toText
    | .error .malformed => .ok (Text.lower (Text.trim t))
    | .error (.amount e) => .error e

end TagStyle

end ShellHighlight.Console
