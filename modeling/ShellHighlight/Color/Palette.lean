/-
  Terminal colours and the words that a style is made of.

  * `Color` is one of the sixteen named colours or an RGB value, and
    `Color.ofXterm?` is the colour of an entry of the 256-colour palette;
  * `StyleWord` is a text effect or a colour of one of the two layers, and
    `StyleWord.style` writes a list of them as a style.
-/
import ShellHighlight.Text.Hex

namespace ShellHighlight

/-- The hues of the named colours, in the order of the palette. -/
inductive Hue where
  | black | red | green | yellow | blue | magenta | cyan | white
  deriving DecidableEq, Repr

namespace Hue

/-- The hues in the order of the palette. -/
def all : List Hue := [black, red, green, yellow, blue, magenta, cyan, white]

/-- The name of the dark colour of a hue. Dark white is gray. -/
def darkName : Hue → Text
  | black => "ansiblack".toList
  | red => "ansired".toList
  | green => "ansigreen".toList
  | yellow => "ansiyellow".toList
  | blue => "ansiblue".toList
  | magenta => "ansimagenta".toList
  | cyan => "ansicyan".toList
  | white => "ansigray".toList

/-- The name of the bright colour of a hue. -/
def brightName : Hue → Text
  | black => "ansibrightblack".toList
  | red => "ansibrightred".toList
  | green => "ansibrightgreen".toList
  | yellow => "ansibrightyellow".toList
  | blue => "ansibrightblue".toList
  | magenta => "ansibrightmagenta".toList
  | cyan => "ansibrightcyan".toList
  | white => "ansiwhite".toList

/-- The hue of a number below 8. -/
def ofIndex (n : Nat) : Hue :=
  all.getD n white

end Hue

/-- A colour. -/
inductive Color where
  /-- A named colour. -/
  | named (bright : Bool) (hue : Hue)
  /-- The amounts of red, green and blue. -/
  | rgb (red green blue : Fin 256)
  deriving DecidableEq, Repr

namespace Color

/-- The name of a colour in a style. -/
def name : Color → Text
  | named false hue => hue.darkName
  | named true hue => hue.brightName
  | rgb r g b => '#' :: (hex 2 r ++ hex 2 g ++ hex 2 b)

/-- The nearest amount of a colour. -/
def clamp (n : Int) : Fin 256 :=
  Fin.ofNat 256 (min n.toNat 255)

/-- The amounts of one colour in the colour cube of the palette. -/
def cubeLevel (n : Nat) : Fin 256 :=
  Fin.ofNat 256 (if n = 0 then 0 else 55 + 40 * n)

/-- The colour of an entry of the 256-colour palette: 16 named colours, a cube
    of 6 × 6 × 6 colours, and 24 grays. -/
def ofXterm? (index : Int) : Option Color :=
  if index < 0 || 255 < index then none
  else
    let n := index.toNat
    if n < 8 then some (named false (Hue.ofIndex n))
    else if n < 16 then some (named true (Hue.ofIndex (n - 8)))
    else if n < 232 then
      let m := n - 16
      some (rgb (cubeLevel (m / 36)) (cubeLevel (m / 6 % 6)) (cubeLevel (m % 6)))
    else
      let level := Fin.ofNat 256 (8 + (n - 232) * 10)
      some (rgb level level level)

/-- The wording of the error for an index that is not in the palette. -/
def rangeMessage (index : Int) : Text :=
  "color index out of range: ".toList ++ (toString index).toList

end Color

/-- The text effects. -/
inductive Effect where
  | bold | italic | underline | blink | reverse | hidden
  deriving DecidableEq, Repr

/-- The name of an effect in a style. -/
def Effect.name : Effect → Text
  | bold => "bold".toList
  | italic => "italic".toList
  | underline => "underline".toList
  | blink => "blink".toList
  | reverse => "reverse".toList
  | hidden => "hidden".toList

/-- A word of a style. -/
inductive StyleWord where
  /-- A text effect. -/
  | effect (e : Effect)
  /-- A colour, of the text or of its background. -/
  | color (background : Bool) (c : Color)
  deriving DecidableEq, Repr

namespace StyleWord

/-- The spelling of a word. -/
def name : StyleWord → Text
  | effect e => e.name
  | color false c => c.name
  | color true c => "bg:".toList ++ c.name

/-- The style of a list of words. -/
def style (ws : List StyleWord) : Text :=
  List.intercalate [' '] (ws.map name)

end StyleWord

end ShellHighlight
