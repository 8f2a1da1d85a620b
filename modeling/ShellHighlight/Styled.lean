/-
  Styled texts: what a highlighter answers.

  * A styled text is a list of fragments, each a style and the text in it.
    `Styled.run` is one fragment, or none when it would be empty;
  * `Styled.text` is the text of all fragments, and `Styled.plainText` leaves
    out those that are escape sequences of no width;
  * `Styled.characters` is the view per code point, and `Styled.ofCharacters`
    puts code points of one style into one fragment;
  * `Styled.lines` cuts a styled text at the line feeds.
-/
import ShellHighlight.Text.Basic

namespace ShellHighlight

/-- A text in one style. -/
structure Fragment where
  style : Text
  text : Text
  deriving DecidableEq, Repr, Inhabited

/-- A text made of fragments. -/
abbrev Styled := List Fragment

namespace Styled

/-! ## Building -/

/-- `text` in one style; nothing when `text` is empty. -/
def run (style text : Text) : Styled :=
  if text.isEmpty then [] else [⟨style, text⟩]

/-- `text` without a style. -/
def unstyled (text : Text) : Styled :=
  run [] text

/-- `s` followed by the fragments of `fragments` that are not empty. -/
def extend (s fragments : Styled) : Styled :=
  s ++ fragments.filter fun f => !f.text.isEmpty

/-! ## Views -/

/-- The text of all fragments. -/
def text (s : Styled) : Text :=
  s.flatMap (·.text)

/-- The mark in the style of a fragment that is sent to the terminal as it is
    and takes no column. -/
def zeroWidthMark : Text := "[ZeroWidthEscape]".toList

/-- Whether a style carries the mark of an escape sequence. -/
def isZeroWidth (style : Text) : Bool :=
  (Text.offset? zeroWidthMark style).isSome

/-- The text that is shown: that of the fragments that are no escape sequence. -/
def plainText (s : Styled) : Text :=
  text (s.filter fun f => !isZeroWidth f.style)

/-- The code points with the style of each. -/
def characters (s : Styled) : List (Char × Text) :=
  s.flatMap fun f => f.text.map (·, f.style)

/-- The styled text of given code points, where neighbours of one style share
    a fragment. -/
def ofCharacters : List (Char × Text) → Styled
  | [] => []
  | (c, style) :: rest =>
    match ofCharacters rest with
    | [] => [⟨style, [c]⟩]
    | f :: fs => if f.style = style then ⟨style, c :: f.text⟩ :: fs else ⟨style, [c]⟩ :: f :: fs

/-! ## Lines -/

/-- Joins two lists of lines, where the last line of the first is continued by
    the first line of the second. -/
def glue : List Styled → List Styled → List Styled
  | [], ys => ys
  | [x], [] => [x]
  | [x], y :: ys => (x ++ y) :: ys
  | x :: xs, ys => x :: glue xs ys

/-- The lines of a styled text. Each fragment gives its piece to a line even
    if the piece is empty, and there is always a last line. -/
def lines : Styled → List Styled
  | [] => [[]]
  | f :: fs => glue ((f.text.splitOn '\n').map fun piece => [⟨f.style, piece⟩]) (lines fs)

/-- The line of number `n`; a negative number counts from the end, and there
    is nothing on a line that does not exist. -/
def line (lines : List Styled) (n : Int) : Styled :=
  let i := if n < 0 then lines.length + n else n
  if i < 0 then [] else (lines[i.toNat]?).getD []

end Styled

end ShellHighlight
