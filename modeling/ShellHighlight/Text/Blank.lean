/-
  Blank code points, and the words of a text between them.

  * `isBlank` holds of the code points that Unicode counts as white space:
    the separators of bidirectional class B, S or WS and of category Zs;
  * `Text.trim` removes blanks at both ends, and `Text.words` are the maximal
    runs without a blank;
  * `Text.tokenEnd?` is the position of the first blank behind the first word,
    found in one scan.
-/
import ShellHighlight.Text.Basic

namespace ShellHighlight

/-- White space of Unicode. -/
def isBlank (c : Char) : Bool :=
  let n := c.toNat
  (9 ≤ n && n ≤ 13) || (28 ≤ n && n ≤ 32) || n == 0x85 || n == 0xA0 || n == 0x1680 ||
    (0x2000 ≤ n && n ≤ 0x200A) || n == 0x2028 || n == 0x2029 || n == 0x202F || n == 0x205F ||
    n == 0x3000

namespace Text

/-- `t` without its leading blanks. -/
def trimStart (t : Text) : Text :=
  t.dropWhile isBlank

/-- `t` without its trailing blanks. -/
def trimEnd (t : Text) : Text :=
  (t.reverse.dropWhile isBlank).reverse

/-- `t` without the blanks at its two ends. -/
def trim (t : Text) : Text :=
  t.trimStart.trimEnd

/-- The maximal runs of code points that are not blank. -/
def words (t : Text) : List Text :=
  (t.splitOnP isBlank).filter (!·.isEmpty)

/-- The position of the first blank behind a word, in a text that begins at
    position `pos`; `begun` tells whether a word has been seen. -/
def tokenEndFrom (begun : Bool) (pos : Nat) : Text → Option Nat
  | [] => none
  | c :: t =>
    if !isBlank c then tokenEndFrom true (pos + 1) t
    else if begun then some pos
    else tokenEndFrom false (pos + 1) t

/-- The position of the first blank behind the first word of `t`, if any. -/
def tokenEnd? (t : Text) : Option Nat :=
  tokenEndFrom false 0 t

end Text

end ShellHighlight
