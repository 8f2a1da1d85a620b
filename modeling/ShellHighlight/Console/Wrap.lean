/-
  Texts in lines of a given width.

  * A text ends its lines itself, and within them tabs reach to the next of the
    places that are eight columns apart (`expandTabs`);
  * a line that is too wide is broken between words (`breakLine`), where the
    blanks behind a word belong to it (`blocks`);
  * `wrap` gives every line the exact width, and `neededWidth` is the width in
    which no line that is without tabs has to be broken.
-/
import ShellHighlight.Console.Width
import ShellHighlight.Text.Blank

namespace ShellHighlight.Console

/-- Whether `c` ends a line where the width of a text is measured. -/
def isLineEnd (c : Char) : Bool :=
  let n := c.toNat
  (10 ≤ n && n ≤ 13) || (28 ≤ n && n ≤ 30) || n == 0x85 || n == 0x2028 || n == 0x2029

/-- The width of the widest line of a text. -/
def neededWidth (t : Text) : Nat :=
  ((t.splitOnP isLineEnd).map Text.width).foldl max 0

/-- Parts of a line joined by tabs, where the first begins at a column. -/
def joinTabs (column : Nat) : List Text → Text
  | [] => []
  | [part] => part
  | part :: parts =>
    let part := part ++ [' ']
    let reached := column + Text.width part
    let stop := (reached + 7) / 8 * 8
    part ++ List.replicate (stop - reached) ' ' ++ joinTabs stop parts

/-- A line with blanks for its tabs. -/
def expandTabs (line : Text) : Text :=
  joinTabs 0 (line.splitOn '\t')

/-- The leading blanks of a text, and its words with the blanks behind each. -/
def blocksFrom : Text → Text × List Text
  | [] => ([], [])
  | c :: t =>
    match blocksFrom t with
    | (blanks, words) =>
      if isBlank c then (c :: blanks, words)
      else match blanks, words with
        | [], word :: words => ([], (c :: word) :: words)
        | _, _ => ([], (c :: blanks) :: words)

/-- The words of a text with the blanks behind each, and before the first one.
    A text of blanks has none. -/
def blocks (t : Text) : List Text :=
  match blocksFrom t with
  | (_, []) => []
  | (blanks, word :: words) => (blanks ++ word) :: words

/-- Puts words into lines, where `line` is begun and takes `used` columns. A
    word goes to the next line if it does not fit without its blanks. -/
def fillLines (width : Nat) (line : Text) (used : Nat) : List Text → List Text
  | [] => [line]
  | word :: words =>
    if used + Text.width (Text.trimEnd word) ≤ width then
      fillLines width (line ++ word) (used + Text.width word) words
    else line :: fillLines width word (Text.width word) words

/-- The lines that a line is broken into. -/
def breakLine (width : Nat) (line : Text) : List Text :=
  match blocks line with
  | [] => [line]
  | word :: words => fillLines width word (Text.width word) words

/-- A line without the blanks at its end that stand beyond `width` code
    points. -/
def dropOverhang (width : Nat) (line : Text) : Text :=
  line.take (max width (Text.trimEnd line).length)

/-- A text in lines of exactly `width` columns. -/
def wrap (width : Nat) (t : Text) : List Text :=
  (t.splitOn '\n').flatMap fun line =>
    (breakLine width (expandTabs line)).map fun row => Text.fit width (dropOverhang width row)

end ShellHighlight.Console
