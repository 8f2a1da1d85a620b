/-
  Tables of two columns, drawn with lines.

  * A column is as wide as its widest cell, if the terminal has the room;
    otherwise the wider column gives way, and from equal widths on both do
    (`Widths.share`);
  * the head is drawn with heavy lines, and every cell has one space at each
    side of its lines.
-/
import ShellHighlight.Console.Wrap

namespace ShellHighlight.Console

/-- A row of a table. -/
structure Row where
  left : Text
  right : Text
  deriving DecidableEq, Repr

/-- The widths of the two columns, spaces included. -/
structure Widths where
  left : Nat
  right : Nat
  deriving DecidableEq, Repr

/-- The width that cells ask for if `room` columns are left for the table. -/
def askedWidth (room : Nat) (cells : List Text) : Nat :=
  if room < 3 then max room 1 else min room ((cells.map neededWidth).foldl max 0 + 2)

namespace Widths

/-- Two columns of `width` made to fit into `room` columns. Each gives half of
    what is missing, the left one the even half if the halves differ. -/
def even (room width : Nat) : Widths :=
  let missing := 2 * width - room
  let left := width - (if missing % 4 = 3 then missing / 2 + 1 else missing / 2)
  ⟨left, room - left⟩

/-- Two columns made to fit into `room` columns. -/
def share (room : Nat) (w : Widths) : Widths :=
  let least := min w.left w.right
  if w.left + w.right ≤ room then w
  else if room < 2 * least then even room least
  else if w.right < w.left then ⟨room - w.right, w.right⟩
  else ⟨w.left, room - w.left⟩

/-- The widths of the columns of some rows in `room` columns. -/
def ofRows (room : Nat) (rows : List Row) : Widths :=
  share room ⟨askedWidth room (rows.map (·.left)), askedWidth room (rows.map (·.right))⟩

end Widths

/-! ## Drawing -/

/-- A horizontal line: its left end, its crossing, its right end and what is
    between them. -/
def rule (w : Widths) (start crossing stop fill : Char) : Text :=
  start :: (List.replicate w.left fill ++ crossing :: List.replicate w.right fill ++ [stop])

/-- The lines of a cell. Without room between its spaces it has none. -/
def cellLines (width : Nat) (t : Text) : List Text :=
  if width < 3 then [] else (wrap (width - 2) t).map fun line => ' ' :: line ++ [' ']

/-- The line `n` of a cell, which is blank behind the last one. -/
def cellLine (width : Nat) (lines : List Text) (n : Nat) : Text :=
  lines[n]?.getD (List.replicate width ' ')

/-- The lines of a row between vertical lines, at least one. -/
def rowLines (w : Widths) (bar : Char) (r : Row) : List Text :=
  let left := cellLines w.left r.left
  let right := cellLines w.right r.right
  (List.range (max 1 (max left.length right.length))).map fun n =>
    bar :: cellLine w.left left n ++ bar :: cellLine w.right right n ++ [bar]

/-- The lines of a table with a head. -/
def tableLines (w : Widths) (head : Row) (rows : List Row) : List Text :=
  rule w '┏' '┳' '┓' '━' :: rowLines w '┃' head ++ rule w '┡' '╇' '┩' '━' ::
    rows.flatMap (rowLines w '│') ++ [rule w '└' '┴' '┘' '─']

/-- A table with a head on a terminal of `width` columns. A terminal without
    columns shows nothing. -/
def table (width : Nat) (head : Row) (rows : List Row) : Text :=
  if width = 0 then []
  else
    let lines := tableLines (.ofRows (width - 3) (head :: rows)) head rows
    (lines.map fun line => if width < 3 then line.take width else line).flatMap (· ++ ['\n'])

end ShellHighlight.Console
