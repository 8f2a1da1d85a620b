/-
  Texts and the positions in them.

  A text is a list of code points, and every index, length and cursor of the
  library counts code points.

  * `Text.slice t a b` is the part of `t` between two cut marks, which may be
    negative (counted from the end) or lie outside of `t`;
  * `Text.find? t w start` is the first place at or after `start` where `w`
    occurs, and `Text.occurrences w t` are the places of its leftmost
    occurrences that do not overlap;
  * `Text.pieces sep t` cuts `t` at every occurrence of the text `sep`;
  * `Text.precedes` is the order of texts by code points.
-/
namespace ShellHighlight

/-- A text: a finite sequence of code points. -/
abbrev Text := List Char

namespace Text

/-! ## Cut marks -/

/-- The cut mark `i` of a text of `n` code points, brought into the range from
    `0` to `n`; a negative mark counts from the end. -/
def cut (n : Nat) (i : Int) : Nat :=
  if i < 0 then (n + i).toNat else min i.toNat n

/-- The part of `t` from the cut mark `start` up to the cut mark `stop`. -/
def slice (t : Text) (start stop : Int) : Text :=
  (t.take (cut t.length stop)).drop (cut t.length start)

/-- The size of `t` in UTF-8. -/
def byteCount (t : Text) : Nat :=
  t.foldl (fun n c => n + c.utf8Size) 0

/-! ## Searching -/

/-- The number of code points in front of the first occurrence of `w`. -/
def offset? (w : Text) : Text → Option Nat
  | [] => if w.isEmpty then some 0 else none
  | c :: t => if w.isPrefixOf (c :: t) then some 0 else (offset? w t).map (· + 1)

/-- The first position at or after the cut mark `start` where `w` occurs in
    `t`. Beyond the end nothing occurs, not even the empty text. -/
def find? (t w : Text) (start : Int) : Option Nat :=
  if (t.length : Int) < start then none
  else
    let s := cut t.length start
    (offset? w (t.drop s)).map (s + ·)

/-- The occurrences of `w` in a text that begins at position `pos`, leaving
    out those that begin within the next `busy` code points. -/
def occurrencesFrom (w : Text) : (pos busy : Nat) → Text → List Nat
  | pos, 0, [] => if w.isEmpty then [pos] else []
  | _, _ + 1, [] => []
  | pos, busy + 1, _ :: t => occurrencesFrom w (pos + 1) busy t
  | pos, 0, c :: t =>
    if w.isPrefixOf (c :: t) then pos :: occurrencesFrom w (pos + 1) (w.length - 1) t
    else occurrencesFrom w (pos + 1) 0 t

/-- The positions of the leftmost occurrences of `w` in `t` that do not
    overlap. The empty text occurs everywhere, also at the end. -/
def occurrences (w t : Text) : List Nat :=
  occurrencesFrom w 0 0 t

/-! ## Cutting -/

/-- Puts `c` in front of the first piece. -/
def consFirst (c : Char) : List Text → List Text
  | [] => [[c]]
  | p :: ps => (c :: p) :: ps

/-- The pieces of a text of which the next `busy` code points still belong to
    an occurrence of `sep`. -/
def piecesFrom (sep : Text) : (busy : Nat) → Text → List Text
  | _, [] => [[]]
  | busy + 1, _ :: t => piecesFrom sep busy t
  | 0, c :: t =>
    if sep.isPrefixOf (c :: t) then [] :: piecesFrom sep (sep.length - 1) t
    else consFirst c (piecesFrom sep 0 t)

/-- The pieces between the occurrences of a non-empty `sep`, taken from left
    to right; there is one piece more than there are occurrences. -/
def pieces (sep t : Text) : List Text :=
  piecesFrom sep 0 t

/-! ## Order -/

/-- The order of texts by code points, as in a dictionary. -/
def precedes : Text → Text → Bool
  | [], _ => true
  | _ :: _, [] => false
  | a :: s, b :: t => if a = b then precedes s t else a.toNat < b.toNat

end Text

end ShellHighlight
