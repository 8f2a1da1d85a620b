/-
  The number of columns that a text takes on a terminal.

  * `columns` is the number for one code point: two if it is wide, none if it
    is a control character or shown within the place of its neighbours, and one
    otherwise;
  * in a text, a joiner takes the code point behind it into the place of the
    one before it, and the selector of emoji widens the symbol before it
    (`Text.width`);
  * the code points that share a place form a cluster (`clusters`), and a text
    is cut only between clusters (`Text.clip`);
  * `Text.fit` gives a text an exact width.
-/
import ShellHighlight.Console.WidthTable
import ShellHighlight.Text.Basic

namespace ShellHighlight

/-- Whether a row of a table holds `c`. -/
def inRanges (rows : List (Nat × Nat)) (c : Char) : Bool :=
  rows.any fun r => r.1 ≤ c.toNat && c.toNat ≤ r.2

/-- The number of columns of one code point. -/
def columns (c : Char) : Nat :=
  let n := c.toNat
  if n < 32 || (0x7F ≤ n && n < 0xA0) then 0
  else if n < 0x300 then 1
  else if inRanges marginalRanges c then 0
  else if inRanges wideRanges c then 2
  else 1

/-- The code point that joins its two neighbours to one symbol. -/
def joiner : Char := Char.ofNat 0x200D

/-- The code point that shows the symbol before it as an emoji. -/
def emojiSelector : Char := Char.ofNat 0xFE0F

/-- The columns that the selector of emoji adds behind `seen`, the last symbol
    that takes a column and has no selector yet. -/
def widening (seen : Option Char) : Nat :=
  if seen.any (inRanges widenedRanges) then 1 else 0

/-- The symbol that a second selector of emoji would find behind `seen`. -/
def afterSelector (seen : Option Char) : Option Char :=
  seen.filter fun c => !inRanges widenedRanges c

/-! ## Width -/

/-- The number of columns of a text behind the symbol `seen`; `joined` tells
    that a joiner stands in front. -/
def widthFrom (joined : Bool) (seen : Option Char) : Text → Nat
  | [] => 0
  | c :: t =>
    if joined then widthFrom false seen t
    else if c == joiner then widthFrom true seen t
    else if c == emojiSelector then widening seen + widthFrom false none t
    else if columns c = 0 then widthFrom false seen t
    else columns c + widthFrom false (some c) t

/-- The number of columns of a text. -/
def Text.width (t : Text) : Nat :=
  widthFrom false none t

/-! ## Clusters -/

/-- Code points that share a place, with their number of columns. -/
structure Cluster where
  text : Text
  width : Nat
  deriving DecidableEq, Repr

namespace Cluster

/-- Adds a code point to the last of some clusters, which are given from right
    to left. -/
def grow (c : Char) (more : Nat) : List Cluster → List Cluster
  | [] => [⟨[c], more⟩]
  | last :: before => ⟨last.text ++ [c], last.width + more⟩ :: before

end Cluster

/-- The clusters of a text, from right to left, where `done` are those in front
    of it. -/
def clustersFrom (joined : Bool) (seen : Option Char) (done : List Cluster) : Text → List Cluster
  | [] => done
  | c :: t =>
    if joined then clustersFrom false seen (Cluster.grow c 0 done) t
    else if c == joiner then clustersFrom (!done.isEmpty) seen (Cluster.grow c 0 done) t
    else if c == emojiSelector then
      clustersFrom false (afterSelector seen) (Cluster.grow c (widening seen) done) t
    else if columns c = 0 then clustersFrom false seen (Cluster.grow c 0 done) t
    else clustersFrom false (some c) (⟨[c], columns c⟩ :: done) t

/-- The clusters of a text. -/
def clusters (t : Text) : List Cluster :=
  (clustersFrom false none [] t).reverse

/-! ## Exact widths -/

/-- The clusters that fit into `width` columns. A blank stands for a wide one
    of which only a half fits. -/
def clipClusters : (width : Nat) → List Cluster → Text
  | 0, _ => []
  | _, [] => []
  | width + 1, k :: ks =>
    if k.width ≤ width + 1 then k.text ++ clipClusters (width + 1 - k.width) ks else [' ']

namespace Text

/-- The beginning of `t` that fills `width` columns. -/
def clip (width : Nat) (t : Text) : Text :=
  clipClusters width (clusters t)

/-- `t` with blanks up to a width. -/
def pad (width : Nat) (t : Text) : Text :=
  t ++ List.replicate (width - Text.width t) ' '

/-- `t` in exactly `width` columns, where `width` is not zero. A text that is
    too wide ends with an ellipsis. A joiner at the end takes the first blank
    into its place, so the blanks are counted twice. -/
def fit (width : Nat) (t : Text) : Text :=
  if Text.width t ≤ width then pad width (pad width t)
  else pad width (clip (width - 1) t ++ ['…'])

end Text

end ShellHighlight
