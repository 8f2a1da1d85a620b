/-
  Aligning the words of a line with the line.

  The words of a line have lost their quotes and escapes, so a word need not
  occur in the line. Each word is searched for behind the one before it; what
  is passed over is glue, and a word that is not found ends the alignment.

  * `place` places words one after the other from a position;
  * `align` places all words but the command, by default behind as many code
    points as the command has. Its spans follow each other without a gap.
-/
import ShellHighlight.Text.Basic

namespace ShellHighlight

/-- The part of a line from `start` to `stop`: a word, or glue. A negative
    `start` counts from the end of the line. -/
structure Span where
  start : Int
  stop : Int
  word : Option Text
  deriving DecidableEq, Repr

namespace Span

/-- The glue between two positions, if there is any. -/
def glue (start stop : Int) : List Span :=
  if start < stop then [⟨start, stop, none⟩] else []

/-- Whether the span is a word. -/
def isWord (s : Span) : Bool :=
  s.word.isSome

/-- The text of a span. -/
def text (buffer : Text) (s : Span) : Text :=
  Text.slice buffer s.start s.stop

end Span

/-- The spans of `buffer` from the position `pos` on, with the words placed in
    order. -/
def place (buffer : Text) (pos : Int) : List Text → List Span
  | [] => Span.glue pos buffer.length
  | w :: ws =>
    match Text.find? buffer w pos with
    | none => Span.glue pos buffer.length
    | some found =>
      Span.glue pos found ++ ⟨found, found + w.length, some w⟩ :: place buffer (found + w.length) ws

/-- The spans of `buffer` from `start` on, with all words but the first. -/
def align (buffer : Text) (words : List Text) (start : Option Int) : List Span :=
  place buffer (start.getD (words.headD []).length) words.tail

end ShellHighlight
