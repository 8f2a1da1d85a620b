/-
  Showing the state of the editor in a line.

  Searches, selections and errors mark parts of the line (`Editor.marks`), and
  a code point has the styles of all marks on it, in the order of the marks
  (`styleAt`).
-/
import ShellHighlight.Editor
import ShellHighlight.Styled

namespace ShellHighlight

/-- A style for the positions from `start` up to `stop`. -/
structure Mark where
  start : Int
  stop : Int
  style : Text
  deriving DecidableEq, Repr

/-- Whether a mark is on the position `i`. -/
def Mark.covers (m : Mark) (i : Nat) : Bool :=
  m.start ≤ i && (i : Int) < m.stop

/-- The class of errors. -/
def errorStyle : Text := "class:error".toList

/-- The class of the selection. -/
def selectionStyle : Text := "class:selection".toList

/-- The class of what was searched for. -/
def searchStyle : Text := "class:search".toList

namespace Editor

/-- The marks on the matches of the error pattern. -/
def patternMarks (e : Editor) (buffer : Text) : List Mark :=
  match e.errorPattern with
  | none => []
  | some p => (p.ranges buffer).map fun r => ⟨r.1, r.2, errorStyle⟩

/-- The mark on everything behind an error. -/
def errorMarks (e : Editor) (buffer : Text) : List Mark :=
  if -1 < e.errorIndex then [⟨e.errorIndex, buffer.length, errorStyle⟩] else []

/-- The mark on the selected region. -/
def selectionMarks (e : Editor) : List Mark :=
  match e.region, e.range with
  | .none, _ => []
  | _, none => []
  | _, some r => [⟨r.1, r.2, selectionStyle⟩]

/-- The marks on what was searched for. -/
def searchMarks (e : Editor) (buffer : Text) : List Mark :=
  match e.searchTerm? with
  | none => []
  | some w => (Text.occurrences w buffer).map fun (i : Nat) => ⟨i, i + w.length, searchStyle⟩

/-- All marks on a line. -/
def marks (e : Editor) (buffer : Text) : List Mark :=
  e.patternMarks buffer ++ e.errorMarks buffer ++ e.selectionMarks ++ e.searchMarks buffer

end Editor

/-- The style of position `i` under a list of marks. -/
def styleAt (ms : List Mark) (i : Nat) : Text :=
  List.intercalate [' '] ((ms.filter (·.covers i)).map (·.style))

/-- `buffer` with the marks of the editor. -/
def overlay (e : Editor) (buffer : Text) : Styled :=
  let ms := e.marks buffer
  Styled.ofCharacters (buffer.zipIdx.map fun r => (r.1, styleAt ms r.2))

end ShellHighlight
