/-
  The state of a line editor while one line is highlighted.

  * `Editor` holds what is searched for, what is selected, and where an error
    is; `Editor.isMarking` tells whether any of it is to be shown;
  * `Editor.separator` is the text between the segments of a path.
-/
import ShellHighlight.Text.Basic

namespace ShellHighlight

/-- What the selected region consists of. -/
inductive Region where
  | none
  | char
  | line
  | paste
  deriving DecidableEq, Repr

/-- How paths are written on a platform. -/
structure PathStyle where
  separator : Text
  /-- Whether a path may begin with a drive, as in `C:`. -/
  driveLetters : Bool
  deriving DecidableEq, Repr

/-- Paths with slashes and without drives. -/
def PathStyle.native : PathStyle := ⟨['/'], false⟩

instance : Inhabited PathStyle := ⟨PathStyle.native⟩

/-- A pattern for the text that an error is about. -/
inductive ErrorPattern where
  /-- The occurrences of a text. -/
  | literal (text : Text)
  /-- The runs of given code points. -/
  | runsOf (chars : Text)
  /-- Whatever ranges are found in a text. -/
  | custom (find : Text → List (Nat × Nat))

namespace ErrorPattern

/-- The runs of `chars` in a text that begins at position `pos`; `start` is
    the beginning of a run that is open. -/
def runsFrom (chars : Text) (pos : Nat) (start : Option Nat) : Text → List (Nat × Nat)
  | [] => (start.map (·, pos)).toList
  | c :: t =>
    if chars.contains c then runsFrom chars (pos + 1) (some (start.getD pos)) t
    else (start.map (·, pos)).toList ++ runsFrom chars (pos + 1) none t

/-- The parts of a text that match a pattern, as ranges of positions. -/
def ranges (p : ErrorPattern) (t : Text) : List (Nat × Nat) :=
  match p with
  | literal w => (Text.occurrences w t).map fun i => (i, i + w.length)
  | runsOf chars => runsFrom chars 0 none t
  | custom find => find t

end ErrorPattern

/-- The state of the editor. -/
structure Editor where
  /-- What is searched for. -/
  search : Option Text := none
  region : Region := .none
  /-- The positions that the region lies between. -/
  range : Option (Int × Int) := none
  /-- Where an error begins; negative if there is none. -/
  errorIndex : Int := -1
  errorPattern : Option ErrorPattern := none
  /-- Whether segments are separated by slashes on every platform. -/
  forwardSlash : Bool := false
  paths : PathStyle := .native
  deriving Inhabited

namespace Editor

/-- The text between the segments of a path. -/
def separator (e : Editor) : Text :=
  if e.forwardSlash then ['/'] else e.paths.separator

/-- What is searched for, if anything is. -/
def searchTerm? (e : Editor) : Option Text :=
  e.search.filter (!·.isEmpty)

/-- Whether a search, a selection or an error is to be shown. -/
def isMarking (e : Editor) : Bool :=
  e.searchTerm?.isSome || e.region != .none || -1 < e.errorIndex || e.errorPattern.isSome

end Editor

end ShellHighlight
