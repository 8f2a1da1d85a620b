/-
  Highlighting a document that is being edited, line by line.

  * `Document.editor` is the state that is highlighted: the search, the
    selection and the error that the application shows;
  * `Document.lines` are the highlighted lines;
  * `Application.cacheKey` is a key under which the lines of a text can be kept,
    as long as it stays the same.
-/
import ShellHighlight.Highlighter

namespace ShellHighlight

/-- How the code points of a selection are chosen. -/
inductive SelectionKind where
  | characters
  | lines
  | block
  deriving DecidableEq, Repr

/-- The region that a selection makes. -/
def SelectionKind.region : SelectionKind → Region
  | characters => .char
  | lines => .line
  | block => .char

/-- A selection, from where it was begun to the cursor. -/
structure Selection where
  origin : Int
  kind : SelectionKind
  deriving DecidableEq, Repr

/-- A text with a cursor and perhaps a selection. -/
structure Document where
  text : Text
  cursor : Int
  selection : Option Selection
  deriving DecidableEq, Repr

/-- A document that is being edited. -/
structure Buffer where
  document : Document
  /-- The position of the error that the text has been refused for. -/
  error : Option Int
  deriving DecidableEq, Repr

/-- What the running application shows besides the text. -/
structure Application where
  searching : Bool
  /-- What is, or was last, searched for. -/
  searchText : Text
  /-- The buffer that has the focus. While something is searched for it is that of
      the search field, and not that of the text. -/
  focus : Buffer
  deriving DecidableEq, Repr

/-- What the lines of a text are kept under. -/
structure CacheKey where
  searching : Bool
  selection : Option (SelectionKind × Int × Int)
  searchText : Text
  error : Int
  deriving DecidableEq, Repr

namespace Document

/-- The positions that a selection lies between, the smaller one first. -/
def selected (d : Document) (s : Selection) : Int × Int :=
  (min d.cursor s.origin, max d.cursor s.origin)

/-- The kind and the two ends of what is selected, if anything is. -/
def selected? (d : Document) : Option (SelectionKind × Int × Int) :=
  d.selection.map fun s => (s.kind, d.selected s)

/-- The state of the editor. -/
def editor (d : Document) (app : Application) (paths : PathStyle) (forwardSlash : Bool) :
    Editor where
  search := if app.searching then some app.searchText else none
  region := (d.selection.map (·.kind.region)).getD .none
  range := d.selection.map d.selected
  errorIndex := app.focus.error.getD (-1)
  errorPattern := none
  forwardSlash := forwardSlash
  paths := paths

/-- The highlighted lines of a document. -/
def lines (d : Document) (h : Highlighter) (w : World) (app : Application) (paths : PathStyle)
    (forwardSlash : Bool) : List Styled :=
  Styled.lines (h.highlight w (d.editor app paths forwardSlash) d.text)

end Document

/-- The key under which highlighted lines are kept. It is read off the application
    alone, and so are the selection and the error in it those of the buffer that
    has the focus. -/
def Application.cacheKey (app : Application) : CacheKey where
  searching := app.searching
  selection := app.focus.document.selected?
  searchText := app.searchText
  error := app.focus.error.getD (-1)

end ShellHighlight
