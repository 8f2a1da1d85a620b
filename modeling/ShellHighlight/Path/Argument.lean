/-
  Highlighting an argument as a path, segment by segment.

  * `drivePrefix` is the drive at the beginning of a path;
  * a segment has the style of the path that ends with it (`segments`), and
    separators and the drive have none;
  * if anything goes wrong on the way the whole argument is left without a
    style, and an option is left to the painter of arguments
    (`highlightArgument`).
-/
import ShellHighlight.Editor
import ShellHighlight.Painter
import ShellHighlight.Path.Classify

namespace ShellHighlight

/-- Why an argument is not highlighted as a path. -/
inductive ArgumentError where
  /-- There is no separator. -/
  | noSeparator
  /-- A path on the way cannot be looked up. -/
  | lookup (e : LookupError)
  deriving DecidableEq, Repr

/-- The drive at the beginning of `arg`, as in `C:` or `C:\`. A drive counts
    if nothing follows it, or a separator does. -/
def drivePrefix (arg separator : Text) : Except ArgumentError Text :=
  match arg with
  | letter :: ':' :: rest =>
    if !letter.isAlpha then .ok []
    else match rest, separator with
      | [], _ => .ok [letter, ':']
      | _, [] => .error .noSeparator
      | c :: _, s :: _ => .ok (if c = s then [letter, ':', c] else [])
  | _ => .ok []

/-- The fragments of the segments of a path, where `before` is what comes in
    front of them and `styleOf` is the style of a path and its last segment.
    Segments that are empty give no fragment. -/
def segments (styleOf : Text → Text → Except LookupError Text) (separator : Text) :
    (before : Text) → List Text → Except LookupError Styled
  | _, [] => .ok []
  | before, piece :: pieces => do
    let path := before ++ piece
    let here ← if piece.isEmpty then .ok [] else (styleOf path piece).map (Styled.run · piece)
    let rest ← segments styleOf separator (path ++ separator) pieces
    return here ++ (if pieces.isEmpty then [] else Styled.run [] separator) ++ rest

/-- `arg` with the styles of what its segments name. -/
def highlightPath (k : Classifier) (w : World) (e : Editor) (arg : Text) :
    Except ArgumentError Styled := do
  let drive ← if e.paths.driveLetters then drivePrefix arg e.separator else .ok []
  if e.separator.isEmpty then throw .noSeparator
  let pieces := Text.pieces e.separator (arg.drop drive.length)
  let painted ← (segments (fun path name => k.styleOf w path (some name)) e.separator drive
    pieces).mapError .lookup
  return Styled.unstyled drive ++ painted

/-- Whether an argument is an option. -/
def isOption (arg : Text) : Bool :=
  arg.head? == some '-'

/-- `arg` highlighted as an argument. -/
def highlightArgument (k : Classifier) (args : Option Painter) (w : World) (e : Editor)
    (arg : Text) : Styled :=
  if isOption arg then paintWith args arg
  else match highlightPath k w e arg with
    | .ok s => s
    | .error _ => Styled.unstyled arg

end ShellHighlight
