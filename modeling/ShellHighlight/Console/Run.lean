/-
  What the program prints.

  * A configuration that does not make a highlighter ends the program with
    status 1 and a message (`Outcome.failed`), and a command line that is not
    understood ends it with status 2;
  * `run` is a whole run, and `Reader` is what reads lines: each line is passed
    over, accepted, or ends the reading (`Reader.react`).
-/
import ShellHighlight.Console.Arguments
import ShellHighlight.Console.Markup
import ShellHighlight.Console.Table
import ShellHighlight.Settings.Wire
import ShellHighlight.StyleSheet

namespace ShellHighlight.Console

/-- How a run of the program ends. -/
structure Outcome where
  status : Nat
  output : Text
  errors : Text
  deriving DecidableEq, Repr

/-- Why a run does not end in an orderly way. -/
inductive Failure where
  /-- The settings are not valid. -/
  | settings (e : SettingsError)
  /-- A text that is no colour is used as one. -/
  | color (word : Text)
  /-- A cell of a table is no markup. -/
  | markup (e : MarkupError)
  deriving DecidableEq, Repr

/-- The wording of a failure. -/
def Failure.message : Failure → Text
  | settings e => e.message
  | color word => colorMessage word
  | markup e => e.message

namespace Outcome

/-- The program has printed `output`. -/
def printed (output : Text) : Outcome := ⟨0, output, []⟩

/-- The configuration is wrong. -/
def failed (e : ConfigurationError) : Outcome :=
  ⟨1, [], "Error: ".toList ++ e.message ++ ['\n']⟩

/-- The command line is not understood. -/
def misused : Outcome := ⟨2, [], []⟩

end Outcome

/-- The number of columns of the terminal, which is 80 unless the environment
    says otherwise. -/
def terminalWidth (w : World) : Nat :=
  match w.environmentValue? "COLUMNS".toList with
  | some t =>
    if t.isEmpty || !t.all (fun c => (digitValue? c).isSome) then 80
    else digitsValue (t.filterMap digitValue?)
  | none => 80

/-- The rows of the table of the fragments of a line, as markup. -/
def spanRows (s : Styled) : List Row :=
  s.map fun f => ⟨if f.style.isEmpty then ['-'] else f.style, quoted f.text⟩

/-- A cell of a table on a terminal of `width` columns. Where no cell has room
    for its text, the text is not read. -/
def readCell (width : Nat) (t : Text) : Except MarkupError Text :=
  if width < 6 then .ok [] else renderMarkup t

/-- The table of the fragments of a line. Its cells are read as markup, one
    column after the other. -/
def spanTable (width : Nat) (s : Styled) : Except MarkupError Text := do
  let left ← (spanRows s).mapM fun r => readCell width r.left
  let right ← (spanRows s).mapM fun r => readCell width r.right
  return table width ⟨"style".toList, "text".toList⟩ (List.zipWith Row.mk left right)

/-- A line as it is printed without colours. -/
def plainLine (s : Styled) : Text :=
  s.text.filter (· != '\r') ++ ['\n']

/-! ## Reading lines -/

/-- What is done with a line that has been read. -/
inductive Reaction where
  /-- No more lines are read. -/
  | stop
  /-- The line is passed over. -/
  | skip
  /-- The line is accepted. -/
  | accept (mode : Mode)
  deriving DecidableEq, Repr

/-- A highlighter with the state of its editor, for lines that are read. -/
structure Reader where
  highlighter : Highlighter
  editor : Editor

namespace Reader

/-- The lines that end the reading. -/
def endings : List Text := ["exit", "quit"].map String.toList

/-- What is done with a line. -/
def react (r : Reader) (w : World) (line : Text) : Reaction :=
  let trimmed := Text.trim line
  if endings.contains trimmed then .stop
  else if trimmed.isEmpty then .skip
  else .accept (r.highlighter.mode w r.editor line)

/-- What has been read: the accepted lines with their modes, the number of
    prompts, and the number of lines that were not read. -/
structure Transcript where
  accepted : List (Mode × Text)
  prompts : Nat
  unread : Nat
  deriving DecidableEq, Repr

/-- Reads lines until one of them ends the reading. An interruption, given by
    `none`, ends it as well, and so does the end of the lines. -/
def read (r : Reader) (w : World) : List (Option Text) → Transcript
  | [] => ⟨[], 1, 0⟩
  | none :: lines => ⟨[], 1, lines.length⟩
  | some line :: lines =>
    match r.react w line with
    | .stop => ⟨[], 1, lines.length⟩
    | .skip =>
      let rest := r.read w lines
      { rest with prompts := rest.prompts + 1 }
    | .accept mode =>
      let rest := r.read w lines
      { rest with accepted := (mode, line) :: rest.accepted, prompts := rest.prompts + 1 }

/-- The reader that the settings describe. -/
def ofSettings (s : Settings) (w : World) : Except ConfigurationError Reader := do
  let highlighter ← s.highlighter w
  s.checkStyle
  return ⟨highlighter, s.editor⟩

end Reader

/-! ## Commands -/

/-- The settings of a run, where `overrides` are given on the command line. -/
def loadSettings (w : World) (overrides : List (Text × Value)) : Except Failure Settings :=
  (Settings.loadChecked ⟨overrides, w.environment⟩).mapError .settings

/-- The settings that an option for slashes between segments gives. -/
def slashOverride (forwardSlash : Bool) : List (Text × Value) :=
  if forwardSlash then [("use_forward_slash".toList, .boolean true)] else []

/-- Prints what a line is highlighted as. -/
def runMode (w : World) (line : Text) : Except Failure Outcome := do
  let settings ← loadSettings w []
  match settings.highlighter w with
  | .error e => return .failed e
  | .ok h => return .printed ((h.mode w settings.editor line).name ++ ['\n'])

/-- Prints a line, or the table of its fragments. -/
def runRender (w : World) (line : Text) (forwardSlash spans : Bool) : Except Failure Outcome := do
  let settings ← loadSettings w (slashOverride forwardSlash)
  match settings.highlighter w with
  | .error e => return .failed e
  | .ok h =>
    let painted := h.highlight w settings.editor line
    if spans then return .printed (← (spanTable (terminalWidth w) painted).mapError .markup)
    match settings.checkStyle with
    | .error e => return .failed e
    | .ok () =>
      let _ ← (painted.mapM fun f => Attributes.ofStyle f.style).mapError .color
      return .printed (plainLine painted)

/-- Reads lines. -/
def runRepl (w : World) (lines : List (Option Text)) :
    Except Failure (Outcome × Reader.Transcript) := do
  let settings ← loadSettings w []
  match Reader.ofSettings settings w with
  | .error e => return (.failed e, ⟨[], 0, lines.length⟩)
  | .ok reader => return (.printed [], reader.read w lines)

/-- The outcome of a command line, where `lines` can be read. -/
def run (w : World) (words : List Text) (lines : List (Option Text)) : Except Failure Outcome :=
  match Command.parse? words with
  | none => .ok .misused
  | some (.mode line) => runMode w line
  | some (.render line forwardSlash spans) => runRender w line forwardSlash spans
  | some .repl => (runRepl w lines).map (·.1)

end ShellHighlight.Console
