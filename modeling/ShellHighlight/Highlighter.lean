/-
  Highlighting a command line.

  * `Highlighter.mode` chooses what a line is highlighted as. The state of the
    editor comes first, then the command that the first token invokes decides:
    commands registered for it have their arguments highlighted as paths, and
    of other known commands the command and its arguments are told apart;
  * `Highlighter.highlight` is the line in the chosen mode.
-/
import ShellHighlight.Align
import ShellHighlight.Overlay
import ShellHighlight.Path.Argument
import ShellHighlight.Registry
import ShellHighlight.Word.Command

namespace ShellHighlight

/-- What a line is highlighted as. -/
inductive Mode where
  /-- The state of the editor is shown. -/
  | overlay
  /-- The arguments are paths. -/
  | file
  /-- The command and its arguments are told apart. -/
  | command
  /-- The line is text of a language. -/
  | language
  /-- Nothing is highlighted. -/
  | plain
  deriving DecidableEq, Repr

/-- The name of a mode. -/
def Mode.name : Mode → Text
  | overlay => "default".toList
  | file => "file".toList
  | command => "command".toList
  | language => "language".toList
  | plain => "plain".toList

/-- What command lines are highlighted with. -/
structure Highlighter where
  registry : Registry
  classifier : Classifier
  /-- Paints commands. -/
  command : Option Painter
  /-- Paints the arguments of commands, and options. -/
  arguments : Option Painter
  /-- Paints lines that are no commands. -/
  language : Option Painter
  /-- The commands whose arguments are paths. -/
  fileCommands : List Text
  deriving Inhabited

namespace Highlighter

/-- Registers commands whose arguments are paths. -/
def addFileCommands (h : Highlighter) (names : List Text) : Highlighter :=
  { h with fileCommands := names ++ h.fileCommands }

/-- The names of the commands whose arguments are paths, each once and in
    order. -/
def fileCommandNames (h : Highlighter) : List Text :=
  h.fileCommands.eraseDups.mergeSort Text.precedes

/-- The mode of a line that invokes `name`. -/
def commandMode (h : Highlighter) (w : World) (name : Text) : Mode :=
  if h.fileCommands.contains name then .file
  else if h.registry.isCommandOrScript w name || h.registry.isAlias name then .command
  else if h.language.isSome then .language
  else .plain

/-- The mode of a line. -/
def mode (h : Highlighter) (w : World) (e : Editor) (buffer : Text) : Mode :=
  if e.isMarking then .overlay
  else match Text.words (Text.trim buffer) with
    | [] => .plain
    | token :: _ => h.commandMode w (commandName token)

/-- The fragments of a span. -/
def paintSpan (h : Highlighter) (w : World) (e : Editor) (buffer : Text) (s : Span) : Styled :=
  match s.word with
  | none => Styled.unstyled (s.text buffer)
  | some word => highlightArgument h.classifier h.arguments w e word

/-- A line whose arguments are paths. -/
def highlightFiles (h : Highlighter) (w : World) (e : Editor) (buffer : Text) : Styled :=
  match Text.tokenEnd? buffer with
  | none => paintWith h.command buffer
  | some i =>
    paintWith h.command (buffer.take i) ++
      (align buffer (splitOpen buffer) (some i)).flatMap (h.paintSpan w e buffer)

/-- A line of which the command and its arguments are told apart. -/
def highlightCommand (h : Highlighter) (buffer : Text) : Styled :=
  match Text.tokenEnd? buffer with
  | none =>
    if h.command.isNone && h.arguments.isNone then Styled.unstyled buffer
    else paintWith h.command buffer
  | some i =>
    if h.command.isNone && h.arguments.isNone then Styled.unstyled buffer
    else paintWith h.command (buffer.take i) ++ paintWith h.arguments (buffer.drop i)

/-- A line with its styles. -/
def highlight (h : Highlighter) (w : World) (e : Editor) (buffer : Text) : Styled :=
  match h.mode w e buffer with
  | .overlay => ShellHighlight.overlay e buffer
  | .file => h.highlightFiles w e buffer
  | .command => h.highlightCommand buffer
  | .language => paintWith h.language buffer
  | .plain => Styled.unstyled buffer

end Highlighter

end ShellHighlight
