/-
  Building a highlighter from settings.

  * An empty style or lexer name leaves its painter out, and a lexer that is
    not known is an error (`Settings.highlighter`);
  * `Settings.editor` is the state of an editor that shows nothing special.
-/
import ShellHighlight.Highlighter
import ShellHighlight.Settings.Basic

namespace ShellHighlight

/-- Why settings do not make a highlighter. -/
inductive ConfigurationError where
  /-- There is no lexer of this name. -/
  | unknownLexer (name : Text)
  /-- There is no style of this name. -/
  | unknownStyle (name : Text)
  deriving DecidableEq, Repr

/-- The wording of an error. -/
def ConfigurationError.message : ConfigurationError → Text
  | unknownLexer name => Lexer.unknownMessage name
  | unknownStyle name => "unknown pygments style: ".toList ++ name

/-- The painter with the lexer of a name. -/
def Painter.ofLexerName (name : Text) : Except ConfigurationError Painter :=
  match Lexer.ofName? name with
  | some lexer => .ok (.lexed lexer)
  | none => .error (.unknownLexer name)

namespace Settings

/-- The painter with the lexer of a name, if a name is given. -/
def lexerPainter (name : Option Text) : Except ConfigurationError (Option Painter) :=
  match name.filter (!·.isEmpty) with
  | none => .ok none
  | some name => (Painter.ofLexerName name).map some

/-- The table of styles of files. -/
def styleTable (s : Settings) (w : World) : StyleTable :=
  match s.lsColors.filter (!·.isEmpty) with
  | some spec => StyleTable.ofText spec
  | none => StyleTable.ofSetting (w.environmentValue? "LS_COLORS".toList) StyleTable.defaultSpec

/-- How paths are written. -/
def paths (s : Settings) : PathStyle :=
  { PathStyle.native with driveLetters := s.driveLetters }

/-- The state of an editor in which nothing is searched for, selected or
    wrong. -/
def editor (s : Settings) : Editor :=
  { forwardSlash := s.useForwardSlash, paths := s.paths }

/-- The highlighter that the settings describe. -/
def highlighter (s : Settings) (w : World) : Except ConfigurationError Highlighter := do
  let arguments ← lexerPainter s.argsLexer
  let language ← lexerPainter s.langLexer
  return {
    registry := ⟨s.commands, s.aliases, s.scripts, s.searchPath⟩
    classifier := ⟨s.styleTable w, s.trackExecBit, s.workingDir⟩
    command := if s.commandStyle.isEmpty then none else some (.fixed s.commandStyle)
    arguments := arguments
    language := language
    fileCommands := s.fileHighlight }

/-- Checks that the style of the tokens exists. -/
def checkStyle (s : Settings) : Except ConfigurationError Unit :=
  if s.tokenStyle == "default".toList then .ok () else .error (.unknownStyle s.tokenStyle)

end Settings

end ShellHighlight
