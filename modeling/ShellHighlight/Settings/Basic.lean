/-
  The settings of the highlighter, and where they come from.

  * A setting is given directly, or by the variable of the environment with
    its name behind `SHELLTINT_` in any case, or it has its default
    (`Settings.load`);
  * lists and records are written as JSON in the environment. A JSON `null` is
    no value, and the aliases of both sources are put together
    (`Sources.structured`);
  * of two mistakes, a text that is not JSON counts before a value of the wrong
    type.
-/
import ShellHighlight.Settings.Value
import ShellHighlight.Text.Case
import ShellHighlight.World.Path

namespace ShellHighlight

/-- The settings. -/
structure Settings where
  /-- The table of styles of files; by default that of the environment. -/
  lsColors : Option Text
  useForwardSlash : Bool
  driveLetters : Bool
  trackExecBit : Bool
  /-- The directory that relative paths begin at. -/
  workingDir : Option Text
  /-- The commands whose arguments are paths. -/
  fileHighlight : List Text
  commands : List Text
  aliases : List (Text × Text)
  scripts : List Text
  searchPath : Bool
  commandStyle : Text
  argsLexer : Option Text
  langLexer : Option Text
  tokenStyle : Text
  logLevel : Text
  deriving DecidableEq, Repr, Inhabited

/-- Why settings are refused. -/
inductive SettingsError where
  /-- The text for a list or a record is not JSON. -/
  | notJson
  /-- A value has the wrong type. -/
  | invalid
  /-- There is no log level of this name, given in upper case. -/
  | unknownLevel (name : Text)
  deriving DecidableEq, Repr

/-- The wording of an error. -/
def SettingsError.message : SettingsError → Text
  | notJson => "a setting is not JSON".toList
  | invalid => "a setting has the wrong type".toList
  | unknownLevel name => "Level '".toList ++ name ++ "' does not exist".toList

/-! ## Values of the right type -/

namespace Value

/-- A truth value. -/
def asBoolean : Value → Except SettingsError Bool
  | boolean b => .ok b
  | integer n => if n = 0 then .ok false else if n = 1 then .ok true else .error .invalid
  | text t => match truthOf? t.lower with
    | some b => .ok b
    | none => .error .invalid
  | _ => .error .invalid

/-- A text. -/
def asText : Value → Except SettingsError Text
  | text t => .ok t
  | _ => .error .invalid

/-- A text or nothing. -/
def asOptionalText : Value → Except SettingsError (Option Text)
  | null => .ok none
  | text t => .ok (some t)
  | _ => .error .invalid

/-- A list of texts. -/
def asTexts : Value → Except SettingsError (List Text)
  | list items => items.mapM asText
  | _ => .error .invalid

/-- A record of texts. -/
def asTextRecord : Value → Except SettingsError (List (Text × Text))
  | record fields => fields.mapM fun f => f.2.asText.map (f.1, ·)
  | _ => .error .invalid

end Value

/-! ## Sources -/

/-- Where settings come from. -/
structure Sources where
  overrides : List (Text × Value)
  environment : List (Text × Text)

namespace Sources

/-- What the names of variables begin with, in lower case. -/
def variableStem : Text := "shelltint_".toList

/-- The value of the variable of a setting; of several spellings the last one
    counts. -/
def environmentValue? (s : Sources) (name : Text) : Option Text :=
  (s.environment.reverse.find? fun r => r.1.lower == variableStem ++ name).map (·.2)

/-- The value of a setting that is a text in the environment. -/
def plain (s : Sources) (name : String) : Option Value :=
  (s.overrides.lookup name.toList).or ((s.environmentValue? name.toList).map .text)

/-- The value that a variable gives as JSON. -/
def decoded (s : Sources) (name : Text) : Except SettingsError (Option Value) :=
  match s.environmentValue? name with
  | none => .ok none
  | some t => match Value.ofJson? t with
    | none => .error .notJson
    | some .null => .ok none
    | some v => .ok (some v)

/-- Puts a value over another one. Of two records all fields are kept. -/
def overlayValue : Option Value → Option Value → Option Value
  | some (.record above), some (.record below) =>
    some (.record (above.foldl (fun fields f => Value.setField f.1 f.2 fields) below))
  | some v, _ => some v
  | none, below => below

/-- The value of a setting that is JSON in the environment. -/
def structured (s : Sources) (name : String) : Except SettingsError (Option Value) :=
  (s.decoded name.toList).map (overlayValue (s.overrides.lookup name.toList))

end Sources

/-! ## Loading -/

/-- A value read by `read`, or a default. -/
def orDefault {α : Type} (read : Value → Except SettingsError α) (default : α) :
    Option Value → Except SettingsError α
  | none => .ok default
  | some v => read v

namespace Settings

/-- The names of the settings. -/
def names : List String :=
  ["ls_colors", "use_forward_slash", "drive_letters", "track_exec_bit", "working_dir",
   "file_highlight", "commands", "aliases", "scripts", "search_path", "command_style",
   "args_lexer", "lang_lexer", "pygments_style", "log_level"]

/-- The commands whose arguments are paths by default. -/
def defaultFileHighlight : List Text :=
  ["cat", "cd", "less", "ls", "nano", "vi"].map String.toList

/-- The settings that the sources give. -/
def load (s : Sources) : Except SettingsError Settings := do
  let fileHighlight ← s.structured "file_highlight"
  let commands ← s.structured "commands"
  let aliases ← s.structured "aliases"
  let scripts ← s.structured "scripts"
  return {
    lsColors := ← orDefault Value.asOptionalText none (s.plain "ls_colors")
    useForwardSlash := ← orDefault Value.asBoolean false (s.plain "use_forward_slash")
    driveLetters := ← orDefault Value.asBoolean false (s.plain "drive_letters")
    trackExecBit := ← orDefault Value.asBoolean true (s.plain "track_exec_bit")
    workingDir :=
      (← orDefault Value.asOptionalText none (s.plain "working_dir")).map cleanPath
    fileHighlight := ← orDefault Value.asTexts defaultFileHighlight fileHighlight
    commands := ← orDefault Value.asTexts [] commands
    aliases := ← orDefault Value.asTextRecord [] aliases
    scripts := ← orDefault Value.asTexts [] scripts
    searchPath := ← orDefault Value.asBoolean true (s.plain "search_path")
    commandStyle := ← orDefault Value.asText "class:command".toList (s.plain "command_style")
    argsLexer := ← orDefault Value.asOptionalText (some "bash".toList) (s.plain "args_lexer")
    langLexer := ← orDefault Value.asOptionalText none (s.plain "lang_lexer")
    tokenStyle := ← orDefault Value.asText "default".toList (s.plain "pygments_style")
    logLevel := ← orDefault Value.asText "INFO".toList (s.plain "log_level") }

/-- The log levels. -/
def logLevels : List Text :=
  ["TRACE", "DEBUG", "INFO", "SUCCESS", "WARNING", "ERROR", "CRITICAL"].map String.toList

/-- Loads settings whose log level has to exist, in any case. -/
def loadChecked (s : Sources) : Except SettingsError Settings := do
  let settings ← load s
  let level := settings.logLevel.upper
  if logLevels.contains level then return settings else throw (.unknownLevel level)

end Settings

end ShellHighlight
