/-
  The command line of the program.

  There are three commands, with options and arguments in any order
  (`Command.parse?`). What begins with a minus sign is an option, if anything
  follows the sign; behind `--` everything is an argument.
-/
import ShellHighlight.Text.Basic

namespace ShellHighlight.Console

/-- What the program is asked to do. -/
inductive Command where
  /-- Print what a line is highlighted as. -/
  | mode (line : Text)
  /-- Print a line, or a table of its fragments. -/
  | render (line : Text) (forwardSlash spans : Bool)
  /-- Read lines. -/
  | repl
  deriving DecidableEq, Repr

/-- The options and the arguments of a command line. -/
structure Arguments where
  options : List Text
  arguments : List Text
  deriving DecidableEq, Repr

/-- Whether a word is an option. -/
def isOption (word : Text) : Bool :=
  word.head? == some '-' && 1 < word.length

/-- Tells options and arguments apart. -/
def Arguments.ofWords : List Text → Arguments
  | [] => ⟨[], []⟩
  | w :: ws =>
    if w == ['-', '-'] then ⟨[], ws⟩
    else
      let rest := ofWords ws
      if isOption w then ⟨w :: rest.options, rest.arguments⟩
      else ⟨rest.options, w :: rest.arguments⟩

namespace Command

/-- The option of `render` for slashes between segments. -/
def forwardSlashOption : Text := "--forward-slash".toList

/-- The option of `render` for a table. -/
def spansOption : Text := "--spans".toList

/-- The command with a name and with given words. -/
def ofName? (name : Text) (a : Arguments) : Option Command :=
  if name == "mode".toList then
    match a.options, a.arguments with
    | [], [line] => some (.mode line)
    | _, _ => none
  else if name == "render".toList then
    if a.options.all fun o => o == forwardSlashOption || o == spansOption then
      match a.arguments with
      | [line] =>
        some (.render line (a.options.contains forwardSlashOption) (a.options.contains spansOption))
      | _ => none
    else none
  else if name == "repl".toList then
    match a.options, a.arguments with
    | [], [] => some .repl
    | _, _ => none
  else none

/-- The command that a command line asks for. -/
def parse? : List Text → Option Command
  | [] => none
  | name :: words =>
    if name == ['-', '-'] then
      match words with
      | [] => none
      | name :: words => ofName? name (Arguments.ofWords words)
    else ofName? name (Arguments.ofWords words)

end Command

end ShellHighlight.Console
