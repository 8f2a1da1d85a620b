/-
  The names that a shell knows: commands, scripts and aliases.

  A name is a command or a script if it has been registered as one, or if the
  search for programs is on and finds it. The empty name is none.
-/
import ShellHighlight.World.Search

namespace ShellHighlight

/-- The commands, aliases and scripts of a shell. -/
structure Registry where
  commands : List Text
  /-- The aliases with what they stand for. -/
  aliases : List (Text × Text)
  scripts : List Text
  /-- Whether programs on the search path count as commands. -/
  searchPath : Bool
  deriving DecidableEq, Repr, Inhabited

namespace Registry

/-- Registers commands. -/
def addCommands (r : Registry) (names : List Text) : Registry :=
  { r with commands := names ++ r.commands }

/-- Defines an alias; an earlier alias of that name is replaced. -/
def addAlias (r : Registry) (name expansion : Text) : Registry :=
  { r with aliases := (name, expansion) :: r.aliases.filter fun a => a.1 != name }

/-- Whether `name` is a command or a script. -/
def isCommandOrScript (r : Registry) (w : World) (name : Text) : Bool :=
  !name.isEmpty &&
    (r.commands.contains name || r.scripts.contains name || (r.searchPath && w.findsProgram name))

/-- Whether `name` is an alias. -/
def isAlias (r : Registry) (name : Text) : Bool :=
  r.aliases.any fun a => a.1 == name

end Registry

end ShellHighlight
