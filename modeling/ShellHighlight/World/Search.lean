/-
  Searching for the program of a command.

  A name with a slash is a path. Any other name is searched for in the
  directories of the variable `PATH`, or in the standard ones if it is not
  set; an empty entry is the current directory, and an empty `PATH` has no
  entries.
-/
import ShellHighlight.World.Lookup

namespace ShellHighlight.World

/-- The directories searched when `PATH` is not set. -/
def standardPath : Text := "/bin:/usr/bin".toList

/-- The directories that are searched for programs. -/
def searchPath (w : World) : List Text :=
  let path := (w.environmentValue? "PATH".toList).getD standardPath
  if path.isEmpty then [] else path.splitOn ':'

/-- Whether `name` names a program. -/
def findsProgram (w : World) (name : Text) : Bool :=
  if name.contains '/' then w.isProgram name
  else w.searchPath.any fun dir => w.isProgram (joinPath dir name)

end ShellHighlight.World
