/-
  Paths as texts and as sequences of names.

  * `components` are the names in a path, `isAbsolute` tells where it begins;
  * `joinPath` puts a relative path behind a directory, `cleanPath` removes
    what does not change a path, and `baseName` is its last name.
-/
import ShellHighlight.Text.Basic

namespace ShellHighlight

/-- A place in a file tree: the names on the way from the root to it. -/
abbrev Place := List Text

/-- Whether a path begins at the root. -/
def isAbsolute (path : Text) : Bool :=
  path.head? == some '/'

/-- The names in a path. Slashes in a row count as one. -/
def components (path : Text) : Place :=
  (path.splitOn '/').filter (!·.isEmpty)

/-- Whether a path ends with a slash. -/
def endsWithSlash (path : Text) : Bool :=
  path.getLast? == some '/'

/-- `path` seen from the directory `dir`. An absolute path is the same from
    everywhere. -/
def joinPath (dir path : Text) : Text :=
  if isAbsolute path then path
  else if dir.isEmpty || endsWithSlash dir then dir ++ path
  else dir ++ '/' :: path

/-- The slashes that a path begins with: two stay two, and more are one. -/
def rootOf (path : Text) : Text :=
  match (path.takeWhile (· == '/')).length with
  | 0 => []
  | 2 => ['/', '/']
  | _ => ['/']

/-- `path` without repeated slashes, a slash at the end and components `.`; the
    empty path is `.`. -/
def cleanPath (path : Text) : Text :=
  let cleaned := rootOf path ++ List.intercalate ['/'] ((components path).filter (· != ['.']))
  if cleaned.isEmpty then ['.'] else cleaned

/-- What follows the last slash of a path. -/
def baseName (path : Text) : Text :=
  (path.reverse.takeWhile (· != '/')).reverse

end ShellHighlight
