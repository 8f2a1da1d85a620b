/-
  Home directories in paths: a path that begins with `~` or `~name`.
-/
import ShellHighlight.World.Lookup

namespace ShellHighlight.World

/-- The home directory of the current user: the variable `HOME` if it is set,
    else what the system knows. -/
def ownHome? (w : World) : Option Text :=
  (w.environmentValue? "HOME".toList).or (w.homes.lookup [])

/-- The home directory of the user of a name; the empty name is the current
    user's. -/
def home? (w : World) (name : Text) : Option Text :=
  if name.isEmpty then w.ownHome? else w.homes.lookup name

/-- `t` without the slashes at its end. -/
def dropSlashes (t : Text) : Text :=
  (t.reverse.dropWhile (· == '/')).reverse

/-- `path` with a home directory at its beginning written out. Without such a
    directory the path stays as it is. -/
def expandHome (w : World) (path : Text) : Except LookupError Text :=
  match path with
  | '~' :: t =>
    let name := t.takeWhile (· != '/')
    if name.contains '\x00' then .error .nullByte
    else match w.home? name with
      | none => .ok path
      | some home =>
        let expanded := dropSlashes home ++ t.dropWhile (· != '/')
        .ok (if expanded.isEmpty then ['/'] else expanded)
  | _ => .ok path

end ShellHighlight.World
