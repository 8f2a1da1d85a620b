/-
  What a path names, and the style that goes with it.

  * `FileRole` is what a path can be classified as. A link comes before what
    it leads to, then directories, programs, names whose extension has a
    style, and other regular files;
  * `Classifier.target` is the path that is looked up: home directories are
    written out, and a relative path begins at the configured directory;
  * `Classifier.classify` gives the role and the style of a path. It fails
    when the lookup fails for any reason but that nothing is there.
-/
import ShellHighlight.Color.Table
import ShellHighlight.World.Home

namespace ShellHighlight

/-- What a path names. -/
inductive FileRole where
  | symlink
  | directory
  | executable
  /-- The extension of the name has a style of its own. -/
  | extension
  | regularFile
  | unstyled
  deriving DecidableEq, Repr

/-- The key of a role in a table of styles. -/
def FileRole.key : FileRole → Text
  | symlink => "ln".toList
  | directory => "di".toList
  | executable => "ex".toList
  | extension => "*".toList
  | regularFile => "fi".toList
  | unstyled => []

/-- The pattern of the extension of a name, from its last dot on. -/
def extensionPattern? (name : Text) : Option Text :=
  if name.contains '.' then some ('*' :: '.' :: (name.reverse.takeWhile (· != '.')).reverse)
  else none

/-- How paths are classified. -/
structure Classifier where
  styles : StyleTable
  /-- Whether programs have a role of their own. -/
  trackPrograms : Bool
  /-- The directory of relative paths, if it is not that of the process. -/
  directory : Option Text
  deriving DecidableEq, Repr, Inhabited

namespace Classifier

/-- The path that is looked up for `path`. -/
def target (k : Classifier) (w : World) (path : Text) : Except LookupError Text :=
  (w.expandHome path).map fun expanded =>
    match k.directory with
    | some dir => joinPath dir expanded
    | none => expanded

/-- The entry that is looked up for `path`; none if nothing is there. -/
def entry? (k : Classifier) (w : World) (path : Text) : Except LookupError (Option Entry) := do
  match w.inspect (← k.target w path) with
  | .ok e => .ok (some e)
  | .error .nullByte => .error .nullByte
  | .error (.refused reason) =>
    if reason.isMissing then .ok none else .error (.refused reason)

/-- The style of the extension of a name. -/
def extensionStyle (k : Classifier) (name : Text) : Text :=
  match extensionPattern? name with
  | some pattern => k.styles.style pattern
  | none => []

/-- The role of an entry at the path `target`, where `extensionStyle` is the
    style of the extension of its name. -/
def role (k : Classifier) (w : World) (target : Text) (entry : Option Entry)
    (extensionStyle : Text) : FileRole :=
  match entry with
  | some (.link _) => .symlink
  | some .directory => .directory
  | some .locked => .directory
  | e =>
    if e.isSome && k.trackPrograms && w.mayExecute target then .executable
    else if !extensionStyle.isEmpty then .extension
    else if (e.map Entry.isRegular).getD false then .regularFile
    else .unstyled

/-- The role and the style of a path, where the extension is that of `name` if
    a name is given. -/
def classify (k : Classifier) (w : World) (path : Text) (name : Option Text) :
    Except LookupError (FileRole × Text) := do
  if path.isEmpty then return (.unstyled, [])
  let target ← k.target w path
  let entry ← k.entry? w path
  let extensionStyle := k.extensionStyle (name.getD (baseName path))
  match k.role w target entry extensionStyle with
  | .extension => return (.extension, extensionStyle)
  | .unstyled => return (.unstyled, [])
  | r => return (r, k.styles.style r.key)

/-- The style of a path. -/
def styleOf (k : Classifier) (w : World) (path : Text) (name : Option Text) :
    Except LookupError Text :=
  (k.classify w path name).map (·.2)

end Classifier

end ShellHighlight
