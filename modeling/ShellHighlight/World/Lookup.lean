/-
  Looking up a path in a file tree.

  * `Walk` is how far a lookup has come, and `Walk.run` goes through the
    remaining names one by one. Every name is looked up in a directory that
    may be traversed (`Position.step`); `.` stays, `..` goes up, and a link is
    followed unless it is the last name and the lookup is not to follow it;
  * a path that ends with a slash has to lead to a directory, and the last
    link is then followed in any case; so it is with a link that is last and
    whose text ends with a slash;
  * `World.inspect` looks at the place itself (a last link is not followed),
    and `World.reach` at what the place leads to.
-/
import ShellHighlight.World.Tree

namespace ShellHighlight

/-- What a program sees of the machine. -/
structure World where
  tree : Tree
  /-- The directory that relative paths begin at. They do so also when it has been
      removed from the tree. -/
  directory : Place
  /-- The environment: names and values. -/
  environment : List (Text × Text)
  /-- The home directories of the users; the current user has the empty
      name. -/
  homes : List (Text × Text)
  deriving Repr, Inhabited

/-- Why a path is not looked up. -/
inductive LookupError where
  /-- The path or a user's name holds the code point U+0000. -/
  | nullByte
  /-- The system refuses. -/
  | refused (reason : Errno)
  deriving DecidableEq, Repr

/-- The number of links that one lookup may follow. -/
def linkLimit : Nat := 40

/-- The largest size of a name, in UTF-8. -/
def nameLimit : Nat := 255

/-- The largest size of a path, in UTF-8. -/
def pathLimit : Nat := 4095

/-- The position `name` below `here`, as far as the system shows it. -/
def Position.enter (here : Position) (name : Text) : Except Errno Position :=
  if nameLimit < Text.byteCount name then .error .nameTooLong
  else match here.child? name with
    | none => .error .noEntry
    | some p => match p.tree.entry with
      | .broken reason => .error reason
      | _ => .ok p

/-- The position that `name` leads to from `here`. -/
def Position.step (here : Position) (name : Text) : Except Errno Position :=
  match here.tree.entry with
  | .directory =>
    if name = ['.'] then .ok here
    else if name = ['.', '.'] then .ok here.parent
    else here.enter name
  | .locked => .error .accessDenied
  | _ => .error .notDirectory

/-- How far a lookup has come. -/
structure Walk where
  /-- The position that has been reached. -/
  here : Position
  /-- The position where absolute paths begin. -/
  root : Position
  /-- The number of links that may still be followed. -/
  links : Nat
  /-- Whether the last name is followed if it is a link. -/
  follow : Bool
  /-- Whether the path has to lead to a directory. -/
  intoDirectory : Bool

namespace Walk

/-- The walk at the beginning of the path `path`. -/
def begin (w : Walk) (path : Text) : Walk :=
  if isAbsolute path then { w with here := w.root } else w

/-- The walk with what the end of the text `path` asks for. -/
def toEnd (w : Walk) (path : Text) : Walk :=
  if endsWithSlash path then { w with follow := true, intoDirectory := true } else w

/-- The walk with one link less to follow. -/
def spend (w : Walk) : Walk :=
  { w with links := w.links - 1 }

@[simp] theorem spend_links (w : Walk) : w.spend.links = w.links - 1 := rfl

@[simp] theorem begin_links (w : Walk) (path : Text) : (w.begin path).links = w.links := by
  unfold begin; split <;> rfl

@[simp] theorem toEnd_links (w : Walk) (path : Text) : (w.toEnd path).links = w.links := by
  unfold toEnd; split <;> rfl

/-- Goes through `names` from where `w` has come to. -/
def run (w : Walk) (names : List Text) : Except Errno Walk :=
  match names with
  | [] => .ok w
  | name :: names =>
    match w.here.step name with
    | .error reason => .error reason
    | .ok p =>
      match p.tree.entry with
      | .link target =>
        if names.isEmpty && !w.follow then .ok { w with here := p }
        else if target.isEmpty then .error .noEntry
        else if _h : w.links = 0 then .error .linkLoop
        else if names.isEmpty then
          run ((w.spend.begin target).toEnd target) (components target)
        else run (w.spend.begin target) (components target ++ names)
      | _ => run { w with here := p } names
termination_by (w.links, names.length)
decreasing_by
  · exact Prod.Lex.left _ _ (by simp only [toEnd_links, begin_links, spend_links]; omega)
  · exact Prod.Lex.left _ _ (by simp only [begin_links, spend_links]; omega)
  · exact Prod.Lex.right _ (Nat.lt_succ_self _)

/-- The entry where a walk ends. -/
def arrive (w : Walk) : Except Errno Entry :=
  if w.intoDirectory && !w.here.tree.entry.isDirectory then .error .notDirectory
  else .ok w.here.tree.entry

end Walk

namespace World

/-- The position of the current directory, which may have been removed. -/
def here (w : World) : Position :=
  (Position.root w.tree).descend w.directory

/-- The walk with which the lookup of `path` begins. -/
def walk (w : World) (follow : Bool) (path : Text) : Walk :=
  Walk.toEnd (Walk.begin ⟨w.here, Position.root w.tree, linkLimit, follow, false⟩ path) path

/-- What is at the end of `path`; a last link is followed if `follow` says
    so. -/
def lookup (w : World) (follow : Bool) (path : Text) : Except LookupError Entry :=
  if path.contains '\x00' then .error .nullByte
  else if path.isEmpty then .error (.refused .noEntry)
  else if pathLimit < Text.byteCount path then .error (.refused .nameTooLong)
  else
    let found := do (← (w.walk follow path).run (components path)).arrive
    found.mapError .refused

/-- What is at `path` itself. -/
def inspect (w : World) (path : Text) : Except LookupError Entry :=
  w.lookup false path

/-- What `path` leads to. -/
def reach (w : World) (path : Text) : Except LookupError Entry :=
  w.lookup true path

/-- Whether what `path` leads to may be executed or searched. -/
def mayExecute (w : World) (path : Text) : Bool :=
  match w.reach path with
  | .ok e => e.isExecutable
  | .error _ => false

/-- Whether `path` leads to a file that may be executed. -/
def isProgram (w : World) (path : Text) : Bool :=
  match w.reach path with
  | .ok e => e.isExecutable && !e.isDirectory
  | .error _ => false

/-- Makes `dir` the current directory; it is added to the tree if there is
    nothing. -/
def moveTo (w : World) (dir : Text) : World :=
  let place := components dir
  let tree := if (w.tree.at? place).isSome then w.tree else w.tree.insert place .directory
  { w with tree := tree, directory := place }

/-- The value of a variable of the environment. -/
def environmentValue? (w : World) (name : Text) : Option Text :=
  w.environment.lookup name

/-- Sets a variable of the environment, or removes it. -/
def setEnvironment (w : World) (name : Text) (value : Option Text) : World :=
  let others := w.environment.filter fun r => r.1 != name
  { w with environment := (value.map (name, ·)).toList ++ others }

end World

end ShellHighlight
