/-
  File trees.

  * `Entry` is what can stand at a place of a tree, and `Errno` is why the
    system refuses to look at it;
  * a `Tree` is an entry with what is below it. `Tree.at?` is the view of a
    tree, and `Tree.insert` and `Tree.remove` change it; the directories above
    an inserted entry are added where there is nothing;
  * a `Position` is a part of a tree with the way back to the root.
-/
import ShellHighlight.World.Path

namespace ShellHighlight

/-- Why the system refuses to look something up. -/
inductive Errno where
  /-- There is nothing of this name. -/
  | noEntry
  /-- A component of the path is no directory. -/
  | notDirectory
  /-- A directory may not be traversed. -/
  | accessDenied
  /-- The operation is not permitted. -/
  | notPermitted
  /-- Input or output failed. -/
  | inputOutput
  /-- Too many links. -/
  | linkLoop
  /-- A name or the path is too long. -/
  | nameTooLong
  /-- The device is in use. -/
  | busy
  deriving DecidableEq, Repr

/-- Whether the error says that there is nothing at the path. -/
def Errno.isMissing : Errno → Bool
  | noEntry | notDirectory => true
  | _ => false

/-- What stands at a place of a file tree. -/
inductive Entry where
  | directory
  /-- A directory that may not be traversed. -/
  | locked
  /-- A regular file that is not executable. -/
  | file
  /-- A regular file that is executable. -/
  | program
  /-- A special file: a pipe, a socket or a device. Such files have permissions
      as regular ones do. -/
  | special (executable : Bool)
  /-- A symbolic link. -/
  | link (target : Text)
  /-- Something that the system refuses to look at. -/
  | broken (reason : Errno)
  deriving DecidableEq, Repr

namespace Entry

/-- Whether the entry is a directory. -/
def isDirectory : Entry → Bool
  | directory | locked => true
  | _ => false

/-- Whether the entry is a regular file. -/
def isRegular : Entry → Bool
  | file | program => true
  | _ => false

/-- Whether the entry may be executed or searched. -/
def isExecutable : Entry → Bool
  | directory | program => true
  | special executable => executable
  | _ => false

end Entry

/-- A file tree: an entry, and what is below it by name. Something can only be
    reached through directories, but it is kept below any entry. -/
inductive Tree where
  | node (entry : Entry) (below : List (Text × Tree))
  deriving Repr

namespace Tree

/-- The tree that is an empty directory. -/
def empty : Tree := node .directory []

instance : Inhabited Tree := ⟨empty⟩

/-- The entry at the root of a tree. -/
def entry : Tree → Entry
  | node e _ => e

/-- What is below the root of a tree. -/
def children : Tree → List (Text × Tree)
  | node _ ts => ts

/-- Puts a tree below the root. -/
def putChild (t : Tree) (name : Text) (child : Tree) : Tree :=
  node t.entry ((name, child) :: t.children.filter fun r => r.1 != name)

/-- The part of a tree at a place. -/
def at? (t : Tree) : Place → Option Tree
  | [] => some t
  | name :: place =>
    match t.children.lookup name with
    | some child => child.at? place
    | none => none

/-- Puts an entry at a place; what is below that place stays. -/
def insert (t : Tree) (place : Place) (e : Entry) : Tree :=
  match place with
  | [] => node e t.children
  | name :: place => t.putChild name (((t.children.lookup name).getD empty).insert place e)

/-- Puts entries at places, one after the other. -/
def insertAll (t : Tree) (entries : List (Place × Entry)) : Tree :=
  entries.foldl (fun t r => t.insert r.1 r.2) t

/-- Removes what is at a place and below it. The root stays. -/
def remove (t : Tree) (place : Place) : Tree :=
  match place with
  | [] => node t.entry []
  | [name] => node t.entry (t.children.filter fun r => r.1 != name)
  | name :: place =>
    match t.children.lookup name with
    | some child => t.putChild name (child.remove place)
    | none => t

end Tree

/-! ## Positions -/

/-- A position in a file tree: the part of the tree there, and the parts above
    it, the nearest first. -/
structure Position where
  tree : Tree
  above : List Tree
  deriving Repr, Inhabited

namespace Position

/-- The position of the root. -/
def root (t : Tree) : Position := ⟨t, []⟩

/-- The position one step down. -/
def child? (p : Position) (name : Text) : Option Position :=
  (p.tree.children.lookup name).map (⟨·, p.tree :: p.above⟩)

/-- The position one step up. The root has nothing above it. -/
def parent (p : Position) : Position :=
  match p.above with
  | [] => p
  | t :: ts => ⟨t, ts⟩

/-- The position one step down. A directory that has been removed is empty, but
    there is still a way up from it. -/
def below (p : Position) (name : Text) : Position :=
  (p.child? name).getD ⟨Tree.empty, p.tree :: p.above⟩

/-- The position at a place below. -/
def descend (p : Position) (place : Place) : Position :=
  place.foldl below p

end Position

end ShellHighlight
