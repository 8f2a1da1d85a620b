/-
  Sessions: a highlighter at work on a machine that changes.

  A session answers requests one after the other (`Session.after`, `Session.reply`,
  `Session.run`): lines are highlighted, names are registered, and the files and
  variables of the machine change in between.
-/
import ShellHighlight.Highlighter

namespace ShellHighlight

/-- A highlighter and the machine that it works on. -/
structure Session where
  highlighter : Highlighter
  world : World
  deriving Inhabited

/-- What is asked of a session. -/
inductive Request where
  /-- Highlight a line. -/
  | highlight (e : Editor) (buffer : Text)
  /-- Register commands whose arguments are paths. -/
  | addFileCommands (names : List Text)
  /-- Register commands. -/
  | addCommands (names : List Text)
  /-- Define an alias. -/
  | addAlias (name expansion : Text)
  /-- Tell which names are known. -/
  | known (names : List Text)
  /-- Put entries at places of the file tree. -/
  | putEntries (entries : List (Place × Entry))
  /-- Remove what is at a place of the file tree. -/
  | removeEntry (place : Place)
  /-- Set variables of the environment, or remove them. -/
  | setVariables (values : List (Text × Option Text))

/-- The answer to a request. -/
inductive Reply where
  /-- The mode of a line and its fragments. -/
  | highlighted (mode : Mode) (s : Styled)
  /-- The commands whose arguments are paths. -/
  | fileCommands (names : List Text)
  /-- For each name, whether it is a command or a script, and whether it is an
      alias. -/
  | known (answers : List (Bool × Bool))
  /-- Nothing is to be said. -/
  | done
  deriving DecidableEq, Repr

namespace Session

/-- The session after a request. -/
def after (s : Session) : Request → Session
  | .addFileCommands names => { s with highlighter := s.highlighter.addFileCommands names }
  | .addCommands names =>
    { s with highlighter :=
        { s.highlighter with registry := s.highlighter.registry.addCommands names } }
  | .addAlias name expansion =>
    { s with highlighter :=
        { s.highlighter with registry := s.highlighter.registry.addAlias name expansion } }
  | .putEntries entries => { s with world := { s.world with tree := s.world.tree.insertAll entries } }
  | .removeEntry place => { s with world := { s.world with tree := s.world.tree.remove place } }
  | .setVariables values =>
    { s with world := values.foldl (fun w v => w.setEnvironment v.1 v.2) s.world }
  | .highlight _ _ => s
  | .known _ => s

/-- The answer to a request. -/
def reply (s : Session) : Request → Reply
  | .highlight e buffer =>
    .highlighted (s.highlighter.mode s.world e buffer) (s.highlighter.highlight s.world e buffer)
  | .addFileCommands names => .fileCommands (s.highlighter.addFileCommands names).fileCommandNames
  | .known names =>
    .known (names.map fun name =>
      (s.highlighter.registry.isCommandOrScript s.world name, s.highlighter.registry.isAlias name))
  | _ => .done

/-- The answers to a list of requests. -/
def run (s : Session) : List Request → List Reply
  | [] => []
  | r :: rs => s.reply r :: (s.after r).run rs

end Session

end ShellHighlight
