/-
  The program.

  It takes a picture of the machine, as far as the line at hand needs it, and
  leaves everything else to the library. A file counts as executable where a
  program is searched for, since the permissions of other files are not seen.
-/
import ShellHighlight.Console.Run
import ShellHighlight.Console.Survey

namespace ShellHighlight.Console

/-- The variables that the program reads. -/
def knownVariables : List String :=
  ["HOME", "PATH", "LS_COLORS", "COLUMNS"] ++
    Settings.names.map fun name => String.ofList (Sources.variableStem ++ name.toList).upper

/-- The environment, as far as the program reads it. -/
def readEnvironment : IO (List (Text × Text)) := do
  let mut found := []
  for name in knownVariables do
    if let some value ← IO.getEnv name then
      found := found ++ [(name.toList, value.toList)]
  return found

/-- The text of a place. -/
def placeText (place : Place) : String :=
  "/" ++ "/".intercalate (place.map String.ofList)

/-- The path of a place without links, empty if nothing is there. -/
def linkTarget (place : Place) : IO Text := do
  let path := (← IO.currentDir) / placeText place
  try return (← IO.FS.realPath path).toString.toList catch _ => return []

/-- What is at a place of the machine. -/
def look (place : Place) : IO (Option Entry) := do
  let path := (← IO.currentDir) / placeText place
  try
    match (← path.symlinkMetadata).type with
    | .dir => return some .directory
    | .file => return some .file
    | .symlink => return some (.link (← linkTarget place))
    | .other => return some (.special false)
  catch e =>
    match e with
    | .permissionDenied .. => return some (.broken .accessDenied)
    | _ => return none

/-- The picture of the machine, completed for a line. -/
def survey (h : Highlighter) (w : World) (line : Text) : IO World := do
  let mut tree := w.tree
  for place in Survey.places h w line do
    if let some e ← look place then
      tree := tree.insert place e
  for place in Survey.programs h w line do
    let real := components (← linkTarget place)
    if let some .file ← look real then
      tree := tree.insertAll [(place, .program), (real, .program)]
  return { w with tree := tree }

/-- The picture of the machine without any file. -/
def surroundings : IO World := do
  let directory := components (← IO.currentDir).toString.toList
  return ⟨Tree.empty.insert directory .directory, directory, ← readEnvironment, []⟩

/-- The picture of the machine for a line. -/
def surroundingsOf (line : Text) : IO World := do
  let w ← surroundings
  match Settings.load ⟨[], w.environment⟩ with
  | .error _ => return w
  | .ok settings => match settings.highlighter w with
    | .error _ => return w
    | .ok h => survey h w line

/-- Prints an outcome, or why there is none. -/
def report (r : Except Failure Outcome) : IO UInt32 := do
  match r with
  | .ok o =>
    IO.print (String.ofList o.output)
    IO.eprint (String.ofList o.errors)
    return UInt32.ofNat o.status
  | .error e =>
    IO.eprintln (String.ofList e.message)
    return 1

/-- Reads lines and answers each of them, until one of them ends the reading. -/
partial def converse (reader : Reader) (w : World) (input : IO.FS.Stream) : IO Unit := do
  IO.print "> "
  (← IO.getStdout).flush
  let read ← input.getLine
  if read.isEmpty then return
  let line := (read.dropEndWhile (· == '\n')).toString.toList
  match reader.react (← survey reader.highlighter w line) line with
  | .stop => return
  | .skip => converse reader w input
  | .accept mode =>
    IO.println (String.ofList (mode.name ++ ' ' :: quoted line))
    converse reader w input

/-- Runs the command that reads lines. -/
def repl : IO UInt32 := do
  let w ← surroundings
  match loadSettings w [] with
  | .error e => report (.error e)
  | .ok settings => match Reader.ofSettings settings w with
    | .error e => report (.ok (.failed e))
    | .ok reader =>
      converse reader w (← IO.getStdin)
      return 0

/-- Runs a command line. -/
def start (words : List Text) : IO UInt32 := do
  match Command.parse? words with
  | some .repl => repl
  | some (.mode line) => report (run (← surroundingsOf line) words [])
  | some (.render line _ _) => report (run (← surroundingsOf line) words [])
  | none => report (.ok .misused)

end ShellHighlight.Console

/-- Runs the program. -/
def main (args : List String) : IO UInt32 :=
  ShellHighlight.Console.start (args.map String.toList)
