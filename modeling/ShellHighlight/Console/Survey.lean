/-
  The places of the machine that highlighting a line looks at.

  The highlighter works on a picture of the machine (`World`). Before a line
  is highlighted the picture is completed at the places that its words may
  lead to (`Survey.places`) and where its command may be found
  (`Survey.programs`).
-/
import ShellHighlight.Highlighter

namespace ShellHighlight.Console.Survey

/-- The place that the names of a path lead to from `here` when there are no
    links. -/
def settle (here : Place) : List Text → Place
  | [] => here
  | name :: names =>
    if name = ['.'] then settle here names
    else if name = ['.', '.'] then settle here.dropLast names
    else settle (here ++ [name]) names

/-- The place where a path begins. -/
def origin (dir : Place) (path : Text) : Place :=
  if isAbsolute path then [] else dir

/-- The places that the beginnings of a path lead to. -/
def beginnings (dir : Place) (path : Text) : List Place :=
  let names := components path
  (List.range (names.length + 1)).map fun n => settle (origin dir path) (names.take n)

/-- The places that the words of a line may lead to. -/
def places (h : Highlighter) (w : World) (line : Text) : List Place :=
  ((splitOpen line).flatMap fun word =>
    match h.classifier.target w word with
    | .ok path => beginnings w.directory path
    | .error _ => []).eraseDups

/-- The places where the program of a line may be. -/
def programs (h : Highlighter) (w : World) (line : Text) : List Place :=
  match Text.words line with
  | [] => []
  | token :: _ =>
    let name := commandName token
    if name.isEmpty || !h.registry.searchPath then []
    else
      let paths := if name.contains '/' then [name] else w.searchPath.map (joinPath · name)
      paths.map fun path => settle (origin w.directory path) (components path)

end ShellHighlight.Console.Survey
