/-
  The command that the first token of a line invokes.

  * An assignment `name=` in front of the command is passed over, if something
    follows it (`dropAssignment`), and so is one colon;
  * the name is the first word of what is left, with its quotes removed
    (`commandName`).
-/
import ShellHighlight.Text.Blank
import ShellHighlight.Word.Splitter

namespace ShellHighlight

/-- The code points of the name of a variable. -/
def isNameChar (c : Char) : Bool :=
  c.isAlpha || c.isDigit || c == '_'

/-- Whether a name begins with `t`. -/
def beginsName : Text → Bool
  | [] => false
  | c :: _ => c.isAlpha || c == '_'

/-- `t` without an assignment in front of a code point that is not blank. -/
def dropAssignment (t : Text) : Text :=
  match t.dropWhile isNameChar with
  | '=' :: c :: rest => if beginsName t && !isBlank c then c :: rest else t
  | _ => t

/-- `t` without a leading colon. -/
def dropColon : Text → Text
  | ':' :: t => t
  | t => t

/-- The name of the command that a token invokes. -/
def commandName (token : Text) : Text :=
  let name := dropColon (dropAssignment (Text.trim token))
  (splitOpen name).headD name

end ShellHighlight
