/-
  The quoted form of a text, in which every code point can be told apart.

  * The text stands between single quotes, or between double quotes when it
    holds a single quote and no double one (`quoteMark`);
  * the enclosing quote and the backslash follow a backslash, tab, line feed
    and carriage return are `\t`, `\n` and `\r`, and any other code point that
    is not printable is `\xhh`, `\uhhhh` or `\Uhhhhhhhh`, whichever is the
    shortest that holds it.
-/
import ShellHighlight.Text.Hex
import ShellHighlight.Text.Printable

namespace ShellHighlight

/-- The quote that encloses the quoted form of `t`. -/
def quoteMark (t : Text) : Char :=
  if t.contains '\'' && !t.contains '"' then '"' else '\''

/-- The form of `c` between two of `mark`. -/
def escaped (mark c : Char) : Text :=
  if c == mark || c == '\\' then ['\\', c]
  else if c == '\t' then ['\\', 't']
  else if c == '\n' then ['\\', 'n']
  else if c == '\r' then ['\\', 'r']
  else if isPrintable c then [c]
  else if c.toNat < 0x100 then '\\' :: 'x' :: hex 2 c.toNat
  else if c.toNat < 0x10000 then '\\' :: 'u' :: hex 4 c.toNat
  else '\\' :: 'U' :: hex 8 c.toNat

/-- The quoted form of `t`. -/
def quoted (t : Text) : Text :=
  let mark := quoteMark t
  mark :: t.flatMap (escaped mark) ++ [mark]

end ShellHighlight
