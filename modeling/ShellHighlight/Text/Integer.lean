/-
  Integers written in decimal.

  * An integer is an optional sign and a run of decimal digits of any script,
    with single underscores between digits, between optional spaces
    (`wellFormedRun`, `readInteger`);
  * a run of more than `digitLimit` digits is refused whatever follows it;
  * `IntegerError.message` words the two ways to fail.
-/
import ShellHighlight.Text.Blank
import ShellHighlight.Text.DecimalDigit
import ShellHighlight.Text.Quoted

namespace ShellHighlight

/-- Why a text is not read as an integer. -/
inductive IntegerError where
  /-- The text does not have the form of an integer. -/
  | malformed (text : Text)
  /-- The number has more digits than are converted. -/
  | tooLong (digits : Nat)
  deriving DecidableEq, Repr

/-- The largest number of digits that is converted. -/
def digitLimit : Nat := 4300

/-- The wording of an error. The quoted form of the text is cut to 200 code
    points. -/
def IntegerError.message : IntegerError → Text
  | .malformed t => "invalid literal for int() with base 10: ".toList ++ (quoted t).take 200
  | .tooLong n =>
    "Exceeds the limit (4300 digits) for integer string conversion: value has ".toList ++
      (toString n).toList ++
      " digits; use sys.set_int_max_str_digits() to increase the limit".toList

/-- The spaces around an integer: those of ASCII without the separators
    U+001C to U+001F, and beyond ASCII every blank. -/
def isIntegerSpace (c : Char) : Bool :=
  isBlank c && !(28 ≤ c.toNat && c.toNat ≤ 31)

/-- Whether `run` begins and ends with a digit and has no two underscores in a
    row; `owed` tells that a digit has to come next. -/
def wellFormedRun : (owed : Bool) → (run : Text) → Bool
  | owed, [] => !owed
  | owed, c :: run => if c == '_' then !owed && wellFormedRun true run else wellFormedRun false run

/-- The number that a sequence of digits denotes. -/
def digitsValue (ds : List Nat) : Nat :=
  ds.foldl (fun n d => 10 * n + d) 0

/-- Splits off an optional sign; `true` is minus. -/
def splitSign : Text → Bool × Text
  | '-' :: t => (true, t)
  | '+' :: t => (false, t)
  | t => (false, t)

/-- Reads a decimal integer. -/
def readInteger (t : Text) : Except IntegerError Int :=
  let (negative, body) := splitSign (t.dropWhile isIntegerSpace)
  let inRun (c : Char) := c == '_' || (digitValue? c).isSome
  let run := body.takeWhile inRun
  let digits := run.filterMap digitValue?
  if !wellFormedRun true run then .error (.malformed t)
  else if digitLimit < digits.length then .error (.tooLong digits.length)
  else if !(body.dropWhile inRun).all isIntegerSpace then .error (.malformed t)
  else .ok (if negative then -(digitsValue digits : Int) else digitsValue digits)

end ShellHighlight
