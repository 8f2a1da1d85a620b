/-
  Splitting a command line into words.

  Words stand between separators (space, tab, carriage return, line feed).
  Within a word a backslash takes the next code point as it is, single quotes
  take everything up to the next one, and double quotes take everything but a
  backslash in front of a double quote or of a backslash.

  * `Scan` is the state of the splitter and `Scan.step` reads one code point;
    a word is handed out by the separator behind it;
  * `splitLine` is the words of a finished line, and fails when the line ends
    in quotes or behind a backslash;
  * `splitOpen` is the words of a line that is still being typed: it takes a
    word in open quotes as it stands.
-/
import ShellHighlight.Text.Basic

namespace ShellHighlight

/-- The code points between words. -/
def isSeparator (c : Char) : Bool :=
  c == ' ' || c == '\t' || c == '\r' || c == '\n'

/-- The marks that enclose quoted text. -/
inductive QuoteMark where
  | single
  | double
  deriving DecidableEq, Repr

/-- The code point of a mark. -/
def QuoteMark.char : QuoteMark → Char
  | .single => '\''
  | .double => '"'

/-- The mark that `c` is. -/
def QuoteMark.ofChar? (c : Char) : Option QuoteMark :=
  if c == '\'' then some .single else if c == '"' then some .double else none

/-! ## The splitter -/

/-- The state of the splitter, with the value of the word read so far. -/
inductive Scan where
  /-- No word has been begun. -/
  | between
  /-- In a word, outside of quotes. -/
  | bare (word : Text)
  /-- In a word, within quotes. -/
  | quoted (mark : QuoteMark) (word : Text)
  /-- Behind a backslash, within double quotes or outside of quotes. -/
  | escaping (inQuotes : Bool) (word : Text)
  deriving DecidableEq, Repr

namespace Scan

/-- Reads a code point that is no separator outside of quotes. -/
def extend (word : Text) (c : Char) : Scan :=
  if c == '\\' then .escaping false word
  else match QuoteMark.ofChar? c with
    | some mark => .quoted mark word
    | none => .bare (word ++ [c])

/-- Reads one code point: the word that it ends, if any, and the next state. -/
def step : Scan → Char → Option Text × Scan
  | .between, c => if isSeparator c then (none, .between) else (none, extend [] c)
  | .bare word, c => if isSeparator c then (some word, .between) else (none, extend word c)
  | .quoted mark word, c =>
    if c == mark.char then (none, .bare word)
    else if c == '\\' && mark = .double then (none, .escaping true word)
    else (none, .quoted mark (word ++ [c]))
  | .escaping false word, c => (none, .bare (word ++ [c]))
  | .escaping true word, c =>
    if c == '"' || c == '\\' then (none, .quoted .double (word ++ [c]))
    else (none, .quoted .double (word ++ ['\\', c]))

/-- The words that end within a text read from a state, and the state behind
    it. -/
def run : Scan → Text → List Text × Scan
  | s, [] => ([], s)
  | s, c :: t =>
    let r := run (s.step c).2 t
    ((s.step c).1.toList ++ r.1, r.2)

end Scan

/-! ## Finished and open lines -/

/-- Why a line is not finished. -/
inductive SplitError where
  /-- It ends within quotes. -/
  | noClosingQuote
  /-- It ends with the backslash of an escape. -/
  | noEscapedCharacter
  deriving DecidableEq, Repr

/-- The wording of an error. -/
def SplitError.message : SplitError → Text
  | .noClosingQuote => "No closing quotation".toList
  | .noEscapedCharacter => "No escaped character".toList

/-- The last word of a finished line that leaves the splitter in a state. -/
def Scan.finish : Scan → Except SplitError (Option Text)
  | .between => .ok none
  | .bare word => .ok (some word)
  | .quoted _ _ => .error .noClosingQuote
  | .escaping _ _ => .error .noEscapedCharacter

/-- The last word of an open line that leaves the splitter in a state. A word
    that is empty up to the backslash of an escape is not reported. -/
def Scan.leftover : Scan → Option Text
  | .between => none
  | .bare word => some word
  | .quoted _ word => some word
  | .escaping _ word => if word.isEmpty then none else some word

/-- The words of a finished line. -/
def splitLine (t : Text) : Except SplitError (List Text) :=
  let r := Scan.between.run t
  r.2.finish.map fun last => r.1 ++ last.toList

/-- The words of a line that is still being typed. -/
def splitOpen (t : Text) : List Text :=
  let r := Scan.between.run t
  r.1 ++ r.2.leftover.toList

/-- What a line is read for. -/
inductive Reading where
  /-- The line has been accepted. -/
  | acceptLine
  /-- The line is to be completed. -/
  | complete
  deriving DecidableEq, Repr

/-- The words in front of the cursor. A negative cursor stands at the start. -/
def wordsBefore (buffer : Text) (cursor : Int) : Reading → Except SplitError (List Text)
  | .acceptLine => splitLine (buffer.take cursor.toNat)
  | .complete => .ok (splitOpen (buffer.take cursor.toNat))

end ShellHighlight
