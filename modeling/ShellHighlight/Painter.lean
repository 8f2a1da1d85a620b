/-
  Painters: what gives styles to a part of a line without changing its text.

  * A painter uses one style for everything, or the classes of the tokens that
    a lexer yields (`Painter`);
  * tokens that do not add up to the text are not used: the text is then left
    without a style (`Painter.paint`), as it is where no painter is configured
    (`paintWith`).
-/
import ShellHighlight.Styled
import ShellHighlight.Text.Capital

namespace ShellHighlight

/-- A piece of text with its kind, such as `Literal.Number`, which is given by
    the names from the outermost kind inwards. -/
structure Token where
  kind : List Text
  text : Text
  deriving DecidableEq, Repr, Inhabited

/-- A name that no kind has, because it does not begin with a capital
    letter. -/
structure KindError where
  name : Text
  deriving DecidableEq, Repr

/-- The wording of the error. -/
def KindError.message (e : KindError) : Text :=
  "'_TokenType' object has no attribute '".toList ++ e.name ++ "'".toList

namespace Token

/-- The class of the tokens of a kind. -/
def className (kind : List Text) : Text :=
  Text.lower (List.intercalate ['.'] ("pygments".toList :: kind))

/-- The style of a token. -/
def style (k : Token) : Text :=
  "class:".toList ++ className k.kind

/-- The names that stand for a kind further inside if they come first. -/
def shortcuts : List (Text × List Text) :=
  [("Token".toList, []), ("String".toList, ["Literal".toList, "String".toList]),
   ("Number".toList, ["Literal".toList, "Number".toList])]

/-- The kind with the given name inside another kind. -/
def inner (kind : List Text) (name : Text) : Except KindError (List Text) :=
  if !name.head?.any isCapital then .error ⟨name⟩
  else if kind.isEmpty then .ok ((shortcuts.lookup name).getD [name])
  else .ok (kind ++ [name])

/-- The kind that a dotted name denotes. The empty name denotes the root of all
    kinds. -/
def kindOf (name : Text) : Except KindError (List Text) :=
  if name.isEmpty then .ok [] else (name.splitOn '.').foldlM inner []

end Token

/-! ## Lexers -/

/-- The classes of code points that the run lexer tells apart. -/
inductive RunClass where
  | letter | digit | space
  deriving DecidableEq, Repr

namespace RunClass

/-- The class of a code point. Punctuation has none. -/
def of? (c : Char) : Option RunClass :=
  if c.isAlpha then some letter
  else if c.isDigit then some digit
  else if c == ' ' || c == '\t' || c == '\n' then some space
  else none

/-- The kind of the tokens of a class. -/
def kind : RunClass → List Text
  | letter => ["Name".toList]
  | digit => ["Literal".toList, "Number".toList, "Integer".toList]
  | space => ["Text".toList, "Whitespace".toList]

end RunClass

/-- How a text is cut into tokens. -/
inductive Lexer where
  /-- One token for the whole text. -/
  | plain
  /-- One token for each run of letters, digits or spaces of ASCII, and for
      each other code point. -/
  | runs
  /-- These tokens, whatever the text is. -/
  | constant (tokens : List Token)
  /-- Whatever tokens are read in a text. -/
  | custom (read : Text → List Token)

namespace Lexer

/-- `t` with every line ending written as one line feed. -/
def unifyLineEnds : Text → Text
  | [] => []
  | '\r' :: '\n' :: t => '\n' :: unifyLineEnds t
  | '\r' :: t => '\n' :: unifyLineEnds t
  | c :: t => c :: unifyLineEnds t

/-- The text that a lexer sees: without a byte order mark, and with unified
    line ends. -/
def normalize (t : Text) : Text :=
  match t with
  | '\uFEFF' :: t => unifyLineEnds t
  | t => unifyLineEnds t

/-- The tokens of a text by runs. -/
def runTokens : Text → List Token
  | [] => []
  | c :: t =>
    match RunClass.of? c, runTokens t with
    | none, ts => ⟨["Punctuation".toList], [c]⟩ :: ts
    | some k, [] => [⟨k.kind, [c]⟩]
    | some k, next :: ts =>
      if next.kind = k.kind then ⟨k.kind, c :: next.text⟩ :: ts else ⟨k.kind, [c]⟩ :: next :: ts

/-- The tokens of a text. -/
def tokens (l : Lexer) (t : Text) : List Token :=
  match l with
  | plain => [⟨["Text".toList], normalize t⟩]
  | runs => runTokens (normalize t)
  | constant ts => ts
  | custom read => read t

/-- The lexer of a name, in any case. -/
def ofName? (name : Text) : Option Lexer :=
  if Text.lower name == "text".toList then some plain else none

/-- The wording of the error for a name that no lexer has. -/
def unknownMessage (name : Text) : Text :=
  "unknown pygments lexer: ".toList ++ name

end Lexer

/-! ## Painting -/

/-- What gives styles to a text. -/
inductive Painter where
  /-- One style for everything. -/
  | fixed (style : Text)
  /-- The classes of the tokens of a lexer. -/
  | lexed (lexer : Lexer)

namespace Painter

/-- The fragments of a list of tokens. -/
def fragments (ts : List Token) : Styled :=
  ts.flatMap fun k => Styled.run k.style k.text

/-- `t` with the styles that a painter gives it. -/
def paint (p : Painter) (t : Text) : Styled :=
  match p with
  | fixed style => Styled.run style t
  | lexed lexer =>
    let painted := fragments (lexer.tokens t)
    if painted.plainText = t then painted else Styled.unstyled t

end Painter

/-- `t` painted by a painter that may be missing. -/
def paintWith (p : Option Painter) (t : Text) : Styled :=
  match p with
  | none => Styled.unstyled t
  | some p => p.paint t

end ShellHighlight
