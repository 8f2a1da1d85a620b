/-
  What a style looks like on the terminal.

  * A style is a sequence of words, and each word sets attributes (`Setting`)
    on top of what the words before it have set;
  * a word `class:a,b` stands for the rules of the classes that it names, where
    a dotted class includes the classes that its name begins with
    (`classSettings`), and any other word is read by `inlineSettings?`.
-/
import ShellHighlight.Color.Palette
import ShellHighlight.Color.WebNames
import ShellHighlight.Text.Blank
import ShellHighlight.Text.Case
import ShellHighlight.Text.Quoted

namespace ShellHighlight

/-- What text looks like: its colours, where the empty text is no colour, and
    its effects. -/
structure Attributes where
  color : Text
  background : Text
  effects : List Effect
  deriving DecidableEq, Repr, Inhabited

namespace Attributes

/-- Text without colours and effects. -/
def plain : Attributes := ⟨[], [], []⟩

end Attributes

/-- A change of one attribute, or of all. -/
inductive Setting where
  | color (c : Text)
  | background (c : Text)
  | effect (e : Effect) (on : Bool)
  /-- Back to plain text. -/
  | reset
  deriving DecidableEq, Repr

namespace Setting

/-- Makes a change. -/
def apply (a : Attributes) : Setting → Attributes
  | color c => { a with color := c }
  | background c => { a with background := c }
  | effect e on => { a with effects := (if on then [e] else []) ++ a.effects.filter (· != e) }
  | reset => .plain

end Setting

/-! ## Colours -/

/-- The names of the colours of a terminal. -/
def ansiNames : List Text :=
  "ansidefault".toList :: (Hue.all.map Hue.darkName ++ Hue.all.map Hue.brightName)

/-- Other names of the colours of a terminal. -/
def ansiAliases : List (String × String) :=
  [("ansidarkgray", "ansibrightblack"), ("ansiteal", "ansicyan"),
   ("ansiturquoise", "ansibrightcyan"), ("ansibrown", "ansiyellow"),
   ("ansipurple", "ansimagenta"), ("ansifuchsia", "ansibrightmagenta"),
   ("ansilightgray", "ansigray"), ("ansidarkred", "ansired"),
   ("ansidarkgreen", "ansigreen"), ("ansidarkblue", "ansiblue")]

/-- The name of the colour of a terminal that `name` stands for. -/
def ansiName? (name : Text) : Option Text :=
  if ansiNames.contains name then some name
  else (ansiAliases.find? fun r => r.1.toList == name).map fun r => r.2.toList

/-- The colour that a text behind a number sign stands for: a name, six digits,
    or three digits that are doubled. -/
def hexColor? (t : Text) : Option Text :=
  match ansiName? t, t with
  | some name, _ => some name
  | none, [r, g, b] => some [r, r, g, g, b, b]
  | none, t => if t.length = 6 then some t else none

/-- The colour that a word stands for. -/
def readColor? (word : Text) : Option Text :=
  match ansiName? word with
  | some name => some name
  | none => match webColor? word.lower with
    | some digits => some digits
    | none => match word with
      | '#' :: t => hexColor? t
      | [] => some []
      | t => if t == "default".toList then some t else none

/-- The wording of the error for a word that is no colour. -/
def colorMessage (word : Text) : Text :=
  "Wrong color format ".toList ++ quoted word

/-! ## Words -/

/-- The settings of the words that name an effect, and of the words that have
    no meaning here. -/
def effectSettings? (word : Text) : Option (List Setting) :=
  let effects : List Effect := [.bold, .italic, .underline, .blink, .reverse, .hidden]
  match effects.find? fun e => e.name == word with
  | some e => some [.effect e true]
  | none => match effects.find? fun e => "no".toList ++ e.name == word with
    | some e => some [.effect e false]
    | none =>
      let silent := ["noinherit", "strike", "nostrike", "dim", "nodim", "roman", "sans", "mono"]
      if silent.any fun s => s.toList == word then some [] else none

/-- What follows `stem` in a word that begins with it. -/
def behind? (stem : String) (word : Text) : Option Text :=
  if stem.toList.isPrefixOf word then some (word.drop stem.length) else none

/-- The settings of a word that is no class, or the text that should have been
    a colour. -/
def inlineSettings? (word : Text) : Except Text (List Setting) :=
  let base : List Setting :=
    if (Text.offset? "noinherit".toList word).isSome then [.reset] else []
  let color (make : Text → Setting) (t : Text) : Except Text (List Setting) :=
    match readColor? t with
    | some c => .ok (base ++ [make c])
    | none => .error t
  match effectSettings? word with
  | some settings => .ok (base ++ settings)
  | none =>
    if (behind? "border:" word).isSome then .ok base
    else if word.head? == some '[' && word.getLast? == some ']' then .ok base
    else match behind? "bg:" word, behind? "fg:" word with
      | some t, _ => color .background t
      | none, some t => color .color t
      | none, none => color .color word

/-- The names that a dotted class includes, from the shortest on. -/
def classNames (name : Text) : List Text :=
  let parts := name.splitOn '.'
  (List.range parts.length).map fun n => List.intercalate ['.'] (parts.take (n + 1))

/-- The rules for the classes of the highlighter. -/
def classRule (name : Text) : List Setting :=
  if name == "command".toList then [.effect .bold true]
  else if name == "search".toList then [.effect .reverse true]
  else if name == "selection".toList then [.background (Color.named true .black).name]
  else if name == "error".toList then [.color (Color.named false .red).name, .effect .underline true]
  else []

/-- The settings of a list of classes. -/
def classSettings (names : Text) : List Setting :=
  ((names.lower.splitOn ',').flatMap classNames).flatMap classRule

/-- The settings of a word, or the text that should have been a colour. -/
def wordSettings? (word : Text) : Except Text (List Setting) :=
  match behind? "class:" word with
  | some names => .ok (classSettings names)
  | none => inlineSettings? word

/-- The attributes of a style, or the text that should have been a colour. -/
def Attributes.ofStyle (style : Text) : Except Text Attributes := do
  let settings ← (Text.words style).mapM wordSettings?
  return settings.flatten.foldl Setting.apply .plain

end ShellHighlight
