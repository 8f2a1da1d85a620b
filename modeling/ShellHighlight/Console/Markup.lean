/-
  Texts with markup.

  * A tag stands in square brackets; it begins with a small letter or with one
    of `#`, `/` and `@`, and a backslash in front takes its meaning away
    (`markupPieces`);
  * a tag that begins with a slash closes the last open tag of its style, or the
    last open tag if it names no style (`Tag.react`);
  * `renderMarkup` is the text that is shown: without tags, with emoji for their
    names and without control characters that move the cursor.
-/
import ShellHighlight.Console.Emoji
import ShellHighlight.Console.TagStyle

namespace ShellHighlight.Console

/-- A tag: its name, and a parameter behind an equals sign. -/
structure Tag where
  name : Text
  parameter : Option Text
  deriving DecidableEq, Repr

/-- Why a text is no markup. -/
inductive MarkupError where
  /-- A tag closes the last open tag, and none is open. -/
  | nothingOpen (position : Nat)
  /-- A tag closes a style that is not open. -/
  | notOpen (tag : Tag) (position : Nat)
  /-- An amount of a colour is no number. -/
  | amount (e : IntegerError)
  deriving DecidableEq, Repr

namespace Tag

/-- Reads what stands between the brackets. -/
def ofText (t : Text) : Tag :=
  match t.dropWhile (· != '=') with
  | _ :: parameter => ⟨t.takeWhile (· != '='), some parameter⟩
  | [] => ⟨t, none⟩

/-- The tag with its brackets. -/
def toText (k : Tag) : Text :=
  '[' :: k.name ++ (k.parameter.map ('=' :: ·)).getD [] ++ [']']

end Tag

/-- The wording of an error. -/
def MarkupError.message : MarkupError → Text
  | nothingOpen position =>
    "closing tag '[/]' at position ".toList ++ (toString position).toList ++
      " has nothing to close".toList
  | notOpen tag position =>
    "closing tag '".toList ++ tag.toText ++ "' at position ".toList ++
      (toString position).toList ++ " doesn't match any open tag".toList
  | amount e => e.message

/-! ## Pieces -/

/-- Whether a tag may begin with `c`. -/
def beginsTag (c : Char) : Bool :=
  ('a' ≤ c && c ≤ 'z') || c == '#' || c == '/' || c == '@'

/-- The tag that a text begins with: what stands between the brackets, and what
    follows. -/
def leadingTag? : Text → Option (Text × Text)
  | '[' :: c :: t =>
    if beginsTag c then
      match t.dropWhile fun d => d != ']' && d != '[' with
      | ']' :: rest => some (c :: t.takeWhile (fun d => d != ']' && d != '['), rest)
      | _ => none
    else none
  | _ => none

/-- The first tag of a text: what stands in front of it, what stands between
    the brackets, and what follows. -/
def firstTag? : Text → Option (Text × Text × Text)
  | [] => none
  | c :: t =>
    match leadingTag? (c :: t) with
    | some (inside, rest) => some ([], inside, rest)
    | none => (firstTag? t).map fun (front, inside, rest) => (c :: front, inside, rest)

theorem leadingTag?_length {t inside rest : Text} (h : leadingTag? t = some (inside, rest)) :
    rest.length < t.length := by
  unfold leadingTag? at h
  split at h
  · rename_i c u
    split at h
    · split at h
      · rename_i hd
        cases h
        have hle := (List.dropWhile_sublist (fun d => d != ']' && d != '[') (l := u)).length_le
        rw [hd] at hle
        simp only [List.length_cons] at hle ⊢
        omega
      · cases h
    · cases h
  · cases h

theorem firstTag?_length {t front inside rest : Text}
    (h : firstTag? t = some (front, inside, rest)) : rest.length < t.length := by
  induction t generalizing front with
  | nil => cases h
  | cons c t ih =>
    unfold firstTag? at h
    split at h
    · rename_i hl
      cases h
      exact leadingTag?_length hl
    · obtain ⟨⟨f, i, r⟩, hf, he⟩ := Option.map_eq_some_iff.1 h
      cases he
      exact Nat.lt_succ_of_lt (ih hf)

/-- What a text of markup consists of. -/
inductive MarkupPiece where
  | plain (t : Text)
  | tag (k : Tag) (position : Nat)
  deriving DecidableEq, Repr

/-- The pieces of a text that begins at a position. Of the backslashes in front
    of a tag, every two stand for one, and an odd one makes the tag plain. -/
def markupPieces (position : Nat) (t : Text) : List MarkupPiece :=
  match h : firstTag? t with
  | none => [.plain t]
  | some (front, inside, rest) =>
    have : rest.length < t.length := firstTag?_length h
    let slashes := (front.reverse.takeWhile (· == '\\')).length
    let stop := position + front.length
    [.plain (front.take (front.length - slashes)), .plain (List.replicate (slashes / 2) '\\'),
      if slashes % 2 = 1 then .plain ('[' :: inside ++ [']']) else .tag (.ofText inside) stop] ++
    markupPieces (stop + inside.length + 2) rest
termination_by t.length

/-! ## Rendering -/

/-- `t` with every bracket that has a backslash in front put for both. -/
def unescapeBrackets : Text → Text
  | '\\' :: '[' :: t => '[' :: unescapeBrackets t
  | c :: t => c :: unescapeBrackets t
  | [] => []

/-- Whether `c` is not shown: the bell, the backspace, the vertical tab, the
    form feed and the carriage return. -/
def isHidden (c : Char) : Bool :=
  [7, 8, 11, 12, 13].contains c.toNat

/-- A piece of plain text as it is shown. -/
def shownText (t : Text) : Text :=
  (replaceEmoji (unescapeBrackets t)).filter (!isHidden ·)

/-- The open tags after one more tag at a position, by their styles and the last
    one first. -/
def Tag.react (k : Tag) (position : Nat) (opened : List Text) : Except MarkupError (List Text) :=
  match k.name with
  | '/' :: name =>
    if (Text.trim name).isEmpty then
      match opened with
      | [] => .error (.nothingOpen position)
      | _ :: others => .ok others
    else do
      let style ← (TagStyle.normalize (Text.trim name)).mapError .amount
      if opened.contains style then return opened.erase style else throw (.notOpen k position)
  | name => do return (← (TagStyle.normalize name).mapError .amount) :: opened

/-- The text of pieces, where `opened` are the open tags. -/
def renderPieces (opened : List Text) : List MarkupPiece → Except MarkupError Text
  | [] => .ok []
  | .plain t :: pieces => (renderPieces opened pieces).map (shownText t ++ ·)
  | .tag k position :: pieces => do renderPieces (← k.react position opened) pieces

/-- The text that is shown for a text of markup. -/
def renderMarkup (t : Text) : Except MarkupError Text :=
  renderPieces [] (markupPieces 0 t)

end ShellHighlight.Console
