/-
  Graphic renditions: the parameter lists, such as `01;38;5;208`, that select
  colours and effects on a terminal.

  * The fields between the semicolons are read first, all of them; an empty
    field is zero (`Rendition.fields`);
  * the codes are then scanned from left to right (`Rendition.scan`). Zero
    forgets what was selected, `38` and `48` take a colour from the fields
    behind them (`extended`), and codes without a meaning are passed over;
  * `Rendition.words?` is the words selected in the end.
-/
import ShellHighlight.Color.Palette
import ShellHighlight.Text.Integer

namespace ShellHighlight

/-- Why a parameter list is refused. -/
inductive RenditionError where
  /-- A field is no integer. -/
  | badField (e : IntegerError)
  /-- An indexed colour is not in the palette. -/
  | colorOutOfRange (index : Int)
  /-- `38` or `48` is not followed by a complete colour. -/
  | incompleteColor (value : Text)
  deriving DecidableEq, Repr

/-- The wording of an error. -/
def RenditionError.message : RenditionError → Text
  | .badField e => e.message
  | .colorOutOfRange n => Color.rangeMessage n
  | .incompleteColor v => "incomplete extended color in ".toList ++ quoted v

namespace Rendition

/-- What a code asks for. -/
inductive Code where
  /-- Forget what was selected. -/
  | reset
  /-- Select a word. -/
  | word (w : StyleWord)
  /-- Select the colour given by the fields that follow. -/
  | extended (background : Bool)
  /-- Nothing. -/
  | ignored
  deriving DecidableEq, Repr

/-- The effect of a code. -/
def effect? (n : Int) : Option Effect :=
  if n = 1 then some .bold
  else if n = 3 then some .italic
  else if n = 4 then some .underline
  else if n = 5 then some .blink
  else if n = 7 then some .reverse
  else if n = 8 then some .hidden
  else none

/-- The named colour of a code: those of `30` to `37` and `90` to `97` for the
    text, and those of `40` to `47` and `100` to `107` for the background. -/
def namedColor? (n : Int) : Option StyleWord :=
  if 30 ≤ n ∧ n ≤ 37 then some (.color false (.named false (.ofIndex (n - 30).toNat)))
  else if 40 ≤ n ∧ n ≤ 47 then some (.color true (.named false (.ofIndex (n - 40).toNat)))
  else if 90 ≤ n ∧ n ≤ 97 then some (.color false (.named true (.ofIndex (n - 90).toNat)))
  else if 100 ≤ n ∧ n ≤ 107 then some (.color true (.named true (.ofIndex (n - 100).toNat)))
  else none

/-- The meaning of a code. -/
def Code.ofInt (n : Int) : Code :=
  if n = 0 then .reset
  else if n = 38 then .extended false
  else if n = 48 then .extended true
  else match effect? n with
    | some e => .word (.effect e)
    | none => match namedColor? n with
      | some w => .word w
      | none => .ignored

/-- The codes of a parameter list. -/
def fields (value : Text) : Except RenditionError (List Int) :=
  (value.splitOn ';').mapM fun part =>
    if part.isEmpty then .ok 0 else (readInteger part).mapError .badField

/-- The colour at the head of a list of fields, and the fields behind it:
    `5;n` is entry `n` of the palette, and `2;r;g;b` gives the three amounts,
    each brought into range. -/
def extended (value : Text) : List Int → Except RenditionError (Color × List Int)
  | mode :: rest =>
    if mode = 5 then
      match rest with
      | n :: rest =>
        match Color.ofXterm? n with
        | some c => .ok (c, rest)
        | none => .error (.colorOutOfRange n)
      | _ => .error (.incompleteColor value)
    else if mode = 2 then
      match rest with
      | r :: g :: b :: rest => .ok (Color.rgb (Color.clamp r) (Color.clamp g) (Color.clamp b), rest)
      | _ => .error (.incompleteColor value)
    else .error (.incompleteColor value)
  | [] => .error (.incompleteColor value)

/-- A colour takes at least one field. -/
theorem length_extended {value : Text} {codes rest : List Int} {c : Color}
    (h : extended value codes = .ok (c, rest)) : rest.length < codes.length := by
  unfold extended at h
  split at h
  · split at h
    · split at h
      · split at h
        · cases h
          simp only [List.length_cons]
          omega
        · cases h
      · cases h
    · split at h
      · split at h
        · cases h
          simp only [List.length_cons]
          omega
        · cases h
      · cases h
  · cases h

/-- The words selected by a list of codes, behind the words `selected`. -/
def scan (value : Text) (selected : List StyleWord) (codes : List Int) :
    Except RenditionError (List StyleWord) :=
  match codes with
  | [] => .ok selected
  | code :: codes =>
    match Code.ofInt code with
    | .reset => scan value [] codes
    | .word w => scan value (selected ++ [w]) codes
    | .ignored => scan value selected codes
    | .extended background =>
      match h : extended value codes with
      | .ok (c, rest) => scan value (selected ++ [.color background c]) rest
      | .error e => .error e
termination_by codes.length
decreasing_by
  · simp only [List.length_cons]; omega
  · simp only [List.length_cons]; omega
  · simp only [List.length_cons]; omega
  · have := length_extended h
    simp only [List.length_cons]; omega

/-- The words that a parameter list selects. -/
def words? (value : Text) : Except RenditionError (List StyleWord) := do
  scan value [] (← fields value)

/-- The style that a parameter list selects. -/
def style? (value : Text) : Except RenditionError Text :=
  (words? value).map StyleWord.style

end Rendition

end ShellHighlight
