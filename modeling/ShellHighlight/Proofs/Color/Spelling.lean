/-
  How styles are spelled, and when there is none.

  * `SpellsColor` and `SpellsWord` are the spellings of colours and of words, and
    `IsStyle` are words with one space between any two of them;
  * `PaletteEntry` are the entries of the 256-colour palette, and `Selects` is the
    spelling of what an instruction selects;
  * `style?_spelling`: which parameter lists are refused, that all others give a
    style, and that there are no other styles in a table.
-/
import ShellHighlight.Proofs.Color.Instruction
import ShellHighlight.Proofs.Color.Table

namespace ShellHighlight

/-! ## Spellings -/

/-- The names of the colours that have one, in the order of the palette. -/
def colorNames : (bright : Bool) → List Text
  | false => ["ansiblack", "ansired", "ansigreen", "ansiyellow", "ansiblue", "ansimagenta",
      "ansicyan", "ansigray"].map String.toList
  | true => ["ansibrightblack", "ansibrightred", "ansibrightgreen", "ansibrightyellow",
      "ansibrightblue", "ansibrightmagenta", "ansibrightcyan", "ansiwhite"].map String.toList

/-- The names of the effects, with their codes. -/
def effectNames : List (ℤ × Text) :=
  [(1, "bold".toList), (3, "italic".toList), (4, "underline".toList), (5, "blink".toList),
    (7, "reverse".toList), (8, "hidden".toList)]

/-- The spellings of a colour: its name, or six hexadecimal digits. -/
inductive SpellsColor : Text → Prop
  | named {bright : Bool} {t : Text} : t ∈ colorNames bright → SpellsColor t
  | digits {t : Text} : t.length = 6 → (∀ c ∈ t, c ∈ "0123456789abcdef".toList) →
      SpellsColor ('#' :: t)

/-- What stands in front of the colour of a layer. -/
def layerMark (background : Bool) : Text :=
  if background then "bg:".toList else []

/-- The spellings of a word: the name of an effect, or a colour of one of the two
    layers. -/
inductive SpellsWord : Text → Prop
  | effect {t : Text} : t ∈ effectNames.map (·.2) → SpellsWord t
  | color {background : Bool} {t : Text} : SpellsColor t → SpellsWord (layerMark background ++ t)

/-- A style: words with one space between any two of them. -/
def IsStyle (s : Text) : Prop :=
  ∃ words : List Text, s = List.intercalate [' '] words ∧ ∀ w ∈ words, SpellsWord w

/-- The levels of a colour in the colour cube. -/
def cubeLevels : List ℕ :=
  [0, 95, 135, 175, 215, 255]

/-- The entries of the palette: 16 names, a cube of 6 × 6 × 6 colours, and 24 grays. -/
inductive PaletteEntry : ℤ → Text → Prop
  | named {bright : Bool} {i : ℕ} {t : Text} : (colorNames bright)[i]? = some t →
      PaletteEntry ((if bright then 8 else 0) + i) t
  | cube {r g b x y z : ℕ} : cubeLevels[r]? = some x → cubeLevels[g]? = some y →
      cubeLevels[b]? = some z →
      PaletteEntry (16 + 36 * r + 6 * g + b) ('#' :: (hex 2 x ++ hex 2 y ++ hex 2 z))
  | gray {i x : ℕ} : i < 24 → x = 8 + 10 * i →
      PaletteEntry (232 + i) ('#' :: (hex 2 x ++ hex 2 x ++ hex 2 x))

/-- The amount of a colour, brought into the range from 0 to 255, in two digits. -/
def amount (n : ℤ) : Text :=
  hex 2 (max 0 (min n 255)).toNat

namespace Rendition

/-- The first of the codes for eight named colours. -/
def firstCode : (background bright : Bool) → ℤ
  | false, false => 30
  | true, false => 40
  | false, true => 90
  | true, true => 100

/-- The spelling of the word that an instruction selects. -/
inductive Selects : Instruction → Text → Prop
  | effect {n : ℤ} {single} {t : Text} : (n, t) ∈ effectNames → Selects (.code n single) t
  | named {background bright : Bool} {i : ℕ} {single} {t : Text} :
      (colorNames bright)[i]? = some t →
      Selects (.code (firstCode background bright + i) single) (layerMark background ++ t)
  | indexed {background : Bool} {n : ℤ} {range} {t : Text} : PaletteEntry n t →
      Selects (.indexed background n range) (layerMark background ++ t)
  | direct {background : Bool} {r g b : ℤ} : Selects (.direct background r g b)
      (layerMark background ++ '#' :: (amount r ++ amount g ++ amount b))

end Rendition

/-! ## Digits -/

theorem length_hex : ∀ width n : ℕ, (hex width n).length = width
  | 0, _ => rfl
  | width + 1, n => by rw [hex, List.length_append, length_hex, List.length_singleton]

theorem mem_hex {c : Char} : ∀ {width n : ℕ}, c ∈ hex width n → c ∈ "0123456789abcdef".toList
  | 0, _, h => absurd h List.not_mem_nil
  | width + 1, n, h => by
    have hdigit : ∀ d < 16, hexDigit d ∈ "0123456789abcdef".toList := by decide
    rw [hex, List.mem_append, List.mem_singleton] at h
    rcases h with h | rfl
    · exact mem_hex h
    · exact hdigit _ (Nat.mod_lt _ (by omega))

/-! ## Names -/

theorem spellsColor_hex (x y z : ℕ) : SpellsColor ('#' :: (hex 2 x ++ hex 2 y ++ hex 2 z)) := by
  refine .digits (by simp [length_hex]) fun c hc => ?_
  rw [List.mem_append, List.mem_append] at hc
  exact hc.elim (fun h => h.elim mem_hex mem_hex) mem_hex

theorem Color.spellsColor_name (c : Color) : SpellsColor c.name := by
  cases c with
  | named bright hue =>
    have hmem : (Color.named bright hue).name ∈ colorNames bright := by
      cases bright <;> cases hue <;> decide
    exact .named hmem
  | rgb r g b => exact spellsColor_hex r g b

namespace StyleWord

theorem name_color (background : Bool) (c : Color) :
    (StyleWord.color background c).name = layerMark background ++ c.name := by
  cases background <;> rfl

theorem spellsWord_name (w : StyleWord) : SpellsWord w.name := by
  cases w with
  | effect e =>
    have hmem : e.name ∈ effectNames.map (·.2) := by
      cases e <;> decide
    exact .effect hmem
  | color background c =>
    rw [name_color]
    exact .color c.spellsColor_name

/-- **The style of some words is a style.** -/
theorem isStyle_style (ws : List StyleWord) : IsStyle (style ws) := by
  refine ⟨ws.map name, rfl, fun t ht => ?_⟩
  obtain ⟨w, -, rfl⟩ := List.mem_map.1 ht
  exact w.spellsWord_name

end StyleWord

/-! ## What is selected -/

theorem getElem?_colorNames : ∀ (bright : Bool), ∀ i < 8,
    (colorNames bright)[i]? = some (Color.named bright (.ofIndex i)).name := by
  decide

/-- The palette holds nothing but its entries. -/
theorem paletteEntry_of_ofXterm? {n : ℤ} {c : Color} (h : Color.ofXterm? n = some c) :
    PaletteEntry n c.name := by
  have hrange := Rendition.range_of_ofXterm? h
  obtain ⟨m, rfl⟩ := Int.eq_ofNat_of_zero_le hrange.1
  have hlevel : ∀ i < 6, cubeLevels[i]? = some (Color.cubeLevel i : ℕ) := by decide
  unfold Color.ofXterm? at h
  rw [if_neg (by simp; omega), Int.toNat_natCast] at h
  dsimp only at h
  split_ifs at h with hdark hbright hcube
  · cases h
    have hentry := PaletteEntry.named (getElem?_colorNames false m hdark)
    simpa using hentry
  · cases h
    have hentry := PaletteEntry.named (getElem?_colorNames true (m - 8) (by omega))
    rw [if_pos rfl, show (8 : ℤ) + (m - 8 : ℕ) = m by omega] at hentry
    exact hentry
  · cases h
    have hentry := PaletteEntry.cube (hlevel ((m - 16) / 36) (by omega))
      (hlevel ((m - 16) / 6 % 6) (by omega)) (hlevel ((m - 16) % 6) (by omega))
    rw [show (16 : ℤ) + 36 * ((m - 16) / 36 : ℕ) + 6 * ((m - 16) / 6 % 6 : ℕ) +
      ((m - 16) % 6 : ℕ) = m by omega] at hentry
    exact hentry
  · cases h
    have hgray : (Fin.ofNat 256 (8 + (m - 232) * 10) : ℕ) = 8 + 10 * (m - 232) := by
      rw [Fin.val_ofNat]
      omega
    have hentry := PaletteEntry.gray (by omega) hgray
    rw [show (232 : ℤ) + (m - 232 : ℕ) = m by omega] at hentry
    exact hentry

namespace Rendition

variable {value : Text}

theorem mem_effectNames {n : ℤ} {e : Effect} (h : effect? n = some e) :
    (n, e.name) ∈ effectNames := by
  unfold effect? at h
  split_ifs at h with h1 h3 h4 h5 h7 h8
  all_goals
    cases h
    subst n
    decide

/-- A named colour has the code that counts to it from the first one of its eight. -/
theorem exists_of_namedColor? {n : ℤ} {w : StyleWord} (h : namedColor? n = some w) :
    ∃ (background bright : Bool) (i : ℕ), i < 8 ∧ n = firstCode background bright + i ∧
      w = .color background (.named bright (.ofIndex i)) := by
  unfold namedColor? at h
  split_ifs at h with hdark hdarkBackground hbright hbrightBackground
  all_goals cases h
  · exact ⟨false, false, (n - 30).toNat, by omega, by rw [firstCode]; omega, rfl⟩
  · exact ⟨true, false, (n - 40).toNat, by omega, by rw [firstCode]; omega, rfl⟩
  · exact ⟨false, true, (n - 90).toNat, by omega, by rw [firstCode]; omega, rfl⟩
  · exact ⟨true, true, (n - 100).toNat, by omega, by rw [firstCode]; omega, rfl⟩

/-- A code that selects a word is that of an effect or of a named colour. -/
theorem eq_of_ofInt_eq_word {n : ℤ} {w : StyleWord} (h : Code.ofInt n = .word w) :
    (∃ e, effect? n = some e ∧ w = .effect e) ∨ namedColor? n = some w := by
  unfold Code.ofInt at h
  split_ifs at h
  split at h
  · next e he =>
    cases h
    exact .inl ⟨e, he, rfl⟩
  · split at h
    · next hnamed =>
      cases h
      exact .inr hnamed
    · cases h

theorem ofInt_of_word? {n : ℤ} {single} {w : StyleWord}
    (h : (Instruction.code n single).word? = some w) : Code.ofInt n = .word w := by
  rcases hcode : Code.ofInt n with _ | w' | background | _
  all_goals simp only [Instruction.word?, hcode, reduceCtorEq] at h
  rw [Option.some.inj h]

theorem hex_clamp (n : ℤ) : hex 2 (Color.clamp n) = amount n := by
  have hclamp : (Color.clamp n : ℕ) = (max 0 (min n 255)).toNat := by
    rw [Color.clamp, Fin.val_ofNat]
    omega
  rw [hclamp, amount]

/-- **A word that an instruction selects is spelled as it should be.** -/
theorem selects_of_word? {i : Instruction} {w : StyleWord} (h : i.word? = some w) :
    Selects i w.name := by
  cases i with
  | code n single =>
    rcases eq_of_ofInt_eq_word (ofInt_of_word? h) with ⟨e, he, rfl⟩ | hnamed
    · exact .effect (mem_effectNames he)
    · obtain ⟨background, bright, i, hi, rfl, rfl⟩ := exists_of_namedColor? hnamed
      rw [StyleWord.name_color]
      exact .named (getElem?_colorNames bright i hi)
  | indexed background n range =>
    obtain ⟨c, hc, rfl⟩ := Option.map_eq_some_iff.1 h
    rw [StyleWord.name_color]
    exact .indexed (paletteEntry_of_ofXterm? hc)
  | direct background r g b =>
    cases h
    rw [StyleWord.name_color, Color.name, hex_clamp, hex_clamp, hex_clamp]
    exact .direct

theorem mem_foldl_apply {w : StyleWord} : ∀ {is : List Instruction} {selected : List StyleWord},
    w ∈ is.foldl Instruction.apply selected → w ∈ selected ∨ ∃ i ∈ is, i.word? = some w
  | [], selected, h => .inl h
  | i :: is, selected, h => by
    rw [List.foldl_cons] at h
    rcases mem_foldl_apply h with hmem | ⟨j, hj, hw⟩
    · rw [Instruction.apply] at hmem
      split_ifs at hmem
      · exact absurd hmem List.not_mem_nil
      · rcases List.mem_append.1 hmem with hmem | hmem
        · exact .inl hmem
        · exact .inr ⟨i, List.mem_cons_self, by simpa using hmem⟩
    · exact .inr ⟨j, List.mem_cons_of_mem i hj, hw⟩

/-- A style is made of the words that its list selects. -/
theorem exists_words_of_style? {s : Text} (h : style? value = .ok s) :
    ∃ (is : List Instruction) (words : List Text), Denotes value (is.flatMap Instruction.fields) ∧
      s = List.intercalate [' '] words ∧ ∀ w ∈ words, ∃ i ∈ is, Selects i w := by
  obtain ⟨is, his, rfl⟩ := style?_eq_ok_iff.1 h
  refine ⟨is, (is.foldl Instruction.apply []).map StyleWord.name, his, rfl, fun t ht => ?_⟩
  obtain ⟨w, hw, rfl⟩ := List.mem_map.1 ht
  rcases mem_foldl_apply hw with hw | ⟨i, hi, hw⟩
  · exact absurd hw List.not_mem_nil
  · exact ⟨i, hi, selects_of_word? hw⟩

theorem isStyle_of_style? {s : Text} (h : style? value = .ok s) : IsStyle s := by
  obtain ⟨ws, -, rfl⟩ := map_eq_ok_iff.1 h
  exact StyleWord.isStyle_style ws

/-- **Which parameter lists are refused.** -/
theorem exists_style?_eq_error_iff : (∃ e, style? value = .error e) ↔
    (∃ field ∈ value.splitOn ';', field ≠ [] ∧ ∀ k : IntegerLiteral, k.text ≠ field) ∨
      ∃ (is : List Instruction) (rest : List ℤ),
        Denotes value (is.flatMap Instruction.fields ++ rest) ∧ Breaks rest := by
  rw [← exists_fields_eq_error_iff]
  simp only [style?, words?, map_eq_error_iff, bind_eq_error_iff, fields_eq_ok_iff]
  rw [exists_or]
  refine or_congr_right ?_
  constructor
  · rintro ⟨e, codes, hcodes, hscan⟩
    obtain ⟨is, rest, rfl, hrest⟩ := exists_scan_eq_error_iff.1 ⟨e, hscan⟩
    exact ⟨is, rest, hcodes, hrest⟩
  · rintro ⟨is, rest, hcodes, hrest⟩
    obtain ⟨e, hscan⟩ := exists_scan_eq_error_iff.2 ⟨is, rest, rfl, hrest⟩
    exact ⟨e, _, hcodes, hscan⟩

/-- **How styles are spelled, and when there is none.** A parameter list is refused
    if one of its fields is neither empty nor an integer, or if behind some of its
    instructions a code for a colour has no colour behind it, and for no other
    reason. All other lists give a style, of words that their instructions select:
    effects, colours of the palette, and colours of three amounts, each brought
    into range. The styles of a table are no others. -/
theorem style?_spelling (value : Text) :
    ((∃ e, style? value = .error e) ↔
        (∃ field ∈ value.splitOn ';', field ≠ [] ∧ ∀ k : IntegerLiteral, k.text ≠ field) ∨
          ∃ (is : List Instruction) (rest : List ℤ),
            Denotes value (is.flatMap Instruction.fields ++ rest) ∧ Breaks rest) ∧
      (∀ s, style? value = .ok s → IsStyle s ∧ ∃ (is : List Instruction) (words : List Text),
        Denotes value (is.flatMap Instruction.fields) ∧ s = List.intercalate [' '] words ∧
          ∀ w ∈ words, ∃ i ∈ is, Selects i w) ∧
      ∀ spec key, IsStyle ((StyleTable.ofText spec).style key) :=
  ⟨exists_style?_eq_error_iff,
    fun _ hs => ⟨isStyle_of_style? hs, exists_words_of_style? hs⟩,
    fun _ _ => StyleWord.isStyle_style _⟩

/-- Amounts and fields that are out of range, a field that is no integer, and a table
    with an entry. -/
theorem style?_spelling_range :
    let a := "48;2;300;-5;+1_6".toList
    style? a = .ok "bg:#ff0010".toList ∧ IsStyle "bg:#ff0010".toList ∧
      (∃ e, style? "1;38;5;256".toList = .error e) ∧ (∃ e, style? "1;x".toList = .error e) ∧
      IsStyle ((StyleTable.ofText "di=48;2;300;-5;+1_6".toList).style "di".toList) := by
  intro a
  have ha : style? a = .ok "bg:#ff0010".toList :=
    style?_eq_ok_iff.2 ⟨[.direct true 300 (-5) 16], fields_eq_ok_iff.1 rfl, by decide⟩
  have hbreaks : Breaks [38, 5, 256] := by
    refine ⟨false, [5, 256], rfl, ?_, ?_⟩
    · rintro ⟨n, more, heq, hrange⟩
      cases heq
      omega
    · rintro ⟨r, g, b, more, heq⟩
      cases heq
  have hliteral : ∀ k : IntegerLiteral, k.text ≠ "x".toList := fun k hk => by
    have hread := k.readInteger_text
    rw [hk] at hread
    cases hread
  obtain ⟨-, hstyle, htable⟩ := style?_spelling a
  refine ⟨ha, (hstyle _ ha).1, ?_, ?_, htable _ _⟩
  · exact (style?_spelling _).1.2 (.inr ⟨[.code 1 (by decide)], _, fields_eq_ok_iff.1 rfl, hbreaks⟩)
  · exact (style?_spelling _).1.2 (.inl ⟨"x".toList, by decide, by decide, hliteral⟩)

end Rendition

end ShellHighlight
