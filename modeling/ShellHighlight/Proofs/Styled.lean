/-
  Styled texts: what their fragments make up, and what is shown of them.

  * `Styled.Covers s t` says that the fragments of `s` make up the text `t` and
    that none of them is empty. It holds of what `run` builds and is kept by
    putting styled texts one behind the other;
  * a styled text is `Shown` if no fragment is an escape sequence; then its
    plain text is its whole text (`plainText_of_shown`). Only a style with a
    capital Z carries the mark of escape sequences (`isZeroWidth_of_notMem`);
  * `characters_ofCharacters`: joining code points of one style into fragments
    changes nothing per code point, and `isChain_ofCharacters`: it leaves no
    neighbours of one style.
-/
import ShellHighlight.Styled
import ShellHighlight.Proofs.Text

namespace ShellHighlight

namespace Styled

/-! ## Texts -/

@[simp] theorem text_nil : text [] = [] := rfl

@[simp] theorem text_append (s s' : Styled) : text (s ++ s') = text s ++ text s' :=
  List.flatMap_append

@[simp] theorem text_run (style t : Text) : text (run style t) = t := by
  unfold run
  split_ifs with h
  · rw [text_nil, List.isEmpty_iff.1 h]
  · simp [text]

theorem mem_run {style t : Text} {f : Fragment} :
    f ∈ run style t ↔ t ≠ [] ∧ f = ⟨style, t⟩ := by
  unfold run
  split_ifs with h
  · simp [List.isEmpty_iff.1 h]
  · rw [List.mem_singleton, and_iff_right fun h' => h (List.isEmpty_iff.2 h')]

/-- A fragment of `run` for a text that is not empty. -/
theorem run_of_ne_nil {style t : Text} (h : t ≠ []) : run style t = [⟨style, t⟩] := by
  rw [run, if_neg fun h' => h (List.isEmpty_iff.1 h')]

/-! ## Covering a text -/

/-- The fragments of `s` make up `t`, and none of them is empty. -/
structure Covers (s : Styled) (t : Text) : Prop where
  text_eq : s.text = t
  ne_nil : ∀ f ∈ s, f.text ≠ []

theorem covers_nil : Covers [] [] := ⟨rfl, by simp⟩

theorem covers_run (style t : Text) : Covers (run style t) t := by
  refine ⟨text_run style t, fun f hf => ?_⟩
  obtain ⟨ht, rfl⟩ := mem_run.1 hf
  exact ht

theorem covers_unstyled (t : Text) : Covers (unstyled t) t := covers_run [] t

theorem Covers.append {s s' : Styled} {t t' : Text} (h : Covers s t) (h' : Covers s' t') :
    Covers (s ++ s') (t ++ t') := by
  refine ⟨by rw [text_append, h.text_eq, h'.text_eq], fun f hf => ?_⟩
  rcases List.mem_append.1 hf with hf | hf
  · exact h.ne_nil f hf
  · exact h'.ne_nil f hf

/-- Parts that cover their texts cover all of them together. -/
theorem covers_flatMap {α : Type} {g : α → Styled} {k : α → Text} :
    ∀ {xs : List α}, (∀ x ∈ xs, Covers (g x) (k x)) → Covers (xs.flatMap g) (xs.flatMap k)
  | [], _ => covers_nil
  | x :: xs, h => by
    rw [List.flatMap_cons, List.flatMap_cons]
    exact (h x (by simp)).append (covers_flatMap fun y hy => h y (by simp [hy]))

/-! ## What is shown -/

theorem isZeroWidth_iff {style : Text} : isZeroWidth style = true ↔ zeroWidthMark <:+: style :=
  Text.offset?_isSome_iff

/-- The mark of escape sequences has a capital Z in it. -/
theorem isZeroWidth_of_notMem {style : Text} (h : 'Z' ∉ style) : isZeroWidth style = false := by
  rw [Bool.eq_false_iff]
  intro hz
  exact h ((isZeroWidth_iff.1 hz).subset (by decide))

/-- No fragment of `s` is an escape sequence. -/
def Shown (s : Styled) : Prop := ∀ f ∈ s, isZeroWidth f.style = false

theorem shown_nil : Shown [] := by simp [Shown]

theorem shown_run {style : Text} (h : isZeroWidth style = false) (t : Text) :
    Shown (run style t) := by
  intro f hf
  obtain ⟨-, rfl⟩ := mem_run.1 hf
  exact h

theorem shown_unstyled (t : Text) : Shown (unstyled t) :=
  shown_run (isZeroWidth_of_notMem (by simp)) t

theorem Shown.append {s s' : Styled} (h : Shown s) (h' : Shown s') : Shown (s ++ s') := by
  intro f hf
  exact (List.mem_append.1 hf).elim (h f) (h' f)

theorem shown_flatMap {α : Type} {g : α → Styled} {xs : List α} (h : ∀ x ∈ xs, Shown (g x)) :
    Shown (xs.flatMap g) := by
  intro f hf
  obtain ⟨x, hx, hf⟩ := List.mem_flatMap.1 hf
  exact h x hx f hf

/-- **Without escape sequences all of the text is shown.** -/
theorem plainText_of_shown {s : Styled} (h : Shown s) : s.plainText = s.text := by
  rw [plainText, List.filter_eq_self.2 fun f hf => by rw [h f hf]; rfl]

/-! ## Code points -/

theorem characters_cons (f : Fragment) (s : Styled) :
    characters (f :: s) = f.text.map (·, f.style) ++ characters s :=
  List.flatMap_cons

theorem characters_append (s s' : Styled) :
    characters (s ++ s') = characters s ++ characters s' := List.flatMap_append

theorem characters_flatten : ∀ ls : List Styled, characters ls.flatten = ls.flatMap characters
  | [] => rfl
  | l :: ls => by
    rw [List.flatten_cons, characters_append, characters_flatten ls, List.flatMap_cons]

theorem characters_unstyled (t : Text) : characters (unstyled t) = t.map fun c => (c, []) := by
  unfold unstyled run
  split_ifs with h
  · rw [List.isEmpty_iff.1 h]
    rfl
  · simp [characters]

theorem characters_isPrefix {s s' : Styled} (h : s <+: s') : characters s <+: characters s' := by
  obtain ⟨rest, rfl⟩ := h
  rw [characters_append]
  exact List.prefix_append _ _

/-- What comes behind a text without a style leaves the text as it is. -/
theorem characters_unstyled_isPrefix (t rest : Text) :
    characters (unstyled t) <+: characters (unstyled (t ++ rest)) := by
  rw [characters_unstyled, characters_unstyled, List.map_append]
  exact List.prefix_append _ _

theorem text_eq_map_characters (s : Styled) : s.text = s.characters.map (·.1) := by
  simp [text, characters, List.map_flatMap, Function.comp_def]

/-- **Joining code points of one style changes nothing per code point.** -/
theorem characters_ofCharacters : ∀ cs : List (Char × Text), characters (ofCharacters cs) = cs
  | [] => rfl
  | (c, style) :: cs => by
    have ih := characters_ofCharacters cs
    rw [ofCharacters]
    rcases h : ofCharacters cs with _ | ⟨f, fs⟩
    · rw [h] at ih
      rw [← ih]
      rfl
    · rw [h, characters_cons] at ih
      simp only
      split_ifs with hs
      · subst hs
        rw [characters_cons, List.map_cons, List.cons_append, ih]
      · rw [characters_cons, characters_cons, ih]
        rfl

/-- No fragment of joined code points is empty, and its style is that of one
    of them. -/
theorem mem_ofCharacters : ∀ {cs : List (Char × Text)} {f : Fragment}, f ∈ ofCharacters cs →
    f.text ≠ [] ∧ ∃ c ∈ cs, f.style = c.2
  | [], f, hf => by simp [ofCharacters] at hf
  | (c, style) :: cs, f, hf => by
    rw [ofCharacters] at hf
    rcases h : ofCharacters cs with _ | ⟨g, gs⟩
    · rw [h, List.mem_singleton] at hf
      subst hf
      exact ⟨List.cons_ne_nil _ _, _, List.mem_cons_self .., rfl⟩
    · rw [h] at hf
      have hlater : ∀ f' ∈ g :: gs, f'.text ≠ [] ∧ ∃ d ∈ (c, style) :: cs, f'.style = d.2 := by
        intro f' hf'
        obtain ⟨h1, d, hd, h2⟩ := mem_ofCharacters (h ▸ hf')
        exact ⟨h1, d, List.mem_cons_of_mem _ hd, h2⟩
      simp only at hf
      split_ifs at hf
      · rcases List.mem_cons.1 hf with rfl | hf
        · exact ⟨List.cons_ne_nil _ _, _, List.mem_cons_self .., rfl⟩
        · exact hlater f (List.mem_cons_of_mem _ hf)
      · rcases List.mem_cons.1 hf with rfl | hf
        · exact ⟨List.cons_ne_nil _ _, _, List.mem_cons_self .., rfl⟩
        · exact hlater f hf

theorem covers_ofCharacters (cs : List (Char × Text)) :
    Covers (ofCharacters cs) (cs.map (·.1)) := by
  refine ⟨?_, fun f hf => (mem_ofCharacters hf).1⟩
  rw [text_eq_map_characters, characters_ofCharacters]

/-- **Neighbours have different styles** where code points of one style are
    joined. -/
theorem isChain_ofCharacters : ∀ cs : List (Char × Text),
    (ofCharacters cs).IsChain fun f g => f.style ≠ g.style
  | [] => .nil
  | (c, style) :: cs => by
    have ih := isChain_ofCharacters cs
    rw [ofCharacters]
    rcases h : ofCharacters cs with _ | ⟨f, fs⟩
    · exact .singleton _
    · rw [h] at ih
      simp only
      split_ifs with hs
      · -- the first fragment grows and keeps its style
        subst hs
        cases ih with
        | singleton => exact .singleton _
        | cons_cons hfg hfs => exact .cons_cons hfg hfs
      · exact .cons_cons (Ne.symm hs) ih

end Styled

end ShellHighlight
