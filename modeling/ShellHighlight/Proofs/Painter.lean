/-
  Painters keep the text.

  * A painter covers what it paints (`paint_covers`), also one whose lexer
    yields tokens for another text: those are then not used;
  * the style of a token has no capital Z, because it is written in lower case
    (`notMem_lower`), so that only a fixed style can hide text (`paint_shown`);
  * `paint_lexed_faithful`: what a lexer gives, token by token.
-/
import ShellHighlight.Painter
import ShellHighlight.Proofs.Styled

namespace ShellHighlight

/-! ## Lower case -/

/-- No row of the mapping to lower case leads to a capital Z. -/
theorem lowerRows_avoid :
    ∀ r ∈ lowerRows, 90 < (r.1 : ℤ) + r.2.2.2 ∨ (r.2.1 : ℤ) + r.2.2.2 < 90 := by
  decide +kernel

theorem ofNat_ne {n : ℕ} (h : n ≠ 90) : Char.ofNat n ≠ 'Z' := by
  by_cases hv : n.isValidChar
  · rw [Char.ofNat, dif_pos hv]
    exact fun hc => h (congrArg Char.toNat hc)
  · rw [Char.ofNat, dif_neg hv]
    decide

theorem shifted_lowerRows_ne (c : Char) : shifted lowerRows c ≠ 'Z' := by
  unfold shifted
  split
  · rename_i r hr
    have hmem := lowerRows_avoid r (List.mem_of_find?_eq_some hr)
    have hrange := List.find?_some hr
    simp only [Bool.and_eq_true, decide_eq_true_eq] at hrange
    exact ofNat_ne (by omega)
  · rename_i hr
    rintro rfl
    exact absurd hr (by decide +kernel)

theorem notMem_lowerOf (before : Text) (c : Char) (after : Text) :
    'Z' ∉ lowerOf before c after := by
  unfold lowerOf
  split_ifs
  · decide
  · decide
  · decide
  · rw [List.mem_singleton]
    exact (shifted_lowerRows_ne c).symm

theorem notMem_lowerFrom : ∀ (before t : Text), 'Z' ∉ Text.lowerFrom before t
  | _, [] => by simp [Text.lowerFrom]
  | before, c :: t => by
    rw [Text.lowerFrom, List.mem_append, not_or]
    exact ⟨notMem_lowerOf before c t, notMem_lowerFrom (c :: before) t⟩

/-- **A text in lower case has no capital Z.** -/
theorem notMem_lower (t : Text) : 'Z' ∉ t.lower := notMem_lowerFrom [] t

/-- Only a capital sigma has a form that depends on what is in front of it. -/
theorem lowerFrom_eq_lowerFrom : ∀ {t : Text}, 'Σ' ∉ t → ∀ before before' : Text,
    Text.lowerFrom before t = Text.lowerFrom before' t
  | [], _, _, _ => rfl
  | c :: t, h, before, before' => by
    obtain ⟨hc, ht⟩ := List.ne_and_not_mem_of_not_mem_cons h
    have hlower : lowerOf before c t = lowerOf before' c t := by simp [lowerOf, Ne.symm hc]
    rw [Text.lowerFrom, Text.lowerFrom, hlower, lowerFrom_eq_lowerFrom ht _ (c :: before')]

/-- Without a capital sigma in the first part, both parts are put in lower case one
    after the other. -/
theorem lowerFrom_append : ∀ {t : Text}, 'Σ' ∉ t → ∀ before u : Text,
    Text.lowerFrom before (t ++ u) =
      Text.lowerFrom before t ++ Text.lowerFrom (t.reverse ++ before) u
  | [], _, _, _ => rfl
  | c :: t, h, before, u => by
    obtain ⟨hc, ht⟩ := List.ne_and_not_mem_of_not_mem_cons h
    have hlower : lowerOf before c (t ++ u) = lowerOf before c t := by
      simp [lowerOf, Ne.symm hc]
    rw [List.cons_append, Text.lowerFrom, Text.lowerFrom, hlower, lowerFrom_append ht,
      List.append_assoc, List.reverse_cons, List.append_assoc]
    rfl

/-! ## Tokens -/

namespace Token

/-- A kind with a dot in front of each of its names. -/
def dotted (kind : List Text) : Text :=
  kind.flatMap ('.' :: ·)

theorem intercalate_cons_eq (name : Text) (kind : List Text) :
    List.intercalate ['.'] (name :: kind) = name ++ dotted kind := by
  induction kind generalizing name with
  | nil => simp [dotted]
  | cons name' kind ih =>
    rw [List.intercalate_cons_cons, ih, List.append_assoc, dotted, dotted, List.flatMap_cons]
    rfl

/-- The class of a kind is a word and the dotted kind in lower case. -/
theorem className_eq (kind : List Text) :
    className kind =
      "pygments".toList ++ Text.lowerFrom "pygments".toList.reverse (dotted kind) := by
  have hword : Text.lowerFrom [] "pygments".toList = "pygments".toList := by decide +kernel
  calc className kind = Text.lower ("pygments".toList ++ dotted kind) :=
        congrArg Text.lower (intercalate_cons_eq _ kind)
    _ = Text.lowerFrom [] "pygments".toList ++
          Text.lowerFrom "pygments".toList.reverse (dotted kind) :=
        lowerFrom_append (by decide) [] _
    _ = _ := congrArg (· ++ _) hword

/-- **The style of a token** is a word and its dotted kind in lower case. -/
theorem style_eq (k : Token) :
    k.style =
      "class:pygments".toList ++ Text.lowerFrom "pygments".toList.reverse (dotted k.kind) :=
  congrArg ("class:".toList ++ ·) (className_eq k.kind)

theorem isZeroWidth_style (k : Token) : Styled.isZeroWidth k.style = false := by
  refine Styled.isZeroWidth_of_notMem fun h => ?_
  rcases List.mem_append.1 h with h | h
  · exact absurd h (by decide)
  · exact notMem_lower _ h

end Token

namespace Painter

/-- There is a fragment for each token that is not empty. -/
theorem fragments_eq (ts : List Token) :
    fragments ts = (ts.filter (·.text ≠ [])).map fun k => ⟨k.style, k.text⟩ := by
  induction ts with
  | nil => rfl
  | cons k ts ih =>
    have hcons : fragments (k :: ts) = Styled.run k.style k.text ++ fragments ts :=
      List.flatMap_cons
    rw [hcons, ih, List.filter_cons]
    by_cases hk : k.text = []
    · simp [hk, Styled.run]
    · simp [hk, Styled.run_of_ne_nil hk]

theorem fragments_covers (ts : List Token) : (fragments ts).Covers (ts.flatMap (·.text)) :=
  Styled.covers_flatMap fun k _ => Styled.covers_run k.style k.text

theorem fragments_shown (ts : List Token) : (fragments ts).Shown :=
  Styled.shown_flatMap fun k _ => Styled.shown_run k.isZeroWidth_style k.text

/-- A lexer is used exactly for the texts that its tokens make up. -/
theorem paint_lexed (l : Lexer) (t : Text) :
    (lexed l).paint t =
      if (l.tokens t).flatMap (·.text) = t then fragments (l.tokens t) else Styled.unstyled t := by
  simp only [paint, Styled.plainText_of_shown (fragments_shown _), (fragments_covers _).text_eq]

/-! ## Painting -/

/-- **A painter covers the text that it paints.** -/
theorem paint_covers (p : Painter) (t : Text) : (p.paint t).Covers t := by
  cases p with
  | fixed style => exact Styled.covers_run style t
  | lexed l =>
    rw [paint_lexed]
    split_ifs with h
    · conv => arg 2; rw [← h]
      exact fragments_covers _
    · exact Styled.covers_unstyled t

/-- A painter shows the text that it paints, unless it is an escape sequence by
    a fixed style. -/
theorem paint_shown {p : Painter} (h : ∀ style, p = fixed style → ¬ Styled.zeroWidthMark <:+: style)
    (t : Text) : (p.paint t).Shown := by
  cases p with
  | fixed style =>
    exact Styled.shown_run (Bool.eq_false_iff.2 fun hz => h style rfl (Styled.isZeroWidth_iff.1 hz)) t
  | lexed l =>
    rw [paint_lexed]
    split_ifs
    · exact fragments_shown _
    · exact Styled.shown_unstyled t

/-- **A lexer is followed exactly, or not at all.** If its tokens make up the text,
    there is a fragment for each of them that is not empty, with its text and its
    dotted kind in lower case, whatever the names in the kind are; only for a capital
    sigma does it matter that a word stands in front of the kind. If they do not make
    up the text, it is left without a style. Either way all of the text is shown, and
    no fragment is empty. -/
theorem paint_lexed_faithful (l : Lexer) (t : Text) :
    ((l.tokens t).flatMap (·.text) = t → (lexed l).paint t =
        ((l.tokens t).filter (·.text ≠ [])).map fun k =>
          ⟨"class:pygments".toList ++
            Text.lowerFrom "pygments".toList.reverse (Token.dotted k.kind), k.text⟩) ∧
      (∀ kind, 'Σ' ∉ Token.dotted kind →
        Text.lowerFrom "pygments".toList.reverse (Token.dotted kind) = (Token.dotted kind).lower) ∧
      ((l.tokens t).flatMap (·.text) ≠ t → (lexed l).paint t = Styled.unstyled t) ∧
      ((lexed l).paint t).plainText = t ∧ ∀ f ∈ (lexed l).paint t, f.text ≠ [] := by
  refine ⟨fun h => ?_, fun kind h => lowerFrom_eq_lowerFrom h _ _, fun h => ?_, ?_,
    (paint_covers _ t).ne_nil⟩
  · rw [paint_lexed, if_pos h, fragments_eq]
    simp only [Token.style_eq]
  · rw [paint_lexed, if_neg h]
  · have hshown : ((lexed l).paint t).Shown := paint_shown (fun _ h => by cases h) t
    rw [Styled.plainText_of_shown hshown, (paint_covers _ t).text_eq]

/-- Tokens with the mark of escape sequences in a kind and with an empty text, for a
    text that they make up and for another one. -/
theorem paint_lexed_faithful_mark :
    let l := Lexer.constant [⟨["Literal".toList, "[ZeroWidthEscape]".toList], "ab".toList⟩,
      ⟨["Text".toList], []⟩, ⟨[], "c".toList⟩]
    (lexed l).paint "abc".toList =
        [⟨"class:pygments.literal.[zerowidthescape]".toList, "ab".toList⟩,
          ⟨"class:pygments".toList, "c".toList⟩] ∧
      Text.lowerFrom "pygments".toList.reverse (Token.dotted ["Text".toList]) = ".text".toList ∧
      (lexed l).paint "ab".toList = [⟨[], "ab".toList⟩] ∧
      ((lexed l).paint "ab".toList).plainText = "ab".toList := by
  intro l
  obtain ⟨hpainted, hlower, -, -⟩ := paint_lexed_faithful l "abc".toList
  obtain ⟨-, -, hunstyled, hplain, -⟩ := paint_lexed_faithful l "ab".toList
  refine ⟨(hpainted (by decide)).trans ?_, (hlower _ (by decide)).trans ?_,
    hunstyled (by decide), hplain⟩
  · decide +kernel
  · decide +kernel

end Painter

theorem paintWith_covers (p : Option Painter) (t : Text) : (paintWith p t).Covers t := by
  cases p with
  | none => exact Styled.covers_unstyled t
  | some p => exact p.paint_covers t

theorem paintWith_shown {p : Option Painter}
    (h : ∀ style, p = some (.fixed style) → ¬ Styled.zeroWidthMark <:+: style) (t : Text) :
    (paintWith p t).Shown := by
  cases p with
  | none => exact Styled.shown_unstyled t
  | some p => exact Painter.paint_shown (fun style hp => h style (congrArg some hp)) t

end ShellHighlight
