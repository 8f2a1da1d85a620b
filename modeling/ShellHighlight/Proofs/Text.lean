/-
  Searching in texts and cutting them.

  * `offset?_eq_some_iff`: the offset of `w` is the first position where `w` is
    a prefix of what is left, and `offset?_isSome_iff` says when there is one;
    `find?_eq_some_iff` is the same for a search that begins at a cut mark, and
    `exists_find?_le` for one that begins in front of an occurrence;
  * `takeWhile_append_stop`, `dropWhile_append_stop`: a run ends at the first code
    point that is not of its kind, and `reverse_takeWhile_reverse` is what follows
    the last occurrence of a code point;
  * `slice_append_slice`: neighbouring slices make up one slice;
  * `intercalate_pieces`: the pieces of a text make up the text, and between single
    code points they are those of `splitOn` (`pieces_singleton`);
  * `flatten_splitOn`: the lines of a text are the text without its line ends.
-/
import ShellHighlight.Text.Basic
import Mathlib.Data.List.Infix
import Mathlib.Data.List.TakeWhile
import Mathlib.Tactic.Common

namespace ShellHighlight

/-- What is in an intercalation is in the separator or in a part. -/
theorem mem_of_mem_intercalate {α : Type} {sep : List α} {a : α} :
    ∀ {ls : List (List α)}, a ∈ List.intercalate sep ls → a ∈ sep ∨ ∃ l ∈ ls, a ∈ l
  | [], h => by simp at h
  | [l], h => by
    rw [List.intercalate_singleton] at h
    exact Or.inr ⟨l, by simp, h⟩
  | l :: l' :: ls, h => by
    rw [List.intercalate_cons_cons, List.append_assoc, List.mem_append, List.mem_append] at h
    rcases h with h | h | h
    · exact Or.inr ⟨l, by simp, h⟩
    · exact Or.inl h
    · rcases mem_of_mem_intercalate h with h | ⟨m, hm, ha⟩
      · exact Or.inl h
      · exact Or.inr ⟨m, List.mem_cons_of_mem _ hm, ha⟩

/-- An intercalation of two lists, neither of them empty. -/
theorem intercalate_append {α : Type} {sep : List α} {ys : List (List α)} (hys : ys ≠ []) :
    ∀ {xs : List (List α)}, xs ≠ [] →
      List.intercalate sep (xs ++ ys) = List.intercalate sep xs ++ sep ++ List.intercalate sep ys
  | [], hxs => absurd rfl hxs
  | [x], _ => by
    rw [List.singleton_append, List.intercalate_cons_of_ne_nil hys, List.intercalate_singleton]
  | x :: x' :: xs, _ => by
    have ih : List.intercalate sep (x' :: (xs ++ ys)) =
        List.intercalate sep (x' :: xs) ++ sep ++ List.intercalate sep ys :=
      intercalate_append hys (List.cons_ne_nil x' xs)
    rw [List.cons_append, List.cons_append, List.intercalate_cons_cons, ih,
      List.intercalate_cons_cons]
    simp only [List.append_assoc]

namespace Text

/-! ## The first occurrence -/

theorem offset?_cons_of_pos {w t : Text} {c : Char} (h : w <+: c :: t) :
    offset? w (c :: t) = some 0 := by
  rw [offset?, if_pos (List.isPrefixOf_iff_prefix.2 h)]

theorem offset?_cons_of_neg {w t : Text} {c : Char} (h : ¬ w <+: c :: t) :
    offset? w (c :: t) = (offset? w t).map (· + 1) := by
  rw [offset?, if_neg fun h' => h (List.isPrefixOf_iff_prefix.1 h')]

/-- **The offset is the position of the first occurrence.** -/
theorem offset?_eq_some_iff {w : Text} :
    ∀ {t : Text} {n : ℕ}, offset? w t = some n ↔ w <+: t.drop n ∧ ∀ m < n, ¬ w <+: t.drop m
  | [], n => by
    cases w with
    | nil =>
      simp only [offset?, List.isEmpty_nil, if_true, Option.some.injEq, List.nil_prefix, true_and,
        not_true_eq_false]
      constructor
      · rintro rfl m hm
        exact absurd hm (Nat.not_lt_zero m)
      · intro h
        by_contra hn
        exact h 0 (Nat.pos_of_ne_zero fun h0 => hn h0.symm)
    | cons a w => simp [offset?]
  | c :: t, n => by
    by_cases hw : w <+: c :: t
    · rw [offset?_cons_of_pos hw, Option.some.injEq]
      constructor
      · rintro rfl
        exact ⟨hw, by simp⟩
      · rintro ⟨-, h⟩
        by_contra hn
        exact h 0 (by omega) hw
    · rw [offset?_cons_of_neg hw, Option.map_eq_some_iff]
      constructor
      · rintro ⟨m, hm, rfl⟩
        obtain ⟨h1, h2⟩ := offset?_eq_some_iff.1 hm
        refine ⟨h1, fun k hk => ?_⟩
        cases k with
        | zero => exact hw
        | succ k => exact h2 k (by omega)
      · rintro ⟨h1, h2⟩
        cases n with
        | zero => exact absurd h1 hw
        | succ n =>
          exact ⟨n, offset?_eq_some_iff.2 ⟨h1, fun k hk => h2 (k + 1) (by omega)⟩, rfl⟩

theorem offset?_isSome_iff {w : Text} : ∀ {t : Text}, (offset? w t).isSome ↔ w <:+: t
  | [] => by cases w <;> simp [offset?]
  | c :: t => by
    rw [List.infix_cons_iff]
    by_cases hw : w <+: c :: t
    · simp [offset?_cons_of_pos hw, hw]
    · rw [offset?_cons_of_neg hw, Option.isSome_map, offset?_isSome_iff]
      exact ⟨Or.inr, fun h => h.resolve_left hw⟩

/-! ## Where a code point stops a run -/

section
variable {p : Char → Bool} {c : Char} (hc : p c = false) (t rest : Text)
include hc

theorem takeWhile_append_stop : (t ++ c :: rest).takeWhile p = t.takeWhile p := by
  rw [List.takeWhile_append, List.takeWhile_cons_of_neg (by simp [hc]), List.append_nil]
  split_ifs with h
  · exact ((List.takeWhile_prefix p).eq_of_length h).symm
  · rfl

theorem dropWhile_append_stop : (t ++ c :: rest).dropWhile p = t.dropWhile p ++ c :: rest := by
  rw [List.dropWhile_append, List.dropWhile_cons_of_neg (by simp [hc])]
  split_ifs with h
  · rw [List.isEmpty_iff.1 h, List.nil_append]
  · rfl

end

theorem cut_le (n : ℕ) (i : ℤ) : cut n i ≤ n := by
  unfold cut
  split_ifs <;> omega

theorem cut_natCast {n i : ℕ} (h : i ≤ n) : cut n i = i := by
  unfold cut
  split_ifs <;> omega

theorem drop_cut (t : Text) (i : ℕ) : t.drop (cut t.length i) = t.drop i := by
  by_cases h : i ≤ t.length
  · rw [cut_natCast h]
  · have hc : cut t.length i = t.length := by
      unfold cut
      split_ifs <;> omega
    rw [hc, List.drop_length, List.drop_eq_nil_of_le (by omega)]

/-- Among marks that are not negative the order is kept. -/
theorem cut_le_cut {n : ℕ} {a b : ℤ} (ha : 0 ≤ a) (hab : a ≤ b) : cut n a ≤ cut n b := by
  unfold cut
  split_ifs <;> omega

/-- Neighbouring slices make up one slice. -/
theorem slice_append_slice {t : Text} {a b c : ℤ} (hab : cut t.length a ≤ cut t.length b)
    (hbc : cut t.length b ≤ cut t.length c) : slice t a b ++ slice t b c = slice t a c := by
  have h : t.take (cut t.length b) = (t.take (cut t.length c)).take (cut t.length b) := by
    rw [List.take_take, Nat.min_eq_left hbc]
  rw [slice, slice, slice, h, ← List.drop_append_of_le_length, List.take_append_drop]
  rw [List.length_take, List.length_take]
  have := cut_le t.length c
  omega

/-- A slice between a mark and one that is not behind it is empty. -/
theorem slice_eq_nil {t : Text} {a b : ℤ} (h : cut t.length b ≤ cut t.length a) :
    slice t a b = [] := by
  rw [slice, List.drop_eq_nil_iff, List.length_take]
  omega

/-- A slice up to the end is what is left behind its beginning. -/
theorem slice_length (t : Text) (a : ℤ) : slice t a t.length = t.drop (cut t.length a) := by
  rw [slice, cut_natCast le_rfl, List.take_length]

/-! ## Searching from a mark -/

/-- **A search finds the first occurrence behind its mark.** -/
theorem find?_eq_some_iff {t w : Text} {start : ℤ} {n : ℕ} :
    find? t w start = some n ↔ start ≤ t.length ∧ cut t.length start ≤ n ∧ w <+: t.drop n ∧
      ∀ m, cut t.length start ≤ m → m < n → ¬ w <+: t.drop m := by
  unfold find?
  split_ifs with hs
  · constructor
    · intro h
      cases h
    · rintro ⟨h, -⟩
      omega
  · rw [Option.map_eq_some_iff]
    constructor
    · rintro ⟨k, hk, rfl⟩
      obtain ⟨h1, h2⟩ := offset?_eq_some_iff.1 hk
      rw [List.drop_drop] at h1
      refine ⟨by omega, by omega, h1, fun m hm hmk hw => ?_⟩
      refine h2 (m - cut t.length start) (by omega) ?_
      rw [List.drop_drop, Nat.add_sub_cancel' hm]
      exact hw
    · rintro ⟨-, hn, h1, h2⟩
      refine ⟨n - cut t.length start, offset?_eq_some_iff.2 ⟨?_, fun m hm => ?_⟩, by omega⟩
      · rw [List.drop_drop, Nat.add_sub_cancel' hn]
        exact h1
      · rw [List.drop_drop]
        exact h2 _ (by omega) (by omega)

/-- A text is found behind what it does not occur in, not even in part. -/
theorem find?_append {front s w rest : Text}
    (h : ∀ k < s.length, ¬ w <+: s.drop k ++ (w ++ rest)) :
    find? (front ++ (s ++ (w ++ rest))) w front.length = some (front.length + s.length) := by
  have hlen : front.length ≤ (front ++ (s ++ (w ++ rest))).length := by
    rw [List.length_append]
    omega
  refine find?_eq_some_iff.2 ⟨by omega, ?_, ?_, fun m hm hlt hw => ?_⟩
  · rw [cut_natCast hlen]
    omega
  · rw [← List.append_assoc, ← List.length_append, List.drop_left]
    exact List.prefix_append w rest
  · rw [cut_natCast hlen] at hm
    obtain ⟨k, rfl⟩ := Nat.exists_eq_add_of_le hm
    rw [← List.drop_drop, List.drop_left, List.drop_append_of_le_length (by omega)] at hw
    exact h k (by omega) hw

/-- What has been found lies within the text. -/
theorem find?_le {t w : Text} {start : ℤ} {n : ℕ} (h : find? t w start = some n) :
    n + w.length ≤ t.length := by
  obtain ⟨hs, hc, hp, hf⟩ := find?_eq_some_iff.1 h
  have hl := hp.length_le
  rw [List.length_drop] at hl
  by_cases hn : n ≤ t.length
  · omega
  · exact absurd (by rw [List.eq_nil_of_length_eq_zero (by omega : w.length = 0)]
                     exact List.nil_prefix) (hf t.length (cut_le _ _) (by omega))

/-- Nothing is found in front of the mark, also where the mark is counted from
    the end. -/
theorem le_of_find? {t w : Text} {start : ℤ} {n : ℕ} (h : find? t w start = some n) :
    start ≤ n := by
  obtain ⟨hs, hc, -, -⟩ := find?_eq_some_iff.1 h
  unfold cut at hc
  split_ifs at hc <;> omega

theorem find?_of_lt {t : Text} {start : ℤ} (h : t.length < start) (w : Text) :
    find? t w start = none := by
  rw [find?, if_pos h]

/-- What occurs behind the mark is found there, or in front of that place. -/
theorem exists_find?_le {t w : Text} {start : ℤ} {p : ℕ} (hstart : start ≤ t.length)
    (hp : cut t.length start ≤ p) (hw : w <+: t.drop p) :
    ∃ n ≤ p, find? t w start = some n := by
  have hdrop : (t.drop (cut t.length start)).drop (p - cut t.length start) = t.drop p := by
    rw [List.drop_drop, Nat.add_sub_cancel' hp]
  have hinfix : w <:+: t.drop (cut t.length start) := by
    rw [← hdrop] at hw
    exact hw.isInfix.trans (List.drop_suffix _ _).isInfix
  obtain ⟨k, hk⟩ := Option.isSome_iff_exists.1 (offset?_isSome_iff.2 hinfix)
  have hfind : find? t w start = some (cut t.length start + k) := by
    unfold find?
    rw [if_neg (by omega)]
    exact Option.map_eq_some_iff.2 ⟨k, hk, rfl⟩
  refine ⟨_, ?_, hfind⟩
  by_contra hlt
  exact (find?_eq_some_iff.1 hfind).2.2.2 p hp (by omega) hw

/-- The slice at a place where a text occurs is that text. -/
theorem slice_of_occurs {t w : Text} {n : ℕ} (hn : n + w.length ≤ t.length)
    (h : w <+: t.drop n) : slice t n (n + w.length) = w := by
  have h2 : cut t.length ((n : ℤ) + w.length) = n + w.length := by
    rw [← Int.natCast_add, cut_natCast hn]
  rw [slice, h2, cut_natCast (by omega), List.drop_take, Nat.add_sub_cancel_left]
  exact (List.prefix_iff_eq_take.1 h).symm

/-! ## Pieces -/

theorem consFirst_ne_nil (c : Char) (ps : List Text) : consFirst c ps ≠ [] := by
  cases ps <;> simp [consFirst]

theorem piecesFrom_ne_nil (sep : Text) : ∀ (busy : ℕ) (t : Text), piecesFrom sep busy t ≠ []
  | _, [] => by simp [piecesFrom]
  | busy + 1, _ :: t => by rw [piecesFrom]; exact piecesFrom_ne_nil sep busy t
  | 0, c :: t => by
    rw [piecesFrom]
    split_ifs
    · exact List.cons_ne_nil _ _
    · exact consFirst_ne_nil _ _

theorem intercalate_consFirst (sep : Text) (c : Char) {ps : List Text} (h : ps ≠ []) :
    List.intercalate sep (consFirst c ps) = c :: List.intercalate sep ps := by
  rcases ps with _ | ⟨p, _ | ⟨q, ps⟩⟩
  · exact absurd rfl h
  · simp [consFirst]
  · simp [consFirst, List.intercalate_cons_cons]

/-- The pieces make up what is left behind the occurrence they begin in. -/
theorem intercalate_piecesFrom {sep : Text} (hs : sep ≠ []) :
    ∀ (busy : ℕ) (t : Text), List.intercalate sep (piecesFrom sep busy t) = t.drop busy
  | busy, [] => by simp [piecesFrom]
  | busy + 1, c :: t => by
    rw [piecesFrom, intercalate_piecesFrom hs busy t, List.drop_succ_cons]
  | 0, c :: t => by
    rw [piecesFrom]
    split_ifs with hp
    · obtain ⟨rest, hr⟩ := List.isPrefixOf_iff_prefix.1 hp
      obtain ⟨p, ps, he⟩ := List.exists_cons_of_ne_nil (piecesFrom_ne_nil sep (sep.length - 1) t)
      have ih := intercalate_piecesFrom hs (sep.length - 1) t
      have hlen : sep.length = sep.length - 1 + 1 := by
        have := List.length_pos_of_ne_nil hs
        omega
      rw [he] at ih ⊢
      rw [List.intercalate_cons_cons, ih, List.nil_append, List.drop_zero]
      calc sep ++ t.drop (sep.length - 1)
          = sep ++ (c :: t).drop sep.length := by rw [hlen, List.drop_succ_cons, ← hlen]
        _ = c :: t := by rw [← hr, List.drop_left]
    · rw [intercalate_consFirst sep c (piecesFrom_ne_nil sep 0 t), intercalate_piecesFrom hs 0 t,
        List.drop_zero, List.drop_zero]

/-- **The pieces of a text make up the text.** -/
theorem intercalate_pieces {sep : Text} (hs : sep ≠ []) (t : Text) :
    List.intercalate sep (pieces sep t) = t := by
  rw [pieces, intercalate_piecesFrom hs, List.drop_zero]

/-- Cut at one code point, a text falls into its lines. -/
theorem pieces_singleton (c : Char) : ∀ t : Text, pieces [c] t = t.splitOn c
  | [] => rfl
  | a :: t => by
    have ih : piecesFrom [c] 0 t = t.splitOn c := pieces_singleton c t
    obtain ⟨p, ps, hp⟩ := List.exists_cons_of_ne_nil (List.splitOn_ne_nil c t)
    rw [pieces, piecesFrom, List.splitOn_cons_eq_if_modifyHead, List.length_singleton, ih, hp]
    by_cases hac : a = c
    · subst hac
      simp
    · simp [hac, Ne.symm hac, consFirst]

/-! ## Lines -/

/-- No line of a text has a line end in it. -/
theorem notMem_of_mem_splitOn {a : Char} : ∀ {t p : Text}, p ∈ t.splitOn a → a ∉ p
  | [], p, h => by
    rw [List.splitOn_nil, List.mem_singleton] at h
    simp [h]
  | c :: t, p, h => by
    rw [List.splitOn_cons_eq_if_modifyHead] at h
    split_ifs at h with hc
    · rcases List.mem_cons.1 h with rfl | h
      · exact List.not_mem_nil
      · exact notMem_of_mem_splitOn h
    · obtain ⟨q, qs, hq⟩ := List.exists_cons_of_ne_nil (List.splitOn_ne_nil a t)
      rw [hq, List.modifyHead_cons] at h
      rcases List.mem_cons.1 h with rfl | h
      · have hca : a ≠ c := by
          rintro rfl
          simp at hc
        exact List.not_mem_cons_of_ne_of_not_mem hca (notMem_of_mem_splitOn (hq ▸ List.mem_cons_self))
      · exact notMem_of_mem_splitOn (hq ▸ List.mem_cons_of_mem q h)

/-- The lines of a text are the text without its line ends. -/
theorem flatten_splitOn (a : Char) : ∀ t : Text, (t.splitOn a).flatten = t.filter (· ≠ a)
  | [] => rfl
  | c :: t => by
    have ih := flatten_splitOn a t
    rw [List.splitOn_cons_eq_if_modifyHead]
    by_cases hc : c = a
    · rw [if_pos (beq_iff_eq.2 hc), List.filter_cons_of_neg (by simp [hc]), List.flatten_cons,
        List.nil_append, ih]
    · obtain ⟨q, qs, hq⟩ := List.exists_cons_of_ne_nil (List.splitOn_ne_nil a t)
      rw [hq] at ih
      rw [if_neg (by simp [hc]), List.filter_cons_of_pos (by simp [hc]), hq, List.modifyHead_cons,
        List.flatten_cons, List.cons_append, ← List.flatten_cons, ih]

end Text

end ShellHighlight
