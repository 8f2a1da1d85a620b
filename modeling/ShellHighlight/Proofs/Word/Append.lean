/-
  The words of a text that is read in two parts.

  * `splitLine_append_gap` and `splitOpen_append_gap`: behind a finished line and a
    gap the splitter begins anew, so that the words of the two parts stand one
    behind the other, and `wordsBefore_append_gap` is this for the words in front
    of a cursor;
  * `Scan.begun?` is what has been read of the word that the splitter is in, and
    `Scan.exists_words_of_begun`: it stays in front of that word, however the text
    goes on;
  * `wordsBefore_complete_mono`: moving the cursor to the right extends the word
    under it and changes no other.
-/
import ShellHighlight.Proofs.Word.Plain

namespace ShellHighlight

open Grammar

/-! ## Behind a finished line and a gap -/

theorem Grammar.Line.front {a g : Text} {as : List Text} (h : Line a as) (hg : Gap g)
    (hne : g ≠ []) : Front (a ++ g) as := by
  cases h with
  | blank hb => exact .gap (hb.append hg)
  | words hf hw hb =>
    rw [List.append_assoc]
    exact .word hf hw (hb.append hg) (by simp [hne])

/-- A gap behind a line belongs to it. -/
theorem Grammar.Line.append_gap {a g : Text} {as : List Text} (h : Line a as) (hg : Gap g) :
    Line (a ++ g) as := by
  by_cases hne : g = []
  · rwa [hne, List.append_nil]
  · exact line_iff.2 (.inl (.between (h.front hg hne)))

section
variable {a g : Text} {as : List Text} (ha : Line a as) (hg : Gap g) (hne : g ≠ [])
include ha hg hne

/-- **Behind a finished line and a gap the splitter begins anew.** -/
theorem run_append_gap (b : Text) : Scan.between.run (a ++ g ++ b) =
    (as ++ (Scan.between.run b).1, (Scan.between.run b).2) := by
  rw [run_append, run_front (ha.front hg hne)]

theorem splitLine_append_gap (b : Text) :
    splitLine (a ++ g ++ b) = (splitLine b).map (as ++ ·) := by
  rw [splitLine, splitLine, run_append_gap ha hg hne]
  cases (Scan.between.run b).2.finish with
  | error e => rfl
  | ok last => simp [Except.map, List.append_assoc]

theorem splitOpen_append_gap (b : Text) : splitOpen (a ++ g ++ b) = as ++ splitOpen b := by
  rw [splitOpen, splitOpen, run_append_gap ha hg hne, List.append_assoc]

end

/-- **Splitting is compositional at gaps.** Let `a` be a finished line and `g` a gap
    that is not empty. With the cursor at the end or behind it, for either reading,
    the words of `a`, `g` and `b` are the words of `a` and then the words of `b`,
    and if `b` is refused then all of it is refused with the same error. -/
theorem wordsBefore_append_gap {a g b : Text} {as : List Text} {i j k : ℤ} (hi : a.length ≤ i)
    (hj : b.length ≤ j) (hk : (a ++ g ++ b).length ≤ k)
    (ha : wordsBefore a i .acceptLine = .ok as) (hg : Gap g) (hne : g ≠ []) (r : Reading) :
    wordsBefore a i r = .ok as ∧
      (∀ bs, wordsBefore b j r = .ok bs → wordsBefore (a ++ g ++ b) k r = .ok (as ++ bs)) ∧
      ∀ e, wordsBefore b j r = .error e → wordsBefore (a ++ g ++ b) k r = .error e := by
  have hline : Line a as := by
    rwa [wordsBefore_acceptLine_of_le hi, splitLine_eq_ok_iff] at ha
  refine ⟨wordsBefore_of_line hi hline r, ?_⟩
  cases r with
  | acceptLine =>
    rw [wordsBefore_acceptLine_of_le hj, wordsBefore_acceptLine_of_le hk,
      splitLine_append_gap hline hg hne]
    refine ⟨fun bs hb => ?_, fun e hb => ?_⟩ <;> rw [hb] <;> rfl
  | complete =>
    rw [wordsBefore_complete_of_le hj, wordsBefore_complete_of_le hk,
      splitOpen_append_gap hline hg hne]
    refine ⟨fun bs hb => ?_, fun e hb => ?_⟩
    · rw [Except.ok.inj hb]
    · cases hb

/-- A word that is glued from pieces, and behind the gap one that is not closed. -/
theorem wordsBefore_append_gap_open_quote :
    let a := "x\\ 'y'".toList
    let g := " \n".toList
    let b := "'z \"".toList
    ((a.length : ℤ) ≤ 6 ∧ (b.length : ℤ) ≤ 4 ∧ ((a ++ g ++ b).length : ℤ) ≤ 12 ∧
        wordsBefore a 6 .acceptLine = .ok ["x y".toList] ∧ Gap g ∧ g ≠ []) ∧
      wordsBefore b 4 .complete = .ok ["z \"".toList] ∧
      wordsBefore (a ++ g ++ b) 12 .complete = .ok ["x y".toList, "z \"".toList] ∧
      wordsBefore b 4 .acceptLine = .error .noClosingQuote ∧
      wordsBefore (a ++ g ++ b) 12 .acceptLine = .error .noClosingQuote := by
  intro a g b
  have hi : (a.length : ℤ) ≤ 6 := by decide
  have hj : (b.length : ℤ) ≤ 4 := by decide
  have hk : ((a ++ g ++ b).length : ℤ) ≤ 12 := by decide
  have ha : wordsBefore a 6 .acceptLine = .ok ["x y".toList] := rfl
  have hg : Gap g := by decide
  have hne : g ≠ [] := by decide
  have hcomplete : wordsBefore b 4 .complete = .ok ["z \"".toList] := rfl
  have haccept : wordsBefore b 4 .acceptLine = .error .noClosingQuote := rfl
  obtain ⟨-, hwords, -⟩ := wordsBefore_append_gap hi hj hk ha hg hne .complete
  obtain ⟨-, -, herror⟩ := wordsBefore_append_gap hi hj hk ha hg hne .acceptLine
  exact ⟨⟨hi, hj, hk, ha, hg, hne⟩, hcomplete, hwords _ hcomplete, haccept, herror _ haccept⟩

/-! ## Reading on within a word -/

namespace Scan

/-- What has been read of the word that has been begun. -/
def begun? : Scan → Option Text
  | .between => none
  | .bare word => some word
  | .quoted _ word => some word
  | .escaping _ word => some word

theorem begun?_of_leftover {s : Scan} {v : Text} (h : s.leftover = some v) :
    s.begun? = some v := by
  cases s with
  | between => cases h
  | bare => exact h
  | quoted => exact h
  | escaping inQuotes word =>
    rw [leftover] at h
    split_ifs at h
    exact h

/-- A word that has something in it is reported. -/
theorem leftover_of_begun {s : Scan} {v : Text} (h : s.begun? = some v) (hv : v ≠ []) :
    s.leftover = some v := by
  cases s with
  | between => cases h
  | bare => exact h
  | quoted => exact h
  | escaping inQuotes word =>
    obtain rfl : word = v := Option.some.inj h
    rw [leftover, if_neg (by simp [hv])]

theorem begun?_extend (v : Text) (c : Char) : ∃ x, (extend v c).begun? = some (v ++ x) := by
  unfold extend
  split_ifs
  · exact ⟨[], by simp [begun?]⟩
  · cases QuoteMark.ofChar? c with
    | some mark => exact ⟨[], by simp [begun?]⟩
    | none => exact ⟨[c], rfl⟩

/-- **A code point more ends the word or goes on with it.** -/
theorem step_of_begun {s : Scan} {v : Text} (h : s.begun? = some v) (c : Char) :
    s.step c = (some v, .between) ∨ ∃ s' x, s.step c = (none, s') ∧ s'.begun? = some (v ++ x) := by
  cases s with
  | between => cases h
  | bare word =>
    obtain rfl : word = v := Option.some.inj h
    rw [step]
    split_ifs
    · exact .inl rfl
    · obtain ⟨x, hx⟩ := begun?_extend word c
      exact .inr ⟨_, x, rfl, hx⟩
  | quoted mark word =>
    obtain rfl : word = v := Option.some.inj h
    rw [step]
    split_ifs
    · exact .inr ⟨_, [], rfl, by simp [begun?]⟩
    · exact .inr ⟨_, [], rfl, by simp [begun?]⟩
    · exact .inr ⟨_, [c], rfl, rfl⟩
  | escaping inQuotes word =>
    obtain rfl : word = v := Option.some.inj h
    cases inQuotes with
    | false => exact .inr ⟨_, [c], rfl, rfl⟩
    | true =>
      rw [step]
      split_ifs
      · exact .inr ⟨_, [c], rfl, rfl⟩
      · exact .inr ⟨_, ['\\', c], rfl, rfl⟩

/-- A text behind what has been read of a word ends the word, or goes on with it
    up to its end. -/
theorem run_of_begun : ∀ {s : Scan} {v : Text}, s.begun? = some v → ∀ t : Text,
    (∃ x us s', s.run t = ((v ++ x) :: us, s')) ∨
      ∃ s' x, s.run t = ([], s') ∧ s'.begun? = some (v ++ x)
  | s, v, h, [] => .inr ⟨s, [], rfl, by rw [List.append_nil, h]⟩
  | s, v, h, c :: t => by
    rw [run]
    rcases step_of_begun h c with hs | ⟨s', x, hs, hx⟩ <;> rw [hs]
    · exact .inl ⟨[], (between.run t).1, (between.run t).2, by simp⟩
    · -- the word goes on, and the rest of the text with it
      rcases run_of_begun hx t with ⟨y, us, s'', hr⟩ | ⟨s'', y, hr, hy⟩
      · exact .inl ⟨x ++ y, us, s'', by simp [hr]⟩
      · exact .inr ⟨s'', x ++ y, by simp [hr], by rw [← List.append_assoc, hy]⟩

/-- **What has been read of a word stays in front of it.** -/
theorem exists_words_of_begun {s : Scan} {v : Text} (h : s.begun? = some v) (hv : v ≠ [])
    (t : Text) : ∃ x us, s.words t = (v ++ x) :: us := by
  rw [words]
  rcases run_of_begun h t with ⟨x, us, s', hr⟩ | ⟨s', x, hr, hx⟩
  · rw [hr]
    exact ⟨x, _, List.cons_append⟩
  · have hlast := leftover_of_begun hx (by simp [hv])
    rw [hr, hlast]
    exact ⟨x, [], rfl⟩

end Scan

/-! ## Moving the cursor -/

/-- The words of a text that goes on: all but the last one are left as they are,
    and so is what has been read of the last one. -/
theorem splitOpen_append {t : Text} {vs : List Text} {v : Text} (h : splitOpen t = vs ++ [v])
    (u : Text) : vs <+: splitOpen (t ++ u) ∧ (v ≠ [] → ∃ x, vs ++ [v ++ x] <+: splitOpen (t ++ u)) := by
  have hall : splitOpen (t ++ u) = (Scan.between.run t).1 ++ (Scan.between.run t).2.words u :=
    Scan.words_append _ t u
  rw [hall]
  rw [splitOpen] at h
  cases hl : (Scan.between.run t).2.leftover with
  | none =>
    -- the last word has ended
    rw [hl, Option.toList_none, List.append_nil] at h
    rw [h]
    exact ⟨(List.prefix_append vs [v]).trans (List.prefix_append _ _),
      fun _ => ⟨[], by rw [List.append_nil]; exact List.prefix_append _ _⟩⟩
  | some v' =>
    rw [hl, Option.toList_some] at h
    obtain ⟨hvs, hv'⟩ := List.append_inj' h rfl
    obtain rfl : v' = v := List.singleton_inj.1 hv'
    rw [hvs]
    refine ⟨List.prefix_append _ _, fun hne => ?_⟩
    obtain ⟨x, us, hx⟩ := Scan.exists_words_of_begun (Scan.begun?_of_leftover hl) hne u
    rw [hx]
    exact ⟨x, by simp⟩

/-- **Moving the cursor to the right extends the word under it.** All words but the
    last one stay as they are and where they are, and if the last one has something
    in it then it is the beginning of the word that stands in its place. -/
theorem wordsBefore_complete_mono (t : Text) {c d : ℤ} (hcd : c ≤ d) :
    ∃ as bs, wordsBefore t c .complete = .ok as ∧ wordsBefore t d .complete = .ok bs ∧
      as.dropLast <+: bs ∧
      ∀ v ∈ as.getLast?, v ≠ [] → ∃ u, bs[as.length - 1]? = some u ∧ v <+: u := by
  refine ⟨_, _, rfl, rfl, ?_⟩
  obtain ⟨rest, hrest⟩ : t.take c.toNat <+: t.take d.toNat :=
    List.take_prefix_take_left (Int.toNat_le_toNat hcd)
  rw [← hrest]
  rcases List.eq_nil_or_concat' (splitOpen (t.take c.toNat)) with h | ⟨vs, v, h⟩
  · rw [h]
    exact ⟨List.nil_prefix, fun v hv => absurd hv (by simp)⟩
  · obtain ⟨hfront, hlast⟩ := splitOpen_append h rest
    rw [h, List.dropLast_concat, List.getLast?_concat, List.length_append, List.length_singleton,
      Nat.add_sub_cancel]
    refine ⟨hfront, fun v' hv' hne => ?_⟩
    obtain rfl : v = v' := Option.some.inj hv'
    obtain ⟨x, us, hx⟩ := hlast hne
    refine ⟨v ++ x, ?_, List.prefix_append v x⟩
    rw [← hx]
    simp

/-- The cursor stands within quotes that are closed further on, with a word glued to
    them. -/
theorem wordsBefore_complete_mono_quoted :
    let t := "x 'a b'c d".toList
    (5 : ℤ) ≤ 9 ∧ wordsBefore t 5 .complete = .ok ["x".toList, "a ".toList] ∧
      ∃ bs, wordsBefore t 9 .complete = .ok bs ∧ ["x".toList] <+: bs ∧
        ∃ u, bs[1]? = some u ∧ "a ".toList <+: u := by
  intro t
  have hcd : (5 : ℤ) ≤ 9 := by decide
  have ht : wordsBefore t 5 .complete = .ok ["x".toList, "a ".toList] := rfl
  obtain ⟨as, bs, has, hbs, hfront, hlast⟩ := wordsBefore_complete_mono t hcd
  rw [ht] at has
  obtain rfl := Except.ok.inj has
  exact ⟨hcd, ht, bs, hbs, hfront, hlast _ rfl (by decide)⟩

end ShellHighlight
