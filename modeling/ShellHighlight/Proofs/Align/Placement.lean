/-
  Alignment places as many words as can be placed.

  * `Placement` says what it is to place words in a line, without a search: each
    word occurs at its position, and none begins before the one in front of it
    ends;
  * `exists_placement`: the words among the spans are such a placement;
  * `Placement.starts_le`: no placement of the same words has one of them further
    to the left, and so none has more of them;
  * `align_isGreatest`: both for the words of a line behind its command.
-/
import ShellHighlight.Proofs.Align
import Mathlib.Data.List.Forall2
import Mathlib.Order.Bounds.Basic

namespace ShellHighlight

open Text

/-- The words stand in `buffer` at the given positions: in order, from `pos` on,
    within the line and without overlapping. -/
inductive Placement (buffer : Text) : ℤ → List Text → List ℕ → Prop where
  | nil {pos : ℤ} : Placement buffer pos [] []
  | cons {pos : ℤ} {p : ℕ} {w : Text} {ws : List Text} {ps : List ℕ} :
      pos ≤ p → w <+: buffer.drop p → p + w.length ≤ buffer.length →
        Placement buffer (p + w.length) ws ps → Placement buffer pos (w :: ws) (p :: ps)

theorem Span.filter_isWord_glue (a b : ℤ) : (glue a b).filter isWord = [] := by
  unfold glue
  split_ifs <;> rfl

/-- The spans of words are that of the first one, if it is found, and those
    behind it. -/
theorem filter_isWord_place {buffer w : Text} {pos : ℤ} {found : ℕ} (ws : List Text)
    (h : find? buffer w pos = some found) :
    (place buffer pos (w :: ws)).filter Span.isWord =
      ⟨found, found + w.length, some w⟩ ::
        (place buffer (found + w.length) ws).filter Span.isWord := by
  rw [place_of_find ws h, List.filter_append, Span.filter_isWord_glue, List.nil_append]
  exact List.filter_cons_of_pos rfl

theorem filter_isWord_place_of_none {buffer w : Text} {pos : ℤ} (ws : List Text)
    (h : find? buffer w pos = none) : (place buffer pos (w :: ws)).filter Span.isWord = [] := by
  rw [place_of_find_none ws h, Span.filter_isWord_glue]

/-- **The words among the spans are placed** where their spans begin. -/
theorem exists_placement (buffer : Text) : ∀ (pos : ℤ) (ws : List Text),
    ∃ ps : List ℕ, ((place buffer pos ws).filter Span.isWord).map Span.start = ps.map (↑) ∧
      Placement buffer pos (ws.take ps.length) ps
  | pos, [] => ⟨[], by rw [place, Span.filter_isWord_glue]; rfl, .nil⟩
  | pos, w :: ws => by
    rcases hf : find? buffer w pos with _ | found
    · exact ⟨[], by rw [filter_isWord_place_of_none ws hf]; rfl, .nil⟩
    · obtain ⟨ps, hstarts, hps⟩ := exists_placement buffer (found + w.length) ws
      refine ⟨found :: ps, ?_, ?_⟩
      · rw [filter_isWord_place ws hf, List.map_cons, hstarts, List.map_cons]
      · rw [List.length_cons, List.take_succ_cons]
        exact .cons (le_of_find? hf) (find?_eq_some_iff.1 hf).2.2.1 (find?_le hf) hps

/-- **No word can be placed further to the left.** The search for the first word
    may begin in front of where the placement begins: it stays in front, because
    the word is found no later than where the placement has it. -/
theorem Placement.starts_le {buffer : Text} : ∀ {ws : List Text} {ps : List ℕ} {pos pos' : ℤ},
    Placement buffer pos (ws.take ps.length) ps → 0 ≤ pos' → pos' ≤ pos →
      List.Forall₂ (fun s p => s.start ≤ ↑p)
        (((place buffer pos' ws).filter Span.isWord).take ps.length) ps
  | _, [], _, _, _, _, _ => by
    rw [List.length_nil, List.take_zero]
    exact .nil
  | [], p :: ps, _, _, h, _, _ => by
    rw [List.take_nil] at h
    cases h
  | w :: ws, p :: ps, pos, pos', h, hpos', hle => by
    rw [List.length_cons, List.take_succ_cons] at h
    cases h with
    | cons hp hw hlen hps =>
      have hcut : cut buffer.length pos' ≤ p := by
        unfold cut
        split_ifs <;> omega
      obtain ⟨found, hfound, hf⟩ := exists_find?_le (by omega) hcut hw
      have hbehind : (found + w.length : ℤ) ≤ p + w.length := by omega
      have hrest := hps.starts_le (by omega) hbehind
      rw [filter_isWord_place ws hf, List.length_cons, List.take_succ_cons]
      exact .cons (Int.ofNat_le.2 hfound) hrest

/-- **Alignment places as many words as can be placed**, and each as far to the
    left as it can be. Let it begin anywhere but in front of the line. However the
    first words behind the command are placed from there on, at least as many are
    aligned, and none of these begins behind its place; and there is a placement
    of just as many. -/
theorem align_isGreatest (buffer : Text) (words : List Text) (start : Option ℤ)
    (hstart : 0 ≤ start.getD (words.headD []).length) :
    let first : ℤ := start.getD (words.headD []).length
    let aligned := (align buffer words start).filter Span.isWord
    (∀ ps : List ℕ, Placement buffer first (words.tail.take ps.length) ps →
        ps.length ≤ aligned.length ∧
          List.Forall₂ (fun s p => s.start ≤ ↑p) (aligned.take ps.length) ps) ∧
      IsGreatest {k | ∃ ps : List ℕ, ps.length = k ∧
        Placement buffer first (words.tail.take k) ps} aligned.length := by
  intro first aligned
  have hle : ∀ ps : List ℕ, Placement buffer first (words.tail.take ps.length) ps →
      ps.length ≤ aligned.length ∧
        List.Forall₂ (fun s p => s.start ≤ ↑p) (aligned.take ps.length) ps := by
    intro ps hps
    have hstarts := hps.starts_le hstart le_rfl
    have hlen : min ps.length aligned.length = ps.length := by
      rw [← List.length_take]
      exact hstarts.length_eq
    exact ⟨by omega, hstarts⟩
  obtain ⟨ps, hstarts, hps⟩ := exists_placement buffer first words.tail
  have hlen : ps.length = aligned.length := by
    rw [← List.length_map (f := ((↑) : ℕ → ℤ)), ← hstarts, List.length_map]
    rfl
  refine ⟨hle, ⟨ps, hlen, hlen ▸ hps⟩, ?_⟩
  rintro _ ⟨qs, rfl, hqs⟩
  exact (hle qs hqs).1

/-- A word that occurs inside another one, and an empty word. Placed late they
    leave no room for the last word, which is aligned all the same. -/
theorem align_isGreatest_overlapping :
    let buffer := "x aba a".toList
    let words := ["x".toList, "a".toList, [], "a".toList, "a".toList]
    let aligned := (align buffer words none).filter Span.isWord
    (0 : ℤ) ≤ (none : Option ℤ).getD (words.headD []).length ∧
      Placement buffer 1 (words.tail.take 3) [4, 5, 6] ∧
      aligned.map Span.start = [2, 3, 4, 6] ∧ 3 ≤ aligned.length ∧
      IsGreatest {k | ∃ ps : List ℕ, ps.length = k ∧
        Placement buffer 1 (words.tail.take k) ps} 4 := by
  intro buffer words aligned
  have hstart : (0 : ℤ) ≤ (none : Option ℤ).getD (words.headD []).length := by decide
  have hlate : Placement buffer 1 (words.tail.take 3) [4, 5, 6] :=
    .cons (by decide) (by decide) (by decide) (.cons (by decide) (by decide) (by decide)
      (.cons (by decide) (by decide) (by decide) .nil))
  have haligned : aligned.map Span.start = [2, 3, 4, 6] := by decide
  obtain ⟨hle, hgreatest⟩ := align_isGreatest buffer words none hstart
  exact ⟨hstart, hlate, haligned, (hle [4, 5, 6] hlate).1, hgreatest⟩

end ShellHighlight
