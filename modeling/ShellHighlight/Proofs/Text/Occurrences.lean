/-
  The occurrences of a text that do not overlap.

  * `Leftmost` says what they are: the first occurrence, the first one behind
    its end, and so on until there is none;
  * `pairwise_occurrences`: each ends where the next one begins, or in front of
    it, also for the empty text, which occurs everywhere;
  * `leftmost_occurrences`: for a text that is not empty they are the leftmost
    ones, of which there is one list only (`Leftmost.unique`).
-/
import ShellHighlight.Proofs.Text

namespace ShellHighlight

namespace Text

/-- The positions of the leftmost occurrences of `w` in `t` from a position on
    that do not overlap: each is the first one behind the end of the one before
    it, and behind the last one `w` does not occur. -/
inductive Leftmost (w t : Text) : ℕ → List ℕ → Prop where
  | nil {pos : ℕ} : (∀ i, pos ≤ i → ¬ w <+: t.drop i) → Leftmost w t pos []
  | cons {pos i : ℕ} {is : List ℕ} :
      pos ≤ i → w <+: t.drop i → (∀ j, pos ≤ j → j < i → ¬ w <+: t.drop j) →
        Leftmost w t (i + w.length) is → Leftmost w t pos (i :: is)

/-- Where `w` does not occur, one may as well begin at the next position. -/
theorem Leftmost.of_succ {w t : Text} {pos : ℕ} {is : List ℕ} (h : Leftmost w t (pos + 1) is)
    (hpos : ¬ w <+: t.drop pos) : Leftmost w t pos is := by
  have hfrom : ∀ j, pos ≤ j → (pos + 1 ≤ j → ¬ w <+: t.drop j) → ¬ w <+: t.drop j := by
    intro j hj hnot
    rcases Nat.eq_or_lt_of_le hj with rfl | hlt
    · exact hpos
    · exact hnot hlt
  cases h with
  | nil hnone => exact .nil fun j hj => hfrom j hj (hnone j)
  | cons hle hw hfirst hnext =>
    exact .cons (by omega) hw (fun j hj hlt => hfrom j hj fun hj' => hfirst j hj' hlt) hnext

/-- **There is only one list of leftmost occurrences.** -/
theorem Leftmost.unique {w t : Text} {pos : ℕ} {is js : List ℕ} (h : Leftmost w t pos is)
    (h' : Leftmost w t pos js) : is = js := by
  induction h generalizing js with
  | nil hnone =>
    cases h' with
    | nil => rfl
    | cons hle hw => exact absurd hw (hnone _ hle)
  | @cons pos i is hle hw hfirst _ ih =>
    cases h' with
    | nil hnone => exact absurd hw (hnone i hle)
    | @cons _ j js hle' hw' hfirst' hnext =>
      have hij : i = j := by
        rcases Nat.lt_trichotomy i j with hlt | heq | hgt
        · exact absurd hw (hfirst' i hle hlt)
        · exact heq
        · exact absurd hw' (hfirst j hle' hgt)
      subst hij
      rw [ih hnext]

/-! ## The scan -/

theorem le_of_mem_occurrencesFrom {w : Text} {i : ℕ} : ∀ {t : Text} {pos busy : ℕ},
    i ∈ occurrencesFrom w pos busy t → pos + busy ≤ i
  | [], pos, 0, h => by
    rw [occurrencesFrom] at h
    split_ifs at h
    · rw [List.mem_singleton.1 h]
      omega
    · simp at h
  | [], _, busy + 1, h => by simp [occurrencesFrom] at h
  | c :: t, pos, busy + 1, h => by
    rw [occurrencesFrom] at h
    have := le_of_mem_occurrencesFrom h
    omega
  | c :: t, pos, 0, h => by
    rw [occurrencesFrom] at h
    split_ifs at h
    · rcases List.mem_cons.1 h with rfl | h
      · omega
      · have := le_of_mem_occurrencesFrom h
        omega
    · have := le_of_mem_occurrencesFrom h
      omega

theorem pairwise_occurrencesFrom (w : Text) : ∀ (t : Text) (pos busy : ℕ),
    (occurrencesFrom w pos busy t).Pairwise fun i j => i + w.length ≤ j
  | [], pos, 0 => by
    rw [occurrencesFrom]
    split_ifs
    · exact List.pairwise_singleton _ _
    · exact .nil
  | [], _, busy + 1 => by simp [occurrencesFrom]
  | c :: t, pos, busy + 1 => by
    rw [occurrencesFrom]
    exact pairwise_occurrencesFrom w t (pos + 1) busy
  | c :: t, pos, 0 => by
    rw [occurrencesFrom]
    split_ifs
    · refine .cons (fun j hj => ?_) (pairwise_occurrencesFrom w t _ _)
      have := le_of_mem_occurrencesFrom hj
      omega
    · exact pairwise_occurrencesFrom w t _ _

/-- **The occurrences do not overlap.** -/
theorem pairwise_occurrences (w t : Text) :
    (occurrences w t).Pairwise fun i j => i + w.length ≤ j :=
  pairwise_occurrencesFrom w t 0 0

/-- A scan that has come to `pos` finds the leftmost occurrences from there on,
    behind what the last occurrence still takes. -/
theorem leftmost_occurrencesFrom {w t : Text} (hw : w ≠ []) : ∀ {u : Text} {pos busy : ℕ},
    t.drop pos = u → Leftmost w t (pos + busy) (occurrencesFrom w pos busy u)
  | [], pos, busy, hu => by
    have hnone : occurrencesFrom w pos busy [] = [] := by
      cases busy <;> simp [occurrencesFrom, hw]
    rw [hnone]
    refine .nil fun i hi hpre => hw ?_
    rw [List.drop_eq_nil_of_le (by have := List.drop_eq_nil_iff.1 hu; omega)] at hpre
    exact List.prefix_nil.1 hpre
  | c :: u, pos, busy + 1, hu => by
    have hnext : t.drop (pos + 1) = u := by
      rw [← List.drop_drop, hu, List.drop_one, List.tail_cons]
    have ih : Leftmost w t (pos + 1 + busy) (occurrencesFrom w (pos + 1) busy u) :=
      leftmost_occurrencesFrom hw hnext
    rwa [Nat.add_assoc, Nat.add_comm 1] at ih
  | c :: u, pos, 0, hu => by
    have hnext : t.drop (pos + 1) = u := by
      rw [← List.drop_drop, hu, List.drop_one, List.tail_cons]
    rw [occurrencesFrom]
    split_ifs with hprefix
    · have hend : pos + 1 + (w.length - 1) = pos + w.length := by
        have := List.length_pos_iff.2 hw
        omega
      have ih : Leftmost w t (pos + 1 + (w.length - 1)) _ := leftmost_occurrencesFrom hw hnext
      rw [hend] at ih
      refine .cons le_rfl ?_ (fun j hj hlt => absurd hj (by omega)) ih
      rw [hu]
      exact List.isPrefixOf_iff_prefix.1 hprefix
    · have ih : Leftmost w t (pos + 1 + 0) (occurrencesFrom w (pos + 1) 0 u) :=
        leftmost_occurrencesFrom hw hnext
      refine ih.of_succ ?_
      rw [hu]
      exact fun h => hprefix (List.isPrefixOf_iff_prefix.2 h)

/-- **The occurrences are the leftmost ones.** -/
theorem leftmost_occurrences {w : Text} (hw : w ≠ []) (t : Text) :
    Leftmost w t 0 (occurrences w t) := by
  have h : Leftmost w t (0 + 0) (occurrencesFrom w 0 0 t) := leftmost_occurrencesFrom hw rfl
  exact h

end Text

end ShellHighlight
