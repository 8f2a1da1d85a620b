/-
  The lines of a styled text.

  Each fragment gives its pieces to the lines, and the last line of what stands
  in front is continued by the first piece (`glue`).

  * `map_text_lines`: the lines of a styled text are those of its text;
  * `characters_flatten_lines`: the lines keep every code point but the line
    ends, each in its style;
  * `line_natCast`, `line_sub_length` and `line_of_outside`: the numbers from
    both ends, and those of no line.
-/
import ShellHighlight.Proofs.Styled

namespace ShellHighlight

/-- The pieces that a fragment gives to the lines. -/
def Fragment.pieces (f : Fragment) : List Styled :=
  (f.text.splitOn '\n').map fun piece => [⟨f.style, piece⟩]

namespace Styled

/-! ## Joining lines -/

theorem glue_cons_cons (x x' : Styled) (xs ys : List Styled) :
    glue (x :: x' :: xs) ys = x :: glue (x' :: xs) ys := by
  cases ys <;> rfl

theorem glue_ne_nil : ∀ {xs : List Styled} (ys : List Styled), xs ≠ [] → glue xs ys ≠ []
  | [], _, h => absurd rfl h
  | [x], [], _ => by simp [glue]
  | [x], y :: ys, _ => by simp [glue]
  | x :: x' :: xs, ys, _ => by simp [glue]

theorem lines_ne_nil : ∀ s : Styled, lines s ≠ []
  | [] => by simp [lines]
  | f :: s => glue_ne_nil _ (by simp)

/-- Joining lines keeps all fragments. -/
theorem flatten_glue : ∀ xs ys : List Styled, (glue xs ys).flatten = xs.flatten ++ ys.flatten
  | [], _ => rfl
  | [x], [] => by simp [glue]
  | [x], y :: ys => by simp [glue]
  | x :: x' :: xs, ys => by
    calc (glue (x :: x' :: xs) ys).flatten
        = x ++ (glue (x' :: xs) ys).flatten := by rw [glue_cons_cons, List.flatten_cons]
      _ = x ++ ((x' :: xs).flatten ++ ys.flatten) := by rw [flatten_glue]
      _ = (x :: x' :: xs).flatten ++ ys.flatten := (List.append_assoc ..).symm

/-- The last line of the first text goes on with the first line of the second. -/
theorem intercalate_glue (sep : Text) : ∀ {xs ys : List Styled}, xs ≠ [] → ys ≠ [] →
    sep.intercalate ((glue xs ys).map text) =
      sep.intercalate (xs.map text) ++ sep.intercalate (ys.map text)
  | [], _, h, _ => absurd rfl h
  | _, [], _, h => absurd rfl h
  | [x], [y], _, _ => by simp [glue]
  | [x], y :: y' :: ys, _, _ => by simp [glue, List.intercalate_cons_cons]
  | x :: x' :: xs, y :: ys, _, hy => by
    have ih := intercalate_glue sep (List.cons_ne_nil x' xs) hy
    obtain ⟨z, zs, hz⟩ := List.exists_cons_of_ne_nil (glue_ne_nil (y :: ys) (List.cons_ne_nil x' xs))
    rw [hz] at ih
    rw [glue_cons_cons, hz, List.map_cons, List.map_cons, List.intercalate_cons_cons,
      ← List.map_cons, ih]
    simp [List.intercalate_cons_cons]

/-- Joining lines brings no line end into them. -/
theorem notMem_of_mem_glue {c : Char} : ∀ {xs ys : List Styled}, (∀ l ∈ xs, c ∉ l.text) →
    (∀ l ∈ ys, c ∉ l.text) → ∀ l ∈ glue xs ys, c ∉ l.text
  | [], _, _, hy => hy
  | [x], [], hx, _ => hx
  | [x], y :: ys, hx, hy => by
    intro l hl
    rcases List.mem_cons.1 hl with rfl | hl
    · rw [text_append, List.mem_append, not_or]
      exact ⟨hx x List.mem_cons_self, hy y List.mem_cons_self⟩
    · exact hy l (List.mem_cons_of_mem y hl)
  | x :: x' :: xs, ys, hx, hy => by
    intro l hl
    rw [glue_cons_cons] at hl
    rcases List.mem_cons.1 hl with rfl | hl
    · exact hx l List.mem_cons_self
    · exact notMem_of_mem_glue (fun k hk => hx k (List.mem_cons_of_mem x hk)) hy l hl

/-! ## Cutting at the line ends -/

theorem lines_cons (f : Fragment) (s : Styled) : lines (f :: s) = glue f.pieces (lines s) := rfl

theorem map_text_pieces (f : Fragment) : f.pieces.map text = f.text.splitOn '\n' := by
  simp [Fragment.pieces, text, Function.comp_def]

theorem notMem_of_mem_lines : ∀ {s : Styled}, ∀ l ∈ lines s, '\n' ∉ l.text
  | [], l, hl => by
    rw [List.mem_singleton.1 hl]
    exact List.not_mem_nil
  | f :: s, l, hl => by
    refine notMem_of_mem_glue (fun k hk => ?_) notMem_of_mem_lines l hl
    have hpiece : k.text ∈ f.text.splitOn '\n' := map_text_pieces f ▸ List.mem_map_of_mem hk
    exact Text.notMem_of_mem_splitOn hpiece

/-- Between the lines stand the line ends of the text. -/
theorem intercalate_lines : ∀ s : Styled, ['\n'].intercalate ((lines s).map text) = s.text
  | [] => rfl
  | f :: s => by
    have hpieces : f.pieces ≠ [] := by simp [Fragment.pieces]
    rw [lines_cons, intercalate_glue ['\n'] hpieces (lines_ne_nil s), map_text_pieces,
      List.intercalate_splitOn, intercalate_lines s]
    rfl

/-- **The lines of a styled text are those of its text.** -/
theorem map_text_lines (s : Styled) : (lines s).map text = s.text.splitOn '\n' := by
  have hne : (lines s).map text ≠ [] := by simp [lines_ne_nil]
  rw [← intercalate_lines s, List.splitOn_intercalate '\n' ?_ hne]
  intro t ht
  obtain ⟨l, hl, rfl⟩ := List.mem_map.1 ht
  exact notMem_of_mem_lines l hl

theorem characters_flatten_pieces (f : Fragment) :
    characters f.pieces.flatten = (characters [f]).filter (·.1 ≠ '\n') := by
  calc characters f.pieces.flatten
      = (f.text.splitOn '\n').flatMap fun piece => piece.map (·, f.style) := by
        rw [characters_flatten, Fragment.pieces, List.flatMap_map]
        simp [characters]
    _ = (f.text.splitOn '\n').flatten.map (·, f.style) := by
        rw [List.map_flatten, List.flatMap_def]
    _ = (f.text.filter (· ≠ '\n')).map (·, f.style) := by rw [Text.flatten_splitOn]
    _ = (characters [f]).filter (·.1 ≠ '\n') := by
        simp [characters, List.filter_map, Function.comp_def]

/-- **The lines keep every code point but the line ends**, each in its style. -/
theorem characters_flatten_lines : ∀ s : Styled,
    characters (lines s).flatten = (characters s).filter (·.1 ≠ '\n')
  | [] => rfl
  | f :: s => by
    rw [lines_cons, flatten_glue, characters_append, characters_flatten_pieces,
      characters_flatten_lines s, ← List.filter_append, ← characters_append, List.singleton_append]

/-! ## Line numbers -/

theorem line_natCast (ls : List Styled) (i : ℕ) : line ls i = ls[i]?.getD [] := by
  have h : ¬ (i : ℤ) < 0 := by omega
  simp [line, h]

/-- A negative number counts from the end. -/
theorem line_sub_length (ls : List Styled) {i : ℕ} (hi : i < ls.length) :
    line ls (i - ls.length) = line ls i := by
  have h : (i : ℤ) - ls.length < 0 := by omega
  have hback : (ls.length : ℤ) + (i - ls.length) = i := by omega
  have hpos : ¬ (i : ℤ) < 0 := by omega
  rw [line, if_pos h, hback, if_neg hpos, line_natCast, Int.toNat_natCast]

theorem line_of_outside {ls : List Styled} {k : ℤ} (h : k < -ls.length ∨ ls.length ≤ k) :
    line ls k = [] := by
  rcases h with h | h
  · have hk : k < 0 := by omega
    rw [line, if_pos hk, if_pos (by omega)]
  · have hk : ¬ k < 0 := by omega
    rw [line, if_neg hk, if_neg hk, List.getElem?_eq_none (by omega), Option.getD_none]

/-- The lines by their numbers are all lines. -/
theorem map_line_range (ls : List Styled) :
    (List.range ls.length).map (fun i : ℕ => line ls i) = ls := by
  refine List.ext_getElem (by simp) fun i h h' => ?_
  rw [List.getElem_map, List.getElem_range, line_natCast, List.getElem?_eq_getElem h',
    Option.getD_some]

end Styled

end ShellHighlight
