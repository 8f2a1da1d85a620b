/-
  Highlighting is lossless.

  Whatever a line is highlighted as, the fragments make up the line and none of
  them is empty (`Highlighter.highlight_covers`): each of the five modes covers
  the parts that it cuts the line into. The whole line is also shown, unless a
  fixed style of a painter makes an escape sequence of its text
  (`Highlighter.highlight_shown`). Both together are
  `Highlighter.highlight_lossless`.
-/
import ShellHighlight.Highlighter
import ShellHighlight.Proofs.Align
import ShellHighlight.Proofs.Overlay
import ShellHighlight.Proofs.Path.Argument

namespace ShellHighlight

namespace Highlighter

/-- The fixed styles of the painters that are configured. -/
def fixedStyles (h : Highlighter) : List Text :=
  [h.command, h.arguments, h.language].filterMap fun
    | some (.fixed style) => some style
    | _ => none

/-! ## The modes -/

section
variable (h : Highlighter) (w : World) (e : Editor) (buffer : Text)

/-- A span covers its text: glue as it is, and a word because it occurs
    there. -/
theorem paintSpan_covers {pos : ℤ} {ws : List Text} {s : Span} (hs : s ∈ place buffer pos ws) :
    (h.paintSpan w e buffer s).Covers (s.text buffer) := by
  unfold paintSpan
  split
  · exact Styled.covers_unstyled _
  · rename_i word hw
    rw [text_of_mem_place hs hw]
    exact highlightArgument_covers h.classifier h.arguments w e word

theorem highlightFiles_covers : (h.highlightFiles w e buffer).Covers buffer := by
  unfold highlightFiles
  split
  · exact paintWith_covers h.command buffer
  · rename_i i hi
    have hspans : Styled.Covers ((align buffer (splitOpen buffer) (some i)).flatMap
        (h.paintSpan w e buffer)) (buffer.drop i) := by
      rw [← Text.drop_cut, ← Text.slice_length, ← text_place]
      exact Styled.covers_flatMap fun s hs => h.paintSpan_covers w e buffer hs
    have hall := (paintWith_covers h.command (buffer.take i)).append hspans
    rw [List.take_append_drop] at hall
    exact hall

theorem highlightCommand_covers : (h.highlightCommand buffer).Covers buffer := by
  unfold highlightCommand
  split <;> split_ifs
  · exact Styled.covers_unstyled buffer
  · exact paintWith_covers h.command buffer
  · exact Styled.covers_unstyled buffer
  · rename_i i _ _
    have hall := (paintWith_covers h.command (buffer.take i)).append
      (paintWith_covers h.arguments (buffer.drop i))
    rw [List.take_append_drop] at hall
    exact hall

/-- **The fragments of a highlighted line make up the line.** -/
theorem highlight_covers : (h.highlight w e buffer).Covers buffer := by
  unfold highlight
  split
  · exact overlay_covers e buffer
  · exact h.highlightFiles_covers w e buffer
  · exact h.highlightCommand_covers buffer
  · exact paintWith_covers h.language buffer
  · exact Styled.covers_unstyled buffer

end

/-! ## What is shown -/

section
variable {h : Highlighter} (hfixed : ∀ style ∈ h.fixedStyles, ¬ Styled.zeroWidthMark <:+: style)
  (w : World) (e : Editor) (buffer : Text)
include hfixed

theorem paintWith_slot_shown {p : Option Painter} (hp : p ∈ [h.command, h.arguments, h.language])
    (t : Text) : (paintWith p t).Shown := by
  refine paintWith_shown (fun style hs => hfixed style ?_) t
  exact List.mem_filterMap.2 ⟨p, hp, by rw [hs]⟩

theorem highlightFiles_shown : (h.highlightFiles w e buffer).Shown := by
  have hcommand := fun t => paintWith_slot_shown hfixed (p := h.command) (by simp) t
  have harguments : ∀ style, h.arguments = some (.fixed style) → ¬ Styled.zeroWidthMark <:+: style :=
    fun style hs => hfixed style (List.mem_filterMap.2 ⟨h.arguments, by simp, by rw [hs]⟩)
  unfold highlightFiles
  split
  · exact hcommand buffer
  · refine (hcommand _).append (Styled.shown_flatMap fun s _ => ?_)
    unfold paintSpan
    split
    · exact Styled.shown_unstyled _
    · exact highlightArgument_shown h.classifier h.arguments w e _ harguments

theorem highlightCommand_shown : (h.highlightCommand buffer).Shown := by
  have hcommand := fun t => paintWith_slot_shown hfixed (p := h.command) (by simp) t
  have harguments := fun t => paintWith_slot_shown hfixed (p := h.arguments) (by simp) t
  unfold highlightCommand
  split <;> split_ifs
  · exact Styled.shown_unstyled buffer
  · exact hcommand buffer
  · exact Styled.shown_unstyled buffer
  · exact (hcommand _).append (harguments _)

theorem highlight_shown : (h.highlight w e buffer).Shown := by
  unfold highlight
  split
  · exact overlay_shown e buffer
  · exact highlightFiles_shown hfixed w e buffer
  · exact highlightCommand_shown hfixed buffer
  · exact paintWith_slot_shown hfixed (p := h.language) (by simp) buffer
  · exact Styled.shown_unstyled buffer

end

/-! ## Losslessness -/

/-- **Highlighting is lossless.** Every line is answered with fragments that
    make up the line, none of them empty; and if no fixed style of a painter
    marks its text as an escape sequence, the line is what is shown. -/
theorem highlight_lossless (h : Highlighter) (w : World) (e : Editor) (buffer : Text) :
    (h.highlight w e buffer).text = buffer ∧
      (∀ f ∈ h.highlight w e buffer, f.text ≠ []) ∧
      ((∀ style ∈ h.fixedStyles, ¬ Styled.zeroWidthMark <:+: style) →
        (h.highlight w e buffer).plainText = buffer) := by
  obtain ⟨htext, hne⟩ := h.highlight_covers w e buffer
  refine ⟨htext, hne, fun hfixed => ?_⟩
  rw [Styled.plainText_of_shown (highlight_shown hfixed w e buffer), htext]

/-- An unfinished line with an option and an open quote is shown as it is. -/
theorem highlight_lossless_open_quote :
    let h : Highlighter := { (default : Highlighter) with
      command := some (.fixed "class:command".toList), fileCommands := ["ls".toList] }
    (∀ style ∈ h.fixedStyles, ¬ Styled.zeroWidthMark <:+: style) ∧
      h.mode default {} "ls -l 'a b".toList = .file ∧
      (h.highlight default {} "ls -l 'a b".toList).plainText = "ls -l 'a b".toList := by
  intro h
  have hfixed : ∀ style ∈ h.fixedStyles, ¬ Styled.zeroWidthMark <:+: style := by decide
  exact ⟨hfixed, by decide, (h.highlight_lossless default {} _).2.2 hfixed⟩

end Highlighter

end ShellHighlight
