/-
  Typing the arguments of a command.

  A line is blanks, a token, and what has been typed behind the token.

  * `mode_token`: the token alone decides the mode of the line;
  * `highlightFiles_token` and `highlightCommand_token` are a line with nothing
    behind the token, and `highlightFiles_isPrefix` and
    `characters_highlightCommand_isPrefix` that it stays in front of whatever is
    typed there;
  * `highlight_isPrefix`: typing changes neither the mode nor the styles in
    front of it.
-/
import ShellHighlight.Highlighter
import ShellHighlight.Proofs.Styled
import ShellHighlight.Proofs.Text.Blank

namespace ShellHighlight

namespace Highlighter

section
variable (h : Highlighter) (w : World) (e : Editor) {blanks token rest : Text}
  (hblanks : ∀ c ∈ blanks, isBlank c = true) (hne : token ≠ [])
  (htoken : ∀ c ∈ token, isBlank c = false)
include hblanks hne htoken

/-! ## The token alone -/

theorem tokenEnd?_token : Text.tokenEnd? (blanks ++ token) = none := by
  have hend := Text.tokenEnd?_append hblanks hne htoken []
  rwa [List.append_nil] at hend

theorem highlightFiles_token :
    h.highlightFiles w e (blanks ++ token) = paintWith h.command (blanks ++ token) := by
  rw [highlightFiles, tokenEnd?_token hblanks hne htoken]

theorem highlightCommand_token :
    h.highlightCommand (blanks ++ token) = paintWith h.command (blanks ++ token) := by
  rw [highlightCommand, tokenEnd?_token hblanks hne htoken]
  dsimp only
  split_ifs with hnone
  · have hcommand : h.command = none := by
      simp only [Bool.and_eq_true, Option.isNone_iff_eq_none] at hnone
      exact hnone.1
    rw [hcommand, paintWith]
  · rfl

/-! ## Something behind the token -/

variable (hrest : ∀ c ∈ rest.head?, isBlank c = true)
include hrest

/-- **The first token decides the mode of a line.** -/
theorem mode_token : h.mode w e (blanks ++ (token ++ rest)) =
    if e.isMarking then .overlay else h.commandMode w (commandName token) := by
  rw [mode, Text.words_trim_append hne htoken hrest hblanks]

/-- The token ends where something else begins. -/
theorem tokenEnd?_token_append (hbehind : rest ≠ []) :
    Text.tokenEnd? (blanks ++ (token ++ rest)) = some (blanks ++ token).length := by
  obtain ⟨b, rest, rfl⟩ := List.exists_cons_of_ne_nil hbehind
  rw [Text.tokenEnd?_append hblanks hne htoken, Text.tokenEndFrom_cons_blank (hrest b rfl),
    List.length_append]

theorem highlightFiles_isPrefix :
    h.highlightFiles w e (blanks ++ token) <+: h.highlightFiles w e (blanks ++ (token ++ rest)) := by
  by_cases hbehind : rest = []
  · rw [hbehind, List.append_nil]
  · rw [highlightFiles_token h w e hblanks hne htoken, highlightFiles,
      tokenEnd?_token_append hblanks hne htoken hrest hbehind, ← List.append_assoc]
    dsimp only
    rw [List.take_left]
    exact List.prefix_append _ _

/-- Without painters the whole line is one fragment, which grows. -/
theorem characters_highlightCommand_isPrefix :
    (h.highlightCommand (blanks ++ token)).characters <+:
      (h.highlightCommand (blanks ++ (token ++ rest))).characters := by
  by_cases hbehind : rest = []
  · rw [hbehind, List.append_nil]
  · rw [highlightCommand_token h hblanks hne htoken, highlightCommand,
      tokenEnd?_token_append hblanks hne htoken hrest hbehind, ← List.append_assoc]
    dsimp only
    split_ifs with hnone
    · simp only [Bool.and_eq_true, Option.isNone_iff_eq_none] at hnone
      rw [hnone.1, paintWith]
      exact Styled.characters_unstyled_isPrefix _ _
    · rw [List.take_left]
      exact Styled.characters_isPrefix (List.prefix_append _ _)

/-- **Typing arguments changes nothing in front of them.** A line of blanks, a
    token and anything behind the token that begins with a blank has the mode of
    the token. If the arguments are paths, if the command and its arguments are
    told apart, or if nothing is highlighted, the code points up to the end of
    the token have the styles that they have when nothing is behind it. -/
theorem highlight_isPrefix : h.mode w e (blanks ++ token ++ rest) = h.mode w e token ∧
    (h.mode w e token = .file ∨ h.mode w e token = .command ∨ h.mode w e token = .plain →
      (h.highlight w e (blanks ++ token)).characters <+:
        (h.highlight w e (blanks ++ token ++ rest)).characters) := by
  have hnil : ∀ c ∈ ([] : Text).head?, isBlank c = true := by simp
  have halone : h.mode w e token = if e.isMarking then .overlay
      else h.commandMode w (commandName token) := by
    have hmode := h.mode_token w e (fun c hc => absurd hc List.not_mem_nil) hne htoken hnil
    rwa [List.nil_append, List.append_nil] at hmode
  have hfront : h.mode w e (blanks ++ token) = h.mode w e token := by
    have hmode := h.mode_token w e hblanks hne htoken hnil
    rw [List.append_nil] at hmode
    rw [hmode, halone]
  have hall : h.mode w e (blanks ++ token ++ rest) = h.mode w e token := by
    rw [List.append_assoc, h.mode_token w e hblanks hne htoken hrest, halone]
  refine ⟨hall, ?_⟩
  rw [highlight, highlight, hfront, hall]
  rintro (hmode | hmode | hmode) <;> rw [hmode]
  · rw [List.append_assoc]
    exact Styled.characters_isPrefix (h.highlightFiles_isPrefix w e hblanks hne htoken hrest)
  · rw [List.append_assoc]
    exact h.characters_highlightCommand_isPrefix hblanks hne htoken hrest
  · exact Styled.characters_unstyled_isPrefix _ _

end

/-- An argument in open quotes behind a no-break space. -/
theorem highlight_isPrefix_open_quote :
    let h : Highlighter := { (default : Highlighter) with
      command := some (.fixed "bold".toList), fileCommands := ["ls".toList] }
    let blanks := "\t".toList
    let token := "'ls'".toList
    let rest := "\u00a0'a b".toList
    (∀ c ∈ blanks, isBlank c = true) ∧ token ≠ [] ∧ (∀ c ∈ token, isBlank c = false) ∧
      (∀ c ∈ rest.head?, isBlank c = true) ∧ h.mode default {} token = .file ∧
      h.mode default {} (blanks ++ token ++ rest) = h.mode default {} token ∧
      (h.highlight default {} (blanks ++ token)).characters <+:
        (h.highlight default {} (blanks ++ token ++ rest)).characters := by
  intro h blanks token rest
  have hblanks : ∀ c ∈ blanks, isBlank c = true := List.all_eq_true.1 rfl
  have hne : token ≠ [] := List.cons_ne_nil _ _
  have htoken : ∀ c ∈ token, isBlank c = false :=
    List.forall_iff_forall_mem.1 ⟨rfl, rfl, rfl, rfl⟩
  have hrest : ∀ c ∈ rest.head?, isBlank c = true := by
    rintro c ⟨⟩
    rfl
  have hmode : h.mode default {} token = .file := by decide
  obtain ⟨hall, hstyles⟩ := h.highlight_isPrefix default {} hblanks hne htoken hrest
  exact ⟨hblanks, hne, htoken, hrest, hmode, hall, hstyles (.inl hmode)⟩

end Highlighter

end ShellHighlight
