/-
  The command that a line invokes, however its name is written.

  * `CommandToken` is a name written in one of the ways of `Quoting`, with an
    assignment and a colon in front of it where it has them; it carries what is
    asked of the name and of the variable;
  * `CommandToken.commandName_text`: the name is found behind all of this;
  * `Registry.Knows` are the names that a shell knows, and
    `Highlighter.commandMode_iff` is when a name has which mode;
  * `Highlighter.mode_commandToken`: the name decides the mode of the line.
-/
import ShellHighlight.Proofs.Typing
import ShellHighlight.Proofs.Word.Quoting

namespace ShellHighlight

open Grammar

/-! ## Names in front of which something stands -/

/-- The names of variables: a letter or a low line, and then letters, digits and
    low lines. -/
def IsIdentifier (v : Text) : Prop :=
  ∃ c u, v = c :: u ∧ (c.isAlpha = true ∨ c = '_') ∧
    ∀ d ∈ u, d.isAlpha = true ∨ d.isDigit = true ∨ d = '_'

theorem IsIdentifier.isNameChar {v : Text} (hv : IsIdentifier v) :
    ∀ c ∈ v, isNameChar c = true := by
  obtain ⟨c, u, rfl, hc, hu⟩ := hv
  refine List.forall_mem_cons.2 ⟨?_, fun d hd => ?_⟩
  · rcases hc with hc | rfl
    · simp [ShellHighlight.isNameChar, hc]
    · rfl
  · simpa [ShellHighlight.isNameChar, or_assoc] using hu d hd

theorem IsIdentifier.beginsName_append {v : Text} (hv : IsIdentifier v) (t : Text) :
    beginsName (v ++ t) = true := by
  obtain ⟨c, u, rfl, hc, -⟩ := hv
  simpa [beginsName] using hc

/-- Letters, digits and low lines lie between `0` and `z`, where no blank does. -/
theorem isBlank_of_isNameChar {c : Char} (h : isNameChar c = true) : isBlank c = false := by
  have hrange : 48 ≤ c.toNat ∧ c.toNat ≤ 122 := by
    simp only [isNameChar, Bool.or_eq_true, beq_iff_eq] at h
    rcases h with (h | h) | rfl
    · rcases Bool.or_eq_true_iff.1 h with h | h
      · have hupper : 65 ≤ c.toNat ∧ c.toNat ≤ 90 := of_decide_eq_true h
        omega
      · have hlower : 97 ≤ c.toNat ∧ c.toNat ≤ 122 :=
          (Bool.and_eq_true_iff.1 h).imp of_decide_eq_true of_decide_eq_true
        omega
    · have hdigit : 48 ≤ c.toNat ∧ c.toNat ≤ 57 :=
        (Bool.and_eq_true_iff.1 h).imp of_decide_eq_true of_decide_eq_true
      omega
    · decide
  simp [isBlank]
  omega

/-- A token that invokes a command. -/
structure CommandToken where
  /-- The variable of an assignment in front. -/
  assigned : Option Text
  /-- Whether a colon stands in front. -/
  colon : Bool
  quoting : Quoting
  name : Text
  assigned_isIdentifier : ∀ v ∈ assigned, IsIdentifier v
  name_ne_nil : name ≠ []
  name_not_blank : ∀ c ∈ name, isBlank c = false

namespace CommandToken

/-- The name as it is written, with the colon. -/
def nameText (k : CommandToken) : Text :=
  (if k.colon then [':'] else []) ++ k.quoting.write k.name

/-- The text of a token. -/
def text (k : CommandToken) : Text :=
  k.assigned.elim [] (· ++ ['=']) ++ k.nameText

end CommandToken

/-! ## What stands in front of the name -/

/-- An assignment in front of something that is not blank is passed over. -/
theorem dropAssignment_append {v : Text} (hv : IsIdentifier v) {c : Char} (hc : isBlank c = false)
    (t : Text) : dropAssignment (v ++ '=' :: c :: t) = c :: t := by
  have hdrop : (v ++ '=' :: c :: t).dropWhile isNameChar = '=' :: c :: t :=
    Text.dropWhile_append hv.isNameChar (by rintro x ⟨⟩; rfl)
  rw [dropAssignment, hdrop]
  simp [hv.beginsName_append, hc]

/-- There is no assignment in front of a text that does not begin with a name. -/
theorem dropAssignment_of_head {c : Char} (hname : isNameChar c = false) (hc : c ≠ '=') (t : Text) :
    dropAssignment (c :: t) = c :: t := by
  rw [dropAssignment, List.dropWhile_cons_of_neg (by simp [hname])]
  split
  · next heq => exact absurd (List.cons.inj heq).1 hc
  · rfl

theorem dropColon_of_head {c : Char} (hc : c ≠ ':') (t : Text) : dropColon (c :: t) = c :: t := by
  unfold dropColon
  split
  · next heq => exact absurd (List.cons.inj heq).1 hc
  · rfl

namespace CommandToken

theorem exists_nameText_eq_cons (k : CommandToken) :
    ∃ c u, k.nameText = c :: u ∧ (c = ':' ∨ isPlain c = false) := by
  unfold nameText
  split_ifs
  · exact ⟨':', _, rfl, .inl rfl⟩
  · obtain ⟨c, u, hcu, hc⟩ := k.quoting.exists_write_eq_cons fun _ => k.name_ne_nil
    exact ⟨c, u, hcu, .inr hc⟩

theorem text_ne_nil (k : CommandToken) : k.text ≠ [] := by
  obtain ⟨c, u, hcu, -⟩ := k.exists_nameText_eq_cons
  simp [text, hcu]

theorem nameText_not_blank (k : CommandToken) : ∀ c ∈ k.nameText, isBlank c = false := by
  intro c hc
  rcases List.mem_append.1 hc with hc | hc
  · split_ifs at hc
    · rw [List.mem_singleton.1 hc]
      rfl
    · exact absurd hc List.not_mem_nil
  · rcases Quoting.mem_write hc with hc | hc
    · exact isBlank_of_not_isPlain hc
    · exact k.name_not_blank c hc

/-- No blank ends the token. -/
theorem text_not_blank (k : CommandToken) : ∀ c ∈ k.text, isBlank c = false := by
  intro c hc
  rcases List.mem_append.1 hc with hc | hc
  · cases hv : k.assigned with
    | none =>
      rw [hv] at hc
      exact absurd hc List.not_mem_nil
    | some v =>
      rw [hv, Option.elim_some, List.mem_append, List.mem_singleton] at hc
      rcases hc with hc | rfl
      · exact isBlank_of_isNameChar ((k.assigned_isIdentifier v hv).isNameChar c hc)
      · rfl
  · exact k.nameText_not_blank c hc

theorem dropAssignment_text (k : CommandToken) : dropAssignment k.text = k.nameText := by
  obtain ⟨c, u, hcu, hc⟩ := k.exists_nameText_eq_cons
  rw [text, hcu]
  cases hv : k.assigned with
  | none =>
    have hhead : isNameChar c = false ∧ c ≠ '=' := by
      rcases hc with rfl | hc
      · decide
      · rcases isPlain_eq_false_iff.1 hc with rfl | rfl | rfl <;> decide
    exact dropAssignment_of_head hhead.1 hhead.2 u
  | some v =>
    have hblank : isBlank c = false := k.nameText_not_blank c (by simp [hcu])
    rw [Option.elim_some, List.append_assoc, List.singleton_append]
    exact dropAssignment_append (k.assigned_isIdentifier v hv) hblank u

theorem dropColon_nameText (k : CommandToken) : dropColon k.nameText = k.quoting.write k.name := by
  unfold nameText
  split_ifs
  · rfl
  · obtain ⟨c, u, hcu, hc⟩ := k.quoting.exists_write_eq_cons fun _ => k.name_ne_nil
    rw [List.nil_append, hcu]
    refine dropColon_of_head ?_ u
    rintro rfl
    cases hc

/-- **The name of the command is found** behind an assignment and a colon, and
    however it is written. -/
theorem commandName_text (k : CommandToken) : commandName k.text = k.name := by
  have hsplit : splitOpen (k.quoting.write k.name) = [k.name] :=
    splitOpen_of_line (k.quoting.line_write fun _ => k.name_ne_nil)
  rw [commandName, Text.trim_eq_self k.text_ne_nil k.text_not_blank, k.dropAssignment_text,
    k.dropColon_nameText, hsplit]
  rfl

end CommandToken

/-! ## The mode of a name -/

/-- The names that a shell knows: the registered commands and scripts, the programs
    that are found where they are searched for, and the aliases. -/
def Registry.Knows (r : Registry) (w : World) (name : Text) : Prop :=
  name ∈ r.commands ∨ name ∈ r.scripts ∨ (r.searchPath = true ∧ w.findsProgram name = true) ∨
    ∃ expansion, (name, expansion) ∈ r.aliases

theorem Registry.isAlias_iff {r : Registry} {name : Text} :
    r.isAlias name = true ↔ ∃ expansion, (name, expansion) ∈ r.aliases := by
  simp [isAlias]

theorem Registry.knows_iff {r : Registry} {w : World} {name : Text} (hne : name ≠ []) :
    (r.isCommandOrScript w name || r.isAlias name) = true ↔ r.Knows w name := by
  have hcommand : r.isCommandOrScript w name = true ↔
      name ∈ r.commands ∨ name ∈ r.scripts ∨ r.searchPath = true ∧ w.findsProgram name = true := by
    simp [isCommandOrScript, hne, or_assoc]
  rw [Bool.or_eq_true, hcommand, isAlias_iff, Knows, or_assoc, or_assoc]

namespace Highlighter

/-- **The mode of a name.** Being registered for paths comes first, being known
    second, and what is left depends on whether a language is configured. -/
theorem commandMode_iff (h : Highlighter) (w : World) {name : Text} (hne : name ≠ []) :
    (h.commandMode w name = .file ↔ name ∈ h.fileCommands) ∧
      (h.commandMode w name = .command ↔ name ∉ h.fileCommands ∧ h.registry.Knows w name) ∧
      (h.commandMode w name = .language ↔
        name ∉ h.fileCommands ∧ ¬ h.registry.Knows w name ∧ h.language ≠ none) ∧
      (h.commandMode w name = .plain ↔
        name ∉ h.fileCommands ∧ ¬ h.registry.Knows w name ∧ h.language = none) := by
  rw [← Registry.knows_iff hne, commandMode]
  split_ifs with hfile hknown hlanguage
  · simp [List.contains_iff_mem.1 hfile]
  · simp [mt List.contains_iff_mem.2 hfile, hknown]
  · simp [mt List.contains_iff_mem.2 hfile, hknown, Option.isSome_iff_ne_none.1 hlanguage]
  · simp [mt List.contains_iff_mem.2 hfile, hknown, Option.not_isSome_iff_eq_none.1 hlanguage]

/-- **The name decides the mode of a line, however it is written.** Behind quotes,
    backslashes, an assignment and a colon the name of the command is found. So
    while the editor shows nothing, a line with such a token between blanks and
    anything that begins with a blank has its arguments highlighted as paths if
    and only if the name is registered for this; the command and its arguments
    are told apart if and only if it is another name that the shell knows; and any
    other line is text of the language, or plain without a language. -/
theorem mode_commandToken (k : CommandToken) : commandName k.text = k.name ∧
    ∀ (h : Highlighter) (w : World) (e : Editor) (blanks rest : Text), e.isMarking = false →
      (∀ c ∈ blanks, isBlank c = true) → (∀ c ∈ rest.head?, isBlank c = true) →
      (h.mode w e (blanks ++ k.text ++ rest) = .file ↔ k.name ∈ h.fileCommands) ∧
      (h.mode w e (blanks ++ k.text ++ rest) = .command ↔
        k.name ∉ h.fileCommands ∧ h.registry.Knows w k.name) ∧
      (h.mode w e (blanks ++ k.text ++ rest) = .language ↔
        k.name ∉ h.fileCommands ∧ ¬ h.registry.Knows w k.name ∧ h.language ≠ none) ∧
      (h.mode w e (blanks ++ k.text ++ rest) = .plain ↔
        k.name ∉ h.fileCommands ∧ ¬ h.registry.Knows w k.name ∧ h.language = none) := by
  refine ⟨k.commandName_text, fun h w e blanks rest he hblanks hrest => ?_⟩
  rw [List.append_assoc, h.mode_token w e hblanks k.text_ne_nil k.text_not_blank hrest, he,
    if_neg Bool.false_ne_true, k.commandName_text]
  exact h.commandMode_iff w k.name_ne_nil

/-- A name with quotes, a backslash, a sign of equality and a colon in it, behind an
    assignment and a colon, which is a script. -/
theorem mode_commandToken_script :
    let k : CommandToken :=
      { assigned := some "A_1".toList, colon := true, quoting := .enclosed .single,
        name := "l's=:\\".toList, assigned_isIdentifier := by
          rintro v ⟨⟩
          exact ⟨'A', "_1".toList, rfl, .inl rfl, by simp⟩,
        name_ne_nil := by decide, name_not_blank := by simp [isBlank] }
    let h : Highlighter := { (default : Highlighter) with
      registry := { (default : Registry) with scripts := ["ls".toList, "l's=:\\".toList] } }
    k.text = "A_1=:'l'\"'\"'s=:\\'".toList ∧ ({} : Editor).isMarking = false ∧
      (∀ c ∈ "\u00a0".toList, isBlank c = true) ∧
      (∀ c ∈ ("\u2003x".toList).head?, isBlank c = true) ∧ h.registry.Knows default k.name ∧
      commandName k.text = k.name ∧
      h.mode default {} ("\u00a0".toList ++ k.text ++ "\u2003x".toList) = .command := by
  intro k h
  have hidle : ({} : Editor).isMarking = false := rfl
  have hblanks : ∀ c ∈ "\u00a0".toList, isBlank c = true := List.all_eq_true.1 rfl
  have hrest : ∀ c ∈ ("\u2003x".toList).head?, isBlank c = true := by
    rintro c ⟨⟩
    rfl
  have hknown : h.registry.Knows default k.name := .inr (.inl (by decide))
  obtain ⟨hname, hmode⟩ := mode_commandToken k
  obtain ⟨-, hcommand, -, -⟩ := hmode h default {} _ _ hidle hblanks hrest
  exact ⟨by decide, hidle, hblanks, hrest, hknown, hname, hcommand.2 ⟨by decide, hknown⟩⟩

end Highlighter

end ShellHighlight
