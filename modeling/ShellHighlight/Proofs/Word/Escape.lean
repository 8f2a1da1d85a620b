/-
  Lines that are being typed and end with the backslash of an escape.

  * `EmptyQuotes` are pairs of quotes with nothing between them, and a text
    `EndsInEmptyWord` if only such quotes, and perhaps a double quote more, have
    been typed of its last word;
  * `endsInEmptyWord_iff`: these are the texts behind which the splitter is in
    a word and has nothing of it;
  * `wordsBefore_complete_escape`: in completion the backslash goes unnoticed,
    unless it is typed behind such a word, which is then lost.
-/
import ShellHighlight.Proofs.Word.Grammar

namespace ShellHighlight

namespace Grammar

/-! ## Words without a value -/

/-- Pairs of quotes with nothing between them. -/
inductive EmptyQuotes : Text → Prop where
  | nil : EmptyQuotes []
  | snoc {q : Text} (m : QuoteMark) : EmptyQuotes q → EmptyQuotes (q ++ [m.char, m.char])

/-- Of the last word nothing but quotes has been typed: pairs with nothing
    between them, or such pairs and a double quote that has been opened. -/
inductive EndsInEmptyWord : Text → Prop where
  | closed {f q : Text} {ws : List Text} :
      Front f ws → EmptyQuotes q → q ≠ [] → EndsInEmptyWord (f ++ q)
  | opened {f q : Text} {ws : List Text} :
      Front f ws → EmptyQuotes q → EndsInEmptyWord (f ++ (q ++ ['"']))

theorem Word.ne_nil {raw v : Text} (h : Word raw v) : raw ≠ [] := by
  obtain ⟨c, u, rfl, -⟩ := opens_part (.bare h)
  exact List.cons_ne_nil c u

theorem item_ne_nil {p x : Text} (h : Item p x) : x ≠ [] := by
  cases h <;> simp

/-- Items without a value are no items. -/
theorem items_eq_nil {q x : Text} (h : Many Item q x) (hx : x = []) : q = [] := by
  cases h with
  | nil => rfl
  | snoc _ hi => exact absurd (List.append_eq_nil_iff.1 hx).2 (item_ne_nil hi)

theorem piece_empty (m : QuoteMark) : Piece [m.char, m.char] [] := by
  cases m with
  | single => exact .single (q := []) List.not_mem_nil
  | double => exact .double (q := []) .nil

/-- A piece without a value is a pair of quotes. -/
theorem exists_mark_of_piece {p x : Text} (h : Piece p x) (hx : x = []) :
    ∃ m : QuoteMark, p = [m.char, m.char] := by
  cases h with
  | plain => cases hx
  | escape => cases hx
  | single =>
    subst hx
    exact ⟨.single, rfl⟩
  | double hq =>
    rw [items_eq_nil hq hx]
    exact ⟨.double, rfl⟩

theorem EmptyQuotes.pieces {q : Text} (h : EmptyQuotes q) : Many Piece q [] := by
  induction h with
  | nil => exact .nil
  | snoc m _ ih => exact ih.snoc (piece_empty m)

theorem emptyQuotes_of_pieces {q x : Text} (h : Many Piece q x) (hx : x = []) : EmptyQuotes q := by
  induction h with
  | nil => exact .nil
  | snoc _ hp ih =>
    obtain ⟨hv, hpart⟩ := List.append_eq_nil_iff.1 hx
    obtain ⟨m, rfl⟩ := exists_mark_of_piece hp hpart
    exact (ih hv).snoc m

/-- **Nothing but quotes has been typed of the last word if and only if the
    splitter is in a word and has nothing of it.** -/
theorem endsInEmptyWord_iff {t : Text} : EndsInEmptyWord t ↔
    ∃ ws, Scan.between.run t = (ws, .bare []) ∨ Scan.between.run t = (ws, .quoted .double []) := by
  simp only [← reads_iff]
  constructor
  · intro h
    cases h with
    | closed hf hq hne => exact ⟨_, .inl (.within hf (.bare (hq.pieces.word hne)))⟩
    | opened hf hq => exact ⟨_, .inr (.within hf (.double hq.pieces .nil))⟩
  · rintro ⟨ws, h | h⟩
    · cases h with
      | within hf hp =>
        cases hp with
        | bare hw => exact .closed hf (emptyQuotes_of_pieces hw.many rfl) hw.ne_nil
    · generalize hs : Scan.quoted .double [] = s at h
      cases h with
      | between => cases hs
      | within hf hp =>
        cases hp with
        | double hr hq =>
          obtain ⟨-, hvx⟩ := Scan.quoted.inj hs
          obtain ⟨hv, hx⟩ := List.append_eq_nil_iff.1 hvx.symm
          rw [items_eq_nil hq hx]
          exact .opened hf (emptyQuotes_of_pieces hr hv)
        | _ => cases hs

/-! ## The backslash of an escape -/

/-- A text that ends with the backslash of an escape: what the splitter has read
    behind the backslash, and in front of it. -/
theorem EndsInEscape.exists_run {t : Text} (h : EndsInEscape t) :
    ∃ u ws s inQuotes v, t = u ++ ['\\'] ∧ Scan.between.run u = (ws, s) ∧
      Scan.between.run t = (ws, .escaping inQuotes v) ∧
      (s = .between ∧ v = [] ∨ s = .bare v ∨ s = .quoted .double v) := by
  cases h with
  | @bare f raw v ws hf hr =>
    have ht := reads_iff.1 (.within hf (.escape hr))
    cases hr with
    | nil => exact ⟨f, ws, .between, false, [], rfl, run_front hf, ht, .inl ⟨rfl, rfl⟩⟩
    | snoc hr hp =>
      have hu := reads_iff.1 (.within hf (.bare (.mk hr hp)))
      exact ⟨_, ws, _, false, _, (List.append_assoc ..).symm, hu, ht, .inr (.inl rfl)⟩
  | quoted hf hr hq =>
    have hu := reads_iff.1 (.within hf (.double hr hq))
    have ht := reads_iff.1 (.within hf (.escapeInQuotes hr hq))
    exact ⟨_, _, _, true, _, by simp, hu, by simpa using ht, .inr (.inr rfl)⟩

/-- **In completion the backslash of an escape goes unnoticed**, unless nothing
    but quotes has been typed of the last word: then the word is lost. -/
theorem EndsInEscape.splitOpen_eq {t : Text} (h : EndsInEscape t) :
    ∃ u, t = u ++ ['\\'] ∧ (¬ EndsInEmptyWord u → splitOpen t = splitOpen u) ∧
      (EndsInEmptyWord u → splitOpen u = splitOpen t ++ [[]]) := by
  obtain ⟨u, ws, s, inQuotes, v, rfl, hu, ht, hs⟩ := h.exists_run
  refine ⟨u, rfl, ?_⟩
  rw [endsInEmptyWord_iff, splitOpen, splitOpen, ht, hu]
  rcases hs with ⟨rfl, rfl⟩ | rfl | rfl
  · simp [Scan.leftover]
  all_goals
    -- in a word, which is reported with the backslash only if there is something of it
    by_cases hv : v = []
    · subst hv
      simp [Scan.leftover]
    · simp [Scan.leftover, hv]

/-! ## The words in front of the cursor -/

/-- **Completing behind a backslash.** A line that lacks an escaped character
    ends with a backslash. It is completed like the line in front of the
    backslash, if and only if that line does not end in a word of which nothing
    but quotes has been typed; such a word, which is empty so far, is reported
    in front of the backslash and not behind it. -/
theorem wordsBefore_complete_escape {t : Text} {e : SplitError}
    (he : wordsBefore t t.length .acceptLine = .error e)
    (hmessage : e.message = "No escaped character".toList) :
    ∃ u, t = u ++ ['\\'] ∧
      (wordsBefore t t.length .complete = wordsBefore u u.length .complete ↔
        ¬ EndsInEmptyWord u) ∧
      (EndsInEmptyWord u → ∃ ws, wordsBefore t t.length .complete = .ok ws ∧
        wordsBefore u u.length .complete = .ok (ws ++ [[]])) := by
  rw [message_eq_noEscapedCharacter.1 hmessage, wordsBefore_acceptLine_of_le (Int.le_refl _),
    splitLine_eq_noEscapedCharacter_iff] at he
  obtain ⟨u, hu, hsame, hlost⟩ := he.splitOpen_eq
  refine ⟨u, hu, ?_⟩
  rw [wordsBefore_complete_of_le (Int.le_refl _), wordsBefore_complete_of_le (Int.le_refl _)]
  refine ⟨⟨?_, fun hword => congrArg _ (hsame hword)⟩, ?_⟩
  · intro heq hword
    have hlength := congrArg List.length (hlost hword)
    rw [← Except.ok.inj heq, List.length_append, List.length_singleton] at hlength
    omega
  · intro hword
    exact ⟨splitOpen t, rfl, congrArg _ (hlost hword)⟩

/-- Behind a word the backslash goes unnoticed, and behind quotes with nothing
    between them it loses the word. -/
theorem wordsBefore_complete_escape_begun :
    let t := "ls a\\".toList
    let t' := "ls ''\\".toList
    wordsBefore t t.length .acceptLine = .error .noEscapedCharacter ∧
      wordsBefore t' t'.length .acceptLine = .error .noEscapedCharacter ∧
      SplitError.noEscapedCharacter.message = "No escaped character".toList ∧
      wordsBefore t t.length .complete = wordsBefore "ls a".toList 4 .complete ∧
      ∃ ws, wordsBefore t' t'.length .complete = .ok ws ∧
        wordsBefore "ls ''".toList 5 .complete = .ok (ws ++ [[]]) := by
  intro t t'
  have ht : wordsBefore t t.length .acceptLine = .error .noEscapedCharacter := rfl
  have ht' : wordsBefore t' t'.length .acceptLine = .error .noEscapedCharacter := rfl
  obtain ⟨u, hu, hsame, -⟩ := wordsBefore_complete_escape ht rfl
  obtain ⟨u', hu', -, hlost⟩ := wordsBefore_complete_escape ht' rfl
  obtain rfl : "ls a".toList = u := List.append_cancel_right hu
  obtain rfl : "ls ''".toList = u' := List.append_cancel_right hu'
  have hword : ¬ EndsInEmptyWord "ls a".toList := by
    rw [endsInEmptyWord_iff]
    rintro ⟨ws, h | h⟩ <;> cases h
  have hword' : EndsInEmptyWord "ls ''".toList := endsInEmptyWord_iff.2 ⟨["ls".toList], .inl rfl⟩
  exact ⟨ht, ht', rfl, hsame.2 hword, hlost hword'⟩

/-- A word of which only quotes have been typed is lost behind the backslash:
    a double quote that has been opened, and single quotes that are closed. -/
theorem wordsBefore_complete_escape_lost :
    (wordsBefore "\"\\".toList 2 .acceptLine = .error .noEscapedCharacter ∧
        wordsBefore "\"\\".toList 2 .complete = .ok [] ∧
        wordsBefore "\"".toList 1 .complete = .ok [[]]) ∧
      wordsBefore "''\\".toList 3 .acceptLine = .error .noEscapedCharacter ∧
        wordsBefore "''\\".toList 3 .complete = .ok [] ∧
        wordsBefore "''".toList 2 .complete = .ok [[]] :=
  ⟨⟨rfl, rfl, rfl⟩, rfl, rfl, rfl⟩

end Grammar

end ShellHighlight
