/-
  Texts without quotes and backslashes, and where their first word ends.

  * `word_of_plain` and `word_enclosed`: what plain text is a raw word, and that
    plain text within quotes is one;
  * `exists_words_bare`: words read on from a word that has been begun differ
    from those read alone in the first word only;
  * `wordsBefore_tail_iff`: to drop the first word is to drop the first token if
    and only if the blank behind the token is a separator and in front of it
    separators stand nowhere but at the beginning.
-/
import ShellHighlight.Proofs.Text.Blank
import ShellHighlight.Proofs.Word.Grammar

namespace ShellHighlight

/-- Whether `c` is no quote and no backslash. -/
def isPlain (c : Char) : Bool :=
  c != '\'' && c != '"' && c != '\\'

theorem isPlain_iff {c : Char} : isPlain c = true ↔ c ≠ '\'' ∧ c ≠ '"' ∧ c ≠ '\\' := by
  simp [isPlain, and_assoc]

theorem isPlain_eq_false_iff {c : Char} : isPlain c = false ↔ c = '\'' ∨ c = '"' ∨ c = '\\' := by
  simp only [isPlain, Bool.and_eq_false_iff, bne_eq_false_iff_eq, or_assoc]

theorem QuoteMark.not_isPlain_char : ∀ m : QuoteMark, isPlain m.char = false
  | .single => rfl
  | .double => rfl

theorem isBlank_of_isSeparator {c : Char} (h : isSeparator c = true) : isBlank c = true := by
  simp only [isSeparator, Bool.or_eq_true, beq_iff_eq] at h
  rcases h with ((rfl | rfl) | rfl) | rfl <;> rfl

theorem isSeparator_of_not_isBlank {c : Char} (h : isBlank c = false) : isSeparator c = false := by
  rw [Bool.eq_false_iff] at h ⊢
  exact mt isBlank_of_isSeparator h

theorem isBlank_of_not_isPlain {c : Char} (h : isPlain c = false) : isBlank c = false := by
  rcases isPlain_eq_false_iff.1 h with rfl | rfl | rfl <;> rfl

/-! ## Raw words -/

namespace Grammar

theorem pieces_of_plain {t : Text} (h : ∀ c ∈ t, isSeparator c = false ∧ isPlain c = true) :
    Many Piece t t := by
  induction t using List.reverseRecOn with
  | nil => exact .nil
  | append_singleton t c ih =>
    obtain ⟨hs, hp⟩ := h c (by simp)
    obtain ⟨h1, h2, h3⟩ := isPlain_iff.1 hp
    exact (ih fun d hd => h d (by simp [hd])).snoc (.plain hs h1 h2 h3)

theorem items_of_plain {t : Text} (h : ∀ c ∈ t, isPlain c = true) : Many Item t t := by
  induction t using List.reverseRecOn with
  | nil => exact .nil
  | append_singleton t c ih =>
    obtain ⟨-, h2, h3⟩ := isPlain_iff.1 (h c (by simp))
    exact (ih fun d hd => h d (by simp [hd])).snoc (.plain h2 h3)

/-- Plain text without separators is a word as it stands. -/
theorem word_of_plain {t : Text} (hne : t ≠ [])
    (h : ∀ c ∈ t, isSeparator c = false ∧ isPlain c = true) : Word t t :=
  (pieces_of_plain h).word hne

/-- Plain text within quotes is a word, whatever separators it has. -/
theorem word_enclosed (m : QuoteMark) {t : Text} (h : ∀ c ∈ t, isPlain c = true) :
    Word (m.char :: t ++ [m.char]) t := by
  cases m with
  | single =>
    have hq : '\'' ∉ t := fun hc => (isPlain_iff.1 (h _ hc)).1 rfl
    exact .mk .nil (.single hq)
  | double => exact .mk .nil (.double (items_of_plain h))

end Grammar

/-! ## Words read from a state -/

namespace Scan

open Grammar

/-- The words of a text that is still being typed, read from a state. -/
def words (s : Scan) (t : Text) : List Text :=
  (s.run t).1 ++ (s.run t).2.leftover.toList

theorem words_append (s : Scan) (a b : Text) :
    s.words (a ++ b) = (s.run a).1 ++ (s.run a).2.words b := by
  rw [words, run_append, words, List.append_assoc]

/-- A plain code point that is no separator goes into the word. -/
theorem step_bare_of_plain (v : Text) {c : Char} (hs : isSeparator c = false)
    (hc : isPlain c = true) : (bare v).step c = (none, bare (v ++ [c])) := by
  obtain ⟨h1, h2, h3⟩ := isPlain_iff.1 hc
  simp [step, extend, QuoteMark.ofChar?, hs, h1, h2, h3]

theorem step_between_of_plain {c : Char} (hs : isSeparator c = false) (hc : isPlain c = true) :
    between.step c = (none, bare [c]) := by
  rw [← List.nil_append [c], ← step_bare_of_plain [] hs hc]
  simp [step, hs]

/-- Words read on from a word that has been begun: what has been read of it
    stands in front of the first word and changes nothing else. -/
theorem exists_words_bare : ∀ {t : Text}, (∀ c ∈ t, isPlain c = true) →
    ∃ x us, ∀ v, (bare v).words t = (v ++ x) :: us
  | [], _ => ⟨[], [], fun v => by simp [words, run, leftover]⟩
  | c :: t, h => by
    obtain ⟨hc, ht⟩ := List.forall_mem_cons.1 h
    cases hs : isSeparator c with
    | true => exact ⟨[], between.words t, fun v => by simp [words, run, step, hs]⟩
    | false =>
      obtain ⟨x, us, hx⟩ := exists_words_bare ht
      refine ⟨c :: x, us, fun v => ?_⟩
      have hv := hx (v ++ [c])
      rw [List.append_assoc] at hv
      rw [← List.singleton_append, words_append, run_singleton, step_bare_of_plain v hs hc]
      exact hv

/-- Between words, or in a word outside of quotes. -/
def Unquoted (s : Scan) : Prop := s = .between ∨ ∃ v, s = .bare v

theorem Unquoted.step {s : Scan} {c : Char} (hc : isPlain c = true) (h : s.Unquoted) :
    (s.step c).2.Unquoted := by
  rcases h with rfl | ⟨v, rfl⟩ <;> cases hs : isSeparator c
  · rw [step_between_of_plain hs hc]
    exact .inr ⟨_, rfl⟩
  · exact .inl (by simp [Scan.step, hs])
  · rw [step_bare_of_plain v hs hc]
    exact .inr ⟨_, rfl⟩
  · exact .inl (by simp [Scan.step, hs])

/-- Plain text opens no quotes. -/
theorem Unquoted.run : ∀ {t : Text} {s : Scan}, (∀ c ∈ t, isPlain c = true) → s.Unquoted →
    (s.run t).2.Unquoted
  | [], _, _, h => h
  | c :: t, s, ht, h => by
    obtain ⟨hc, ht'⟩ := List.forall_mem_cons.1 ht
    show ((s.step c).2.run t).2.Unquoted
    exact Unquoted.run ht' (h.step hc)

/-- Behind plain text that ends in no separator stands a word with something in
    it. -/
theorem run_snoc_of_plain {t : Text} {c : Char} (ht : ∀ d ∈ t ++ [c], isPlain d = true)
    (hs : isSeparator c = false) :
    ∃ ws v, between.run (t ++ [c]) = (ws, .bare v) ∧ v ≠ [] := by
  have hc : isPlain c = true := ht c (by simp)
  have hu : (between.run t).2.Unquoted := .run (fun d hd => ht d (by simp [hd])) (.inl rfl)
  rw [run_append, run_singleton]
  rcases hu with h | ⟨v, h⟩
  · rw [h, step_between_of_plain hs hc]
    exact ⟨_, _, rfl, by simp⟩
  · rw [h, step_bare_of_plain v hs hc]
    exact ⟨_, _, rfl, by simp⟩

/-- In plain text that begins with a word, no word has ended if and only if
    there is no separator. -/
theorem run_fst_eq_nil_of_head {t : Text} (ht : ∀ c ∈ t, isPlain c = true)
    (hhead : ∀ c ∈ t.head?, isSeparator c = false) :
    (between.run t).1 = [] ↔ ∀ c ∈ t, isSeparator c = false := by
  obtain ⟨a, b, rfl, ha, hb⟩ := Text.exists_cut (!isSeparator ·) t
  simp only [Bool.not_eq_eq_eq_not, Bool.not_true, Bool.not_false] at ha hb
  by_cases hne : a = []
  · subst hne
    cases b with
    | nil => simp [run]
    | cons c b =>
      have hc := hhead c rfl
      rw [hb c rfl] at hc
      cases hc
  have hplain : ∀ c ∈ a, isSeparator c = false ∧ isPlain c = true :=
    fun c hc => ⟨ha c hc, ht c (List.mem_append_left b hc)⟩
  rw [run_append, run_part (.bare (word_of_plain hne hplain)), List.nil_append]
  cases b with
  | nil => simpa [run] using ha
  | cons c b =>
    have hc : isSeparator c = true := hb c rfl
    constructor
    · intro h
      simp [run, step, hc] at h
    · intro h
      rw [h c (by simp)] at hc
      cases hc

/-- In plain text no word has ended if and only if there is no separator behind
    those that the text begins with. -/
theorem run_fst_eq_nil_iff {t : Text} (ht : ∀ c ∈ t, isPlain c = true) :
    (between.run t).1 = [] ↔ ∀ c ∈ t.dropWhile isSeparator, isSeparator c = false := by
  obtain ⟨g, u, rfl, hg, hu⟩ := Text.exists_cut isSeparator t
  have hrun : (between.run (g ++ u)).1 = (between.run u).1 := by
    rw [run_append, run_gap hg, List.nil_append]
  rw [Text.dropWhile_append hg hu, hrun]
  exact run_fst_eq_nil_of_head (fun c hc => ht c (List.mem_append_right g hc)) hu

/-- Words that have ended, a word that has been begun, and plain text: the
    words but the first are those of the text alone if and only if the text
    ends the first word. -/
theorem tail_words_iff (ws : List Text) {v t : Text} {b : Char} (hv : v ≠ [])
    (ht : ∀ c ∈ b :: t, isPlain c = true) :
    (ws ++ (bare v).words (b :: t)).tail = between.words (b :: t) ↔
      isSeparator b = true ∧ ws = [] := by
  cases hs : isSeparator b with
  | true =>
    have h1 : (bare v).words (b :: t) = v :: between.words t := by simp [words, run, step, hs]
    have h2 : between.words (b :: t) = between.words t := by simp [words, run, step, hs]
    rw [h1, h2]
    constructor
    · intro h
      cases ws with
      | nil => exact ⟨rfl, rfl⟩
      | cons w ws =>
        have hl := congrArg List.length h
        simp only [List.cons_append, List.tail_cons, List.length_append, List.length_cons] at hl
        omega
    · rintro ⟨-, rfl⟩
      rfl
  | false =>
    obtain ⟨x, us, hx⟩ := exists_words_bare ht
    have h2 : between.words (b :: t) = x :: us := by
      rw [words, run_of_opens ⟨b, t, rfl, hs⟩]
      exact hx []
    rw [h2, hx v]
    constructor
    · intro h
      -- the text goes on with the word, so that one word is missing or longer
      rcases ws with _ | ⟨w, _ | ⟨w', ws⟩⟩
      · have hl := congrArg List.length h
        simp at hl
      · have hx' : v ++ x = x := (List.cons.inj h).1
        exact absurd (List.append_left_eq_self.1 hx') hv
      · have hl := congrArg List.length h
        simp only [List.cons_append, List.tail_cons, List.length_append, List.length_cons] at hl
        omega
    · rintro ⟨h, -⟩
      cases h

end Scan

/-! ## The words behind the command -/

open Grammar

theorem wordsBefore_complete (t : Text) :
    wordsBefore t ((t.length : ℤ) + 1) .complete = .ok (Scan.between.words t) :=
  wordsBefore_complete_of_le (by omega)

/-- **Where the splitter and the token agree on the command.** Take plain text
    whose first token ends at `i`. The words but the first are those of the
    text from `i` on if and only if the blank at `i` is a separator, and up to
    `i` no separator stands behind those that the text begins with. -/
theorem wordsBefore_tail_iff {t : Text} {i : ℕ} (ht : ∀ c ∈ t, isPlain c = true)
    (hi : Text.tokenEnd? t = some i) :
    (wordsBefore t ((t.length : ℤ) + 1) .complete).map List.tail =
        wordsBefore (t.drop i) (((t.drop i).length : ℤ) + 1) .complete ↔
      (∀ c ∈ (t.drop i).head?, isSeparator c = true) ∧
        ∀ c ∈ (t.take i).dropWhile isSeparator, isSeparator c = false := by
  obtain ⟨blanks, token, b, rest, rfl, rfl, -, hne, htoken, -⟩ := Text.tokenEnd?_eq_some_iff.1 hi
  obtain ⟨token, c, rfl⟩ := (List.eq_nil_or_concat' token).resolve_left hne
  have hc : isSeparator c = false := isSeparator_of_not_isBlank (htoken c (by simp))
  have hsplit : blanks ++ (token ++ [c] ++ b :: rest) = blanks ++ token ++ [c] ++ b :: rest := by
    simp
  have hlen : blanks.length + (token ++ [c]).length = (blanks ++ token ++ [c]).length := by
    simp
  rw [hsplit] at ht ⊢
  rw [hlen, List.take_left, List.drop_left, wordsBefore_complete, wordsBefore_complete]
  have hfront : ∀ d ∈ blanks ++ token ++ [c], isPlain d = true :=
    fun d hd => ht d (List.mem_append_left _ hd)
  have hback : ∀ d ∈ b :: rest, isPlain d = true := fun d hd => ht d (List.mem_append_right _ hd)
  obtain ⟨ws, v, hrun, hv⟩ := Scan.run_snoc_of_plain hfront hc
  rw [← Scan.run_fst_eq_nil_iff hfront, Scan.words_append, hrun]
  have htail := Scan.tail_words_iff ws hv hback
  simpa [Except.map] using htail

/-- Blanks that are separators, on both sides of the command. -/
theorem wordsBefore_tail_of_separators :
    let t := "\t ls\nx y".toList
    (∀ c ∈ t, isPlain c = true) ∧ Text.tokenEnd? t = some 4 ∧
      (wordsBefore t ((t.length : ℤ) + 1) .complete).map List.tail =
        wordsBefore (t.drop 4) (((t.drop 4).length : ℤ) + 1) .complete := by
  intro t
  have ht : ∀ c ∈ t, isPlain c = true := by simp [t, isPlain]
  have hi : Text.tokenEnd? t = some 4 := by decide
  have hseparators : (∀ c ∈ (t.drop 4).head?, isSeparator c = true) ∧
      ∀ c ∈ (t.take 4).dropWhile isSeparator, isSeparator c = false := by
    simp [t, isSeparator]
  exact ⟨ht, hi, (wordsBefore_tail_iff ht hi).2 hseparators⟩

/-- A no-break space is no separator: behind the command it makes one word of
    the command and the argument, and in front of it a word of its own. -/
theorem wordsBefore_tail_no_break_space :
    let t := "ls\u00a0x y".toList
    let u := "\u00a0 ls x".toList
    ((∀ c ∈ t, isPlain c = true) ∧ Text.tokenEnd? t = some 2 ∧
        (wordsBefore t ((t.length : ℤ) + 1) .complete).map List.tail = .ok ["y".toList] ∧
        wordsBefore (t.drop 2) (((t.drop 2).length : ℤ) + 1) .complete =
          .ok ["\u00a0x".toList, "y".toList]) ∧
      (∀ c ∈ u, isPlain c = true) ∧ Text.tokenEnd? u = some 4 ∧
        (wordsBefore u ((u.length : ℤ) + 1) .complete).map List.tail =
          .ok ["ls".toList, "x".toList] ∧
        wordsBefore (u.drop 4) (((u.drop 4).length : ℤ) + 1) .complete = .ok ["x".toList] :=
  ⟨⟨by simp [isPlain], by decide, rfl, rfl⟩, by simp [isPlain], by decide, rfl, rfl⟩

end ShellHighlight
