/-
  The grammar of a command line, and the splitter that reads it.

  * `Piece`, `Word` and `Line` are the raw texts of pieces, words and finished
    lines together with their values; `EndsInEscape` and `EndsInQuotes` are the
    texts that stop short of a line;
  * `Reads` says which text has been read when the splitter is in a state, and
    `reads_iff` is that the splitter is in that state and in no other;
  * `wordsBefore_acceptLine`: the words in front of the cursor are those of the
    grammar, and the error says how the text fails to be a line.
-/
import ShellHighlight.Word.Splitter
import Mathlib.Data.List.Infix
import Mathlib.Tactic.Common

namespace ShellHighlight

namespace Grammar

/-! ## Words and lines -/

/-- An item within double quotes, with its value. -/
inductive Item : Text → Text → Prop where
  | plain {c : Char} : c ≠ '"' → c ≠ '\\' → Item [c] [c]
  | mark : Item ['\\', '"'] ['"']
  | backslash : Item ['\\', '\\'] ['\\']
  /-- In front of another code point the backslash stands for itself. -/
  | kept {c : Char} : c ≠ '"' → c ≠ '\\' → Item ['\\', c] ['\\', c]

/-- A sequence of parts, with the value that the parts make up. -/
inductive Many (R : Text → Text → Prop) : Text → Text → Prop where
  | nil : Many R [] []
  | snoc {raw v part x : Text} : Many R raw v → R part x → Many R (raw ++ part) (v ++ x)

/-- A piece of a word, with its value. -/
inductive Piece : Text → Text → Prop where
  | plain {c : Char} : isSeparator c = false → c ≠ '\'' → c ≠ '"' → c ≠ '\\' → Piece [c] [c]
  | escape (c : Char) : Piece ['\\', c] [c]
  | single {q : Text} : '\'' ∉ q → Piece ('\'' :: q ++ ['\'']) q
  | double {q x : Text} : Many Item q x → Piece ('"' :: q ++ ['"']) x

/-- A raw word is a sequence of pieces, at least one. -/
inductive Word : Text → Text → Prop where
  | mk {raw v part x : Text} : Many Piece raw v → Piece part x → Word (raw ++ part) (v ++ x)

/-- A text of separators. -/
def Gap (t : Text) : Prop := ∀ c ∈ t, isSeparator c = true

instance (t : Text) : Decidable (Gap t) :=
  decidable_of_iff (t.all isSeparator = true) List.all_eq_true

/-- A text in front of a word: a gap, and words each with a gap behind it that
    is not empty. -/
inductive Front : Text → List Text → Prop where
  | gap {g : Text} : Gap g → Front g []
  | word {f raw v g : Text} {ws : List Text} :
      Front f ws → Word raw v → Gap g → g ≠ [] → Front (f ++ raw ++ g) (ws ++ [v])

/-- A finished line, with the values of its words: a gap, or a last word with
    what stands in front of it and a gap behind it. -/
inductive Line : Text → List Text → Prop where
  | blank {g : Text} : Gap g → Line g []
  | words {f raw v g : Text} {ws : List Text} :
      Front f ws → Word raw v → Gap g → Line (f ++ raw ++ g) (ws ++ [v])

/-- The last code point is the backslash of an escape. -/
inductive EndsInEscape : Text → Prop where
  | bare {f raw v : Text} {ws : List Text} :
      Front f ws → Many Piece raw v → EndsInEscape (f ++ (raw ++ ['\\']))
  | quoted {f raw v q x : Text} {ws : List Text} :
      Front f ws → Many Piece raw v → Many Item q x →
        EndsInEscape (f ++ (raw ++ '"' :: q ++ ['\\']))

/-- The end stands within quotes that have been opened. -/
inductive EndsInQuotes : Text → Prop where
  | single {f raw v q : Text} {ws : List Text} :
      Front f ws → Many Piece raw v → '\'' ∉ q → EndsInQuotes (f ++ (raw ++ '\'' :: q))
  | double {f raw v q x : Text} {ws : List Text} :
      Front f ws → Many Piece raw v → Many Item q x → EndsInQuotes (f ++ (raw ++ '"' :: q))
  | escape {f raw v q x : Text} {ws : List Text} :
      Front f ws → Many Piece raw v → Many Item q x →
        EndsInQuotes (f ++ (raw ++ '"' :: q ++ ['\\']))

/-! ## What has been read -/

/-- The raw text of a word that has been begun, and the state behind it. -/
inductive Part : Text → Scan → Prop where
  | bare {raw v : Text} : Word raw v → Part raw (.bare v)
  | single {raw v q : Text} :
      Many Piece raw v → '\'' ∉ q → Part (raw ++ '\'' :: q) (.quoted .single (v ++ q))
  | double {raw v q x : Text} :
      Many Piece raw v → Many Item q x → Part (raw ++ '"' :: q) (.quoted .double (v ++ x))
  | escape {raw v : Text} : Many Piece raw v → Part (raw ++ ['\\']) (.escaping false v)
  | escapeInQuotes {raw v q x : Text} :
      Many Piece raw v → Many Item q x →
        Part (raw ++ '"' :: q ++ ['\\']) (.escaping true (v ++ x))

/-- The text that has been read, the words that have ended in it, and the state
    behind it. -/
inductive Reads : Text → List Text → Scan → Prop where
  | between {f : Text} {ws : List Text} : Front f ws → Reads f ws .between
  | within {f p : Text} {ws : List Text} {s : Scan} :
      Front f ws → Part p s → Reads (f ++ p) ws s

theorem Word.many {raw v : Text} : Word raw v → Many Piece raw v
  | .mk hr hp => hr.snoc hp

theorem Many.word {raw v : Text} : Many Piece raw v → raw ≠ [] → Word raw v
  | .nil, h => absurd rfl h
  | .snoc hr hp, _ => .mk hr hp

theorem Gap.append {g h : Text} (hg : Gap g) (hh : Gap h) : Gap (g ++ h) := fun c hc =>
  (List.mem_append.1 hc).elim (hg c) (hh c)

theorem gap_singleton {c : Char} (hc : isSeparator c = true) : Gap [c] := fun d hd => by
  rw [List.mem_singleton.1 hd]
  exact hc

/-- A gap may grow. -/
theorem Front.snoc {f : Text} {ws : List Text} {c : Char} (h : Front f ws)
    (hc : isSeparator c = true) : Front (f ++ [c]) ws := by
  cases h with
  | gap hg => exact .gap (hg.append (gap_singleton hc))
  | word hf hw hg _ =>
    rw [List.append_assoc]
    exact .word hf hw (hg.append (gap_singleton hc)) (by simp)

/-! ## One code point more -/

theorem Part.extend {raw v : Text} {c : Char} (h : Many Piece raw v) (hc : isSeparator c = false) :
    Part (raw ++ [c]) (Scan.extend v c) := by
  unfold Scan.extend QuoteMark.ofChar?
  by_cases h1 : c = '\\'
  · subst h1
    simpa using Part.escape h
  by_cases h2 : c = '\''
  · subst h2
    simpa using Part.single h (q := []) (by simp)
  by_cases h3 : c = '"'
  · subst h3
    simpa using Part.double h .nil
  simp only [beq_iff_eq, h1, h2, h3, if_false]
  exact .bare (.mk h (.plain hc h2 h3 h1))

/-- A code point behind a word that has been begun ends it or belongs to it. -/
theorem Part.step {p : Text} {s : Scan} (h : Part p s) (c : Char) :
    (∃ v, Word p v ∧ isSeparator c = true ∧ s.step c = (some v, .between)) ∨
      ∃ s', s.step c = (none, s') ∧ Part (p ++ [c]) s' := by
  cases h with
  | @bare _ v hw =>
    cases hc : isSeparator c with
    | true => exact .inl ⟨v, hw, rfl, by simp [Scan.step, hc]⟩
    | false => exact .inr ⟨Scan.extend v c, by simp [Scan.step, hc], .extend hw.many hc⟩
  | @single raw v q hr hq =>
    refine .inr ?_
    by_cases hc : c = '\''
    · subst hc
      refine ⟨.bare (v ++ q), by simp [Scan.step, QuoteMark.char], ?_⟩
      simpa using Part.bare (.mk hr (.single hq))
    · refine ⟨.quoted .single (v ++ q ++ [c]), by simp [Scan.step, QuoteMark.char, hc], ?_⟩
      have hqc : '\'' ∉ q ++ [c] := by simp [hq, Ne.symm hc]
      simpa using Part.single hr hqc
  | @double raw v q x hr hq =>
    refine .inr ?_
    by_cases h1 : c = '"'
    · subst h1
      refine ⟨.bare (v ++ x), by simp [Scan.step, QuoteMark.char], ?_⟩
      simpa using Part.bare (.mk hr (.double hq))
    by_cases h2 : c = '\\'
    · subst h2
      exact ⟨.escaping true (v ++ x), by simp [Scan.step, QuoteMark.char],
        .escapeInQuotes hr hq⟩
    · refine ⟨.quoted .double (v ++ x ++ [c]), by simp [Scan.step, QuoteMark.char, h1, h2], ?_⟩
      simpa using Part.double hr (hq.snoc (.plain h1 h2))
  | @escape raw v hr =>
    refine .inr ⟨.bare (v ++ [c]), rfl, ?_⟩
    simpa using Part.bare (.mk hr (.escape c))
  | @escapeInQuotes raw v q x hr hq =>
    refine .inr ?_
    by_cases h1 : c = '"'
    · subst h1
      exact ⟨.quoted .double (v ++ x ++ ['"']), rfl, by simpa using Part.double hr (hq.snoc .mark)⟩
    by_cases h2 : c = '\\'
    · subst h2
      exact ⟨.quoted .double (v ++ x ++ ['\\']), rfl,
        by simpa using Part.double hr (hq.snoc .backslash)⟩
    · refine ⟨.quoted .double (v ++ x ++ ['\\', c]), by simp [Scan.step, h1, h2], ?_⟩
      simpa using Part.double hr (hq.snoc (.kept h1 h2))

/-- **What has been read is kept by a step.** -/
theorem Reads.step {t : Text} {ws : List Text} {s : Scan} (h : Reads t ws s) (c : Char) :
    Reads (t ++ [c]) (ws ++ (s.step c).1.toList) (s.step c).2 := by
  cases h with
  | between hf =>
    cases hc : isSeparator c with
    | true =>
      rw [Scan.step, if_pos hc]
      simpa using Reads.between (hf.snoc hc)
    | false =>
      rw [Scan.step, if_neg (by simp [hc])]
      simpa using Reads.within hf (.extend .nil hc)
  | @within f p _ _ hf hp =>
    rcases hp.step c with ⟨v, hw, hc, hs⟩ | ⟨s', hs, hp'⟩
    · rw [hs]
      exact .between (.word hf hw (gap_singleton hc) (by simp))
    · rw [hs, List.append_assoc]
      simpa using Reads.within hf hp'

/-- **What has been read is kept by a run.** The run takes code points off the
    front, so that the text in front of it grows. -/
theorem Reads.run {t : Text} {ws : List Text} {s : Scan} (h : Reads t ws s) :
    ∀ u : Text, Reads (t ++ u) (ws ++ (s.run u).1) (s.run u).2
  | [] => by simpa [Scan.run] using h
  | c :: u => by
    have ih := Reads.run (h.step c) u
    rw [List.append_assoc, List.append_assoc] at ih
    exact ih

theorem reads_run (t : Text) : Reads t (Scan.between.run t).1 (Scan.between.run t).2 := by
  have h0 : Reads [] [] .between := .between (.gap fun _ hc => absurd hc (List.not_mem_nil))
  exact h0.run t

/-! ## Reading a derivation -/

theorem run_append (s : Scan) : ∀ a b : Text,
    s.run (a ++ b) = ((s.run a).1 ++ ((s.run a).2.run b).1, ((s.run a).2.run b).2)
  | [], b => by simp [Scan.run]
  | c :: a, b => by
    rw [List.cons_append, Scan.run, Scan.run, run_append _ a b]
    simp only [List.append_assoc]

/-- Two texts one behind the other, the first without the end of a word. -/
theorem run_append_of {s s' : Scan} {a b : Text} {r : List Text × Scan} (ha : s.run a = ([], s'))
    (hb : s'.run b = r) : s.run (a ++ b) = r := by
  rw [run_append, ha, hb, List.nil_append]

theorem run_singleton (s : Scan) (c : Char) :
    s.run [c] = ((s.step c).1.toList, (s.step c).2) := by
  simp [Scan.run]

theorem run_item {p x : Text} (w : Text) (h : Item p x) :
    (Scan.quoted .double w).run p = ([], .quoted .double (w ++ x)) := by
  cases h with
  | plain h1 h2 => simp [Scan.run, Scan.step, QuoteMark.char, h1, h2]
  | mark => simp [Scan.run, Scan.step, QuoteMark.char]
  | backslash => simp [Scan.run, Scan.step, QuoteMark.char]
  | kept h1 h2 => simp [Scan.run, Scan.step, QuoteMark.char, h1, h2]

theorem run_items {p x : Text} (w : Text) (h : Many Item p x) :
    (Scan.quoted .double w).run p = ([], .quoted .double (w ++ x)) := by
  induction h with
  | nil => simp [Scan.run]
  | snoc _ hi ih =>
    rw [← List.append_assoc]
    exact run_append_of ih (run_item _ hi)

theorem run_single : ∀ {q : Text} (w : Text), '\'' ∉ q →
    (Scan.quoted .single w).run q = ([], .quoted .single (w ++ q))
  | [], w, _ => by simp [Scan.run]
  | c :: q, w, h => by
    obtain ⟨hc, hq⟩ := not_or.1 (mt List.mem_cons.2 h)
    have hs : (Scan.quoted .single w).step c = (none, .quoted .single (w ++ [c])) := by
      simp [Scan.step, QuoteMark.char, Ne.symm hc]
    rw [Scan.run, hs, run_single (w ++ [c]) hq]
    simp

theorem run_piece {p x : Text} (w : Text) (h : Piece p x) :
    (Scan.bare w).run p = ([], .bare (w ++ x)) := by
  cases h with
  | plain hs h1 h2 h3 =>
    simp [Scan.run, Scan.step, Scan.extend, QuoteMark.ofChar?, hs, h1, h2, h3]
  | escape c => simp [Scan.run, Scan.step, Scan.extend, isSeparator]
  | single hq =>
    have h1 : (Scan.bare w).run ['\''] = ([], .quoted .single w) := rfl
    have h2 : (Scan.quoted .single (w ++ x)).run ['\''] = ([], .bare (w ++ x)) := rfl
    exact run_append_of (run_append_of h1 (run_single w hq)) h2
  | double hq =>
    have h1 : (Scan.bare w).run ['"'] = ([], .quoted .double w) := rfl
    have h2 : (Scan.quoted .double (w ++ x)).run ['"'] = ([], .bare (w ++ x)) := rfl
    exact run_append_of (run_append_of h1 (run_items w hq)) h2

theorem run_pieces {p x : Text} (w : Text) (h : Many Piece p x) :
    (Scan.bare w).run p = ([], .bare (w ++ x)) := by
  induction h with
  | nil => simp [Scan.run]
  | snoc _ hp ih =>
    rw [← List.append_assoc]
    exact run_append_of ih (run_piece _ hp)

/-- The text begins with a code point that is no separator. -/
def Opens (t : Text) : Prop := ∃ c u, t = c :: u ∧ isSeparator c = false

theorem Opens.append {a : Text} (h : Opens a) (b : Text) : Opens (a ++ b) := by
  obtain ⟨c, u, rfl, hc⟩ := h
  exact ⟨c, u ++ b, rfl, hc⟩

theorem opens_piece {p x : Text} (h : Piece p x) : Opens p := by
  cases h with
  | plain hs => exact ⟨_, _, rfl, hs⟩
  | escape => exact ⟨_, _, rfl, rfl⟩
  | single => exact ⟨_, _, rfl, rfl⟩
  | double => exact ⟨_, _, rfl, rfl⟩

theorem opens_pieces_append {a v : Text} (h : Many Piece a v) :
    ∀ {b : Text}, Opens b → Opens (a ++ b) := by
  induction h with
  | nil => exact fun hb => hb
  | snoc _ hp ih =>
    intro b _
    rw [List.append_assoc]
    exact ih ((opens_piece hp).append b)

theorem opens_part {p : Text} {s : Scan} (h : Part p s) : Opens p := by
  cases h with
  | bare hw =>
    cases hw with
    | mk hr hp => exact opens_pieces_append hr (opens_piece hp)
  | single hr => exact opens_pieces_append hr ⟨_, _, rfl, rfl⟩
  | double hr => exact opens_pieces_append hr ⟨_, _, rfl, rfl⟩
  | escape hr => exact opens_pieces_append hr ⟨_, _, rfl, rfl⟩
  | escapeInQuotes hr =>
    rw [List.append_assoc]
    exact opens_pieces_append hr ⟨_, _, rfl, rfl⟩

/-- A word may begin where no word has been begun. -/
theorem run_of_opens {t : Text} (h : Opens t) : Scan.between.run t = (Scan.bare []).run t := by
  obtain ⟨c, u, rfl, hc⟩ := h
  simp [Scan.run, Scan.step, hc]

theorem run_part {p : Text} {s : Scan} (h : Part p s) : Scan.between.run p = ([], s) := by
  rw [run_of_opens (opens_part h)]
  cases h with
  | bare hw => exact run_pieces [] hw.many
  | @single raw v q hr hq =>
    have h1 : (Scan.bare v).run ['\''] = ([], .quoted .single v) := rfl
    exact run_append_of (run_pieces [] hr) (run_append_of h1 (run_single v hq))
  | @double raw v q x hr hq =>
    have h1 : (Scan.bare v).run ['"'] = ([], .quoted .double v) := rfl
    exact run_append_of (run_pieces [] hr) (run_append_of h1 (run_items v hq))
  | @escape raw v hr => exact run_append_of (run_pieces [] hr) rfl
  | @escapeInQuotes raw v q x hr hq =>
    have h1 : (Scan.bare v).run ['"'] = ([], .quoted .double v) := rfl
    refine run_append_of (run_append_of (run_pieces [] hr) (run_append_of h1 (run_items v hq))) ?_
    rfl

theorem run_gap : ∀ {g : Text}, Gap g → Scan.between.run g = ([], .between)
  | [], _ => rfl
  | c :: g, h => by
    have hc := h c List.mem_cons_self
    rw [Scan.run, Scan.step, if_pos hc, run_gap fun d hd => h d (List.mem_cons_of_mem c hd)]
    rfl

/-- A gap that is not empty ends the word in front of it. -/
theorem run_bare_gap {g : Text} (v : Text) (h : Gap g) (hg : g ≠ []) :
    (Scan.bare v).run g = ([v], .between) := by
  obtain ⟨c, g', rfl⟩ := List.exists_cons_of_ne_nil hg
  have hc := h c List.mem_cons_self
  rw [Scan.run, Scan.step, if_pos hc, run_gap fun d hd => h d (List.mem_cons_of_mem c hd)]
  rfl

theorem run_front {f : Text} {ws : List Text} (h : Front f ws) :
    Scan.between.run f = (ws, .between) := by
  induction h with
  | gap hg => exact run_gap hg
  | @word f raw v g ws _ hw hg hne ih =>
    rw [run_append, run_append, ih, run_part (.bare hw), run_bare_gap v hg hne]
    simp

/-- **The splitter is in the state that goes with the text, and in no other.** -/
theorem reads_iff {t : Text} {ws : List Text} {s : Scan} :
    Reads t ws s ↔ Scan.between.run t = (ws, s) := by
  constructor
  · intro h
    cases h with
    | between hf => exact run_front hf
    | within hf hp =>
      rw [run_append, run_front hf, run_part hp]
      simp
  · intro h
    have := reads_run t
    rwa [h] at this

/-! ## Finished lines -/

/-- A line is finished where no word has been begun, or in a word outside of
    quotes. -/
theorem line_iff {t : Text} {ws : List Text} :
    Line t ws ↔ Reads t ws .between ∨ ∃ vs v, Reads t vs (.bare v) ∧ ws = vs ++ [v] := by
  constructor
  · intro h
    cases h with
    | blank hg => exact .inl (.between (.gap hg))
    | @words f raw v g vs hf hw hg =>
      by_cases hne : g = []
      · subst hne
        rw [List.append_nil]
        exact .inr ⟨vs, v, .within hf (.bare hw), rfl⟩
      · exact .inl (.between (.word hf hw hg hne))
  · rintro (h | ⟨vs, v, h, rfl⟩)
    · cases h with
      | between hf =>
        cases hf with
        | gap hg => exact .blank hg
        | word hf hw hg _ => exact .words hf hw hg
      | within _ hp => cases hp
    · cases h with
      | within hf hp =>
        cases hp with
        | bare hw => simpa using Line.words hf hw (g := []) fun _ hc => absurd hc (List.not_mem_nil)

theorem endsInEscape_iff {t : Text} :
    EndsInEscape t ↔ ∃ ws inQuotes v, Reads t ws (.escaping inQuotes v) := by
  constructor
  · intro h
    cases h with
    | bare hf hr => exact ⟨_, _, _, .within hf (.escape hr)⟩
    | quoted hf hr hq => exact ⟨_, _, _, .within hf (.escapeInQuotes hr hq)⟩
  · rintro ⟨ws, inQuotes, v, h⟩
    cases h with
    | within hf hp =>
      cases hp with
      | escape hr => exact .bare hf hr
      | escapeInQuotes hr hq => exact .quoted hf hr hq

theorem endsInQuotes_iff {t : Text} :
    EndsInQuotes t ↔ (∃ ws mark v, Reads t ws (.quoted mark v)) ∨
      ∃ ws v, Reads t ws (.escaping true v) := by
  constructor
  · intro h
    cases h with
    | single hf hr hq => exact .inl ⟨_, _, _, .within hf (.single hr hq)⟩
    | double hf hr hq => exact .inl ⟨_, _, _, .within hf (.double hr hq)⟩
    | escape hf hr hq => exact .inr ⟨_, _, .within hf (.escapeInQuotes hr hq)⟩
  · rintro (⟨ws, mark, v, h⟩ | ⟨ws, v, h⟩)
    · cases h with
      | within hf hp =>
        cases hp with
        | single hr hq => exact .single hf hr hq
        | double hr hq => exact .double hf hr hq
    · cases h with
      | within hf hp =>
        cases hp with
        | escapeInQuotes hr hq => exact .escape hf hr hq

theorem splitLine_eq_ok_iff {t : Text} {ws : List Text} : splitLine t = .ok ws ↔ Line t ws := by
  rw [line_iff, reads_iff, splitLine]
  simp only [reads_iff]
  rcases Scan.between.run t with ⟨us, _ | v | ⟨m, v⟩ | ⟨b, v⟩⟩ <;>
    simp [Scan.finish, Except.map, eq_comm]

theorem splitLine_eq_noEscapedCharacter_iff {t : Text} :
    splitLine t = .error .noEscapedCharacter ↔ EndsInEscape t := by
  rw [endsInEscape_iff, splitLine]
  simp only [reads_iff]
  rcases Scan.between.run t with ⟨us, _ | v | ⟨m, v⟩ | ⟨b, v⟩⟩ <;> simp [Scan.finish, Except.map]

theorem splitLine_eq_noClosingQuote_iff {t : Text} :
    splitLine t = .error .noClosingQuote ↔ EndsInQuotes t ∧ ¬ EndsInEscape t := by
  rw [endsInQuotes_iff, endsInEscape_iff, splitLine]
  simp only [reads_iff]
  rcases Scan.between.run t with ⟨us, _ | v | ⟨m, v⟩ | ⟨b, v⟩⟩ <;> simp [Scan.finish, Except.map]

/-- What ends a finished line does not end an open one otherwise. -/
theorem splitOpen_of_line {t : Text} {ws : List Text} (h : Line t ws) : splitOpen t = ws := by
  rw [splitOpen]
  rcases line_iff.1 h with hr | ⟨vs, v, hr, rfl⟩
  · rw [reads_iff.1 hr]
    exact List.append_nil ws
  · rw [reads_iff.1 hr]
    rfl

/-! ## The words in front of the cursor -/

section
variable {t : Text} {n : ℤ} (hn : t.length ≤ n)
include hn

theorem wordsBefore_acceptLine_of_le : wordsBefore t n .acceptLine = splitLine t := by
  rw [wordsBefore, List.take_of_length_le (by omega)]

theorem wordsBefore_complete_of_le : wordsBefore t n .complete = .ok (splitOpen t) := by
  rw [wordsBefore, List.take_of_length_le (by omega)]

/-- A finished line has the same words for either reading. -/
theorem wordsBefore_of_line {ws : List Text} (h : Line t ws) (r : Reading) :
    wordsBefore t n r = .ok ws := by
  cases r with
  | acceptLine => rw [wordsBefore_acceptLine_of_le hn, splitLine_eq_ok_iff.2 h]
  | complete => rw [wordsBefore_complete_of_le hn, splitOpen_of_line h]

end

theorem message_eq_noEscapedCharacter {e : SplitError} :
    e.message = "No escaped character".toList ↔ e = .noEscapedCharacter := by
  cases e <;> decide

theorem message_eq_noClosingQuote {e : SplitError} :
    e.message = "No closing quotation".toList ↔ e = .noClosingQuote := by
  cases e <;> decide

/-- **Accepting a line is reading the grammar.** The words in front of the
    cursor are those of the only derivation that the text has. Without one
    there is an error: no escaped character when the text ends with the
    backslash of an escape, and otherwise no closing quotation, when it ends
    within quotes. -/
theorem wordsBefore_acceptLine (buffer : Text) (cursor : ℤ) :
    (∀ ws, wordsBefore buffer cursor .acceptLine = .ok ws ↔ Line (buffer.take cursor.toNat) ws) ∧
      (∀ ws ws', Line (buffer.take cursor.toNat) ws → Line (buffer.take cursor.toNat) ws' →
        ws = ws') ∧
      ((¬ ∃ ws, Line (buffer.take cursor.toNat) ws) →
        ∃ e, wordsBefore buffer cursor .acceptLine = .error e) ∧
      ((∃ e, wordsBefore buffer cursor .acceptLine = .error e ∧
          e.message = "No escaped character".toList) ↔
        EndsInEscape (buffer.take cursor.toNat)) ∧
      ((∃ e, wordsBefore buffer cursor .acceptLine = .error e ∧
          e.message = "No closing quotation".toList) ↔
        EndsInQuotes (buffer.take cursor.toNat) ∧ ¬ EndsInEscape (buffer.take cursor.toNat)) := by
  simp only [wordsBefore]
  refine ⟨fun ws => splitLine_eq_ok_iff, fun ws ws' h h' => ?_, fun h => ?_, ?_, ?_⟩
  · have h1 := splitLine_eq_ok_iff.2 h
    rw [splitLine_eq_ok_iff.2 h'] at h1
    exact (Except.ok.inj h1).symm
  · cases hs : splitLine (buffer.take cursor.toNat) with
    | ok ws => exact absurd ⟨ws, splitLine_eq_ok_iff.1 hs⟩ h
    | error e => exact ⟨e, rfl⟩
  · rw [← splitLine_eq_noEscapedCharacter_iff]
    simp only [message_eq_noEscapedCharacter, exists_eq_right]
  · rw [← splitLine_eq_noClosingQuote_iff]
    simp only [message_eq_noClosingQuote, exists_eq_right]

/-- A line with one derivation, and the same line without its last mark. -/
theorem wordsBefore_acceptLine_quoted :
    (Line "a 'b c'".toList ["a".toList, "b c".toList] ∧
      ∀ ws, Line "a 'b c'".toList ws → ws = ["a".toList, "b c".toList]) ∧
      (¬ ∃ ws, Line "a 'b c".toList ws) ∧
      ∃ e, wordsBefore "a 'b c'".toList 6 .acceptLine = .error e ∧
        e.message = "No closing quotation".toList := by
  obtain ⟨hok, huniq, -, -, -⟩ := wordsBefore_acceptLine "a 'b c'".toList 7
  obtain ⟨hok', -, hfail, -, -⟩ := wordsBefore_acceptLine "a 'b c'".toList 6
  have hl : Line "a 'b c'".toList ["a".toList, "b c".toList] := (hok _).1 rfl
  have herr : wordsBefore "a 'b c'".toList 6 .acceptLine = .error .noClosingQuote := rfl
  have hno : ¬ ∃ ws, Line "a 'b c".toList ws := by
    rintro ⟨ws, h⟩
    have hws := (hok' ws).2 h
    rw [herr] at hws
    cases hws
  refine ⟨⟨hl, fun ws h => huniq ws _ h hl⟩, hno, ?_⟩
  obtain ⟨e, he⟩ := hfail hno
  rw [herr] at he
  cases he
  exact ⟨.noClosingQuote, herr, rfl⟩

end Grammar

end ShellHighlight
