/-
  Writing words so that the splitter reads them back.

  * `Quoting` are the ways to write a word: between marks, or with a backslash in
    front of every code point; `Quoting.write` is the raw word;
  * `run_write`: the splitter reads the raw word back, whatever the word holds;
  * `QuotedLine` is a line of such words with gaps between them, and
    `wordsBefore_quotedLine`: its words are those that were written.
-/
import ShellHighlight.Proofs.Word.Append
import ShellHighlight.Proofs.Word.Completion

namespace ShellHighlight

open Grammar

/-! ## Writing a word -/

/-- A way to write a word so that nothing in it means anything to the splitter. -/
inductive Quoting where
  /-- Between two marks. -/
  | enclosed (mark : QuoteMark)
  /-- With a backslash in front of every code point. -/
  | escaped
  deriving DecidableEq, Repr

namespace Quoting

/-- How a code point of a word is written. Nothing can be escaped between single
    quotes, so that a single quote stands outside of them, between double ones. -/
def writeChar : Quoting → Char → Text
  | enclosed .single, c => if c = '\'' then ['\'', '"', '\'', '"', '\''] else [c]
  | enclosed .double, c => if c = '"' ∨ c = '\\' then ['\\', c] else [c]
  | escaped, c => ['\\', c]

/-- The raw word of a word. -/
def write (q : Quoting) (w : Text) : Text :=
  match q with
  | enclosed m => m.char :: (w.flatMap q.writeChar ++ [m.char])
  | escaped => w.flatMap q.writeChar

/-- The state in which the code points of a word are read. -/
def inside : Quoting → Text → Scan
  | enclosed m, v => .quoted m v
  | escaped, v => .bare v

/-- **A code point is read back**, and the next one is read in the same way. -/
theorem run_writeChar (q : Quoting) (v : Text) (c : Char) :
    (q.inside v).run (q.writeChar c) = ([], q.inside (v ++ [c])) := by
  cases q with
  | enclosed m =>
    cases m with
    | single =>
      rw [writeChar]
      split_ifs with hc
      · rw [hc]
        rfl
      · exact run_single v (by simpa using Ne.symm hc)
    | double =>
      rw [writeChar]
      split_ifs with hc
      · rcases hc with rfl | rfl
        · exact run_item v .mark
        · exact run_item v .backslash
      · obtain ⟨h1, h2⟩ := not_or.1 hc
        exact run_item v (.plain h1 h2)
  | escaped => exact run_piece v (.escape c)

theorem run_flatMap_writeChar (q : Quoting) : ∀ v w : Text,
    (q.inside v).run (w.flatMap q.writeChar) = ([], q.inside (v ++ w))
  | v, [] => by simp [Scan.run]
  | v, c :: w => by
    have ih := run_flatMap_writeChar q (v ++ [c]) w
    rw [List.append_assoc, List.singleton_append] at ih
    rw [List.flatMap_cons]
    exact run_append_of (q.run_writeChar v c) ih

/-- **A raw word is read back.** Only with nothing but backslashes there is no raw
    word for the empty word. -/
theorem run_write (q : Quoting) {w : Text} (hw : q = .escaped → w ≠ []) :
    Scan.between.run (q.write w) = ([], .bare w) := by
  cases q with
  | enclosed m =>
    have hopen : Scan.between.run [m.char] = ([], .quoted m []) := by
      rw [run_singleton, Scan.step_between_mark]
      rfl
    have hclose : (Scan.quoted m w).run [m.char] = ([], .bare w) := by
      rw [run_singleton, Scan.step_quoted_same]
      rfl
    exact run_append_of hopen (run_append_of (run_flatMap_writeChar (.enclosed m) [] w) hclose)
  | escaped =>
    have hopens : Opens (escaped.write w) := by
      obtain ⟨c, u, rfl⟩ := List.exists_cons_of_ne_nil (hw rfl)
      exact ⟨'\\', c :: u.flatMap escaped.writeChar, rfl, rfl⟩
    rw [run_of_opens hopens]
    exact run_flatMap_writeChar .escaped [] w

theorem line_write (q : Quoting) {w : Text} (hw : q = .escaped → w ≠ []) :
    Line (q.write w) [w] :=
  line_iff.2 (.inr ⟨[], w, reads_iff.2 (q.run_write hw), rfl⟩)

/-! ### The code points of a raw word -/

/-- A raw word begins with a mark or a backslash. -/
theorem exists_write_eq_cons (q : Quoting) {w : Text} (hw : q = .escaped → w ≠ []) :
    ∃ c u, q.write w = c :: u ∧ isPlain c = false := by
  cases q with
  | enclosed m => exact ⟨m.char, _, rfl, m.not_isPlain_char⟩
  | escaped =>
    obtain ⟨c, u, rfl⟩ := List.exists_cons_of_ne_nil (hw rfl)
    exact ⟨'\\', c :: u.flatMap escaped.writeChar, rfl, rfl⟩

/-- To write a code point takes no others but marks and backslashes. -/
theorem mem_writeChar {q : Quoting} {c d : Char} (h : d ∈ q.writeChar c) :
    isPlain d = false ∨ d = c := by
  cases q with
  | enclosed m =>
    cases m <;> rw [writeChar] at h <;> split_ifs at h with hc <;>
      simp only [List.mem_cons, List.not_mem_nil, or_false] at h
    · rcases h with rfl | rfl | rfl | rfl | rfl <;> exact .inl rfl
    · exact .inr h
    · exact h.imp (by rintro rfl; rfl) id
    · exact .inr h
  | escaped =>
    simp only [writeChar, List.mem_cons, List.not_mem_nil, or_false] at h
    exact h.imp (by rintro rfl; rfl) id

theorem mem_write {q : Quoting} {w : Text} {d : Char} (h : d ∈ q.write w) :
    isPlain d = false ∨ d ∈ w := by
  have hflat : d ∈ w.flatMap q.writeChar → isPlain d = false ∨ d ∈ w := by
    intro hd
    obtain ⟨c, hc, hd⟩ := List.mem_flatMap.1 hd
    rcases mem_writeChar hd with hd | rfl
    · exact .inl hd
    · exact .inr hc
  cases q with
  | enclosed m =>
    rw [write, List.mem_cons, List.mem_append, List.mem_singleton] at h
    rcases h with rfl | h | rfl
    · exact .inl m.not_isPlain_char
    · exact hflat h
    · exact .inl m.not_isPlain_char
  | escaped => exact hflat h

end Quoting

/-! ## Writing a line -/

/-- A word as it is to be written, and the gap behind it. -/
structure QuotedWord where
  quoting : Quoting
  word : Text
  gap : Text
  /-- Without marks there is no empty word. -/
  word_ne_nil : quoting = .escaped → word ≠ []
  gap_isGap : Gap gap

/-- The raw word and the gap. -/
def QuotedWord.text (a : QuotedWord) : Text :=
  a.quoting.write a.word ++ a.gap

theorem QuotedWord.line_text (a : QuotedWord) : Line a.text [a.word] :=
  (a.quoting.line_write a.word_ne_nil).append_gap a.gap_isGap

/-- Words with the gaps between them, and a gap in front of the first one. -/
structure QuotedLine where
  lead : Text
  words : List QuotedWord
  lead_isGap : Gap lead
  /-- Only behind the last word the gap may be empty. -/
  gap_ne_nil : ∀ a ∈ words.dropLast, a.gap ≠ []

/-- The text of a line. -/
def QuotedLine.text (l : QuotedLine) : Text :=
  l.lead ++ l.words.flatMap QuotedWord.text

/-- **Words that have been written are read back.** Each but the last one is a
    finished line with a gap behind it. -/
theorem splitLine_flatMap_text : ∀ {as : List QuotedWord}, (∀ a ∈ as.dropLast, a.gap ≠ []) →
    splitLine (as.flatMap QuotedWord.text) = .ok (as.map QuotedWord.word)
  | [], _ => rfl
  | [a], _ => by
    rw [List.flatMap_singleton]
    exact splitLine_eq_ok_iff.2 a.line_text
  | a :: b :: as, h => by
    obtain ⟨ha, has⟩ := List.forall_mem_cons.1 h
    rw [List.flatMap_cons, QuotedWord.text,
      splitLine_append_gap (a.quoting.line_write a.word_ne_nil) a.gap_isGap ha,
      splitLine_flatMap_text has]
    rfl

theorem QuotedLine.splitLine_text (l : QuotedLine) :
    splitLine l.text = .ok (l.words.map QuotedWord.word) := by
  rw [text]
  by_cases hlead : l.lead = []
  · rw [hlead, List.nil_append, splitLine_flatMap_text l.gap_ne_nil]
  · -- the gap in front of the words is one behind an empty line
    have hempty : Line [] [] := .blank (by decide)
    rw [← List.nil_append l.lead, splitLine_append_gap hempty l.lead_isGap hlead,
      splitLine_flatMap_text l.gap_ne_nil]
    rfl

/-- **Words are read back from the line that they are written in**, for either
    reading and with the cursor at the end of the line or behind it: whatever
    they hold, however each of them is written, and whatever gaps separate them. -/
theorem wordsBefore_quotedLine (l : QuotedLine) {n : ℤ} (hn : l.text.length ≤ n) (r : Reading) :
    wordsBefore l.text n r = .ok (l.words.map QuotedWord.word) :=
  wordsBefore_of_line hn (splitLine_eq_ok_iff.1 l.splitLine_text) r

/-- Quotes and backslashes between marks of either kind, and an empty word. -/
theorem wordsBefore_quotedLine_marks :
    let l : QuotedLine :=
      { lead := "\t".toList,
        words :=
          [⟨.enclosed .single, "a'\\\" b".toList, " \n".toList, by simp, by decide⟩,
            ⟨.enclosed .double, [], "\r".toList, by simp, by decide⟩,
            ⟨.enclosed .double, "'\\\"\x00".toList, [], by simp, by decide⟩],
        lead_isGap := by decide, gap_ne_nil := by decide }
    l.text = "\t'a'\"'\"'\\\" b' \n\"\"\r\"'\\\\\\\"\x00\"".toList ∧ (l.text.length : ℤ) ≤ 30 ∧
      wordsBefore l.text 30 .acceptLine = .ok ["a'\\\" b".toList, [], "'\\\"\x00".toList] := by
  intro l
  have hn : (l.text.length : ℤ) ≤ 30 := by decide
  exact ⟨by decide, hn, wordsBefore_quotedLine l hn .acceptLine⟩

end ShellHighlight
