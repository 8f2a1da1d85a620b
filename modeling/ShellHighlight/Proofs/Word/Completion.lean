/-
  Lines that are still being typed, and what closes them.

  * `splitLine_eq_noClosingQuote_iff_run`: a line lacks a closing quotation if
    and only if the splitter is left within quotes;
  * `splitLine_closed` and `splitLine_not_closed`: behind such a line the mark
    that its quotes were opened with finishes it, and the other mark does not;
  * `wordsBefore_complete_closed`: the words of a line that is being typed are
    those of the line as it stands, or else of the line with its quotes closed.
-/
import ShellHighlight.Proofs.Word.Grammar

namespace ShellHighlight

open Grammar

/-! ## A mark behind open quotes -/

namespace Scan

theorem step_quoted_same (m : QuoteMark) (v : Text) :
    (quoted m v).step m.char = (none, .bare v) := by
  simp [step]

/-- Within quotes the other mark stands for itself. -/
theorem step_quoted_other {m m' : QuoteMark} (h : m' ≠ m) (v : Text) :
    (quoted m v).step m'.char = (none, .quoted m (v ++ [m'.char])) := by
  cases m <;> cases m'
  · exact absurd rfl h
  · rfl
  · rfl
  · exact absurd rfl h

/-- A mark where no word has been begun opens quotes. -/
theorem step_between_mark (m : QuoteMark) : between.step m.char = (none, .quoted m []) := by
  cases m <;> rfl

end Scan

/-- **A line lacks a closing quotation if and only if it is left within quotes.** -/
theorem splitLine_eq_noClosingQuote_iff_run {t : Text} :
    splitLine t = .error .noClosingQuote ↔
      ∃ ws m v, Scan.between.run t = (ws, .quoted m v) := by
  rw [splitLine]
  rcases Scan.between.run t with ⟨ws, _ | v | ⟨m, v⟩ | ⟨b, v⟩⟩ <;> simp [Scan.finish, Except.map]

section
variable {t : Text} {ws : List Text} {m : QuoteMark} {v : Text}
  (h : Scan.between.run t = (ws, .quoted m v))
include h

/-- The open word is reported as it stands. -/
theorem splitOpen_of_quoted : splitOpen t = ws ++ [v] := by
  rw [splitOpen, h]
  rfl

/-- The mark that the quotes were opened with ends the word. -/
theorem splitLine_closed : splitLine (t ++ [m.char]) = .ok (ws ++ [v]) := by
  rw [splitLine, run_append, h, run_singleton, Scan.step_quoted_same]
  simp [Scan.finish, Except.map]

/-- The other mark goes into the word. -/
theorem splitLine_not_closed {m' : QuoteMark} (hm : m' ≠ m) :
    splitLine (t ++ [m'.char]) = .error .noClosingQuote := by
  rw [splitLine, run_append, h, run_singleton, Scan.step_quoted_other hm]
  rfl

end

/-- A mark that has just been opened begins an empty word. -/
theorem splitOpen_front_mark {f : Text} {ws : List Text} (h : Front f ws) (m : QuoteMark) :
    splitOpen (f ++ [m.char]) = ws ++ [[]] := by
  refine splitOpen_of_quoted (m := m) ?_
  rw [run_append, run_front h, run_singleton, Scan.step_between_mark]
  simp

/-! ## The words of an open line -/

/-- **Completing a line is accepting the closed line.** With the cursor at the
    end of the line or behind it, completion always has an answer: the words of
    the line if it is finished, and if it lacks a closing quotation the words of
    the line with one mark more, which finishes it while the other mark does
    not. Quotes that have just been opened make an empty last word. -/
theorem wordsBefore_complete_closed {t : Text} {n k : ℤ} (hn : t.length ≤ n) (hk : t.length < k) :
    (∃ ws, wordsBefore t n .complete = .ok ws) ∧
      (∀ ws, wordsBefore t n .acceptLine = .ok ws → wordsBefore t n .complete = .ok ws) ∧
      (∀ e, wordsBefore t n .acceptLine = .error e → e.message = "No closing quotation".toList →
        (∃! m : QuoteMark, ∃ ws, wordsBefore (t ++ [m.char]) k .acceptLine = .ok ws) ∧
          ∀ (m : QuoteMark) (ws : List Text), wordsBefore (t ++ [m.char]) k .acceptLine = .ok ws →
            wordsBefore t n .complete = .ok ws) ∧
      ∀ (f : Text) (ws : List Text) (m : QuoteMark), Front f ws → t = f ++ [m.char] →
        wordsBefore t n .complete = .ok (ws ++ [[]]) := by
  have hclosed : ∀ m : QuoteMark, wordsBefore (t ++ [m.char]) k .acceptLine =
      splitLine (t ++ [m.char]) := by
    intro m
    refine wordsBefore_acceptLine_of_le ?_
    rw [List.length_append, List.length_singleton]
    omega
  rw [wordsBefore_complete_of_le hn, wordsBefore_acceptLine_of_le hn]
  simp only [hclosed]
  refine ⟨⟨_, rfl⟩, fun ws h => ?_, fun e he hmessage => ?_, fun f ws m hf ht => ?_⟩
  · rw [splitOpen_of_line (splitLine_eq_ok_iff.1 h)]
  · rw [message_eq_noClosingQuote.1 hmessage, splitLine_eq_noClosingQuote_iff_run] at he
    obtain ⟨us, q, v, hrun⟩ := he
    -- a mark that finishes the line is the one that the quotes were opened with
    have hmark : ∀ (m : QuoteMark) (ws : List Text), splitLine (t ++ [m.char]) = .ok ws → m = q := by
      intro m ws hm
      by_contra hne
      rw [splitLine_not_closed hrun hne] at hm
      cases hm
    refine ⟨⟨q, ⟨us ++ [v], splitLine_closed hrun⟩, fun m ⟨ws, hm⟩ => hmark m ws hm⟩,
      fun m ws hm => ?_⟩
    obtain rfl := hmark m ws hm
    rw [splitOpen_of_quoted hrun, ← splitLine_closed hrun, hm]
  · rw [ht, splitOpen_front_mark hf]

/-- A word of three parts with the last one open, and quotes just opened. -/
theorem wordsBefore_complete_closed_glued :
    let t := "x a'b'\"c".toList
    let u := "x \"".toList
    (t.length : ℤ) ≤ 8 ∧ (t.length : ℤ) < 9 ∧
      wordsBefore t 8 .acceptLine = .error .noClosingQuote ∧
      SplitError.noClosingQuote.message = "No closing quotation".toList ∧
      wordsBefore (t ++ [QuoteMark.double.char]) 9 .acceptLine = .ok ["x".toList, "abc".toList] ∧
      wordsBefore t 8 .complete = .ok ["x".toList, "abc".toList] ∧
      (u.length : ℤ) ≤ 3 ∧ (u.length : ℤ) < 4 ∧ Front "x ".toList ["x".toList] ∧
      wordsBefore u 3 .complete = .ok ["x".toList, []] := by
  intro t u
  have ht : (t.length : ℤ) ≤ 8 := by decide
  have ht' : (t.length : ℤ) < 9 := by decide
  have hu : (u.length : ℤ) ≤ 3 := by decide
  have hu' : (u.length : ℤ) < 4 := by decide
  have hopen : wordsBefore t 8 .acceptLine = .error .noClosingQuote := rfl
  have hdouble : wordsBefore (t ++ [QuoteMark.double.char]) 9 .acceptLine =
      .ok ["x".toList, "abc".toList] := rfl
  have hword : Word ['x'] ['x'] := .mk .nil (.plain rfl (by decide) (by decide) (by decide))
  have hfront : Front ([] ++ ['x'] ++ [' ']) ([] ++ [['x']]) :=
    .word (.gap (by decide)) hword (by decide) (by decide)
  obtain ⟨-, -, hclosed, -⟩ := wordsBefore_complete_closed ht ht'
  obtain ⟨-, -, -, hempty⟩ := wordsBefore_complete_closed hu hu'
  exact ⟨ht, ht', hopen, rfl, hdouble, (hclosed _ hopen rfl).2 .double _ hdouble, hu, hu', hfront,
    hempty _ _ .double hfront rfl⟩

end ShellHighlight
