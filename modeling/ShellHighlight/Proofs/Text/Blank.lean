/-
  The end of the first word of a text.

  * `exists_cut` cuts a text in front of the first code point that is not of a
    class, and `dropWhile_append` is what then is left;
  * `tokenEnd?_append`: what stands behind the first word decides whether the
    word has an end;
  * `exists_firstWord`: a text that is not blank has a first word;
  * `tokenEnd?_eq_some_iff`: the end has blanks and one word in front of it, and
    a blank behind it;
  * `words_trim_append`: the first word of a trimmed text is the one that the
    text has behind its leading blanks.
-/
import ShellHighlight.Text.Blank
import Mathlib.Data.List.DropRight
import Mathlib.Data.List.TakeWhile
import Mathlib.Tactic.Common

namespace ShellHighlight

namespace Text

/-- A text is cut in front of the first code point that is not of class `p`. -/
theorem exists_cut (p : Char → Bool) (t : Text) :
    ∃ a b, t = a ++ b ∧ (∀ c ∈ a, p c = true) ∧ ∀ c ∈ b.head?, p c = false := by
  refine ⟨t.takeWhile p, t.dropWhile p, List.takeWhile_append_dropWhile.symm,
    fun c hc => List.mem_takeWhile_imp hc, fun c hc => ?_⟩
  have h := List.head?_dropWhile_not p t
  rw [Option.mem_def.1 hc] at h
  exact h

theorem dropWhile_append {p : Char → Bool} {a b : Text} (ha : ∀ c ∈ a, p c = true)
    (hb : ∀ c ∈ b.head?, p c = false) : (a ++ b).dropWhile p = b := by
  rw [List.dropWhile_append_of_pos ha]
  cases b with
  | nil => rfl
  | cons c b => exact List.dropWhile_cons_of_neg (by simp [hb c rfl])

theorem takeWhile_append {p : Char → Bool} {a b : Text} (ha : ∀ c ∈ a, p c = true)
    (hb : ∀ c ∈ b.head?, p c = false) : (a ++ b).takeWhile p = a := by
  rw [List.takeWhile_append_of_pos ha]
  cases b with
  | nil => exact List.append_nil a
  | cons c b => rw [List.takeWhile_cons_of_neg (by simp [hb c rfl]), List.append_nil]

theorem tokenEndFrom_blanks : ∀ {bs : Text} (pos : ℕ) (t : Text), (∀ c ∈ bs, isBlank c = true) →
    tokenEndFrom false pos (bs ++ t) = tokenEndFrom false (pos + bs.length) t
  | [], _, _, _ => rfl
  | c :: bs, pos, t, h => by
    obtain ⟨hc, hbs⟩ := List.forall_mem_cons.1 h
    rw [List.cons_append, tokenEndFrom, hc]
    simp only [Bool.not_true, Bool.false_eq_true, if_false]
    rw [tokenEndFrom_blanks _ _ hbs, List.length_cons, Nat.add_assoc, Nat.add_comm 1]

theorem tokenEndFrom_token : ∀ {token : Text} (pos : ℕ) (t : Text),
    (∀ c ∈ token, isBlank c = false) →
    tokenEndFrom true pos (token ++ t) = tokenEndFrom true (pos + token.length) t
  | [], _, _, _ => rfl
  | c :: token, pos, t, h => by
    obtain ⟨hc, htoken⟩ := List.forall_mem_cons.1 h
    rw [List.cons_append, tokenEndFrom, hc]
    simp only [Bool.not_false, if_true]
    rw [tokenEndFrom_token _ _ htoken, List.length_cons, Nat.add_assoc, Nat.add_comm 1]

/-- The end of the first word is looked for behind that word. -/
theorem tokenEnd?_append {blanks token : Text} (hblanks : ∀ c ∈ blanks, isBlank c = true)
    (hne : token ≠ []) (htoken : ∀ c ∈ token, isBlank c = false) (t : Text) :
    tokenEnd? (blanks ++ (token ++ t)) = tokenEndFrom true (blanks.length + token.length) t := by
  rw [tokenEnd?, tokenEndFrom_blanks _ _ hblanks]
  obtain ⟨c, token, rfl⟩ := List.exists_cons_of_ne_nil hne
  obtain ⟨hc, htail⟩ := List.forall_mem_cons.1 htoken
  rw [List.cons_append, tokenEndFrom, hc]
  simp only [Bool.not_false, if_true]
  rw [tokenEndFrom_token _ _ htail, List.length_cons, Nat.zero_add, Nat.add_assoc, Nat.add_comm 1]

theorem tokenEndFrom_cons_blank {b : Char} (hb : isBlank b = true) (pos : ℕ) (t : Text) :
    tokenEndFrom true pos (b :: t) = some pos := by
  rw [tokenEndFrom, hb]
  rfl

/-- Without a word there is no end of one. -/
theorem tokenEnd?_of_blank {t : Text} (h : ∀ c ∈ t, isBlank c = true) : tokenEnd? t = none := by
  have hend := tokenEndFrom_blanks 0 [] h
  rwa [List.append_nil] at hend

/-- A text that is not blank has a first word, with blanks in front of it, and
    with a blank behind it if anything is behind it. -/
theorem exists_firstWord {t : Text} (h : ∃ c ∈ t, isBlank c = false) :
    ∃ blanks token rest, t = blanks ++ (token ++ rest) ∧ (∀ c ∈ blanks, isBlank c = true) ∧
      token ≠ [] ∧ (∀ c ∈ token, isBlank c = false) ∧ ∀ c ∈ rest.head?, isBlank c = true := by
  obtain ⟨blanks, t', rfl, hblanks, hhead⟩ := exists_cut isBlank t
  obtain ⟨token, rest, rfl, htoken, hrest⟩ := exists_cut (!isBlank ·) t'
  simp only [Bool.not_eq_eq_eq_not, Bool.not_true, Bool.not_false] at htoken hrest
  refine ⟨blanks, token, rest, rfl, hblanks, ?_, htoken, hrest⟩
  rintro rfl
  cases rest with
  | nil =>
    obtain ⟨c, hc, hword⟩ := h
    rw [List.nil_append, List.append_nil] at hc
    rw [hblanks c hc] at hword
    cases hword
  | cons c rest =>
    have hc := hhead c rfl
    rw [hrest c rfl] at hc
    cases hc

/-- **The end of the first word.** -/
theorem tokenEnd?_eq_some_iff {t : Text} {i : ℕ} : tokenEnd? t = some i ↔
    ∃ blanks token b rest, t = blanks ++ (token ++ b :: rest) ∧ i = blanks.length + token.length ∧
      (∀ c ∈ blanks, isBlank c = true) ∧ token ≠ [] ∧ (∀ c ∈ token, isBlank c = false) ∧
      isBlank b = true := by
  constructor
  · intro h
    have hword : ∃ c ∈ t, isBlank c = false := by
      by_contra hblank
      rw [tokenEnd?_of_blank (by simpa using hblank)] at h
      cases h
    obtain ⟨blanks, token, rest, rfl, hblanks, hne, htoken, hrest⟩ := exists_firstWord hword
    rw [tokenEnd?_append hblanks hne htoken] at h
    cases rest with
    | nil => cases h
    | cons b rest =>
      have hb := hrest b rfl
      rw [tokenEndFrom_cons_blank hb] at h
      exact ⟨blanks, token, b, rest, rfl, (Option.some.inj h).symm, hblanks, hne, htoken, hb⟩
  · rintro ⟨blanks, token, b, rest, rfl, rfl, hblanks, hne, htoken, hb⟩
    rw [tokenEnd?_append hblanks hne htoken, tokenEndFrom_cons_blank hb]

/-! ## The first word -/

section
variable {token r : Text} (hne : token ≠ []) (htoken : ∀ c ∈ token, isBlank c = false)
  (hr : ∀ c ∈ r.head?, isBlank c = true)
include hne htoken

/-- Only the blanks in front of a word are trimmed. -/
theorem trimStart_append {blanks : Text} (hblanks : ∀ c ∈ blanks, isBlank c = true) (r : Text) :
    trimStart (blanks ++ (token ++ r)) = token ++ r := by
  obtain ⟨c, u, rfl⟩ := List.exists_cons_of_ne_nil hne
  exact dropWhile_append hblanks (by rintro d ⟨⟩; exact htoken c List.mem_cons_self)

/-- Nothing is trimmed in front of the end of a word. -/
theorem trimEnd_append (r : Text) : trimEnd (token ++ r) = token ++ trimEnd r := by
  have hkeep : token.reverse.dropWhile isBlank = token.reverse := by
    obtain ⟨front, c, rfl⟩ := (List.eq_nil_or_concat' token).resolve_left hne
    rw [List.reverse_append, List.reverse_singleton, List.singleton_append]
    exact List.dropWhile_cons_of_neg (by simp [htoken c])
  rw [trimEnd, trimEnd, List.reverse_append, List.dropWhile_append]
  split_ifs with h
  · rw [hkeep, List.isEmpty_iff.1 h, List.reverse_reverse, List.reverse_nil, List.append_nil]
  · rw [List.reverse_append, List.reverse_reverse]

/-- Nothing is trimmed where there are no blanks. -/
theorem trim_eq_self : trim token = token := by
  have hstart := trimStart_append hne htoken (fun c hc => absurd hc List.not_mem_nil) []
  rw [List.nil_append, List.append_nil] at hstart
  have hend := trimEnd_append hne htoken []
  rw [List.append_nil] at hend
  rw [trim, hstart, hend]
  exact List.append_nil token

include hr

theorem words_append : words (token ++ r) = token :: words r := by
  cases r with
  | nil =>
    rw [words, List.append_nil, List.splitOnP_eq_singleton htoken]
    simp [words, hne]
  | cons b r =>
    have hb : isBlank b = true := hr b rfl
    rw [words, List.splitOnP_append_cons_of_forall_mem htoken b hb]
    simp [words, hne, hb, List.splitOnP_cons_eq_if_modifyHead]

/-- **The first word of a trimmed text.** -/
theorem words_trim_append {blanks : Text} (hblanks : ∀ c ∈ blanks, isBlank c = true) :
    words (trim (blanks ++ (token ++ r))) = token :: words (trimEnd r) := by
  have hend : ∀ c ∈ (trimEnd r).head?, isBlank c = true := by
    have hprefix : trimEnd r <+: r := List.rdropWhile_prefix isBlank r
    obtain ⟨rest, hrest⟩ := hprefix
    intro c hc
    refine hr c ?_
    rw [← hrest, List.head?_append, hc]
    rfl
  rw [trim, trimStart_append hne htoken hblanks, trimEnd_append hne htoken,
    words_append hne htoken hend]

end

end Text

end ShellHighlight
