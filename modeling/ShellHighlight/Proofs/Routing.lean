/-
  Where a line is cut, and the token that it is routed by.

  The token is found by trimming the line and taking its words, and the place
  where the command ends by a scan of its own.

  * `tokenEnd?_of_trimStart_take`: the scan stops at the blank behind a word that
    has only blanks in front of it;
  * `trimStart_take_token`: what is in front of the end of the first word is that
    word, apart from leading blanks;
  * `tokenEnd?_routedToken`: both find the same token.
-/
import ShellHighlight.Proofs.Typing

namespace ShellHighlight

namespace Text

theorem exists_eq_append_trimStart (t : Text) :
    ∃ blanks, (∀ c ∈ blanks, isBlank c = true) ∧ t = blanks ++ t.trimStart :=
  ⟨t.takeWhile isBlank, fun _ hc => List.mem_takeWhile_imp hc,
    List.takeWhile_append_dropWhile.symm⟩

section
variable {token : Text} (hne : token ≠ []) (htoken : ∀ c ∈ token, isBlank c = false)
include hne htoken

/-- A blank with one word in front of it, behind nothing but blanks, is where the
    first word ends. -/
theorem tokenEnd?_of_trimStart_take {t : Text} {i : ℕ} (hi : i < t.length)
    (hblank : isBlank t[i] = true) (htake : trimStart (t.take i) = token) :
    tokenEnd? t = some i := by
  obtain ⟨blanks, hblanks, hcut⟩ := exists_eq_append_trimStart (t.take i)
  rw [htake] at hcut
  have hlen : i = blanks.length + token.length := by
    rw [← List.length_append, ← hcut, List.length_take, Nat.min_eq_left hi.le]
  have hsplit : t = blanks ++ (token ++ t[i] :: t.drop (i + 1)) := by
    rw [← List.append_assoc, ← hcut, List.getElem_cons_drop, List.take_append_drop]
  exact tokenEnd?_eq_some_iff.2
    ⟨blanks, token, t[i], t.drop (i + 1), hsplit, hlen, hblanks, hne, htoken, hblank⟩

variable {blanks rest : Text} (hblanks : ∀ c ∈ blanks, isBlank c = true)
  (hrest : ∀ c ∈ rest.head?, isBlank c = true)
include hblanks hrest

/-- The first word has no end if and only if nothing is behind it. -/
theorem tokenEnd?_append_eq_none_iff :
    tokenEnd? (blanks ++ (token ++ rest)) = none ↔ rest = [] := by
  rw [tokenEnd?_append hblanks hne htoken]
  cases rest with
  | nil => simp [tokenEndFrom]
  | cons b rest => simp [tokenEndFrom_cons_blank (hrest b rfl)]

/-- In front of the end of the first word there is that word, apart from leading
    blanks, and behind it a blank. -/
theorem trimStart_take_token (hbehind : rest ≠ []) :
    let t := blanks ++ (token ++ rest)
    let i := (blanks ++ token).length
    0 < i ∧ (∃ hi : i < t.length, isBlank t[i] = true) ∧ trimStart (t.take i) = token := by
  obtain ⟨b, rest, rfl⟩ := List.exists_cons_of_ne_nil hbehind
  intro t i
  have ht : t = blanks ++ token ++ b :: rest := (List.append_assoc _ _ _).symm
  have hpos : 0 < i := List.length_pos_of_ne_nil (by simp [hne])
  have hi : i < t.length := by simp [t, i]
  have hget : t[i] = b := by simp [ht, i]
  have htake : trimStart (t.take i) = token := by
    have hfront := trimStart_append hne htoken hblanks []
    rw [List.append_nil] at hfront
    rw [ht, List.take_left, hfront]
  exact ⟨hpos, ⟨hi, hget ▸ hrest b rfl⟩, htake⟩

end

end Text

namespace Highlighter

/-- **A line is cut behind the token that it is routed by.** A line of blanks is
    not cut. Any other line has a first word, which decides its mode while the
    editor shows nothing. The line is not cut if and only if it is that word
    behind blanks; and it is cut at a position if and only if there is a blank
    with that word in front of it, behind nothing but blanks. -/
theorem tokenEnd?_routedToken (buffer : Text) :
    ((∀ c ∈ buffer, isBlank c = true) → Text.tokenEnd? buffer = none) ∧
      ((∃ c ∈ buffer, isBlank c = false) →
        ∃ token others, Text.words (Text.trim buffer) = token :: others ∧
          (∀ (h : Highlighter) (w : World) (e : Editor), e.isMarking = false →
            h.mode w e buffer = h.commandMode w (commandName token)) ∧
          (Text.tokenEnd? buffer = none ↔ Text.trimStart buffer = token) ∧
          ∀ i, Text.tokenEnd? buffer = some i ↔
            0 < i ∧ (∃ hi : i < buffer.length, isBlank buffer[i] = true) ∧
              Text.trimStart (buffer.take i) = token) := by
  refine ⟨Text.tokenEnd?_of_blank, fun hword => ?_⟩
  obtain ⟨blanks, token, rest, rfl, hblanks, hne, htoken, hrest⟩ := Text.exists_firstWord hword
  have hnone := Text.tokenEnd?_append_eq_none_iff hne htoken hblanks hrest
  refine ⟨token, Text.words (Text.trimEnd rest), Text.words_trim_append hne htoken hrest hblanks,
    fun h w e he => ?_, ?_, fun i => ⟨fun hcut => ?_, ?_⟩⟩
  · rw [h.mode_token w e hblanks hne htoken hrest, he, if_neg Bool.false_ne_true]
  · rw [hnone, Text.trimStart_append hne htoken hblanks, List.append_right_eq_self]
  · have hbehind : rest ≠ [] := by
      rintro rfl
      rw [hnone.2 rfl] at hcut
      cases hcut
    rw [tokenEnd?_token_append hblanks hne htoken hrest hbehind] at hcut
    obtain rfl := Option.some.inj hcut
    exact Text.trimStart_take_token hne htoken hblanks hrest hbehind
  · rintro ⟨-, ⟨hi, hblank⟩, htake⟩
    exact Text.tokenEnd?_of_trimStart_take hne htoken hi hblank htake

/-- A name in quotes that do not close in front of an em space: the line is cut
    there, and the name that it is routed by is the one in front of the em space. -/
theorem tokenEnd?_routedToken_quoted :
    let h : Highlighter := { (default : Highlighter) with fileCommands := ["ls".toList] }
    let buffer := "\u00a0\t'ls\u2003a' b".toList
    (∀ c ∈ "\u3000\x0b".toList, isBlank c = true) ∧ Text.tokenEnd? "\u3000\x0b".toList = none ∧
      (∃ c ∈ buffer, isBlank c = false) ∧ ({} : Editor).isMarking = false ∧
      Text.words (Text.trim buffer) = ["'ls".toList, "a'".toList, "b".toList] ∧
      h.mode default {} buffer = h.commandMode default (commandName "'ls".toList) ∧
      Text.trimStart buffer ≠ "'ls".toList ∧ Text.tokenEnd? buffer = some 5 ∧
      Text.trimStart (buffer.take 5) = "'ls".toList := by
  intro h buffer
  have hblank : ∀ c ∈ "\u3000\x0b".toList, isBlank c = true := List.all_eq_true.1 rfl
  have hword : ∃ c ∈ buffer, isBlank c = false := ⟨'\'', by decide, rfl⟩
  have hidle : ({} : Editor).isMarking = false := rfl
  have hwords : Text.words (Text.trim buffer) = ["'ls".toList, "a'".toList, "b".toList] := by
    decide
  have hend : Text.tokenEnd? buffer = some 5 := by decide
  obtain ⟨token, others, hsplit, hmode, hnone, hcut⟩ := (tokenEnd?_routedToken buffer).2 hword
  rw [hwords] at hsplit
  obtain ⟨rfl, -⟩ := List.cons.inj hsplit
  obtain ⟨-, -, htake⟩ := (hcut 5).1 hend
  refine ⟨hblank, (tokenEnd?_routedToken _).1 hblank, hword, hidle, hwords,
    hmode h default {} hidle, fun hstart => ?_, hend, htake⟩
  rw [hnone.2 hstart] at hend
  cases hend

end Highlighter

end ShellHighlight
