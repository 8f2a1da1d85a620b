/-
  How integers are written.

  * `IntegerLiteral` is a written integer: groups of digits with an underscore
    between any two of them, a sign, and spaces around both;
  * `wellFormedRun_iff`: the groups of a run are what its underscores separate;
  * `readInteger_eq_ok_iff`: what is read as an integer is what is written so, and
    its value.
-/
import ShellHighlight.Text.Integer
import ShellHighlight.Proofs.Text
import ShellHighlight.Proofs.Text.Blank

namespace ShellHighlight

/-! ## Written integers -/

/-- The sign of a written integer. -/
inductive Sign where
  | none | plus | minus
  deriving DecidableEq, Repr

namespace Sign

/-- How a sign is written. -/
def text : Sign → Text
  | none => []
  | plus => ['+']
  | minus => ['-']

/-- The number `n` with a sign in front of it. -/
def apply : Sign → ℕ → ℤ
  | minus, n => -n
  | _, n => n

end Sign

/-- A written integer. -/
structure IntegerLiteral where
  front : Text
  sign : Sign
  /-- The digits, where an underscore stands between two groups. -/
  groups : List Text
  back : Text
  front_space : ∀ c ∈ front, isIntegerSpace c = true
  groups_ne_nil : groups ≠ []
  group_ne_nil : [] ∉ groups
  group_digit : ∀ g ∈ groups, ∀ c ∈ g, (digitValue? c).isSome
  length_le : groups.flatten.length ≤ digitLimit
  back_space : ∀ c ∈ back, isIntegerSpace c = true

namespace IntegerLiteral

/-- The digits with the underscores between them. -/
def run (k : IntegerLiteral) : Text :=
  List.intercalate ['_'] k.groups

/-- The text of a written integer. -/
def text (k : IntegerLiteral) : Text :=
  k.front ++ (k.sign.text ++ (k.run ++ k.back))

/-- The value of a written integer. -/
def value (k : IntegerLiteral) : ℤ :=
  k.sign.apply (digitsValue (k.groups.flatten.filterMap digitValue?))

end IntegerLiteral

/-! ## Digits, underscores and spaces -/

/-- Whether a code point may stand between the sign and the spaces. -/
def inRun (c : Char) : Bool :=
  c == '_' || (digitValue? c).isSome

theorem digitValue?_isSome_iff {c : Char} :
    (digitValue? c).isSome ↔ ∃ z ∈ decimalZeros, z ≤ c.toNat ∧ c.toNat ≤ z + 9 := by
  simp [digitValue?, List.find?_isSome]

/-- The digits of a script lie between two neighbouring runs of blanks. -/
theorem decimalZeros_avoid : ∀ z ∈ decimalZeros, 32 < z ∧ (z + 9 < 0x85 ∨ 0xA0 < z) ∧
    (z + 9 < 0x1680 ∨ 0x1680 < z) ∧ (z + 9 < 0x2000 ∨ 0x3000 < z) := by
  decide

theorem isIntegerSpace_of_digit {c : Char} (h : (digitValue? c).isSome) :
    isIntegerSpace c = false := by
  obtain ⟨z, hz, hle, hge⟩ := digitValue?_isSome_iff.1 h
  obtain ⟨h1, h2, h3, h4⟩ := decimalZeros_avoid z hz
  have hblank : isBlank c = false := by
    simp only [isBlank, Bool.or_eq_false_iff, Bool.and_eq_false_iff, decide_eq_false_iff_not,
      beq_eq_false_iff_ne]
    omega
  rw [isIntegerSpace, hblank, Bool.false_and]

theorem inRun_of_space {c : Char} (h : isIntegerSpace c = true) : inRun c = false := by
  rw [inRun, Bool.or_eq_false_iff, beq_eq_false_iff_ne]
  refine ⟨?_, Bool.eq_false_iff.2 fun hd => ?_⟩
  · rintro rfl
    exact absurd h (by decide)
  · rw [isIntegerSpace_of_digit hd] at h
    cases h

/-! ## Groups of digits -/

/-- **The groups of a run** are what its underscores separate. A run is well formed
    if no group is empty, apart from the first one where a digit stands in front
    of the run. -/
theorem wellFormedRun_iff : ∀ (run : Text) (owed : Bool), wellFormedRun owed run = true ↔
    [] ∉ if owed then run.splitOn '_' else (run.splitOn '_').tail
  | [], owed => by cases owed <;> simp [wellFormedRun]
  | c :: run, owed => by
    have ih := wellFormedRun_iff run
    obtain ⟨g, gs, hg⟩ := List.exists_cons_of_ne_nil (List.splitOn_ne_nil '_' run)
    rw [wellFormedRun, List.splitOn_cons_eq_if_modifyHead]
    by_cases hc : c = '_'
    · cases owed <;> simp [hc, ih true]
    · cases owed <;> simp [hc, ih false, hg]

/-- The digits of a run are those of its groups. -/
theorem filterMap_digitValue?_splitOn (run : Text) :
    (run.splitOn '_').flatten.filterMap digitValue? = run.filterMap digitValue? := by
  rw [Text.flatten_splitOn, List.filterMap_filter]
  refine List.filterMap_congr fun c _ => ?_
  by_cases hc : c = '_'
  · subst hc
    rfl
  · simp [hc]

theorem digit_of_mem_splitOn {run g : Text} {c : Char} (hrun : ∀ c ∈ run, inRun c = true)
    (hg : g ∈ run.splitOn '_') (hc : c ∈ g) : (digitValue? c).isSome := by
  have hmem : c ∈ (run.splitOn '_').flatten := List.mem_flatten.2 ⟨g, hg, hc⟩
  rw [Text.flatten_splitOn, List.mem_filter] at hmem
  obtain ⟨hmem, hne⟩ := hmem
  have hin := hrun c hmem
  rw [inRun, Bool.or_eq_true, beq_iff_eq] at hin
  exact hin.resolve_left (by simpa using hne)

theorem length_filterMap_digitValue? {digits : Text} (h : ∀ c ∈ digits, (digitValue? c).isSome) :
    (digits.filterMap digitValue?).length = digits.length :=
  List.filterMap_length_eq_length.2 h

namespace IntegerLiteral
variable (k : IntegerLiteral)

theorem flatten_digit : ∀ c ∈ k.groups.flatten, (digitValue? c).isSome := by
  intro c hc
  obtain ⟨g, hg, hc⟩ := List.mem_flatten.1 hc
  exact k.group_digit g hg c hc

theorem splitOn_run : k.run.splitOn '_' = k.groups := by
  refine List.splitOn_intercalate '_' (fun g hg hmem => ?_) k.groups_ne_nil
  exact absurd (k.group_digit g hg '_' hmem) (by decide)

theorem wellFormedRun_run : wellFormedRun true k.run = true := by
  rw [wellFormedRun_iff, if_pos rfl, splitOn_run]
  exact k.group_ne_nil

theorem inRun_of_mem_run : ∀ c ∈ k.run, inRun c = true := by
  intro c hc
  rcases mem_of_mem_intercalate hc with hc | ⟨g, hg, hc⟩
  · rw [List.mem_singleton.1 hc]
    rfl
  · rw [inRun, k.group_digit g hg c hc, Bool.or_true]

/-- A digit stands first. -/
theorem exists_run_eq_cons : ∃ c u, k.run = c :: u ∧ (digitValue? c).isSome := by
  obtain ⟨g, gs, hgs⟩ := List.exists_cons_of_ne_nil k.groups_ne_nil
  have hg : g ∈ k.groups := by simp [hgs]
  obtain ⟨c, u, rfl⟩ := List.exists_cons_of_ne_nil fun h : g = [] => k.group_ne_nil (h ▸ hg)
  have hdigit := k.group_digit _ hg c List.mem_cons_self
  cases gs with
  | nil => exact ⟨c, u, by rw [run, hgs, List.intercalate_singleton], hdigit⟩
  | cons g gs =>
    exact ⟨c, u ++ ['_'] ++ List.intercalate ['_'] (g :: gs),
      by rw [run, hgs, List.intercalate_cons_cons]; rfl, hdigit⟩

theorem text_ne_nil : k.text ≠ [] := by
  obtain ⟨c, u, hcu, -⟩ := k.exists_run_eq_cons
  simp [text, hcu]

end IntegerLiteral

/-! ## Reading -/

theorem Sign.apply_eq (s : Sign) (n : ℕ) :
    (if decide (s = .minus) then -(n : ℤ) else n) = s.apply n := by
  cases s <;> rfl

/-- What it takes to be read: behind spaces and a sign a well-formed run of not too
    many digits, and spaces behind it. -/
theorem readInteger_eq_ok_iff_run {t body run back : Text} {s : Sign} {n : ℤ}
    (hsign : splitSign (t.dropWhile isIntegerSpace) = (decide (s = .minus), body))
    (hrun : body.takeWhile inRun = run) (hback : body.dropWhile inRun = back) :
    readInteger t = .ok n ↔ wellFormedRun true run = true ∧
      (run.filterMap digitValue?).length ≤ digitLimit ∧
      (∀ c ∈ back, isIntegerSpace c = true) ∧
      s.apply (digitsValue (run.filterMap digitValue?)) = n := by
  subst hrun hback
  have hread : readInteger t =
      if !wellFormedRun true (body.takeWhile inRun) then .error (.malformed t)
      else if digitLimit < ((body.takeWhile inRun).filterMap digitValue?).length then
        .error (.tooLong ((body.takeWhile inRun).filterMap digitValue?).length)
      else if !(body.dropWhile inRun).all isIntegerSpace then .error (.malformed t)
      else .ok (s.apply (digitsValue ((body.takeWhile inRun).filterMap digitValue?))) := by
    rw [readInteger, hsign, ← s.apply_eq]
    rfl
  rw [hread]
  split_ifs with hform hlong hspace
  · refine iff_of_false nofun fun h => ?_
    simp [h.1] at hform
  · exact iff_of_false nofun fun h => absurd h.2.1 (not_le.2 hlong)
  · refine iff_of_false nofun fun h => ?_
    simp [List.all_eq_true.2 h.2.2.1] at hspace
  · have hform' : wellFormedRun true (body.takeWhile inRun) = true := by simpa using hform
    have hspace' : ∀ c ∈ body.dropWhile inRun, isIntegerSpace c = true := by simpa using hspace
    rw [Except.ok.injEq]
    exact ⟨fun h => ⟨hform', not_lt.1 hlong, hspace', h⟩, fun h => h.2.2.2⟩

/-- What stands behind the spaces is a sign and the rest. -/
theorem exists_splitSign_eq (t : Text) : ∃ (s : Sign) (body : Text),
    splitSign t = (decide (s = .minus), body) ∧ t = s.text ++ body := by
  unfold splitSign
  split
  · exact ⟨.minus, _, rfl, rfl⟩
  · exact ⟨.plus, _, rfl, rfl⟩
  · exact ⟨.none, _, rfl, rfl⟩

theorem splitSign_text (s : Sign) {c : Char} (hc : (digitValue? c).isSome) (t : Text) :
    splitSign (s.text ++ c :: t) = (decide (s = .minus), c :: t) := by
  have hplus : c ≠ '+' := by
    rintro rfl
    exact absurd hc (by decide)
  have hminus : c ≠ '-' := by
    rintro rfl
    exact absurd hc (by decide)
  cases s <;> simp [Sign.text, splitSign, hplus, hminus]

namespace IntegerLiteral
variable (k : IntegerLiteral)

/-- Behind the spaces stands what the literal has there. -/
theorem dropWhile_text :
    k.text.dropWhile isIntegerSpace = k.sign.text ++ (k.run ++ k.back) := by
  refine Text.dropWhile_append k.front_space ?_
  obtain ⟨c, u, hcu, hc⟩ := k.exists_run_eq_cons
  rw [hcu]
  cases k.sign with
  | none =>
    rintro d ⟨⟩
    exact isIntegerSpace_of_digit hc
  | plus =>
    rintro d ⟨⟩
    rfl
  | minus =>
    rintro d ⟨⟩
    rfl

/-- **A written integer is read as its value.** -/
theorem readInteger_text : readInteger k.text = .ok k.value := by
  have hsign : splitSign (k.text.dropWhile isIntegerSpace) =
      (decide (k.sign = .minus), k.run ++ k.back) := by
    obtain ⟨c, u, hcu, hc⟩ := k.exists_run_eq_cons
    rw [k.dropWhile_text, hcu]
    exact splitSign_text k.sign hc _
  have hback : ∀ c ∈ k.back.head?, inRun c = false := fun c hc =>
    inRun_of_space (k.back_space c (List.mem_of_mem_head? hc))
  have htake : (k.run ++ k.back).takeWhile inRun = k.run :=
    Text.takeWhile_append k.inRun_of_mem_run hback
  have hdrop : (k.run ++ k.back).dropWhile inRun = k.back :=
    Text.dropWhile_append k.inRun_of_mem_run hback
  have hdigits : k.run.filterMap digitValue? = k.groups.flatten.filterMap digitValue? := by
    rw [← filterMap_digitValue?_splitOn, k.splitOn_run]
  rw [readInteger_eq_ok_iff_run hsign htake hdrop, hdigits,
    length_filterMap_digitValue? k.flatten_digit]
  exact ⟨k.wellFormedRun_run, k.length_le, k.back_space, rfl⟩

end IntegerLiteral

/-- **The texts that are read as an integer are the written ones.** -/
theorem readInteger_eq_ok_iff {t : Text} {n : ℤ} :
    readInteger t = .ok n ↔ ∃ k : IntegerLiteral, k.text = t ∧ k.value = n := by
  constructor
  · intro h
    obtain ⟨sign, body, hsign, hbody⟩ := exists_splitSign_eq (t.dropWhile isIntegerSpace)
    obtain ⟨run, hrun⟩ : ∃ run, body.takeWhile inRun = run := ⟨_, rfl⟩
    obtain ⟨hform, hlength, hback, hvalue⟩ := (readInteger_eq_ok_iff_run hsign hrun rfl).1 h
    have hin : ∀ c ∈ run, inRun c = true := fun c hc => by
      rw [← hrun] at hc
      exact List.mem_takeWhile_imp hc
    have hdigits : (run.splitOn '_').flatten.length = (run.filterMap digitValue?).length := by
      rw [← filterMap_digitValue?_splitOn, length_filterMap_digitValue? fun c hc => ?_]
      obtain ⟨g, hg, hc⟩ := List.mem_flatten.1 hc
      exact digit_of_mem_splitOn hin hg hc
    let k : IntegerLiteral :=
      { front := t.takeWhile isIntegerSpace
        sign := sign
        groups := run.splitOn '_'
        back := body.dropWhile inRun
        front_space := fun c hc => List.mem_takeWhile_imp hc
        groups_ne_nil := List.splitOn_ne_nil _ _
        group_ne_nil := by rwa [wellFormedRun_iff, if_pos rfl] at hform
        group_digit := fun g hg c hc => digit_of_mem_splitOn hin hg hc
        length_le := hdigits ▸ hlength
        back_space := hback }
    refine ⟨k, ?_, ?_⟩
    · have hbehind : k.run ++ k.back = body := by
        rw [IntegerLiteral.run, List.intercalate_splitOn, ← hrun, List.takeWhile_append_dropWhile]
      rw [IntegerLiteral.text, hbehind, ← hbody, List.takeWhile_append_dropWhile]
    · rw [IntegerLiteral.value, filterMap_digitValue?_splitOn]
      exact hvalue
  · rintro ⟨k, rfl, rfl⟩
    exact k.readInteger_text

end ShellHighlight
