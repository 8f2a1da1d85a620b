/-
  What the state of the editor shows in a line.

  * `Editor.InPattern`, `Editor.BehindError`, `Editor.Selected` and
    `Editor.Found` say which positions are marked, and `Editor.stylesAt` with
    what;
  * `Mark.map_style_onRange`: marks of one kind that do not overlap put their
    style on a position at most once;
  * `overlay_covers` and `overlay_shown`: the line keeps its text and all of it
    is shown;
  * `overlay_styles`: every code point has the styles of the marks on it, and
    neighbouring fragments differ in style.
-/
import ShellHighlight.Overlay
import ShellHighlight.Proofs.Styled
import ShellHighlight.Proofs.Text.Occurrences

namespace ShellHighlight

/-! ## Keeping the text -/

theorem Editor.style_of_mem_marks {e : Editor} {buffer : Text} {m : Mark}
    (h : m ∈ e.marks buffer) :
    m.style = errorStyle ∨ m.style = selectionStyle ∨ m.style = searchStyle := by
  simp only [marks, List.mem_append] at h
  rcases h with ((h | h) | h) | h
  · unfold patternMarks at h
    split at h
    · simp at h
    · obtain ⟨r, -, rfl⟩ := List.mem_map.1 h
      exact Or.inl rfl
  · unfold errorMarks at h
    split_ifs at h
    · rw [List.mem_singleton.1 h]
      exact Or.inl rfl
    · simp at h
  · unfold selectionMarks at h
    split at h
    · simp at h
    · simp at h
    · rw [List.mem_singleton.1 h]
      exact Or.inr (Or.inl rfl)
  · unfold searchMarks at h
    split at h
    · simp at h
    · obtain ⟨i, -, rfl⟩ := List.mem_map.1 h
      exact Or.inr (Or.inr rfl)

theorem notMem_styleAt {e : Editor} {buffer : Text} (i : ℕ) :
    'Z' ∉ styleAt (e.marks buffer) i := by
  intro h
  rcases mem_of_mem_intercalate h with h | ⟨l, hl, h⟩
  · exact absurd h (by decide)
  · obtain ⟨m, hm, rfl⟩ := List.mem_map.1 hl
    rcases Editor.style_of_mem_marks (List.mem_filter.1 hm).1 with hs | hs | hs <;>
      · rw [hs] at h
        exact absurd h (by decide)

theorem overlay_covers (e : Editor) (buffer : Text) : (overlay e buffer).Covers buffer := by
  have h := Styled.covers_ofCharacters
    (buffer.zipIdx.map fun r => (r.1, styleAt (e.marks buffer) r.2))
  rw [List.map_map, show (fun c : Char × Text => c.1) ∘ (fun r : Char × ℕ =>
    (r.1, styleAt (e.marks buffer) r.2)) = Prod.fst from rfl, List.zipIdx_map_fst] at h
  exact h

theorem overlay_shown (e : Editor) (buffer : Text) : (overlay e buffer).Shown := by
  intro f hf
  obtain ⟨-, c, hc, hs⟩ := Styled.mem_ofCharacters hf
  obtain ⟨r, -, rfl⟩ := List.mem_map.1 hc
  rw [hs]
  exact Styled.isZeroWidth_of_notMem (notMem_styleAt r.2)

/-! ## The matches of a pattern -/

namespace ErrorPattern

/-- Runs begin where the open run does, or behind the position of the scan. -/
theorem le_of_mem_runsFrom {chars : Text} {r : ℕ × ℕ} : ∀ {t : Text} {pos : ℕ} {start : Option ℕ},
    start.getD pos ≤ pos → r ∈ runsFrom chars pos start t → start.getD pos ≤ r.1
  | [], pos, none, _, hr => by simp [runsFrom] at hr
  | [], pos, some s, _, hr => by
    obtain rfl : r = (s, pos) := by simpa [runsFrom] using hr
    exact le_rfl
  | c :: t, pos, start, hstart, hr => by
    rw [runsFrom] at hr
    split_ifs at hr
    · have hopen : (some (start.getD pos)).getD (pos + 1) ≤ r.1 :=
        le_of_mem_runsFrom (Nat.le_succ_of_le hstart) hr
      exact hopen
    · rcases List.mem_append.1 hr with hr | hr
      · cases start with
        | none => simp at hr
        | some s =>
          obtain rfl : r = (s, pos) := by simpa using hr
          exact le_rfl
      · have hbehind : (none : Option ℕ).getD (pos + 1) ≤ r.1 := le_of_mem_runsFrom le_rfl hr
        rw [Option.getD_none] at hbehind
        omega

/-- Each run ends in front of the next one. -/
theorem pairwise_runsFrom (chars : Text) : ∀ (t : Text) {pos : ℕ} {start : Option ℕ},
    start.getD pos ≤ pos → (runsFrom chars pos start t).Pairwise fun r r' => r.2 ≤ r'.1
  | [], pos, start, _ => by cases start <;> simp [runsFrom]
  | c :: t, pos, start, hstart => by
    rw [runsFrom]
    split_ifs
    · exact pairwise_runsFrom chars t (Nat.le_succ_of_le hstart)
    · refine List.pairwise_append.2 ⟨by cases start <;> simp, pairwise_runsFrom chars t le_rfl, ?_⟩
      intro r hr r' hr'
      have hbehind : (none : Option ℕ).getD (pos + 1) ≤ r'.1 := le_of_mem_runsFrom le_rfl hr'
      cases start with
      | none => simp at hr
      | some s =>
        obtain rfl : r = (s, pos) := by simpa using hr
        exact Nat.le_of_succ_le hbehind

/-- **The matches of a pattern do not overlap**, if those of a search that is
    not fixed do not. -/
theorem pairwise_ranges (p : ErrorPattern) (t : Text)
    (hcustom : ∀ find, p = custom find → (find t).Pairwise fun r r' => r.2 ≤ r'.1) :
    (p.ranges t).Pairwise fun r r' => r.2 ≤ r'.1 := by
  cases p with
  | literal w => exact List.pairwise_map.2 (Text.pairwise_occurrences w t)
  | runsOf chars => exact pairwise_runsFrom chars t le_rfl
  | custom find => exact hcustom find rfl

end ErrorPattern

/-! ## What is marked -/

namespace Editor

section
variable (e : Editor) (buffer : Text) (i : ℕ)

/-- The position lies in a match of the error pattern. -/
def InPattern : Prop := ∃ p ∈ e.errorPattern, ∃ r ∈ p.ranges buffer, r.1 ≤ i ∧ i < r.2

/-- The position lies behind the beginning of an error. -/
def BehindError : Prop := 0 ≤ e.errorIndex ∧ e.errorIndex ≤ i

/-- The position lies in the range of the selected region. -/
def Selected : Prop := e.region ≠ .none ∧ ∃ r ∈ e.range, r.1 ≤ i ∧ (i : ℤ) < r.2

/-- The position lies in one of the leftmost occurrences of what is searched
    for, if that is not empty. -/
def Found : Prop := ∃ term ∈ e.search, term ≠ [] ∧
  ∃ is, Text.Leftmost term buffer 0 is ∧ ∃ j ∈ is, j ≤ i ∧ i < j + term.length

theorem found_iff : e.Found buffer i ↔ ∃ term ∈ e.search, term ≠ [] ∧
    ∃ j ∈ Text.occurrences term buffer, j ≤ i ∧ i < j + term.length := by
  refine exists_congr fun term => and_congr_right fun _ => and_congr_right fun hne => ?_
  have hleft := Text.leftmost_occurrences hne buffer
  constructor
  · rintro ⟨is, his, hj⟩
    rwa [his.unique hleft] at hj
  · intro hj
    exact ⟨_, hleft, hj⟩

instance : Decidable (e.InPattern buffer i) :=
  inferInstanceAs (Decidable (∃ p ∈ e.errorPattern, _))

instance : Decidable (e.BehindError i) := inferInstanceAs (Decidable (_ ∧ _))

instance : Decidable (e.Selected i) := inferInstanceAs (Decidable (_ ∧ _))

instance : Decidable (e.Found buffer i) := decidable_of_iff _ (e.found_iff buffer i).symm

/-- The styles of a position, in order. -/
def stylesAt : List Text :=
  (if e.InPattern buffer i then ["class:error".toList] else []) ++
    (if e.BehindError i then ["class:error".toList] else []) ++
    (if e.Selected i then ["class:selection".toList] else []) ++
    (if e.Found buffer i then ["class:search".toList] else [])

end

end Editor

/-! ## The styles of a position -/

theorem Mark.covers_iff {m : Mark} {i : ℕ} : m.covers i = true ↔ m.start ≤ i ∧ (i : ℤ) < m.stop := by
  simp [covers]

/-- The mark on a range of positions. -/
def Mark.onRange (style : Text) (r : ℕ × ℕ) : Mark := ⟨r.1, r.2, style⟩

theorem Mark.covers_onRange {style : Text} {r : ℕ × ℕ} {i : ℕ} :
    (onRange style r).covers i = true ↔ r.1 ≤ i ∧ i < r.2 := by
  simp [covers_iff, onRange]

/-- **Marks that do not overlap** put their style on a position once or not at
    all. -/
theorem Mark.map_style_onRange (style : Text) (i : ℕ) : ∀ {rs : List (ℕ × ℕ)},
    (rs.Pairwise fun r r' => r.2 ≤ r'.1) →
      ((rs.map (onRange style)).filter (·.covers i)).map (·.style) =
        if ∃ r ∈ rs, r.1 ≤ i ∧ i < r.2 then [style] else []
  | [], _ => by simp
  | r :: rs, hrs => by
    obtain ⟨hbehind, hrs'⟩ := List.pairwise_cons.1 hrs
    have ih := map_style_onRange style i hrs'
    by_cases hcovers : r.1 ≤ i ∧ i < r.2
    · -- the other ranges begin behind this one
      have hnone : ¬ ∃ r' ∈ rs, r'.1 ≤ i ∧ i < r'.2 := by
        rintro ⟨r', hr', hle, -⟩
        have := hbehind r' hr'
        omega
      rw [if_neg hnone] at ih
      rw [if_pos ⟨r, List.mem_cons_self, hcovers⟩, List.map_cons, List.filter_cons,
        if_pos (covers_onRange.2 hcovers), List.map_cons, ih]
      rfl
    · have hothers : (∃ r' ∈ r :: rs, r'.1 ≤ i ∧ i < r'.2) ↔ ∃ r' ∈ rs, r'.1 ≤ i ∧ i < r'.2 := by
        rw [List.exists_mem_cons_iff, or_iff_right hcovers]
      rw [if_congr hothers rfl rfl, List.map_cons, List.filter_cons,
        if_neg (mt covers_onRange.1 hcovers), ih]

namespace Editor

section
variable {e : Editor} {buffer : Text} {i : ℕ}

theorem map_style_patternMarks
    (hcustom : ∀ find, e.errorPattern = some (.custom find) →
      (find buffer).Pairwise fun r r' => r.2 ≤ r'.1) :
    ((e.patternMarks buffer).filter (·.covers i)).map (·.style) =
      if e.InPattern buffer i then [errorStyle] else [] := by
  unfold patternMarks
  cases hp : e.errorPattern with
  | none => simp [InPattern, hp]
  | some p =>
    have hin : e.InPattern buffer i ↔ ∃ r ∈ p.ranges buffer, r.1 ≤ i ∧ i < r.2 := by
      simp [InPattern, hp]
    have hranges := p.pairwise_ranges buffer fun find hfind => hcustom find (by rw [hp, hfind])
    rw [if_congr hin rfl rfl]
    exact Mark.map_style_onRange errorStyle i hranges

theorem map_style_errorMarks (hi : i < buffer.length) :
    ((e.errorMarks buffer).filter (·.covers i)).map (·.style) =
      if e.BehindError i then [errorStyle] else [] := by
  unfold errorMarks BehindError
  by_cases herror : -1 < e.errorIndex
  · have hpos : 0 ≤ e.errorIndex := by omega
    by_cases hle : e.errorIndex ≤ i <;> simp [herror, hpos, hle, hi, Mark.covers]
  · have hneg : ¬ 0 ≤ e.errorIndex := by omega
    simp [herror, hneg]

theorem map_style_selectionMarks :
    (e.selectionMarks.filter (·.covers i)).map (·.style) =
      if e.Selected i then [selectionStyle] else [] := by
  unfold selectionMarks
  cases hregion : e.region <;> cases hrange : e.range <;>
    simp [Selected, hregion, hrange, List.filter_cons, Mark.covers, apply_ite]

theorem map_style_searchMarks :
    ((e.searchMarks buffer).filter (·.covers i)).map (·.style) =
      if e.Found buffer i then [searchStyle] else [] := by
  unfold searchMarks
  cases hterm : e.searchTerm? with
  | none =>
    have hnot : ¬ e.Found buffer i := by
      rintro ⟨term, hsearch, hne, -⟩
      exact Option.filter_eq_none_iff.1 hterm term hsearch (by simp [hne])
    simp [hnot]
  | some term =>
    obtain ⟨hsearch, hne⟩ := Option.filter_eq_some_iff.1 hterm
    have hfound : e.Found buffer i ↔
        ∃ r ∈ (Text.occurrences term buffer).map fun j => (j, j + term.length),
          r.1 ≤ i ∧ i < r.2 := by
      rw [found_iff]
      simp_all
    have hranges : ((Text.occurrences term buffer).map fun j => (j, j + term.length)).Pairwise
        fun r r' => r.2 ≤ r'.1 := List.pairwise_map.2 (Text.pairwise_occurrences term buffer)
    have hmarks := Mark.map_style_onRange searchStyle i hranges
    rw [if_congr hfound rfl rfl, ← hmarks, List.map_map]
    rfl

/-- The marks of an editor give a position its styles, in order. -/
theorem styleAt_marks
    (hcustom : ∀ find, e.errorPattern = some (.custom find) →
      (find buffer).Pairwise fun r r' => r.2 ≤ r'.1)
    (hi : i < buffer.length) :
    styleAt (e.marks buffer) i = List.intercalate [' '] (e.stylesAt buffer i) := by
  rw [styleAt, marks, List.filter_append, List.filter_append, List.filter_append,
    List.map_append, List.map_append, List.map_append, map_style_patternMarks hcustom,
    map_style_errorMarks hi, map_style_selectionMarks, map_style_searchMarks]
  rfl

end

end Editor

/-! ## The line -/

/-- **What a line with marks looks like**: its text is the line, neighbouring
    fragments differ in style, and each code point has the styles of its
    position, with a space between them. The matches that a search of its own
    finds must not overlap. -/
theorem overlay_styles (e : Editor) (buffer : Text)
    (hcustom : ∀ find, e.errorPattern = some (.custom find) →
      (find buffer).Pairwise fun r r' => r.2 ≤ r'.1) :
    (overlay e buffer).text = buffer ∧
      (overlay e buffer).IsChain (fun f g => f.style ≠ g.style) ∧
      ∀ i c, buffer[i]? = some c → (overlay e buffer).characters[i]? =
        some (c, List.intercalate [' '] (e.stylesAt buffer i)) := by
  refine ⟨(overlay_covers e buffer).text_eq, Styled.isChain_ofCharacters _, ?_⟩
  intro i c hc
  obtain ⟨hi, -⟩ := List.getElem?_eq_some_iff.1 hc
  have hzip : buffer.zipIdx[i]? = some (c, i) := by
    rw [List.getElem?_zipIdx, hc, Option.map_some, Nat.zero_add]
  rw [overlay, Styled.characters_ofCharacters, List.getElem?_map, hzip, Option.map_some,
    Editor.styleAt_marks hcustom hi]

/-- The matches of `d*`, empty ones among them, with a selection that begins in
    front of the line. -/
theorem overlay_styles_empty_matches :
    let find : Text → List (ℕ × ℕ) := fun _ => [(0, 0), (1, 1), (2, 2), (3, 5), (5, 5)]
    let e : Editor := { search := some "cd".toList, errorPattern := some (.custom find),
                        region := .char, range := some (-7, 1) }
    let buffer := "abcdd".toList
    (∀ find', e.errorPattern = some (.custom find') →
      (find' buffer).Pairwise fun r r' => r.2 ≤ r'.1) ∧
      (overlay e buffer).text = buffer ∧
      (overlay e buffer).characters[0]? = some ('a', "class:selection".toList) ∧
      (overlay e buffer).characters[3]? = some ('d', "class:error class:search".toList) := by
  intro find e buffer
  have hcustom : ∀ find', e.errorPattern = some (.custom find') →
      (find' buffer).Pairwise fun r r' => r.2 ≤ r'.1 := by
    rintro find' ⟨⟩
    decide
  obtain ⟨htext, -, hstyles⟩ := overlay_styles e buffer hcustom
  refine ⟨hcustom, htext, ?_, ?_⟩
  · rw [hstyles 0 'a' rfl]
    decide
  · rw [hstyles 3 'd' rfl]
    decide

end ShellHighlight
