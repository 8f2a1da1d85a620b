/-
  The segments of an argument that is highlighted as a path.

  * `pieceRanges` are the positions that the pieces of a text lie between, and
    `map_part_pieceRanges` says that the pieces are the parts of the text there;
    behind each stands a separator, or the text ends (`separator_of_mem_pieceRanges`);
  * `segments_eq_ok`: with a style for each segment, the segments are those
    parts in their styles, with the separators between them;
  * `exists_style_of_segments_ok`: there is no such answer as long as one
    segment has no style;
  * `highlightArgument_segments`: both for an argument. Every segment is looked
    up by what the argument is up to its end, as it is written.
-/
import ShellHighlight.Proofs.Path.Argument
import ShellHighlight.Proofs.World.Lookup

namespace ShellHighlight

namespace Text

/-! ## Where the pieces of a text are -/

/-- The part of a text between two positions. -/
def part (t : Text) (r : ℕ × ℕ) : Text :=
  (t.take r.2).drop r.1

/-- The positions that pieces lie between, where the first one begins at `pos`
    and `gap` code points separate each from the next one. -/
def pieceRanges (gap : ℕ) : (pos : ℕ) → List Text → List (ℕ × ℕ)
  | _, [] => []
  | pos, p :: ps => (pos, pos + p.length) :: pieceRanges gap (pos + p.length + gap) ps

theorem part_append (front p rest : Text) :
    part (front ++ (p ++ rest)) (front.length, front.length + p.length) = p := by
  rw [part, ← List.append_assoc, ← List.length_append, List.take_left, List.drop_left]

theorem take_append (front p rest : Text) :
    (front ++ (p ++ rest)).take (front.length + p.length) = front ++ p := by
  rw [← List.append_assoc, ← List.length_append, List.take_left]

/-- What follows the first of several pieces. -/
theorem append_intercalate_cons {sep p : Text} {ps : List Text} (front : Text) (hps : ps ≠ []) :
    front ++ List.intercalate sep (p :: ps) = front ++ p ++ sep ++ List.intercalate sep ps := by
  obtain ⟨q, qs, rfl⟩ := List.exists_cons_of_ne_nil hps
  rw [List.intercalate_cons_cons]
  simp only [List.append_assoc]

/-- A piece stands where it begins, whatever follows it. -/
theorem exists_append_intercalate_cons (sep p : Text) (ps : List Text) :
    ∃ rest, List.intercalate sep (p :: ps) = p ++ rest := by
  cases ps with
  | nil => exact ⟨[], by simp⟩
  | cons q qs => exact ⟨_, by rw [List.intercalate_cons_cons, List.append_assoc]⟩

theorem pieceRanges_next (sep front p : Text) (ps : List Text) :
    pieceRanges sep.length (front.length + p.length + sep.length) ps =
      pieceRanges sep.length (front ++ p ++ sep).length ps := by
  rw [List.length_append, List.length_append]

/-- **The pieces are the parts of the text at their positions.** -/
theorem map_part_pieceRanges {sep : Text} {ps : List Text} (front : Text) :
    (pieceRanges sep.length front.length ps).map (part (front ++ List.intercalate sep ps)) = ps := by
  induction ps generalizing front with
  | nil => rfl
  | cons p ps ih =>
    obtain ⟨rest, hrest⟩ := exists_append_intercalate_cons sep p ps
    rw [pieceRanges, List.map_cons]
    congr 1
    · rw [hrest, part_append]
    · by_cases hps : ps = []
      · subst hps
        rfl
      · rw [append_intercalate_cons front hps, pieceRanges_next, ih]

/-- **Each piece ends where the text ends, or a separator follows it.** -/
theorem separator_of_mem_pieceRanges {sep : Text} {ps : List Text} {front : Text} {r : ℕ × ℕ}
    (hr : r ∈ pieceRanges sep.length front.length ps) :
    let t := front ++ List.intercalate sep ps
    r.2 ≤ t.length ∧ (r.2 = t.length ∨ sep <+: t.drop r.2) := by
  intro t
  induction ps generalizing front with
  | nil => simp [pieceRanges] at hr
  | cons p ps ih =>
    by_cases hps : ps = []
    · subst hps
      simp only [pieceRanges, List.mem_singleton] at hr
      subst hr
      simp [t]
    have ht : t = front ++ p ++ sep ++ List.intercalate sep ps := append_intercalate_cons front hps
    rw [pieceRanges, pieceRanges_next] at hr
    rcases List.mem_cons.1 hr with rfl | hr
    · have hdrop : t.drop (front.length + p.length) = sep ++ List.intercalate sep ps := by
        rw [ht, List.append_assoc _ sep, ← List.length_append, List.drop_left]
      refine ⟨?_, .inr ⟨List.intercalate sep ps, hdrop.symm⟩⟩
      rw [ht]
      simp only [List.length_append]
      omega
    · rw [ht]
      exact ih hr

end Text

/-! ## The segments at their positions -/

section
variable {styleOf : Text → Text → Except LookupError Text} {sep : Text}

theorem segments_cons_of_ok {front p style : Text} {ps : List Text} {rest : Styled}
    (hstyle : p ≠ [] → styleOf (front ++ p) p = .ok style)
    (hrest : segments styleOf sep (front ++ p ++ sep) ps = .ok rest) :
    segments styleOf sep front (p :: ps) =
      .ok (Styled.run style p ++ (if ps.isEmpty then [] else Styled.run [] sep) ++ rest) := by
  rw [segments]
  by_cases hp : p = []
  · subst hp
    simp only [hrest, List.isEmpty_nil, if_true]
    rfl
  · simp only [hstyle hp, hrest, List.isEmpty_iff, hp, if_false]
    rfl

/-- What the first of several ranges is about, and all others. -/
theorem forall_mem_pieceRanges (P : Text → Text → ℕ × ℕ → Prop) {front p arg : Text}
    {ps : List Text} (harg : arg = front ++ List.intercalate sep (p :: ps)) :
    (∀ r ∈ Text.pieceRanges sep.length front.length (p :: ps), r.1 < r.2 →
        P (arg.take r.2) (Text.part arg r) r) ↔
      (p ≠ [] → P (front ++ p) p (front.length, front.length + p.length)) ∧
        ∀ r ∈ Text.pieceRanges sep.length (front ++ p ++ sep).length ps, r.1 < r.2 →
          P (arg.take r.2) (Text.part arg r) r := by
  obtain ⟨rest, hrest⟩ := Text.exists_append_intercalate_cons sep p ps
  rw [Text.pieceRanges, List.forall_mem_cons, Text.pieceRanges_next]
  simp only [harg, hrest, Text.part_append, Text.take_append, Nat.lt_add_right_iff_pos,
    List.length_pos_iff]

/-- **With a style for each segment** the answer is the segments in their
    styles. The path of a segment is the text up to its end. -/
theorem segments_eq_ok {ps : List Text} {front arg : Text}
    (harg : arg = front ++ List.intercalate sep ps) {style : ℕ × ℕ → Text}
    (hstyle : ∀ r ∈ Text.pieceRanges sep.length front.length ps, r.1 < r.2 →
      styleOf (arg.take r.2) (Text.part arg r) = .ok (style r)) :
    segments styleOf sep front ps = .ok (List.intercalate (Styled.unstyled sep)
      ((Text.pieceRanges sep.length front.length ps).map fun r =>
        Styled.run (style r) (Text.part arg r))) := by
  induction ps generalizing front with
  | nil => rfl
  | cons p ps ih =>
    obtain ⟨rest, hrest⟩ := Text.exists_append_intercalate_cons sep p ps
    obtain ⟨hp, hps⟩ := (forall_mem_pieceRanges
      (fun path name r => styleOf path name = .ok (style r)) harg).1 hstyle
    have hhere : Text.part arg (front.length, front.length + p.length) = p := by
      rw [harg, hrest, Text.part_append]
    rw [Text.pieceRanges, List.map_cons, hhere, Text.pieceRanges_next]
    cases ps with
    | nil =>
      have hlast : segments styleOf sep front [p] = _ := segments_cons_of_ok hp rfl
      simpa [Text.pieceRanges] using hlast
    | cons q qs =>
      have hnext := ih (harg.trans (Text.append_intercalate_cons front (List.cons_ne_nil q qs))) hps
      rw [segments_cons_of_ok hp hnext, Text.pieceRanges, List.map_cons,
        List.intercalate_cons_cons]
      rfl

/-- **An answer has a style for each segment.** -/
theorem exists_style_of_segments_ok {ps : List Text} {front arg : Text} {s : Styled}
    (harg : arg = front ++ List.intercalate sep ps) (h : segments styleOf sep front ps = .ok s) :
    ∀ r ∈ Text.pieceRanges sep.length front.length ps, r.1 < r.2 →
      ∃ style, styleOf (arg.take r.2) (Text.part arg r) = .ok style := by
  induction ps generalizing front s with
  | nil => simp [Text.pieceRanges]
  | cons p ps ih =>
    obtain ⟨style, rest, hp, hrest, -⟩ := segments_cons_ok h
    refine (forall_mem_pieceRanges (fun path name _ => ∃ style, styleOf path name = .ok style)
      harg).2 ⟨fun hne => ⟨style, hp hne⟩, ?_⟩
    by_cases hps : ps = []
    · subst hps
      simp [Text.pieceRanges]
    · exact ih (harg.trans (Text.append_intercalate_cons front hps)) hrest

end

/-! ## Arguments -/

/-- A directory has the style of directories. -/
theorem Classifier.styleOf_of_directory {k : Classifier} {w : World} {path target : Text}
    (hpath : path ≠ []) (htarget : k.target w path = .ok target)
    (hentry : w.inspect target = .ok .directory) (name : Option Text) :
    k.styleOf w path name = .ok (k.styles.style FileRole.directory.key) := by
  have he : k.entry? w path = .ok (some .directory) := by
    unfold entry?
    simp only [htarget, bind, Except.bind, hentry]
  rw [styleOf, classify, if_neg (by simpa using hpath), htarget, he]
  rfl

/-- With a separator there is always an answer to what the drive is. -/
theorem exists_driveOf {e : Editor} (hsep : e.separator ≠ []) (arg : Text) :
    ∃ d, driveOf e arg = .ok d := by
  obtain ⟨c, sep, hs⟩ := List.exists_cons_of_ne_nil hsep
  unfold driveOf drivePrefix
  rw [hs]
  split_ifs
  · split
    · split_ifs
      · exact ⟨_, rfl⟩
      · split
        · exact ⟨_, rfl⟩
        · rename_i hnil
          cases hnil
        · exact ⟨_, rfl⟩
    · exact ⟨_, rfl⟩
  · exact ⟨_, rfl⟩

section
variable {k : Classifier} {w : World} {e : Editor} {arg d : Text}

/-- An argument is its drive and the segments behind it. -/
theorem eq_append_pieces (hsep : e.separator ≠ []) (hd : driveOf e arg = .ok d) :
    arg = d ++ List.intercalate e.separator (Text.pieces e.separator (arg.drop d.length)) := by
  rw [Text.intercalate_pieces hsep, List.prefix_iff_eq_append.1 (driveOf_isPrefix hd)]

/-- The segments are the parts of the argument at their positions. -/
theorem map_part_segments (hsep : e.separator ≠ []) (hd : driveOf e arg = .ok d) :
    (Text.pieceRanges e.separator.length d.length
        (Text.pieces e.separator (arg.drop d.length))).map (Text.part arg) =
      Text.pieces e.separator (arg.drop d.length) := by
  have h : (Text.pieceRanges e.separator.length d.length _).map
      (Text.part (d ++ List.intercalate e.separator
        (Text.pieces e.separator (arg.drop d.length)))) = _ := Text.map_part_pieceRanges d
  rwa [← eq_append_pieces hsep hd] at h

/-- A path that is highlighted has a style for each segment. -/
theorem exists_style_of_highlightPath_ok (hd : driveOf e arg = .ok d) {s : Styled}
    (hs : highlightPath k w e arg = .ok s) :
    ∀ r ∈ Text.pieceRanges e.separator.length d.length
        (Text.pieces e.separator (arg.drop d.length)), r.1 < r.2 →
      ∃ style, k.styleOf w (arg.take r.2) (some (Text.part arg r)) = .ok style := by
  obtain ⟨d', painted, hd', hsep, hpainted, -⟩ := highlightPath_ok hs
  rw [hd] at hd'
  cases hd'
  exact exists_style_of_segments_ok (eq_append_pieces hsep hd) hpainted

end

section
variable (k : Classifier) (args : Option Painter) (w : World) (e : Editor) {arg : Text}

/-- A path with a drive and segments that have an answer. -/
theorem highlightPath_of_segments {d : Text} {painted : Styled} (hd : driveOf e arg = .ok d)
    (hsep : e.separator ≠ [])
    (h : segments (fun path name => k.styleOf w path (some name)) e.separator d
      (Text.pieces e.separator (arg.drop d.length)) = .ok painted) :
    highlightPath k w e arg = .ok (Styled.unstyled d ++ painted) := by
  rw [highlightPath_eq, hd]
  change (if e.separator = [] then _ else _) = _
  rw [if_neg hsep, h]
  rfl

theorem highlightArgument_of_ok {s : Styled} (harg : isOption arg = false)
    (h : highlightPath k w e arg = .ok s) : highlightArgument k args w e arg = s := by
  rw [highlightArgument, harg, h]
  rfl

/-- What cannot be highlighted as a path is left as it is. -/
theorem highlightArgument_of_not_ok (harg : isOption arg = false)
    (h : ∀ s, highlightPath k w e arg ≠ .ok s) :
    highlightArgument k args w e arg = Styled.unstyled arg := by
  rw [highlightArgument, harg]
  rcases hp : highlightPath k w e arg with err | s
  · rfl
  · exact absurd hp (h s)

/-- **An argument is highlighted segment by segment, or not at all.** Let it be
    no option. Without a separator it has no style. Otherwise its segments are
    the pieces behind the drive, each looked up by the text of the argument up
    to its end; repeated separators and the drive are part of that text. If one
    lookup fails, the argument has no style. If all give a style, the answer is
    the drive without a style and the segments in theirs, with a separator
    without a style between neighbours; what is empty gives no fragment. -/
theorem highlightArgument_segments (harg : isOption arg = false) :
    (e.separator = [] → highlightArgument k args w e arg = Styled.unstyled arg) ∧
      (e.separator ≠ [] → ∃ d, driveOf e arg = .ok d ∧
        let pieces := Text.pieces e.separator (arg.drop d.length)
        let ranges := Text.pieceRanges e.separator.length d.length pieces
        let lookup := fun r : ℕ × ℕ => k.styleOf w (arg.take r.2) (some (Text.part arg r))
        ranges.map (Text.part arg) = pieces ∧
          ((∃ r ∈ ranges, r.1 < r.2 ∧ ∃ err, lookup r = .error err) →
            highlightArgument k args w e arg = Styled.unstyled arg) ∧
          (∀ style : ℕ × ℕ → Text, (∀ r ∈ ranges, r.1 < r.2 → lookup r = .ok (style r)) →
            highlightArgument k args w e arg = Styled.unstyled d ++
              List.intercalate (Styled.unstyled e.separator)
                (ranges.map fun r => Styled.run (style r) (Text.part arg r))) ∧
          (highlightArgument k args w e arg = Styled.unstyled arg ∨
            ∀ r ∈ ranges, r.1 < r.2 → ∃ style, lookup r = .ok style)) := by
  refine ⟨fun hsep => ?_, fun hsep => ?_⟩
  · refine highlightArgument_of_not_ok k args w e harg fun s hs => ?_
    obtain ⟨-, -, -, hne, -⟩ := highlightPath_ok hs
    exact hne hsep
  obtain ⟨d, hd⟩ := exists_driveOf hsep arg
  refine ⟨d, hd, ?_⟩
  intro pieces ranges lookup
  have hpieces : arg = d ++ List.intercalate e.separator pieces := eq_append_pieces hsep hd
  have hparts : ranges.map (Text.part arg) = pieces := map_part_segments hsep hd
  have hpath : ∀ s, highlightPath k w e arg = .ok s →
      ∀ r ∈ ranges, r.1 < r.2 → ∃ style, lookup r = .ok style :=
    fun _ => exists_style_of_highlightPath_ok hd
  refine ⟨hparts, ?_, ?_, ?_⟩
  · rintro ⟨r, hr, hlt, err, herr⟩
    refine highlightArgument_of_not_ok k args w e harg fun s hs => ?_
    obtain ⟨style, hstyle⟩ := hpath s hs r hr hlt
    rw [herr] at hstyle
    cases hstyle
  · intro style hstyle
    have hpainted := highlightPath_of_segments k w e hd hsep (segments_eq_ok hpieces hstyle)
    exact highlightArgument_of_ok k args w e harg hpainted
  · rcases hp : highlightPath k w e arg with err | s
    · refine .inl (highlightArgument_of_not_ok k args w e harg fun s hs => ?_)
      rw [hp] at hs
      cases hs
    · exact .inr (hpath s hp)

end

/-- A path with a drive and a repeated separator, and one whose last segment
    cannot be looked up. -/
theorem highlightArgument_segments_drive :
    let k : Classifier := ⟨⟨[("di".toList, [.effect .bold])]⟩, true, none⟩
    let w : World := { (default : World) with
      tree := Tree.empty.insert ["C:".toList, "a".toList, "b".toList] .directory }
    let e : Editor := { paths := ⟨['/'], true⟩ }
    let arg := "C:/a//b".toList
    let arg' := "C:/a/\x00".toList
    isOption arg = false ∧ isOption arg' = false ∧ e.separator ≠ [] ∧
      highlightArgument k none w e arg =
        [⟨[], "C:/".toList⟩, ⟨"bold".toList, "a".toList⟩, ⟨[], "/".toList⟩, ⟨[], "/".toList⟩,
          ⟨"bold".toList, "b".toList⟩] ∧
      highlightArgument k none w e arg' = Styled.unstyled arg' := by
  intro k w e arg arg'
  have hoption : isOption arg = false := rfl
  have hoption' : isOption arg' = false := rfl
  have hsep : e.separator ≠ [] := by decide
  obtain ⟨d, hd, -, -, hok, -⟩ := (highlightArgument_segments k none w e hoption).2 hsep
  obtain ⟨d', hd', -, herror, -⟩ := (highlightArgument_segments k none w e hoption').2 hsep
  obtain rfl : "C:/".toList = d := Except.ok.inj hd
  obtain rfl : "C:/".toList = d' := Except.ok.inj hd'
  have hentry : w.inspect "C:/a".toList = .ok .directory := by
    change Except.mapError _ (do (← Walk.run _ ["C:".toList, "a".toList]).arrive) = _
    rw [Walk.run_cons_of_directory rfl rfl, Walk.run_cons_of_directory rfl rfl, Walk.run]
    rfl
  have hentry' : w.inspect "C:/a//b".toList = .ok .directory := by
    change Except.mapError _ (do (← Walk.run _ ["C:".toList, "a".toList, "b".toList]).arrive) = _
    rw [Walk.run_cons_of_directory rfl rfl, Walk.run_cons_of_directory rfl rfl,
      Walk.run_cons_of_directory rfl rfl, Walk.run]
    rfl
  have ha : k.styleOf w "C:/a".toList (some "a".toList) = .ok "bold".toList :=
    Classifier.styleOf_of_directory (List.cons_ne_nil _ _) rfl hentry _
  have hb : k.styleOf w "C:/a//b".toList (some "b".toList) = .ok "bold".toList :=
    Classifier.styleOf_of_directory (List.cons_ne_nil _ _) rfl hentry' _
  refine ⟨hoption, hoption', hsep, hok (fun _ => "bold".toList) ?_, herror ?_⟩
  · intro r hr hlt
    have hmem : r ∈ [(3, 4), (5, 5), (6, 7)] := hr
    simp only [List.mem_cons, List.not_mem_nil, or_false] at hmem
    rcases hmem with rfl | rfl | rfl
    · exact ha
    · exact absurd hlt (by decide)
    · exact hb
  · exact ⟨(5, 6), by decide, by decide, .nullByte, rfl⟩

end ShellHighlight
