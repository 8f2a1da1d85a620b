/-
  Arguments keep their text when they are highlighted.

  * The segments of a path with the separators between them make up the path
    (`segments_covers`), and the drive is the beginning of it
    (`drivePrefix_isPrefix`);
  * so an argument is covered whether it is an option, a path that can be
    looked up, or one that cannot (`highlightArgument_covers`);
  * no style from a table hides what it is given to (`StyleTable.notMem_style`),
    so that an argument is shown (`highlightArgument_shown`).
-/
import ShellHighlight.Path.Argument
import ShellHighlight.Proofs.Painter
import ShellHighlight.Proofs.Color.Spelling

namespace ShellHighlight

/-! ## Styles of files -/

theorem SpellsColor.notMem {t : Text} (h : SpellsColor t) : 'Z' ∉ t := by
  cases h with
  | @named bright t ht =>
    have hnames : ∀ bright, ∀ t ∈ colorNames bright, 'Z' ∉ t := by decide
    exact hnames bright t ht
  | digits _ ht =>
    rw [List.mem_cons, not_or]
    exact ⟨by decide, fun hZ => absurd (ht _ hZ) (by decide)⟩

theorem SpellsWord.notMem {t : Text} (h : SpellsWord t) : 'Z' ∉ t := by
  cases h with
  | effect ht =>
    have hnames : ∀ t ∈ effectNames.map (·.2), 'Z' ∉ t := by decide
    exact hnames _ ht
  | @color background t ht =>
    rw [List.mem_append, not_or]
    exact ⟨by cases background <;> decide, ht.notMem⟩

theorem IsStyle.notMem {s : Text} (h : IsStyle s) : 'Z' ∉ s := by
  obtain ⟨words, rfl, hwords⟩ := h
  intro hZ
  rcases mem_of_mem_intercalate hZ with hZ | ⟨w, hw, hZ⟩
  · exact absurd hZ (by decide)
  · exact (hwords w hw).notMem hZ

/-- **No style of a table has a capital Z.** -/
theorem StyleTable.notMem_style (t : StyleTable) (key : Text) : 'Z' ∉ t.style key :=
  (StyleWord.isStyle_style _).notMem

theorem Classifier.notMem_extensionStyle (k : Classifier) (name : Text) :
    'Z' ∉ k.extensionStyle name := by
  unfold extensionStyle
  split
  · exact k.styles.notMem_style _
  · simp

theorem Classifier.notMem_classify {k : Classifier} {w : World} {path : Text}
    {name : Option Text} {r : FileRole × Text} (h : k.classify w path name = .ok r) :
    'Z' ∉ r.2 := by
  unfold classify at h
  split_ifs at h
  · cases h
    simp
  · obtain ⟨target, -, h⟩ := bind_eq_ok_iff.1 h
    obtain ⟨entry, -, h⟩ := bind_eq_ok_iff.1 h
    dsimp only at h
    split at h
    · cases h
      exact k.notMem_extensionStyle _
    · cases h
      simp
    · cases h
      exact k.styles.notMem_style _

theorem Classifier.notMem_styleOf {k : Classifier} {w : World} {path style : Text}
    {name : Option Text} (h : k.styleOf w path name = .ok style) : 'Z' ∉ style := by
  obtain ⟨r, hr, rfl⟩ := map_eq_ok_iff.1 h
  exact notMem_classify hr

/-! ## Paths -/

theorem drivePrefix_isPrefix {arg sep drive : Text} (h : drivePrefix arg sep = .ok drive) :
    drive <+: arg := by
  unfold drivePrefix at h
  split at h
  · split_ifs at h
    · cases h
      exact List.nil_prefix
    · split at h
      · cases h
        exact List.prefix_rfl
      · cases h
      · cases h
        split_ifs
        · exact ⟨_, rfl⟩
        · exact List.nil_prefix
  · cases h
    exact List.nil_prefix

section
variable {styleOf : Text → Text → Except LookupError Text} {sep : Text}

/-- What the segments of a path begin with, if there are any and all of them
    can be looked up. -/
theorem segments_cons_ok {before piece : Text} {pieces : List Text} {s : Styled}
    (h : segments styleOf sep before (piece :: pieces) = .ok s) :
    ∃ style rest, (piece ≠ [] → styleOf (before ++ piece) piece = .ok style) ∧
      segments styleOf sep (before ++ piece ++ sep) pieces = .ok rest ∧
      s = Styled.run style piece ++ (if pieces.isEmpty then [] else Styled.run [] sep) ++ rest := by
  rw [segments] at h
  by_cases hp : piece = []
  · subst hp
    obtain ⟨here, hhere, h⟩ := bind_eq_ok_iff.1 h
    obtain ⟨rest, hrest, h⟩ := bind_eq_ok_iff.1 h
    cases hhere
    cases h
    exact ⟨[], rest, by simp, hrest, rfl⟩
  · rw [if_neg fun h' => hp (List.isEmpty_iff.1 h')] at h
    obtain ⟨here, hhere, h⟩ := bind_eq_ok_iff.1 h
    obtain ⟨style, hs, rfl⟩ := map_eq_ok_iff.1 hhere
    obtain ⟨rest, hrest, h⟩ := bind_eq_ok_iff.1 h
    cases h
    exact ⟨style, rest, fun _ => hs, hrest, rfl⟩

/-- **The segments with the separators between them make up the path.** -/
theorem segments_covers : ∀ {pieces : List Text} {before : Text} {s : Styled},
    segments styleOf sep before pieces = .ok s → s.Covers (List.intercalate sep pieces)
  | [], _, s, h => by
    cases h
    exact Styled.covers_nil
  | [piece], before, s, h => by
    obtain ⟨style, rest, -, hr, rfl⟩ := segments_cons_ok h
    cases hr
    rw [List.intercalate_singleton, List.isEmpty_nil, if_pos rfl, List.append_nil, List.append_nil]
    exact Styled.covers_run style piece
  | piece :: piece' :: pieces, before, s, h => by
    obtain ⟨style, rest, -, hr, rfl⟩ := segments_cons_ok h
    rw [List.intercalate_cons_cons]
    exact ((Styled.covers_run style piece).append (Styled.covers_run [] sep)).append
      (segments_covers hr)

theorem segments_shown (hstyle : ∀ path name style, styleOf path name = .ok style → 'Z' ∉ style) :
    ∀ {pieces : List Text} {before : Text} {s : Styled},
      segments styleOf sep before pieces = .ok s → s.Shown
  | [], _, s, h => by
    cases h
    exact Styled.shown_nil
  | piece :: pieces, before, s, h => by
    obtain ⟨style, rest, hs, hr, rfl⟩ := segments_cons_ok h
    refine (Styled.Shown.append ?_ ?_).append (segments_shown hstyle hr)
    · intro f hf
      obtain ⟨hp, rfl⟩ := Styled.mem_run.1 hf
      exact Styled.isZeroWidth_of_notMem (hstyle _ _ _ (hs hp))
    · split_ifs
      · exact Styled.shown_nil
      · exact Styled.shown_unstyled sep

end

/-- The drive of an argument, if drives are recognised. -/
def driveOf (e : Editor) (arg : Text) : Except ArgumentError Text :=
  if e.paths.driveLetters then drivePrefix arg e.separator else .ok []

theorem driveOf_isPrefix {e : Editor} {arg drive : Text} (h : driveOf e arg = .ok drive) :
    drive <+: arg := by
  unfold driveOf at h
  split_ifs at h
  · exact drivePrefix_isPrefix h
  · cases h
    exact List.nil_prefix

/-- What a path is highlighted as: nothing without a separator, and else the
    drive and the segments. -/
theorem highlightPath_eq (k : Classifier) (w : World) (e : Editor) (arg : Text) :
    highlightPath k w e arg = driveOf e arg >>= fun drive =>
      if e.separator = [] then .error .noSeparator
      else ((segments (fun path name => k.styleOf w path (some name)) e.separator drive
        (Text.pieces e.separator (arg.drop drive.length))).mapError .lookup).map
          (Styled.unstyled drive ++ ·) := by
  unfold highlightPath driveOf
  by_cases hl : e.paths.driveLetters <;> by_cases hs : e.separator = [] <;>
    simp only [hl, hs, List.isEmpty_nil, List.isEmpty_iff, if_true, if_false] <;> rfl

theorem highlightPath_ok {k : Classifier} {w : World} {e : Editor} {arg : Text} {s : Styled}
    (h : highlightPath k w e arg = .ok s) :
    ∃ drive painted, driveOf e arg = .ok drive ∧ e.separator ≠ [] ∧
      segments (fun path name => k.styleOf w path (some name)) e.separator drive
        (Text.pieces e.separator (arg.drop drive.length)) = .ok painted ∧
      s = Styled.unstyled drive ++ painted := by
  rw [highlightPath_eq] at h
  obtain ⟨drive, hd, h⟩ := bind_eq_ok_iff.1 h
  split_ifs at h with hsep
  obtain ⟨painted, hp, rfl⟩ := map_eq_ok_iff.1 h
  exact ⟨drive, painted, hd, hsep, mapError_eq_ok_iff.1 hp, rfl⟩

/-! ## Arguments -/

section
variable (k : Classifier) (args : Option Painter) (w : World) (e : Editor) (arg : Text)

/-- **An argument keeps its text.** -/
theorem highlightArgument_covers : (highlightArgument k args w e arg).Covers arg := by
  unfold highlightArgument
  split_ifs
  · exact paintWith_covers args arg
  · rcases h : highlightPath k w e arg with err | s
    · exact Styled.covers_unstyled arg
    · obtain ⟨drive, painted, hd, hsep, hp, rfl⟩ := highlightPath_ok h
      have hcovers := (Styled.covers_unstyled drive).append (segments_covers hp)
      rw [Text.intercalate_pieces hsep, List.prefix_iff_eq_append.1 (driveOf_isPrefix hd)] at hcovers
      exact hcovers

theorem highlightArgument_shown
    (hargs : ∀ style, args = some (.fixed style) → ¬ Styled.zeroWidthMark <:+: style) :
    (highlightArgument k args w e arg).Shown := by
  unfold highlightArgument
  split_ifs
  · exact paintWith_shown hargs arg
  · rcases h : highlightPath k w e arg with err | s
    · exact Styled.shown_unstyled arg
    · obtain ⟨drive, painted, -, -, hp, rfl⟩ := highlightPath_ok h
      refine (Styled.shown_unstyled drive).append (segments_shown ?_ hp)
      intro path name style hs
      exact Classifier.notMem_styleOf hs

end

end ShellHighlight
