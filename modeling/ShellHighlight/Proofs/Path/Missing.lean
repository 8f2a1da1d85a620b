/-
  Segments of a path below one that is missing.

  * `Classifier.target_continues`: a path that goes on behind another one does so in
    what is looked up, also where it begins with a home directory;
  * `Classifier.classify_behind_missing`: behind a path where nothing is there is
    nothing, so that no role of a file is given;
  * `exists_behind_segment`: the path of a segment goes on behind the paths of those
    in front of it;
  * `highlightArgument_behind_missing`: that for the segments of an argument.
-/
import ShellHighlight.Proofs.Path.Classify
import ShellHighlight.Proofs.Path.Segments

namespace ShellHighlight

/-! ## Below what is missing -/

namespace Classifier

variable {k : Classifier} {w : World} {path rest target : Text}

/-- A path that goes on behind another one does so in what is looked up. -/
theorem target_continues (hpath : path ≠ []) (h : k.target w path = .ok target) (rest : Text) :
    target ≠ [] ∧ ∃ longer, k.target w (path ++ '/' :: rest) = .ok longer ∧
      Continues target rest longer := by
  obtain ⟨home, hhome, rfl⟩ := target_eq_ok_iff.1 h
  obtain ⟨hne, longer, hlonger, hcontinues⟩ := World.expandHome_continues hpath hhome rest
  rcases hdir : k.directory with _ | dir
  · exact ⟨hne, longer, target_eq_ok_iff.2 ⟨longer, hlonger, by rw [hdir]; rfl⟩, hcontinues⟩
  · exact ⟨joinPath_ne_nil hne dir, joinPath dir longer,
      target_eq_ok_iff.2 ⟨longer, hlonger, by rw [hdir]; rfl⟩, hcontinues.joinPath hne dir⟩

/-- **Behind a path where nothing is there is no role of a file.** -/
theorem classify_behind_missing {reason : Errno} (hpath : path ≠ [])
    (htarget : k.target w path = .ok target)
    (h : w.inspect target = .error (.refused reason)) (hmissing : reason.isMissing)
    (hrest : components rest ≠ []) {name : Option Text} {role : FileRole} {style : Text}
    (hclassify : k.classify w (path ++ '/' :: rest) name = .ok (role, style)) :
    role = .extension ∨ role = .unstyled := by
  obtain ⟨hne, longer, hlonger, hcontinues⟩ := target_continues hpath htarget rest
  have hbehind : path ++ '/' :: rest ≠ [] := by simp
  obtain ⟨_, found, htarget', hfound⟩ := exists_finds_of_classify_ok hbehind hclassify
  cases hlonger.symm.trans htarget'
  obtain ⟨err, herr⟩ := World.inspect_below h hmissing hne hcontinues hrest
  obtain rfl := hfound.eq_none herr
  obtain ⟨role', hrole, hclassify'⟩ := exists_classify_of_finds hbehind hlonger hfound name
  cases hclassify.symm.trans hclassify'
  exact hrole.of_none

end Classifier

/-! ## The segments of an argument -/

namespace Text

variable {c : Char} {d : Text} {ps : List Text} {r r' : ℕ × ℕ}

/-- What stands in front of the end of a piece, behind an earlier one. -/
theorem exists_take_eq_append {t : Text} (ht : t = d ++ List.intercalate [c] ps)
    (hr : r ∈ pieceRanges [c].length d.length ps)
    (hr' : r' ∈ pieceRanges [c].length d.length ps)
    (hlater : r.2 < r'.1) (hne : r'.1 < r'.2) :
    ∃ rest, t.take r'.2 = t.take r.2 ++ c :: rest ∧ part t r' <:+ rest := by
  obtain ⟨-, hend⟩ := separator_of_mem_pieceRanges hr
  obtain ⟨hle, -⟩ := separator_of_mem_pieceRanges hr'
  rw [← ht] at hend hle
  obtain ⟨behind, hbehind⟩ := hend.resolve_left (by omega)
  obtain ⟨n, hn⟩ := Nat.exists_eq_add_of_lt (hlater.trans hne)
  obtain ⟨m, hm⟩ := Nat.exists_eq_add_of_lt hlater
  have htake : t.take r'.2 = t.take r.2 ++ c :: behind.take n := by
    rw [hn, Nat.add_assoc, List.take_add, ← hbehind]
    rfl
  refine ⟨behind.take n, htake, ?_⟩
  have hlen : (t.take r.2 ++ [c]).length = r.2 + 1 := by
    rw [List.length_append, List.length_take, List.length_singleton]
    omega
  have hpart : part t r' = (behind.take n).drop m := by
    rw [part, htake, List.append_cons, hm, Nat.add_right_comm, ← List.drop_drop, ← hlen,
      List.drop_left]
  rw [hpart]
  exact List.drop_suffix m _

end Text

/-- A piece that is not empty has names in it, as has each text that it ends. -/
theorem components_ne_nil_of_suffix {arg d rest : Text} {ranges : List (ℕ × ℕ)}
    (hparts : ranges.map (Text.part arg) = Text.pieces ['/'] (arg.drop d.length)) {r : ℕ × ℕ}
    (hr : r ∈ ranges) (hpart : Text.part arg r ≠ []) (hsuffix : Text.part arg r <:+ rest) :
    components rest ≠ [] := by
  obtain ⟨c, t, hc⟩ := List.exists_cons_of_ne_nil hpart
  have hmem : c ∈ Text.part arg r := hc ▸ List.mem_cons_self
  have hpiece : Text.part arg r ∈ (arg.drop d.length).splitOn '/' := by
    rw [← Text.pieces_singleton, ← hparts]
    exact List.mem_map_of_mem hr
  refine components_ne_nil (hsuffix.subset hmem) ?_
  rintro rfl
  exact Text.notMem_of_mem_splitOn hpiece hmem

/-- The path of a later segment goes on behind that of an earlier one, with more
    names. -/
theorem exists_behind_segment {e : Editor} {arg d : Text} (hsep : e.separator = ['/'])
    (hd : driveOf e arg = .ok d) {r r' : ℕ × ℕ}
    (hr : r ∈ Text.pieceRanges e.separator.length d.length
      (Text.pieces e.separator (arg.drop d.length)))
    (hr' : r' ∈ Text.pieceRanges e.separator.length d.length
      (Text.pieces e.separator (arg.drop d.length)))
    (hne : r.1 < r.2) (hlater : r.2 < r'.1) (hne' : r'.1 < r'.2) :
    arg.take r.2 ≠ [] ∧
      ∃ rest, arg.take r'.2 = arg.take r.2 ++ '/' :: rest ∧ components rest ≠ [] := by
  have hpieces := eq_append_pieces (by simp [hsep]) hd
  have hparts := map_part_segments (by simp [hsep]) hd
  obtain ⟨hend, -⟩ := Text.separator_of_mem_pieceRanges hr'
  rw [← hpieces] at hend
  rw [hsep] at hpieces hparts hr hr'
  have hpath : arg.take r.2 ≠ [] := by
    rw [← List.length_pos_iff, List.length_take]
    omega
  have hpart : Text.part arg r' ≠ [] := by
    rw [Text.part, ← List.length_pos_iff, List.length_drop, List.length_take]
    omega
  obtain ⟨rest, hrest, hsuffix⟩ := Text.exists_take_eq_append hpieces hr hr' hlater hne'
  exact ⟨hpath, rest, hrest, components_ne_nil_of_suffix hparts hr' hpart hsuffix⟩

/-- **Below a missing segment there is no role of a file.** Let the lookup for one
    segment of an argument say that nothing is there. Then each later segment has
    the style of its extension, or none; or its lookup fails, and the argument is
    left as it is. -/
theorem highlightArgument_behind_missing (k : Classifier) (args : Option Painter) (w : World)
    (e : Editor) {arg d : Text} (harg : isOption arg = false) (hsep : e.separator = ['/'])
    (hd : driveOf e arg = .ok d) :
    let ranges := Text.pieceRanges e.separator.length d.length
      (Text.pieces e.separator (arg.drop d.length))
    ∀ r ∈ ranges, r.1 < r.2 →
      ∀ target reason, k.target w (arg.take r.2) = .ok target →
        w.inspect target = .error (.refused reason) → reason = .noEntry ∨ reason = .notDirectory →
          ∀ r' ∈ ranges, r.2 < r'.1 → r'.1 < r'.2 →
            (∃ role style,
              k.classify w (arg.take r'.2) (some (Text.part arg r')) = .ok (role, style) ∧
                (role = .extension ∨ role = .unstyled)) ∨
            (∃ err, k.classify w (arg.take r'.2) (some (Text.part arg r')) = .error err) ∧
              highlightArgument k args w e arg = Styled.unstyled arg := by
  intro ranges r hr hne target reason htarget hlookup hreason r' hr' hlater hne'
  have hmissing : reason.isMissing := by
    rcases hreason with rfl | rfl <;> rfl
  rcases hanswer : k.classify w (arg.take r'.2) (some (Text.part arg r')) with err | ⟨role, style⟩
  · refine .inr ⟨⟨err, rfl⟩, highlightArgument_of_not_ok k args w e harg fun s hs => ?_⟩
    obtain ⟨style, hstyle⟩ := exists_style_of_highlightPath_ok hd hs r' hr' hne'
    rw [Classifier.styleOf, hanswer] at hstyle
    cases hstyle
  · refine .inl ⟨role, style, rfl, ?_⟩
    obtain ⟨hpath, rest, hrest, hnames⟩ :=
      exists_behind_segment hsep hd hr hr' hne hlater hne'
    rw [hrest] at hanswer
    exact Classifier.classify_behind_missing hpath htarget hlookup hmissing hnames hanswer

/-- A way up again from a directory that is missing, to one that is there. -/
theorem highlightArgument_behind_missing_up :
    let k : Classifier := ⟨⟨[("di".toList, [.effect .bold])]⟩, true, none⟩
    let w : World := { (default : World) with
      tree := Tree.empty.insert ["h".toList, "b".toList] .directory
      environment := [("HOME".toList, "/h".toList)] }
    let e : Editor := { paths := ⟨['/'], false⟩ }
    let arg := "~/a/../b".toList
    let lookup := k.classify w arg (some "b".toList)
    isOption arg = false ∧ e.separator = ['/'] ∧ driveOf e arg = .ok [] ∧
      k.target w "~/a".toList = .ok "/h/a".toList ∧
      w.inspect "/h/a".toList = .error (.refused .noEntry) ∧
      w.inspect "/h/b".toList = .ok .directory ∧
      ((∃ role style, lookup = .ok (role, style) ∧ (role = .extension ∨ role = .unstyled)) ∨
        (∃ err, lookup = .error err) ∧
          highlightArgument k none w e arg = Styled.unstyled arg) := by
  intro k w e arg lookup
  have hmissing : w.inspect "/h/a".toList = .error (.refused .noEntry) := by
    change Except.mapError _ (do (← Walk.run _ ["h".toList, "a".toList]).arrive) = _
    rw [Walk.run_cons_of_directory rfl rfl, Walk.run_cons_of_error rfl]
    rfl
  have hfound : w.inspect "/h/b".toList = .ok .directory := by
    change Except.mapError _ (do (← Walk.run _ ["h".toList, "b".toList]).arrive) = _
    rw [Walk.run_cons_of_directory rfl rfl, Walk.run_cons_of_directory rfl rfl, Walk.run]
    rfl
  have hoption : isOption arg = false := rfl
  refine ⟨hoption, rfl, rfl, rfl, hmissing, hfound, ?_⟩
  exact highlightArgument_behind_missing k none w e hoption rfl rfl (2, 3) (by decide) (by decide)
    "/h/a".toList .noEntry rfl hmissing (.inl rfl) (7, 8) (by decide) (by decide) (by decide)

end ShellHighlight
