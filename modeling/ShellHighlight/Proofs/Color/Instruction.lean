/-
  The instructions of a parameter list, and lists that are joined.

  * `Denotes` is what the fields of a list denote;
  * an `Instruction` is a code that stands for itself, or `38` or `48` with the
    colour behind it. A list is cut into instructions in one way
    (`fields_append_inj`), and where it cannot be cut further it `Breaks`;
  * the scan takes one instruction after the other (`scan_flatMap_append`), so that
    a list is accepted if it is made of instructions (`scan_eq_ok_iff`), and
    refused if it breaks behind some of them (`exists_scan_eq_error_iff`);
  * `style?_append`: two lists with a semicolon between them.
-/
import ShellHighlight.Color.Sgr
import ShellHighlight.Proofs.Outcome
import ShellHighlight.Proofs.Text.Integer

namespace ShellHighlight

namespace Rendition

variable {value : Text} {selected : List StyleWord}

/-! ## Fields -/

/-- What a field denotes: the integer that is written in it, or zero if it is
    empty. -/
inductive FieldDenotes : Text → ℤ → Prop
  | empty : FieldDenotes [] 0
  | literal (k : IntegerLiteral) : FieldDenotes k.text k.value

/-- The fields of a parameter list denote the codes `codes`. -/
def Denotes (value : Text) (codes : List ℤ) : Prop :=
  List.Forall₂ FieldDenotes (value.splitOn ';') codes

theorem fieldDenotes_iff {field : Text} {n : ℤ} : FieldDenotes field n ↔
    (if field.isEmpty then .ok 0 else (readInteger field).mapError .badField :
      Except RenditionError ℤ) = .ok n := by
  constructor
  · rintro (_ | k)
    · rfl
    · rw [if_neg fun h => k.text_ne_nil (List.isEmpty_iff.1 h), k.readInteger_text]
      rfl
  · intro h
    split_ifs at h with hempty
    · obtain rfl := List.isEmpty_iff.1 hempty
      cases h
      exact .empty
    · obtain ⟨k, rfl, rfl⟩ := readInteger_eq_ok_iff.1 (mapError_eq_ok_iff.1 h)
      exact .literal k

theorem fields_eq_ok_iff {codes : List ℤ} : fields value = .ok codes ↔ Denotes value codes := by
  rw [fields, mapM_eq_ok_iff, Denotes]
  exact ⟨fun h => h.imp fun _ _ => fieldDenotes_iff.2, fun h => h.imp fun _ _ => fieldDenotes_iff.1⟩

theorem Denotes.unique {codes codes' : List ℤ} (h : Denotes value codes)
    (h' : Denotes value codes') : codes = codes' :=
  Except.ok.inj ((fields_eq_ok_iff.2 h).symm.trans (fields_eq_ok_iff.2 h'))

/-- The fields are refused if one of them is neither empty nor an integer. -/
theorem exists_fields_eq_error_iff : (∃ e, fields value = .error e) ↔
    ∃ field ∈ value.splitOn ';', field ≠ [] ∧ ∀ k : IntegerLiteral, k.text ≠ field := by
  rw [fields, exists_mapM_eq_error_iff]
  refine exists_congr fun field => and_congr_right fun _ => ?_
  constructor
  · rintro ⟨e, h⟩
    split_ifs at h with hempty
    refine ⟨fun hnil => hempty (List.isEmpty_iff.2 hnil), ?_⟩
    rintro k rfl
    rw [k.readInteger_text] at h
    cases h
  · rintro ⟨hne, hliteral⟩
    rw [if_neg fun h => hne (List.isEmpty_iff.1 h)]
    cases hread : readInteger field with
    | error e => exact ⟨.badField e, rfl⟩
    | ok n =>
      obtain ⟨k, hk, -⟩ := readInteger_eq_ok_iff.1 hread
      exact absurd hk (hliteral k)

/-- The fields of two lists that are joined. -/
theorem denotes_append_iff {a b : Text} {codes : List ℤ} : Denotes (a ++ ';' :: b) codes ↔
    ∃ as bs, Denotes a as ∧ Denotes b bs ∧ codes = as ++ bs := by
  rw [Denotes, List.splitOn_append_cons_self]
  constructor
  · intro h
    have ha := List.forall₂_take (a.splitOn ';').length h
    have hb := List.forall₂_drop (a.splitOn ';').length h
    rw [List.take_left] at ha
    rw [List.drop_left] at hb
    exact ⟨_, _, ha, hb, (List.take_append_drop _ _).symm⟩
  · rintro ⟨as, bs, ha, hb, rfl⟩
    exact List.rel_append ha hb

/-! ## Instructions -/

/-- The code that a colour stands behind. -/
def layerCode (background : Bool) : ℤ :=
  if background then 48 else 38

theorem layerCode_inj {background background' : Bool} :
    layerCode background = layerCode background' ↔ background = background' := by
  cases background <;> cases background' <;> decide

/-- One instruction of a parameter list. -/
inductive Instruction where
  /-- A code that stands for itself. -/
  | code (n : ℤ) (single : ∀ background, n ≠ layerCode background)
  /-- Take an entry of the palette. -/
  | indexed (background : Bool) (n : ℤ) (range : 0 ≤ n ∧ n ≤ 255)
  /-- Take the colour of three amounts. -/
  | direct (background : Bool) (r g b : ℤ)

namespace Instruction

/-- Forget what has been selected. -/
def reset : Instruction :=
  .code 0 (by decide)

/-- The fields that an instruction is written with. -/
def fields : Instruction → List ℤ
  | code n _ => [n]
  | indexed background n _ => [layerCode background, 5, n]
  | direct background r g b => [layerCode background, 2, r, g, b]

/-- The word that an instruction selects, if any. -/
def word? : Instruction → Option StyleWord
  | code n _ => match Code.ofInt n with
    | .word w => some w
    | _ => none
  | indexed background n _ => (Color.ofXterm? n).map (.color background)
  | direct background r g b =>
    some (.color background (.rgb (Color.clamp r) (Color.clamp g) (Color.clamp b)))

/-- The words that are selected behind an instruction. Zero forgets those in front
    of it. -/
def apply (selected : List StyleWord) (i : Instruction) : List StyleWord :=
  if i.fields = [0] then [] else selected ++ i.word?.toList

theorem fields_ne_nil (i : Instruction) : i.fields ≠ [] := by
  cases i <;> exact List.cons_ne_nil _ _

/-- **An instruction ends where its fields say**, whatever stands behind it. -/
theorem fields_append_inj {i j : Instruction} {s t : List ℤ}
    (h : i.fields ++ s = j.fields ++ t) : i = j ∧ s = t := by
  cases i with
  | code n single =>
    cases j with
    | code m _ =>
      obtain ⟨rfl, rfl⟩ := List.cons.inj h
      exact ⟨rfl, rfl⟩
    | indexed background m _ => exact absurd (List.cons.inj h).1 (single background)
    | direct background r g b => exact absurd (List.cons.inj h).1 (single background)
  | indexed background n _ =>
    cases j with
    | code m single => exact absurd (List.cons.inj h).1.symm (single background)
    | indexed background' m _ =>
      simp only [fields, List.cons_append, List.nil_append, List.cons.injEq, true_and,
        layerCode_inj] at h
      obtain ⟨rfl, rfl, rfl⟩ := h
      exact ⟨rfl, rfl⟩
    | direct => simp [fields] at h
  | direct background r g b =>
    cases j with
    | code m single => exact absurd (List.cons.inj h).1.symm (single background)
    | indexed => simp [fields] at h
    | direct background' r' g' b' =>
      simp only [fields, List.cons_append, List.nil_append, List.cons.injEq, true_and,
        layerCode_inj] at h
      obtain ⟨rfl, rfl, rfl, rfl, rfl⟩ := h
      exact ⟨rfl, rfl⟩

/-- **A list is cut into instructions in one way.** -/
theorem exists_of_flatMap_fields_append : ∀ {is ks : List Instruction} {codes : List ℤ},
    is.flatMap fields ++ codes = ks.flatMap fields →
      ∃ js, ks = is ++ js ∧ codes = js.flatMap fields
  | [], ks, codes, h => ⟨ks, rfl, h⟩
  | i :: is, [], codes, h => by simp [i.fields_ne_nil] at h
  | i :: is, k :: ks, codes, h => by
    rw [List.flatMap_cons, List.flatMap_cons, List.append_assoc] at h
    obtain ⟨rfl, hrest⟩ := fields_append_inj h
    obtain ⟨js, rfl, hcodes⟩ := exists_of_flatMap_fields_append hrest
    exact ⟨js, rfl, hcodes⟩

theorem foldl_apply_of_reset {js : List Instruction} (h : ∃ j ∈ js, j.fields = [0])
    (selected : List StyleWord) : js.foldl apply selected = js.foldl apply [] := by
  obtain ⟨j, hj, hreset⟩ := h
  obtain ⟨front, back, rfl⟩ := List.append_of_mem hj
  simp [List.foldl_append, apply, hreset]

theorem foldl_apply_of_not_reset : ∀ {js : List Instruction}, (∀ j ∈ js, j.fields ≠ [0]) →
    ∀ selected : List StyleWord, js.foldl apply selected = selected ++ js.foldl apply []
  | [], _, selected => by simp
  | j :: js, h, selected => by
    obtain ⟨hj, hjs⟩ := List.forall_mem_cons.1 h
    have happly (ws : List StyleWord) : apply ws j = ws ++ j.word?.toList := if_neg hj
    rw [List.foldl_cons, List.foldl_cons, happly, happly, List.nil_append,
      foldl_apply_of_not_reset hjs (selected ++ _), foldl_apply_of_not_reset hjs j.word?.toList,
      List.append_assoc]

end Instruction

/-! ## Scanning -/

/-- A list cannot be cut further: a code for a colour stands first, and no colour
    behind it. -/
def Breaks (codes : List ℤ) : Prop :=
  ∃ background rest, codes = layerCode background :: rest ∧
    (¬ ∃ n more, rest = 5 :: n :: more ∧ 0 ≤ n ∧ n ≤ 255) ∧
    ¬ ∃ r g b more, rest = 2 :: r :: g :: b :: more

theorem ofInt_layerCode (background : Bool) :
    Code.ofInt (layerCode background) = .extended background := by
  cases background <;> rfl

/-- Only the codes for a colour read the fields behind them. -/
theorem ofInt_ne_extended {n : ℤ} (single : ∀ background, n ≠ layerCode background)
    (background : Bool) : Code.ofInt n ≠ .extended background := by
  have h38 : n ≠ 38 := single false
  have h48 : n ≠ 48 := single true
  unfold Code.ofInt
  rw [if_neg h38, if_neg h48]
  split_ifs
  · nofun
  · split
    · nofun
    · split <;> nofun

theorem ofInt_eq_reset_iff {n : ℤ} : Code.ofInt n = .reset ↔ n = 0 := by
  unfold Code.ofInt
  split_ifs with h
  · simp [h]
  · simp [h]
  · simp [h]
  · split
    · simp [h]
    · split <;> simp [h]

theorem ofXterm?_eq_none_iff {n : ℤ} : Color.ofXterm? n = none ↔ ¬ (0 ≤ n ∧ n ≤ 255) := by
  have hrange : (n < 0 || 255 < n) = true ↔ ¬ (0 ≤ n ∧ n ≤ 255) := by
    simp only [Bool.or_eq_true, decide_eq_true_eq]
    omega
  rw [← hrange]
  unfold Color.ofXterm?
  dsimp only
  split_ifs with h <;> simp [h]

theorem range_of_ofXterm? {n : ℤ} {c : Color} (h : Color.ofXterm? n = some c) :
    0 ≤ n ∧ n ≤ 255 := by
  by_contra hout
  rw [ofXterm?_eq_none_iff.2 hout] at h
  cases h

/-- The colour at the head of a list of fields. -/
theorem extended_eq_ok_iff {codes rest : List ℤ} {c : Color} :
    extended value codes = .ok (c, rest) ↔
      (∃ n, codes = 5 :: n :: rest ∧ Color.ofXterm? n = some c) ∨
        ∃ r g b, codes = 2 :: r :: g :: b :: rest ∧
          c = .rgb (Color.clamp r) (Color.clamp g) (Color.clamp b) := by
  constructor
  · intro h
    unfold extended at h
    split at h
    · split_ifs at h with h5 h2
      · split at h
        · split at h
          · cases h
            subst h5
            exact .inl ⟨_, rfl, by assumption⟩
          · cases h
        · cases h
      · split at h
        · cases h
          subst h2
          exact .inr ⟨_, _, _, rfl, rfl⟩
        · cases h
    · cases h
  · rintro (⟨n, rfl, hn⟩ | ⟨r, g, b, rfl, rfl⟩)
    · simp [extended, hn]
    · simp [extended]

/-- The scan goes on behind a colour with the colour selected. -/
theorem scan_layerCode (background : Bool) (codes : List ℤ) :
    scan value selected (layerCode background :: codes) = extended value codes >>= fun colour =>
      scan value (selected ++ [.color background colour.1]) colour.2 := by
  rw [scan, ofInt_layerCode]
  dsimp only
  split
  · next hext =>
    rw [hext]
    rfl
  · next hext =>
    rw [hext]
    rfl

/-- **The scan takes one instruction at a time.** -/
theorem scan_fields_append (i : Instruction) (codes : List ℤ) :
    scan value selected (i.fields ++ codes) = scan value (i.apply selected) codes := by
  cases i with
  | code n single =>
    change scan value selected (n :: codes) = _
    rcases hcode : Code.ofInt n with _ | w | background | _
    · obtain rfl := ofInt_eq_reset_iff.1 hcode
      rw [scan, hcode]
      simp [Instruction.apply, Instruction.fields]
    · have hn : n ≠ 0 := mt ofInt_eq_reset_iff.2 (by simp [hcode])
      rw [scan, hcode]
      simp [Instruction.apply, Instruction.fields, Instruction.word?, hcode, hn]
    · exact absurd hcode (ofInt_ne_extended single background)
    · have hn : n ≠ 0 := mt ofInt_eq_reset_iff.2 (by simp [hcode])
      rw [scan, hcode]
      simp [Instruction.apply, Instruction.fields, Instruction.word?, hcode, hn]
  | indexed background n range =>
    obtain ⟨c, hc⟩ := Option.ne_none_iff_exists'.1 (mt ofXterm?_eq_none_iff.1 (not_not.2 range))
    rw [Instruction.apply, if_neg (by simp [Instruction.fields]), Instruction.word?, hc]
    change scan value selected (layerCode background :: 5 :: n :: codes) = _
    rw [scan_layerCode, extended_eq_ok_iff.2 (.inl ⟨n, rfl, hc⟩)]
    rfl
  | direct background r g b =>
    rw [Instruction.apply, if_neg (by simp [Instruction.fields])]
    change scan value selected (layerCode background :: 2 :: r :: g :: b :: codes) = _
    rw [scan_layerCode, extended_eq_ok_iff.2 (.inr ⟨r, g, b, rfl, rfl⟩)]
    rfl

theorem scan_flatMap_append (is : List Instruction) (codes : List ℤ) :
    ∀ selected : List StyleWord, scan value selected (is.flatMap Instruction.fields ++ codes) =
      scan value (is.foldl Instruction.apply selected) codes := by
  induction is with
  | nil => exact fun _ => rfl
  | cons i is ih =>
    intro selected
    rw [List.flatMap_cons, List.append_assoc, scan_fields_append, ih]
    rfl

/-- Where no colour stands behind the code for one, the scan fails. -/
theorem exists_scan_eq_error_of_breaks {codes : List ℤ} (h : Breaks codes) :
    ∃ e, scan value selected codes = .error e := by
  obtain ⟨background, rest, rfl, hindexed, hdirect⟩ := h
  cases hext : extended value rest with
  | ok colour =>
    obtain ⟨c, more⟩ := colour
    rcases extended_eq_ok_iff.1 hext with ⟨n, rfl, hn⟩ | ⟨r, g, b, rfl, -⟩
    · exact absurd ⟨n, more, rfl, range_of_ofXterm? hn⟩ hindexed
    · exact absurd ⟨r, g, b, more, rfl⟩ hdirect
  | error e =>
    refine ⟨e, ?_⟩
    rw [scan_layerCode, hext]
    rfl

/-- A list is empty, or an instruction stands first, or it breaks there. -/
theorem exists_cut : ∀ codes : List ℤ,
    codes = [] ∨ (∃ i rest, codes = Instruction.fields i ++ rest) ∨ Breaks codes
  | [] => .inl rfl
  | n :: codes => .inr <| by
    by_cases hsingle : ∀ background, n ≠ layerCode background
    · exact .inl ⟨.code n hsingle, codes, rfl⟩
    · obtain ⟨background, hn⟩ := not_forall.1 hsingle
      obtain rfl := not_not.1 hn
      by_cases hindexed : ∃ n more, codes = 5 :: n :: more ∧ 0 ≤ n ∧ n ≤ 255
      · obtain ⟨n, more, rfl, hrange⟩ := hindexed
        exact .inl ⟨.indexed background n hrange, more, rfl⟩
      by_cases hdirect : ∃ r g b more, codes = 2 :: r :: g :: b :: more
      · obtain ⟨r, g, b, more, rfl⟩ := hdirect
        exact .inl ⟨.direct background r g b, more, rfl⟩
      · exact .inr ⟨background, codes, rfl, hindexed, hdirect⟩

/-- A list is made of instructions, up to where it breaks if it does. -/
theorem exists_instructions (codes : List ℤ) : ∃ (is : List Instruction) (rest : List ℤ),
    codes = is.flatMap Instruction.fields ++ rest ∧ (rest = [] ∨ Breaks rest) := by
  rcases exists_cut codes with rfl | ⟨i, rest, rfl⟩ | hbreaks
  · exact ⟨[], [], rfl, .inl rfl⟩
  · have hshorter : rest.length < (i.fields ++ rest).length := by
      have hpos := List.length_pos_of_ne_nil i.fields_ne_nil
      rw [List.length_append]
      omega
    obtain ⟨is, more, hrest, hmore⟩ := exists_instructions rest
    exact ⟨i :: is, more, by rw [List.flatMap_cons, List.append_assoc, ← hrest], hmore⟩
  · exact ⟨[], codes, rfl, .inr hbreaks⟩
termination_by codes.length

/-- **A list of codes is accepted if it is made of instructions**, and selects what
    they do one after the other. -/
theorem scan_eq_ok_iff {codes : List ℤ} {ws : List StyleWord} :
    scan value selected codes = .ok ws ↔ ∃ is : List Instruction,
      codes = is.flatMap Instruction.fields ∧ is.foldl Instruction.apply selected = ws := by
  constructor
  · intro h
    obtain ⟨is, rest, rfl, hrest⟩ := exists_instructions codes
    rw [scan_flatMap_append] at h
    rcases hrest with rfl | hbreaks
    · rw [scan] at h
      exact ⟨is, List.append_nil _, Except.ok.inj h⟩
    · obtain ⟨e, he⟩ : ∃ e, scan value (is.foldl Instruction.apply selected) rest = .error e :=
        exists_scan_eq_error_of_breaks hbreaks
      cases h.symm.trans he
  · rintro ⟨is, rfl, rfl⟩
    rw [← List.append_nil (is.flatMap _), scan_flatMap_append, scan]

/-- **It is refused if it breaks** behind some instructions. -/
theorem exists_scan_eq_error_iff {codes : List ℤ} :
    (∃ e, scan value selected codes = .error e) ↔ ∃ (is : List Instruction) (rest : List ℤ),
      codes = is.flatMap Instruction.fields ++ rest ∧ Breaks rest := by
  constructor
  · rintro ⟨e, h⟩
    obtain ⟨is, rest, rfl, rfl | hbreaks⟩ := exists_instructions codes
    · rw [scan_flatMap_append, scan] at h
      cases h
    · exact ⟨is, rest, rfl, hbreaks⟩
  · rintro ⟨is, rest, rfl, hbreaks⟩
    rw [scan_flatMap_append]
    exact exists_scan_eq_error_of_breaks hbreaks

/-- The style that a list gives, if it gives one. -/
theorem style?_eq_ok_iff {s : Text} : style? value = .ok s ↔ ∃ is : List Instruction,
    Denotes value (is.flatMap Instruction.fields) ∧
      StyleWord.style (is.foldl Instruction.apply []) = s := by
  simp only [style?, words?, map_eq_ok_iff, bind_eq_ok_iff, fields_eq_ok_iff, scan_eq_ok_iff]
  constructor
  · rintro ⟨ws, ⟨codes, hcodes, is, rfl, rfl⟩, rfl⟩
    exact ⟨is, hcodes, rfl⟩
  · rintro ⟨is, hcodes, rfl⟩
    exact ⟨_, ⟨_, hcodes, is, rfl, rfl⟩, rfl⟩

/-! ## Lists that are joined -/

/-- A list makes a reset: zero, or nothing, stands in a field that no code for a
    colour in front reads. -/
def Resets (value : Text) : Prop :=
  ∃ (is : List Instruction) (rest : List ℤ),
    Denotes value (is.flatMap Instruction.fields ++ 0 :: rest)

theorem resets_iff {is : List Instruction} (h : Denotes value (is.flatMap Instruction.fields)) :
    Resets value ↔ ∃ i ∈ is, i.fields = [0] := by
  constructor
  · rintro ⟨front, rest, hcodes⟩
    obtain ⟨js, rfl, hjs⟩ := Instruction.exists_of_flatMap_fields_append (hcodes.unique h)
    cases js with
    | nil => cases hjs
    | cons j js =>
      refine ⟨j, by simp, ?_⟩
      have hj : Instruction.reset.fields ++ rest = j.fields ++ js.flatMap Instruction.fields := hjs
      rw [← (Instruction.fields_append_inj hj).1]
      rfl
  · rintro ⟨i, hi, hreset⟩
    obtain ⟨front, back, rfl⟩ := List.append_of_mem hi
    refine ⟨front, back.flatMap Instruction.fields, ?_⟩
    rwa [List.flatMap_append, List.flatMap_cons, hreset] at h

/-- Behind a list that is accepted, another one is scanned as if it stood alone, with
    the words of the first one selected. -/
theorem style?_append_eq_ok_iff {a b s : Text} {is : List Instruction}
    (ha : Denotes a (is.flatMap Instruction.fields)) :
    style? (a ++ ';' :: b) = .ok s ↔ ∃ js : List Instruction,
      Denotes b (js.flatMap Instruction.fields) ∧
        StyleWord.style (js.foldl Instruction.apply (is.foldl Instruction.apply [])) = s := by
  rw [style?_eq_ok_iff]
  constructor
  · rintro ⟨ks, hks, rfl⟩
    obtain ⟨as, bs, has, hbs, heq⟩ := denotes_append_iff.1 hks
    obtain rfl := ha.unique has
    obtain ⟨js, rfl, rfl⟩ := Instruction.exists_of_flatMap_fields_append heq.symm
    exact ⟨js, hbs, by rw [List.foldl_append]⟩
  · rintro ⟨js, hjs, rfl⟩
    refine ⟨is ++ js, denotes_append_iff.2 ⟨_, _, ha, hjs, List.flatMap_append⟩, ?_⟩
    rw [List.foldl_append]

end Rendition

/-! ## Styles that are joined -/

namespace StyleWord

theorem name_ne_nil (w : StyleWord) : w.name ≠ [] := by
  rcases w with e | ⟨_ | _, ⟨_ | _, hue⟩ | ⟨r, g, b⟩⟩
  · cases e <;> decide
  all_goals first | exact List.cons_ne_nil _ _ | cases hue <;> decide

theorem style_eq_nil_iff {ws : List StyleWord} : style ws = [] ↔ ws = [] := by
  constructor
  · intro h
    cases ws with
    | nil => rfl
    | cons w ws =>
      cases ws with
      | nil =>
        rw [style, List.map_singleton, List.intercalate_singleton] at h
        exact absurd h w.name_ne_nil
      | cons w' ws =>
        rw [style, List.map_cons, List.map_cons, List.intercalate_cons_cons] at h
        simp at h
  · rintro rfl
    rfl

/-- The style of two lists of words is that of both, with a space between them
    unless one of them is empty. -/
theorem style_append (ws us : List StyleWord) :
    style (ws ++ us) = List.intercalate [' '] ([style ws, style us].filter (· ≠ [])) := by
  by_cases hws : ws = []
  · by_cases hus : us = []
    · rw [hws, hus]
      rfl
    · simp [hws, style_eq_nil_iff.2 rfl, style_eq_nil_iff, hus]
  · by_cases hus : us = []
    · simp [hus, style_eq_nil_iff.2 rfl, style_eq_nil_iff, hws]
    · have hboth : [style ws, style us].filter (· ≠ []) = [style ws, style us] :=
        List.filter_eq_self.2 (by simp [style_eq_nil_iff, hws, hus])
      rw [hboth, List.intercalate_cons_cons, List.intercalate_singleton, style, List.map_append,
        intercalate_append (by simpa using hus) (by simpa using hws)]
      rfl

end StyleWord

namespace Rendition

/-- **Two lists with a semicolon between them.** Behind a list that is accepted,
    another one is accepted if and only if it is accepted alone. If it makes a reset,
    its own style is left; if not, the style is that of both, with a space between
    them unless one of them is empty. So with a reset between them the second list
    is all that counts. -/
theorem style?_append {a s : Text} (ha : style? a = .ok s) (b : Text) :
    ((∃ t, style? (a ++ ';' :: b) = .ok t) ↔ ∃ t, style? b = .ok t) ∧
      (∀ t, style? b = .ok t →
        (Resets b → style? (a ++ ';' :: b) = .ok t) ∧
          (¬ Resets b → style? (a ++ ';' :: b) =
            .ok (List.intercalate [' '] ([s, t].filter (· ≠ []))))) ∧
      ∀ t, style? (a ++ ";0;".toList ++ b) = .ok t ↔ style? b = .ok t := by
  obtain ⟨is, his, rfl⟩ := style?_eq_ok_iff.1 ha
  refine ⟨?_, fun t ht => ?_, fun t => ?_⟩
  · constructor
    · rintro ⟨t, ht⟩
      obtain ⟨js, hjs, -⟩ := (style?_append_eq_ok_iff his).1 ht
      exact ⟨_, style?_eq_ok_iff.2 ⟨js, hjs, rfl⟩⟩
    · rintro ⟨t, ht⟩
      obtain ⟨js, hjs, -⟩ := style?_eq_ok_iff.1 ht
      exact ⟨_, (style?_append_eq_ok_iff his).2 ⟨js, hjs, rfl⟩⟩
  · obtain ⟨js, hjs, rfl⟩ := style?_eq_ok_iff.1 ht
    rw [resets_iff hjs]
    constructor
    · intro hreset
      refine (style?_append_eq_ok_iff his).2 ⟨js, hjs, ?_⟩
      rw [Instruction.foldl_apply_of_reset hreset]
    · intro hreset
      refine (style?_append_eq_ok_iff his).2 ⟨js, hjs, ?_⟩
      rw [Instruction.foldl_apply_of_not_reset (by simpa using hreset), StyleWord.style_append]
  · -- the list in front with the reset behind it selects nothing
    have hfront : Denotes (a ++ ';' :: ['0'])
        ((is ++ [Instruction.reset]).flatMap Instruction.fields) := by
      rw [List.flatMap_append]
      exact denotes_append_iff.2 ⟨_, _, his, fields_eq_ok_iff.1 rfl, rfl⟩
    have htext : a ++ ";0;".toList ++ b = (a ++ ';' :: ['0']) ++ ';' :: b := by simp
    rw [htext, style?_append_eq_ok_iff hfront, style?_eq_ok_iff, List.foldl_append]
    simp [Instruction.apply, Instruction.reset, Instruction.fields]

/-- Two lists of which the second has zeros in it, as amounts of a colour, and two of
    which the second makes a reset. -/
theorem style?_append_amounts :
    let a := "01;38;5;208".toList
    let b := "4;48;2;0;0;0".toList
    let c := "3;;7".toList
    style? a = .ok "bold #ff8700".toList ∧ style? b = .ok "underline bg:#000000".toList ∧
      ¬ Resets b ∧ style? c = .ok "reverse".toList ∧ Resets c ∧
      style? (a ++ ';' :: b) = .ok "bold #ff8700 underline bg:#000000".toList ∧
      style? (a ++ ';' :: c) = .ok "reverse".toList ∧
      style? (a ++ ";0;".toList ++ b) = .ok "underline bg:#000000".toList := by
  intro a b c
  have ha : style? a = .ok "bold #ff8700".toList :=
    style?_eq_ok_iff.2 ⟨[.code 1 (by decide), .indexed false 208 (by decide)],
      fields_eq_ok_iff.1 rfl, by decide⟩
  have hcodes : Denotes b ([.code 4 (by decide), .direct true 0 0 0].flatMap Instruction.fields) :=
    fields_eq_ok_iff.1 rfl
  have hb : style? b = .ok "underline bg:#000000".toList :=
    style?_eq_ok_iff.2 ⟨_, hcodes, by decide⟩
  have hresets : ¬ Resets b := by
    rw [resets_iff hcodes]
    simp [Instruction.fields]
  have hcodes' : Denotes c ([.code 3 (by decide), .reset, .code 7 (by decide)].flatMap
      Instruction.fields) := fields_eq_ok_iff.1 rfl
  have hc : style? c = .ok "reverse".toList := style?_eq_ok_iff.2 ⟨_, hcodes', by decide⟩
  have hresets' : Resets c := (resets_iff hcodes').2 ⟨.reset, by simp, rfl⟩
  obtain ⟨-, hjoined, hbehind⟩ := style?_append ha b
  obtain ⟨-, hjoined', -⟩ := style?_append ha c
  exact ⟨ha, hb, hresets, hc, hresets', (hjoined _ hb).2 hresets, (hjoined' _ hc).1 hresets',
    (hbehind _).2 hb⟩

end Rendition

end ShellHighlight
