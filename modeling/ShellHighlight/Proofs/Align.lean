/-
  Alignment: the spans of a line make up the line from where it begins.

  * `text_place`: the texts of the spans, one behind the other, are the rest of
    the line, for every list of words and every beginning;
  * `text_of_mem_place`: the span of a word has that word as its text;
  * `place_leads`: each span begins where the one before it ends, and together
    they lead from the beginning to the end of the line, unless the beginning is
    behind that end;
  * `align_covers`: all of it for the words of a line behind its command.
-/
import ShellHighlight.Align
import ShellHighlight.Proofs.Text

namespace ShellHighlight

open Text

theorem Span.text_glue {buffer : Text} {start stop : ℤ} (hs : 0 ≤ stop) :
    (Span.glue start stop).flatMap (Span.text buffer) = slice buffer start stop := by
  unfold Span.glue
  split_ifs with hlt
  · rw [List.flatMap_cons, List.flatMap_nil, List.append_nil]
    rfl
  · rw [slice_eq_nil (cut_le_cut hs (by omega)), List.flatMap_nil]

theorem Span.mem_glue {start stop : ℤ} {s : Span} (h : s ∈ Span.glue start stop) :
    s.word = none := by
  unfold Span.glue at h
  split_ifs at h
  · rw [List.mem_singleton.1 h]
  · simp at h

/-- A word that is found is placed behind the glue in front of it. -/
theorem place_of_find {buffer w : Text} {pos : ℤ} {found : ℕ} (ws : List Text)
    (h : find? buffer w pos = some found) :
    place buffer pos (w :: ws) = Span.glue pos found ++
      ⟨found, found + w.length, some w⟩ :: place buffer (found + w.length) ws := by
  rw [place, h]

theorem place_of_find_none {buffer w : Text} {pos : ℤ} (ws : List Text)
    (h : find? buffer w pos = none) :
    place buffer pos (w :: ws) = Span.glue pos buffer.length := by
  rw [place, h]

/-- **The spans make up what is left of the line.** -/
theorem text_place (buffer : Text) : ∀ (pos : ℤ) (ws : List Text),
    (place buffer pos ws).flatMap (Span.text buffer) = slice buffer pos buffer.length
  | pos, [] => Span.text_glue (by omega)
  | pos, w :: ws => by
    rcases hf : find? buffer w pos with _ | found
    · rw [place_of_find_none ws hf]
      exact Span.text_glue (by omega)
    · have hle := find?_le hf
      obtain ⟨-, hcut, hw, -⟩ := find?_eq_some_iff.1 hf
      have hfound : cut buffer.length found = found := cut_natCast (by omega)
      have hbehind : cut buffer.length (found + w.length) = found + w.length := by
        rw [← Int.natCast_add, cut_natCast hle]
      have hword : Span.text buffer ⟨found, found + w.length, some w⟩ =
          slice buffer found (found + w.length) := rfl
      rw [place_of_find ws hf, List.flatMap_append, List.flatMap_cons, hword,
        text_place buffer (found + w.length) ws, Span.text_glue (by omega),
        slice_append_slice (by rw [hfound, hbehind]; omega)
          (by rw [hbehind, cut_natCast le_rfl]; exact hle),
        slice_append_slice (by rw [hfound]; exact hcut)
          (by rw [hfound, cut_natCast le_rfl]; omega)]

/-- **The span of a word has that word as its text.** -/
theorem text_of_mem_place {buffer : Text} : ∀ {pos : ℤ} {ws : List Text} {s : Span} {w : Text},
    s ∈ place buffer pos ws → s.word = some w → s.text buffer = w
  | pos, [], s, w, hs, hw => by
    rw [Span.mem_glue hs] at hw
    cases hw
  | pos, v :: ws, s, w, hs, hw => by
    rcases hf : find? buffer v pos with _ | found
    · rw [place_of_find_none ws hf] at hs
      rw [Span.mem_glue hs] at hw
      cases hw
    · rw [place_of_find ws hf] at hs
      rcases List.mem_append.1 hs with hs | hs
      · rw [Span.mem_glue hs] at hw
        cases hw
      rcases List.mem_cons.1 hs with rfl | hs
      · cases hw
        exact slice_of_occurs (find?_le hf) (find?_eq_some_iff.1 hf).2.2.1
      · exact text_of_mem_place hs hw

/-! ## The spans follow each other -/

namespace Span

/-- The spans lead from `a` to `b`: the first one begins at `a`, each other one
    where the one before it ends, and the last one ends at `b`. -/
inductive Leads : ℤ → List Span → ℤ → Prop where
  | nil {a : ℤ} : Leads a [] a
  | cons {a b : ℤ} {s : Span} {ss : List Span} :
      s.start = a → Leads s.stop ss b → Leads a (s :: ss) b

theorem Leads.append {a b c : ℤ} {ss ts : List Span} (h : Leads a ss b) (h' : Leads b ts c) :
    Leads a (ss ++ ts) c := by
  induction h with
  | nil => exact h'
  | cons hs _ ih => exact .cons hs (ih h')

theorem Leads.start_eq {a b : ℤ} {ss : List Span} (h : Leads a ss b) :
    ∀ s ∈ ss.head?, s.start = a := by
  intro s hs
  cases h with
  | nil => cases hs
  | cons ha _ =>
    cases hs
    exact ha

theorem Leads.stop_eq {a b : ℤ} {ss : List Span} (h : Leads a ss b) :
    ∀ s ∈ ss.getLast?, s.stop = b := by
  induction h with
  | nil => simp
  | @cons a b s ss _ hss ih =>
    intro t ht
    cases hss with
    | nil =>
      cases ht
      rfl
    | cons hu hv =>
      rw [List.getLast?_cons_cons] at ht
      exact ih t ht

theorem Leads.isChain {a b : ℤ} {ss : List Span} (h : Leads a ss b) :
    ss.IsChain fun s t => t.start = s.stop := by
  induction h with
  | nil => exact .nil
  | cons _ hss ih =>
    cases hss with
    | nil => exact .singleton _
    | cons ht _ => exact .cons_cons ht ih

theorem leads_glue {a b : ℤ} (h : a ≤ b) : Leads a (glue a b) b := by
  unfold glue
  split_ifs with hlt
  · exact .cons rfl .nil
  · obtain rfl : a = b := by omega
    exact .nil

theorem filterMap_word_glue (a b : ℤ) : (glue a b).filterMap word = [] := by
  unfold glue
  split_ifs <;> rfl

end Span

/-- **The spans lead to the end of the line**, from any beginning that is not
    behind it. -/
theorem place_leads {buffer : Text} : ∀ {pos : ℤ} (ws : List Text), pos ≤ buffer.length →
    Span.Leads pos (place buffer pos ws) buffer.length
  | _, [], hpos => Span.leads_glue hpos
  | pos, w :: ws, hpos => by
    rcases hf : find? buffer w pos with _ | found
    · rw [place_of_find_none ws hf]
      exact Span.leads_glue hpos
    · have hle := find?_le hf
      have hrest : Span.Leads (found + w.length) (place buffer (found + w.length) ws) buffer.length :=
        place_leads ws (by omega)
      rw [place_of_find ws hf]
      exact (Span.leads_glue (le_of_find? hf)).append (.cons rfl hrest)

/-- Behind the end of the line nothing is placed. -/
theorem place_of_lt {buffer : Text} {pos : ℤ} (h : buffer.length < pos) (ws : List Text) :
    place buffer pos ws = [] := by
  have hglue : Span.glue pos buffer.length = [] := if_neg (by omega)
  cases ws with
  | nil => exact hglue
  | cons w ws => rw [place_of_find_none ws (find?_of_lt h w), hglue]

/-- **The words are placed in order**, up to the first one that is not found. -/
theorem filterMap_word_place (buffer : Text) : ∀ (pos : ℤ) (ws : List Text),
    (place buffer pos ws).filterMap Span.word <+: ws
  | _, [] => by rw [place, Span.filterMap_word_glue]
  | pos, w :: ws => by
    rcases hf : find? buffer w pos with _ | found
    · rw [place_of_find_none ws hf, Span.filterMap_word_glue]
      exact List.nil_prefix
    · have ih := filterMap_word_place buffer (found + w.length) ws
      rw [place_of_find ws hf, List.filterMap_append, Span.filterMap_word_glue, List.nil_append]
      exact List.cons_prefix_cons.2 ⟨rfl, ih⟩

/-! ## The words of a line behind its command -/

/-- **The spans cover the line from where they begin**, without a gap and for
    every beginning: one that is counted from the end, one that lies behind it,
    and the length of the command where none is given. The words among them are
    the first ones behind the command, each with its own text. -/
theorem align_covers (buffer : Text) (words : List Text) (start : Option ℤ) :
    let first : ℤ := start.getD (words.headD []).length
    let spans := align buffer words start
    spans.IsChain (fun s t => t.start = s.stop) ∧
      (∀ s ∈ spans.head?, s.start = first) ∧
      (∀ s ∈ spans.getLast?, s.stop = buffer.length) ∧
      spans.flatMap (Span.text buffer) = slice buffer first buffer.length ∧
      (spans = [] → slice buffer first buffer.length = []) ∧
      spans.filterMap Span.word <+: words.tail ∧
      ∀ s ∈ spans, ∀ w, s.word = some w → s.text buffer = w := by
  intro first spans
  have htext : spans.flatMap (Span.text buffer) = slice buffer first buffer.length :=
    text_place buffer first words.tail
  have hnil : spans = [] → slice buffer first buffer.length = [] := by
    intro h
    rw [← htext, h, List.flatMap_nil]
  have hwords : spans.filterMap Span.word <+: words.tail :=
    filterMap_word_place buffer first words.tail
  have hword : ∀ s ∈ spans, ∀ w, s.word = some w → s.text buffer = w :=
    fun s hs w hw => text_of_mem_place hs hw
  by_cases hfirst : first ≤ buffer.length
  · have hleads : Span.Leads first spans buffer.length := place_leads words.tail hfirst
    exact ⟨hleads.isChain, hleads.start_eq, hleads.stop_eq, htext, hnil, hwords, hword⟩
  · have hspans : spans = [] := place_of_lt (by omega) words.tail
    rw [hspans] at htext hnil hwords hword ⊢
    exact ⟨.nil, by simp, by simp, htext, hnil, hwords, hword⟩

/-- A beginning that is counted from the end, with a word that is not found
    behind one that is, and a beginning behind the end. -/
theorem align_covers_from_end :
    let buffer := "cat a b".toList
    let glue : Span := ⟨-3, 6, none⟩
    let word : Span := ⟨6, 7, some "b".toList⟩
    let spans := align buffer ["cat".toList, "b".toList, "a".toList] (some (-3))
    spans = [glue, word] ∧ spans.flatMap (Span.text buffer) = "a b".toList ∧
      (glue ∈ spans.head? ∧ glue.start = -3) ∧ (word ∈ spans.getLast? ∧ word.stop = 7) ∧
      (word ∈ spans ∧ word.word = some "b".toList ∧ word.text buffer = "b".toList) ∧
      align buffer ["cat".toList] (some 9) = [] ∧ slice buffer 9 buffer.length = [] := by
  intro buffer glue word spans
  have hspans : spans = [glue, word] := by decide
  have hglue : glue ∈ spans.head? := by rw [hspans]; rfl
  have hlast : word ∈ spans.getLast? := by rw [hspans]; rfl
  have hword : word ∈ spans := by simp [hspans]
  have hbehind : align buffer ["cat".toList] (some 9) = [] := by decide
  obtain ⟨-, hstart, hstop, htext, -, -, hwords⟩ :=
    align_covers buffer ["cat".toList, "b".toList, "a".toList] (some (-3))
  obtain ⟨-, -, -, -, hempty, -, -⟩ := align_covers buffer ["cat".toList] (some 9)
  exact ⟨hspans, htext, ⟨hglue, hstart glue hglue⟩, ⟨hlast, hstop word hlast⟩,
    ⟨hword, rfl, hwords word hword _ rfl⟩, hbehind, hempty hbehind⟩

end ShellHighlight
