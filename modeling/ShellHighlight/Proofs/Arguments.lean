/-
  Lines with arguments that are quoted as a whole or not at all.

  * `WrittenWord` is an argument as it is written, and `WrittenLine` a command
    with such arguments; both carry what is asked of their texts;
  * `find?_word`: the first occurrence of a word behind the word in front of it
    is where it is written, past the closing quote, the gap and the opening
    quote;
  * `highlight_writtenLine`: every argument is highlighted as a path, where it
    is written.
-/
import ShellHighlight.Highlighter
import ShellHighlight.Proofs.Align
import ShellHighlight.Proofs.Styled
import ShellHighlight.Proofs.Word.Plain

namespace ShellHighlight

open Grammar

/-! ## What is written -/

/-- An argument as it is written, with the gap in front of it. -/
structure WrittenWord where
  gap : Text
  /-- The quotes around the word, if it has any. -/
  mark : Option QuoteMark
  word : Text
  gap_ne_nil : gap ≠ []
  gap_isGap : Gap gap
  plain : ∀ c ∈ word, isPlain c = true
  /-- The word is more than separators. -/
  exists_not_separator : ∃ c ∈ word, isSeparator c = false
  /-- Without quotes the word has no separators. -/
  bare : mark = none → ∀ c ∈ word, isSeparator c = false

namespace WrittenWord

/-- The quote on either side of the word; nothing without quotes. -/
def quote (a : WrittenWord) : Text :=
  (a.mark.map QuoteMark.char).toList

/-- The word with its quotes. -/
def raw (a : WrittenWord) : Text :=
  a.quote ++ a.word ++ a.quote

theorem word_ne_nil (a : WrittenWord) : a.word ≠ [] := by
  obtain ⟨c, hc, -⟩ := a.exists_not_separator
  exact List.ne_nil_of_mem hc

theorem word_raw (a : WrittenWord) : Word a.raw a.word := by
  unfold raw quote
  cases hm : a.mark with
  | none =>
    rw [Option.map_none, Option.toList_none, List.nil_append, List.append_nil]
    exact word_of_plain a.word_ne_nil fun c hc => ⟨a.bare hm c hc, a.plain c hc⟩
  | some m => exact word_enclosed m a.plain

end WrittenWord

/-- A command and its arguments as they are written, with what stands in front
    of the command and behind the last argument. -/
structure WrittenLine where
  lead : Text
  command : Text
  arguments : List WrittenWord
  trail : Text
  lead_isGap : Gap lead
  command_ne_nil : command ≠ []
  command_plain : ∀ c ∈ command, isBlank c = false ∧ isPlain c = true
  trail_isGap : Gap trail

/-- Arguments with the gaps in front of them. -/
def argumentsText (as : List WrittenWord) : Text :=
  as.flatMap fun a => a.gap ++ a.raw

/-- The text of a line. -/
def WrittenLine.text (l : WrittenLine) : Text :=
  l.lead ++ l.command ++ (argumentsText l.arguments ++ l.trail)

theorem argumentsText_cons (a : WrittenWord) (as : List WrittenWord) :
    argumentsText (a :: as) = a.gap ++ a.raw ++ argumentsText as := List.flatMap_cons

/-! ## The words of the line -/

theorem WrittenLine.word_command (l : WrittenLine) : Word l.command l.command := by
  refine word_of_plain l.command_ne_nil fun c hc => ?_
  obtain ⟨hblank, hplain⟩ := l.command_plain c hc
  exact ⟨isSeparator_of_not_isBlank hblank, hplain⟩

/-- Behind a word the arguments are the words of the line. -/
theorem line_arguments {trail : Text} (ht : Gap trail) : ∀ {as : List WrittenWord}
    {f raw v : Text} {ws : List Text}, Front f ws → Word raw v →
    Line (f ++ raw ++ (argumentsText as ++ trail)) (ws ++ v :: as.map WrittenWord.word)
  | [], _, _, _, _, hf, hw => .words hf hw ht
  | a :: as, f, raw, v, ws, hf, hw => by
    have ih : Line (f ++ raw ++ a.gap ++ a.raw ++ (argumentsText as ++ trail))
        (ws ++ [v] ++ a.word :: as.map WrittenWord.word) :=
      line_arguments ht (hf.word hw a.gap_isGap a.gap_ne_nil) a.word_raw
    simpa [argumentsText_cons, List.append_assoc] using ih

theorem WrittenLine.splitOpen_text (l : WrittenLine) :
    splitOpen l.text = l.command :: l.arguments.map WrittenWord.word :=
  splitOpen_of_line (line_arguments l.trail_isGap (.gap l.lead_isGap) l.word_command)

/-- What stands behind a word begins with a separator. -/
theorem isSeparator_head_arguments {trail : Text} (ht : Gap trail) (as : List WrittenWord) :
    ∀ c ∈ (argumentsText as ++ trail).head?, isSeparator c = true := by
  intro c hc
  cases as with
  | nil => exact ht c (List.mem_of_head? hc)
  | cons a as =>
    obtain ⟨d, g, hg⟩ := List.exists_cons_of_ne_nil a.gap_ne_nil
    rw [argumentsText_cons, hg] at hc
    rw [← Option.some.inj hc]
    exact a.gap_isGap d (by simp [hg])

/-- The token ends with the command, if anything stands behind it. -/
theorem WrittenLine.tokenEnd?_text (l : WrittenLine) :
    Text.tokenEnd? l.text = if argumentsText l.arguments ++ l.trail = [] then none
      else some (l.lead ++ l.command).length := by
  have hend := Text.tokenEnd?_append (fun c hc => isBlank_of_isSeparator (l.lead_isGap c hc))
    l.command_ne_nil (fun c hc => (l.command_plain c hc).1) (argumentsText l.arguments ++ l.trail)
  rw [text, List.append_assoc, hend, List.length_append]
  have hhead := isSeparator_head_arguments l.trail_isGap l.arguments
  rcases hr : argumentsText l.arguments ++ l.trail with _ | ⟨c, rest⟩
  · rfl
  · rw [hr] at hhead
    rw [if_neg (List.cons_ne_nil c rest),
      Text.tokenEndFrom_cons_blank (isBlank_of_isSeparator (hhead c rfl))]

/-! ## Where a word occurs first -/

/-- What stands between a word and the word in front of it: the closing quote of
    that word, the gap, and the opening quote. -/
def WrittenWord.front (pending : Text) (a : WrittenWord) : Text :=
  pending ++ a.gap ++ a.quote

theorem WrittenWord.front_ne_nil (pending : Text) (a : WrittenWord) : a.front pending ≠ [] := by
  simp [front, a.gap_ne_nil]

theorem not_isPlain_of_mem_quote {a : WrittenWord} {c : Char} (hc : c ∈ a.quote) :
    isPlain c = false := by
  unfold WrittenWord.quote at hc
  cases hm : a.mark with
  | none => simp [hm] at hc
  | some m =>
    rw [hm, Option.map_some, Option.toList_some, List.mem_singleton] at hc
    rw [hc]
    exact m.not_isPlain_char

/-- **A word does not occur in front of itself.** What stands there has no code
    point but separators and quotes, and the word is more than that; so the
    occurrence would reach into the word, and a word that begins with quotes or
    separators is neither within quotes nor bare. -/
theorem WrittenWord.not_occurs {pending : Text} (a : WrittenWord)
    (hpending : ∀ c ∈ pending, isPlain c = false) {k : ℕ} (hk : k < (a.front pending).length)
    (rest : Text) : ¬ a.word <+: (a.front pending).drop k ++ rest := by
  intro h
  have hfront : ∀ c ∈ (a.front pending).drop k, isSeparator c = true ∨ isPlain c = false := by
    intro c hc
    rcases List.mem_append.1 (List.mem_of_mem_drop hc) with hc | hc
    · rcases List.mem_append.1 hc with hc | hc
      · exact .inr (hpending c hc)
      · exact .inl (a.gap_isGap c hc)
    · exact .inr (not_isPlain_of_mem_quote hc)
  rcases List.prefix_or_prefix_of_prefix h (List.prefix_append _ rest) with hw | hw
  · -- the occurrence ends in front of the word
    obtain ⟨c, hc, hs⟩ := a.exists_not_separator
    rcases hfront c (hw.subset hc) with h' | h'
    · rw [h'] at hs
      cases hs
    · rw [a.plain c hc] at h'
      cases h'
  · -- the word begins with what stands in front of it
    have hne : (a.front pending).drop k ≠ [] := by
      rw [Ne, List.drop_eq_nil_iff]
      omega
    cases hm : a.mark with
    | none =>
      obtain ⟨c, hc⟩ := List.exists_mem_of_ne_nil _ hne
      rcases hfront c hc with h' | h'
      · rw [a.bare hm c (hw.subset hc)] at h'
        cases h'
      · rw [a.plain c (hw.subset hc)] at h'
        cases h'
    | some m =>
      have hlast : m.char ∈ (a.front pending).drop k := by
        have hq : a.front pending = pending ++ a.gap ++ [m.char] := by
          simp [front, quote, hm]
        rw [hq, List.length_append, List.length_singleton] at hk
        rw [hq, List.drop_append_of_le_length (by omega)]
        simp
      have h' := m.not_isPlain_char
      rw [a.plain m.char (hw.subset hlast)] at h'
      cases h'

/-- **A word is found where it is written.** -/
theorem find?_word {front pending : Text} (a : WrittenWord)
    (hpending : ∀ c ∈ pending, isPlain c = false) (rest : Text) :
    Text.find? (front ++ (a.front pending ++ (a.word ++ rest))) a.word front.length =
      some (front.length + (a.front pending).length) :=
  Text.find?_append fun _ hk => a.not_occurs hpending hk (a.word ++ rest)

/-! ## The fragments -/

namespace Highlighter

section
variable (h : Highlighter) (w : World) (e : Editor)

/-- The fragments of arguments and of what stands behind them, where `pending`
    is the closing quote of the argument in front. -/
def argumentFragments (trail : Text) : Text → List WrittenWord → Styled
  | pending, [] => Styled.unstyled (pending ++ trail)
  | pending, a :: as =>
    ⟨[], a.front pending⟩ :: (highlightArgument h.classifier h.arguments w e a.word ++
      argumentFragments trail a.quote as)

/-- The glue over a text is that text without a style. -/
theorem paint_glue (front s rest : Text) :
    (Span.glue front.length (front.length + s.length)).flatMap
      (h.paintSpan w e (front ++ (s ++ rest))) = Styled.unstyled s := by
  unfold Span.glue
  split_ifs with hs
  · have hslice : Text.slice (front ++ (s ++ rest)) front.length (front.length + s.length) = s := by
      refine Text.slice_of_occurs ?_ ?_
      · simp only [List.length_append]
        omega
      · rw [List.drop_left]
        exact List.prefix_append s rest
    rw [List.flatMap_cons, List.flatMap_nil, List.append_nil, paintSpan, Span.text, hslice]
  · have hnil : s = [] := List.eq_nil_of_length_eq_zero (by omega)
    rw [hnil]
    rfl

/-- The first argument is painted behind what stands in front of it, and the
    others are placed behind it. -/
theorem flatMap_place_word (front : Text) {pending : Text} (a : WrittenWord)
    (hpending : ∀ c ∈ pending, isPlain c = false) (rest : Text) (ws : List Text) :
    let buffer := front ++ (a.front pending ++ (a.word ++ rest))
    (place buffer front.length (a.word :: ws)).flatMap (h.paintSpan w e buffer) =
      ⟨[], a.front pending⟩ :: (highlightArgument h.classifier h.arguments w e a.word ++
        (place buffer (front ++ a.front pending ++ a.word).length ws).flatMap
          (h.paintSpan w e buffer)) := by
  intro buffer
  have hlen : ((front ++ a.front pending ++ a.word).length : ℤ) =
      ((front.length + (a.front pending).length : ℕ) : ℤ) + a.word.length := by
    rw [List.length_append, List.length_append]
    omega
  have hglue : (Span.glue front.length ((front.length + (a.front pending).length : ℕ) : ℤ)).flatMap
      (h.paintSpan w e buffer) = [⟨[], a.front pending⟩] := by
    rw [Int.natCast_add, h.paint_glue w e front (a.front pending) (a.word ++ rest), Styled.unstyled,
      Styled.run_of_ne_nil (a.front_ne_nil pending)]
  rw [place_of_find ws (find?_word a hpending rest), List.flatMap_append, List.flatMap_cons, hglue,
    hlen]
  rfl

/-- **Every argument is placed where it is written.** -/
theorem flatMap_place (trail : Text) : ∀ (front pending : Text) (as : List WrittenWord),
    (∀ c ∈ pending, isPlain c = false) →
    let buffer := front ++ (pending ++ (argumentsText as ++ trail))
    (place buffer front.length (as.map WrittenWord.word)).flatMap (h.paintSpan w e buffer) =
      h.argumentFragments w e trail pending as
  | front, pending, [], _ => by
    intro buffer
    have hbuffer : buffer = front ++ (pending ++ trail ++ []) := by
      simp [buffer, argumentsText]
    have hlen : (buffer.length : ℤ) = front.length + (pending ++ trail).length := by
      rw [hbuffer, List.append_nil, List.length_append]
      omega
    rw [List.map_nil, place, hlen, hbuffer, h.paint_glue w e]
    rfl
  | front, pending, a :: as, hpending => by
    intro buffer
    have hbuffer : buffer = front ++ (a.front pending ++
        (a.word ++ (a.quote ++ (argumentsText as ++ trail)))) := by
      simp [buffer, argumentsText_cons, WrittenWord.front, WrittenWord.raw]
    have hnext : buffer = front ++ a.front pending ++ a.word ++
        (a.quote ++ (argumentsText as ++ trail)) := by
      simp [hbuffer]
    have ih := flatMap_place trail (front ++ a.front pending ++ a.word) a.quote as
      fun c hc => not_isPlain_of_mem_quote hc
    simp only [← hnext] at ih
    have hword := h.flatMap_place_word w e front a hpending
      (a.quote ++ (argumentsText as ++ trail)) (as.map WrittenWord.word)
    simp only [← hbuffer] at hword
    rw [List.map_cons, hword, ih]
    rfl

/-- **The arguments are highlighted as paths, each where it is written.** In
    front of the first one stands the painted command, and what separates and
    encloses the arguments has no style. -/
theorem highlight_writtenLine (l : WrittenLine) (hmode : h.mode w e l.text = .file) :
    h.highlight w e l.text =
      paintWith h.command (l.lead ++ l.command) ++
        h.argumentFragments w e l.trail [] l.arguments := by
  rw [highlight, hmode]
  simp only [highlightFiles]
  rw [l.tokenEnd?_text, l.splitOpen_text]
  split_ifs with hrest
  · obtain ⟨harguments, htrail⟩ := List.append_eq_nil_iff.1 hrest
    cases hl : l.arguments with
    | nil =>
      rw [WrittenLine.text, hrest, List.append_nil, htrail]
      simp [argumentFragments, Styled.unstyled, Styled.run]
    | cons a as =>
      rw [hl, argumentsText_cons] at harguments
      exact absurd (List.append_eq_nil_iff.1 (List.append_eq_nil_iff.1 harguments).1).1 a.gap_ne_nil
  · have hplace := h.flatMap_place w e l.trail (l.lead ++ l.command) [] l.arguments
      fun c hc => absurd hc List.not_mem_nil
    simp only [align, Option.getD_some, List.tail_cons]
    rw [show l.text.take (l.lead ++ l.command).length = l.lead ++ l.command from List.take_left]
    exact congrArg _ hplace

end

/-- Arguments with and without quotes, one with a separator at its beginning. -/
theorem highlight_writtenLine_ls :
    let h : Highlighter := { (default : Highlighter) with fileCommands := ["ls".toList] }
    let l : WrittenLine :=
      { lead := "\t".toList, command := "ls".toList,
        arguments :=
          [⟨" ".toList, some .single, " a".toList, by decide, by decide, by simp [isPlain],
              ⟨'a', by decide, rfl⟩, by simp⟩,
            ⟨"\n ".toList, none, "a".toList, by decide, by decide, by simp [isPlain],
              ⟨'a', by decide, rfl⟩, by simp [isSeparator]⟩],
        trail := " ".toList, lead_isGap := by decide, command_ne_nil := by decide,
        command_plain := by simp [isBlank, isPlain], trail_isGap := by decide }
    l.text = "\tls ' a'\n a ".toList ∧ h.mode default {} l.text = .file ∧
      h.highlight default {} l.text = paintWith none "\tls".toList ++
        (⟨[], " '".toList⟩ :: (highlightArgument h.classifier none default {} " a".toList ++
        (⟨[], "'\n ".toList⟩ :: (highlightArgument h.classifier none default {} "a".toList ++
        [⟨[], " ".toList⟩])))) := by
  intro h l
  have hmode : h.mode default {} l.text = .file := by decide
  exact ⟨by decide, hmode, h.highlight_writtenLine default {} l hmode⟩

end Highlighter

end ShellHighlight
