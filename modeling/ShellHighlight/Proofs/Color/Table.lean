/-
  Which entries of a text count in the table of styles that it gives.

  * A table is its keys in order and what each of them selects
    (`StyleTable.eq_of_keys_of_find?`); `insert` and `overlay` are known by both;
  * `Gives` says what an entry is that counts: a key, an equals sign and a value
    that is not refused;
  * `StyleTable.ofEntries` is the table of a list of entries, and behind one more
    entry it changes by that entry only (`ofEntries_concat`), so that the facts
    about it follow by induction from the end of the list;
  * `StyleTable.ofText_gives`: what a text gives, key by key and in which order,
    and that two texts that are joined give one table over the other.
-/
import ShellHighlight.Color.Table
import ShellHighlight.Proofs.Outcome
import ShellHighlight.Proofs.Text
import Mathlib.Data.List.Nodup
import Mathlib.Data.List.TakeWhile

namespace ShellHighlight.StyleTable

variable {t u top : StyleTable} {key : Text} {ws : List StyleWord}

/-! ## Tables by their keys -/

theorem lookup_cons_eq (e : Text × List StyleWord) (es : List (Text × List StyleWord)) (key : Text) :
    (e :: es).lookup key = if e.1 = key then some e.2 else es.lookup key := by
  rw [List.lookup_cons]
  by_cases h : e.1 = key
  · simp [h]
  · rw [if_neg h, beq_eq_false_iff_ne.2 (Ne.symm h)]

theorem find?_eq_none_iff : t.find? key = none ↔ key ∉ t.keys := by
  rw [find?, keys, List.lookup_eq_none_iff, List.mem_map]
  constructor
  · rintro h ⟨e, he, rfl⟩
    simpa using h e he
  · intro h e he
    simpa using fun heq : key = e.1 => h ⟨e, he, heq.symm⟩

/-- With each key once, a table is its keys and what they select. -/
theorem entries_eq (h : t.keys.Nodup) :
    t.entries = t.keys.map fun key => (key, (t.find? key).getD []) := by
  obtain ⟨es⟩ := t
  simp only [keys, find?] at h ⊢
  induction es with
  | nil => rfl
  | cons e es ih =>
    obtain ⟨hnotMem, hes⟩ := List.nodup_cons.1 h
    rw [List.map_cons, List.map_cons, lookup_cons_eq, if_pos rfl]
    congr 1
    refine (ih hes).trans (List.map_congr_left fun key hkey => ?_)
    rw [lookup_cons_eq, if_neg fun heq : e.1 = key => hnotMem (by rwa [← heq] at hkey)]

theorem eq_of_keys_of_find? (h : t.keys.Nodup) (hkeys : t.keys = u.keys)
    (hfind : ∀ key, t.find? key = u.find? key) : t = u := by
  have hentries : t.entries = u.entries := by
    rw [entries_eq h, entries_eq (hkeys ▸ h), hkeys]
    simp only [hfind]
  obtain ⟨es⟩ := t
  obtain ⟨es'⟩ := u
  exact congrArg StyleTable.mk hentries

/-! ## One more entry -/

theorem find?_insert (t : StyleTable) (key : Text) (ws : List StyleWord) (k : Text) :
    (t.insert key ws).find? k = if key = k then some ws else t.find? k := by
  obtain ⟨es⟩ := t
  simp only [find?, insert]
  induction es with
  | nil => rw [insertEntry, lookup_cons_eq]
  | cons e es ih =>
    rw [insertEntry]
    by_cases he : e.1 = key
    · rw [if_pos he, lookup_cons_eq, lookup_cons_eq, he]
      split_ifs <;> rfl
    · rw [if_neg he, lookup_cons_eq, lookup_cons_eq, ih]
      split_ifs with hk hkey
      · exact absurd (hk.trans hkey.symm) he
      all_goals rfl

/-- A key keeps its place, and a new one comes last. -/
theorem keys_insert (t : StyleTable) (key : Text) (ws : List StyleWord) :
    (t.insert key ws).keys = if key ∈ t.keys then t.keys else t.keys ++ [key] := by
  obtain ⟨es⟩ := t
  simp only [keys, insert]
  induction es with
  | nil => rfl
  | cons e es ih =>
    rw [insertEntry]
    by_cases he : e.1 = key
    · simp [he]
    · rw [if_neg he, List.map_cons, ih]
      by_cases hmem : key ∈ es.map (·.1) <;> simp [hmem, Ne.symm he]

theorem mem_keys_insert {k : Text} : k ∈ (t.insert key ws).keys ↔ k = key ∨ k ∈ t.keys := by
  rw [keys_insert]
  split_ifs with h
  · exact ⟨.inr, fun hk => hk.elim (fun heq => heq ▸ h) id⟩
  · rw [List.mem_append, List.mem_singleton, or_comm]

theorem nodup_keys_insert (h : t.keys.Nodup) : (t.insert key ws).keys.Nodup := by
  rw [keys_insert]
  split_ifs with hmem
  · exact h
  · simpa using List.Nodup.concat hmem h

/-! ## One table over another -/

/-- The table `t` with `top` over it: a key of both selects what it does in `top`,
    and the keys that are new come behind those of `t`. -/
def overlay (t top : StyleTable) : StyleTable :=
  ⟨t.entries.map (fun e => (e.1, (top.find? e.1).getD e.2)) ++
    top.entries.filter fun e => e.1 ∉ t.keys⟩

theorem lookup_map_snd (f : Text → List StyleWord → List StyleWord)
    (es : List (Text × List StyleWord)) (key : Text) :
    (es.map fun e => (e.1, f e.1 e.2)).lookup key = (es.lookup key).map (f key) := by
  induction es with
  | nil => rfl
  | cons e es ih =>
    rw [List.map_cons, lookup_cons_eq, lookup_cons_eq, ih]
    split_ifs with he
    · rw [Option.map_some, he]
    · rfl

theorem lookup_filter_fst (p : Text → Bool) (es : List (Text × List StyleWord)) (key : Text) :
    (es.filter fun e => p e.1).lookup key = if p key then es.lookup key else none := by
  induction es with
  | nil => simp
  | cons e es ih =>
    rw [List.filter_cons]
    by_cases he : e.1 = key
    · subst he
      by_cases hp : p e.1 <;> simp [hp, ih, lookup_cons_eq]
    · rw [lookup_cons_eq, if_neg he, ← ih]
      split_ifs
      · rw [lookup_cons_eq, if_neg he]
      · rfl

theorem find?_overlay (t top : StyleTable) (key : Text) :
    (t.overlay top).find? key = (top.find? key).or (t.find? key) := by
  have hfind : (t.overlay top).find? key =
      ((t.find? key).map fun ws => (top.find? key).getD ws).or
        (if key ∉ t.keys then top.find? key else none) := by
    rw [find?, overlay, List.lookup_append,
      lookup_map_snd (fun key ws => (top.find? key).getD ws),
      lookup_filter_fst (fun key => decide (key ∉ t.keys))]
    simp only [find?, decide_eq_true_eq]
  rw [hfind]
  by_cases hkey : key ∈ t.keys
  · obtain ⟨ws, hws⟩ := Option.ne_none_iff_exists'.1 fun h => find?_eq_none_iff.1 h hkey
    rw [hws]
    cases top.find? key <;> rfl
  · rw [if_pos hkey, find?_eq_none_iff.2 hkey, Option.map_none, Option.none_or, Option.or_none]

theorem keys_overlay (t top : StyleTable) :
    (t.overlay top).keys = t.keys ++ top.keys.filter (· ∉ t.keys) := by
  simp only [keys, overlay, List.map_append, List.map_map, List.filter_map]
  rfl

theorem nodup_keys_overlay (ht : t.keys.Nodup) (htop : top.keys.Nodup) :
    (t.overlay top).keys.Nodup := by
  rw [keys_overlay]
  refine List.nodup_append.2 ⟨ht, htop.filter _, fun a ha b hb heq => ?_⟩
  have hb' : b ∉ t.keys := by simpa using (List.mem_filter.1 hb).2
  exact hb' (heq ▸ ha)

theorem overlay_empty (t : StyleTable) : t.overlay empty = t := by
  obtain ⟨es⟩ := t
  simp [overlay, empty, find?]

/-- **An entry for the upper table is one for the whole.** -/
theorem overlay_insert (ht : t.keys.Nodup) (htop : top.keys.Nodup) (key : Text)
    (ws : List StyleWord) : t.overlay (top.insert key ws) = (t.overlay top).insert key ws := by
  refine eq_of_keys_of_find? (nodup_keys_overlay ht (nodup_keys_insert htop)) ?_ fun k => ?_
  · rw [keys_insert, keys_overlay, keys_overlay, keys_insert]
    by_cases hkey : key ∈ t.keys <;> by_cases hmem : key ∈ top.keys <;> simp [hkey, hmem]
  · rw [find?_insert, find?_overlay, find?_overlay, find?_insert]
    split_ifs <;> rfl

/-! ## Entries -/

/-- `entry` gives `key` a style: it is the key and a value with the first equals
    sign between them, the key is not empty, and the value is not refused. -/
inductive Gives : (entry key style : Text) → Prop
  | intro {key value style : Text} : key ≠ [] → '=' ∉ key →
      Rendition.style? value = .ok style → Gives (key ++ '=' :: value) key style

theorem entry?_append (key value : Text) (hsign : '=' ∉ key) :
    entry? (key ++ '=' :: value) =
      if key = [] then none else (Rendition.words? value).toOption.map (key, ·) := by
  have hall : ∀ c ∈ key, (c != '=') = true := fun c hc => by
    simpa using fun heq : c = '=' => hsign (heq ▸ hc)
  have hdrop : (key ++ '=' :: value).dropWhile (· != '=') = '=' :: value := by
    rw [Text.dropWhile_append_stop rfl, List.dropWhile_eq_nil_iff.2 hall, List.nil_append]
  have htake : (key ++ '=' :: value).takeWhile (· != '=') = key := by
    rw [Text.takeWhile_append_stop rfl, List.takeWhile_eq_self_iff.2 hall]
  unfold entry?
  rw [hdrop, htake]
  simp only [List.isEmpty_iff]

theorem entry?_of_notMem {entry : Text} (h : '=' ∉ entry) : entry? entry = none := by
  have hdrop : entry.dropWhile (· != '=') = [] :=
    List.dropWhile_eq_nil_iff.2 fun c hc => by simpa using fun heq : c = '=' => h (heq ▸ hc)
  unfold entry?
  rw [hdrop]

/-- **What is read from an entry is what it gives.** -/
theorem gives_iff {entry style : Text} :
    Gives entry key style ↔ ∃ ws, entry? entry = some (key, ws) ∧ StyleWord.style ws = style := by
  constructor
  · rintro ⟨hkey, hsign, hvalue⟩
    obtain ⟨ws, hws, rfl⟩ := map_eq_ok_iff.1 hvalue
    exact ⟨ws, by rw [entry?_append _ _ hsign, if_neg hkey, hws]; rfl, rfl⟩
  · rintro ⟨ws, hentry, rfl⟩
    by_cases hmem : '=' ∈ entry
    · obtain ⟨front, value, rfl, hsign⟩ := List.eq_append_cons_of_mem hmem
      rw [entry?_append front value hsign] at hentry
      split_ifs at hentry with hfront
      obtain ⟨ws', hws', heq⟩ := Option.map_eq_some_iff.1 hentry
      cases heq
      rcases hvalue : Rendition.words? value with err | words
      · rw [hvalue] at hws'
        cases hws'
      · rw [hvalue] at hws'
        cases hws'
        exact .intro hfront hsign (map_eq_ok_iff.2 ⟨ws, hvalue, rfl⟩)
    · rw [entry?_of_notMem hmem] at hentry
      cases hentry

theorem Gives.key_unique {entry key' style style' : Text} (h : Gives entry key style)
    (h' : Gives entry key' style') : key = key' := by
  obtain ⟨ws, hentry, -⟩ := gives_iff.1 h
  obtain ⟨ws', hentry', -⟩ := gives_iff.1 h'
  exact congrArg Prod.fst (Option.some.inj (hentry.symm.trans hentry'))

theorem exists_gives_iff {entry : Text} :
    (∃ style, Gives entry key style) ↔ ∃ ws, entry? entry = some (key, ws) := by
  constructor
  · rintro ⟨style, hgives⟩
    obtain ⟨ws, hentry, -⟩ := gives_iff.1 hgives
    exact ⟨ws, hentry⟩
  · rintro ⟨ws, hentry⟩
    exact ⟨_, gives_iff.2 ⟨ws, hentry, rfl⟩⟩

theorem entry?_eq_none_iff {entry : Text} :
    entry? entry = none ↔ ∀ key style, ¬ Gives entry key style := by
  constructor
  · intro hnone key style hgives
    obtain ⟨ws, hentry, -⟩ := gives_iff.1 hgives
    rw [hnone] at hentry
    cases hentry
  · intro h
    by_contra hne
    obtain ⟨⟨key, ws⟩, hentry⟩ := Option.ne_none_iff_exists'.1 hne
    exact h key _ (gives_iff.2 ⟨ws, hentry, rfl⟩)

/-! ## Entry by entry -/

/-- The table that a list of entries gives. -/
def ofEntries (entries : List Text) : StyleTable :=
  (entries.filterMap entry?).foldl (fun t e => t.insert e.1 e.2) empty

theorem ofText_eq (spec : Text) : ofText spec = ofEntries (spec.splitOn ':') :=
  rfl

variable {entries before after : List Text} {entry : Text}

/-- An entry that gives nothing changes nothing. -/
theorem ofEntries_concat_of_none (h : entry? entry = none) :
    ofEntries (entries ++ [entry]) = ofEntries entries := by
  simp [ofEntries, List.filterMap_append, h]

theorem ofEntries_concat_of_some (h : entry? entry = some (key, ws)) :
    ofEntries (entries ++ [entry]) = (ofEntries entries).insert key ws := by
  simp [ofEntries, List.filterMap_append, h]

/-- Induction along the entries, from the first one on. -/
@[elab_as_elim]
theorem entries_induction {motive : List Text → Prop} (nil : motive [])
    (refused : ∀ {entries entry}, entry? entry = none → motive entries →
      motive (entries ++ [entry]))
    (accepted : ∀ {entries entry key ws}, entry? entry = some (key, ws) → motive entries →
      motive (entries ++ [entry]))
    (entries : List Text) : motive entries := by
  induction entries using List.reverseRecOn with
  | nil => exact nil
  | append_singleton entries entry ih =>
    rcases hentry : entry? entry with _ | ⟨key, ws⟩
    · exact refused hentry ih
    · exact accepted hentry ih

theorem nodup_keys_ofEntries (entries : List Text) : (ofEntries entries).keys.Nodup := by
  induction entries using entries_induction with
  | nil => exact List.nodup_nil
  | refused hentry ih => rwa [ofEntries_concat_of_none hentry]
  | accepted hentry ih =>
    rw [ofEntries_concat_of_some hentry]
    exact nodup_keys_insert ih

/-- The keys are those that some entry gives a style. -/
theorem mem_keys_ofEntries :
    key ∈ (ofEntries entries).keys ↔ ∃ entry ∈ entries, ∃ style, Gives entry key style := by
  simp only [exists_gives_iff]
  induction entries using entries_induction with
  | nil => simp [ofEntries, empty, keys]
  | refused hentry ih => simp [ofEntries_concat_of_none hentry, ih, hentry, or_and_right, exists_or]
  | accepted hentry ih =>
    rw [ofEntries_concat_of_some hentry, mem_keys_insert, ih]
    simp [hentry, or_and_right, exists_or, or_comm, eq_comm]

/-- What a key selects does not change by entries that give it no style. -/
theorem find?_ofEntries_append (h : ∀ entry ∈ after, ∀ style, ¬ Gives entry key style) :
    (ofEntries (before ++ after)).find? key = (ofEntries before).find? key := by
  induction after using entries_induction with
  | nil => rw [List.append_nil]
  | refused hentry ih =>
    rw [← List.append_assoc, ofEntries_concat_of_none hentry]
    exact ih fun entry hmem => h entry (List.mem_append_left _ hmem)
  | @accepted after entry key' ws hentry ih =>
    have hkey : key' ≠ key := by
      rintro rfl
      obtain ⟨style, hgives⟩ := exists_gives_iff.2 ⟨ws, hentry⟩
      exact h entry (by simp) style hgives
    rw [← List.append_assoc, ofEntries_concat_of_some hentry, find?_insert, if_neg hkey]
    exact ih fun entry hmem => h entry (List.mem_append_left _ hmem)

/-- **The last entry of a key counts.** -/
theorem style_ofEntries_of_last {style : Text} (hgives : Gives entry key style)
    (h : ∀ entry ∈ after, ∀ style, ¬ Gives entry key style) :
    (ofEntries (before ++ entry :: after)).style key = style := by
  obtain ⟨ws, hentry, rfl⟩ := gives_iff.1 hgives
  rw [List.append_cons, StyleTable.style, find?_ofEntries_append h,
    ofEntries_concat_of_some hentry, find?_insert, if_pos rfl]
  rfl

/-- A key that no entry gives a style has none. -/
theorem style_ofEntries_of_not_gives (h : ∀ entry ∈ entries, ∀ style, ¬ Gives entry key style) :
    (ofEntries entries).style key = [] := by
  have hfind : (ofEntries ([] ++ entries)).find? key = none := find?_ofEntries_append h
  rw [List.nil_append] at hfind
  rw [StyleTable.style, hfind]
  rfl

/-- An entry of `a` comes before all entries of `b`. -/
def GivesFirst (entries : List Text) (a b : Text) : Prop :=
  ∃ front entry back, entries = front ++ entry :: back ∧ (∃ style, Gives entry a style) ∧
    ∀ e ∈ front ++ [entry], ∀ style, ¬ Gives e b style

theorem GivesFirst.append {a b : Text} (h : GivesFirst entries a b) (more : List Text) :
    GivesFirst (entries ++ more) a b := by
  obtain ⟨front, entry, back, rfl, hgives, hfront⟩ := h
  exact ⟨front, entry, back ++ more, by rw [List.append_assoc, List.cons_append], hgives, hfront⟩

/-- The keys come in the order of their first entries. -/
theorem pairwise_keys_ofEntries (entries : List Text) :
    (ofEntries entries).keys.Pairwise (GivesFirst entries) := by
  induction entries using entries_induction with
  | nil => exact List.Pairwise.nil
  | @refused entries entry hentry ih =>
    rw [ofEntries_concat_of_none hentry]
    exact ih.imp fun h => h.append [entry]
  | @accepted entries entry key ws hentry ih =>
    have hbefore := ih.imp fun h => h.append [entry]
    rw [ofEntries_concat_of_some hentry, keys_insert]
    split_ifs with hkey
    · exact hbefore
    refine List.pairwise_append.2 ⟨hbefore, List.pairwise_singleton _ key, fun a ha b hb => ?_⟩
    obtain rfl := List.mem_singleton.1 hb
    obtain ⟨e, he, hgives⟩ := mem_keys_ofEntries.1 ha
    obtain ⟨front, back, rfl⟩ := List.append_of_mem he
    have hfirst : GivesFirst (front ++ e :: back) a b := by
      refine ⟨front, e, back, rfl, hgives, fun e' he' style hgives' => hkey ?_⟩
      refine mem_keys_ofEntries.2 ⟨e', ?_, style, hgives'⟩
      rw [List.append_cons]
      exact List.mem_append_left back he'
    exact hfirst.append [entry]

/-- **More entries give a table over that of the entries before them.** -/
theorem ofEntries_append (entries more : List Text) :
    ofEntries (entries ++ more) = (ofEntries entries).overlay (ofEntries more) := by
  induction more using entries_induction with
  | nil => rw [List.append_nil, show ofEntries [] = empty from rfl, overlay_empty]
  | refused hentry ih =>
    rw [← List.append_assoc, ofEntries_concat_of_none hentry, ofEntries_concat_of_none hentry, ih]
  | accepted hentry ih =>
    rw [← List.append_assoc, ofEntries_concat_of_some hentry, ofEntries_concat_of_some hentry, ih,
      overlay_insert (nodup_keys_ofEntries _) (nodup_keys_ofEntries _)]

/-! ## Texts -/

/-- **What a text gives.** Any text gives a table, where the entries are the parts
    between the colons. A key has the style of the last entry that gives it one,
    and none if there is no such entry. The keys that have such an entry come
    each once, in the order of their first ones. Two texts with a colon between
    them give the table of the second one over that of the first one, so that an
    entry that gives nothing takes nothing away. -/
theorem ofText_gives (spec : Text) :
    let table := ofText spec
    let entries := spec.splitOn ':'
    (∀ before entry after key style, entries = before ++ entry :: after →
        Gives entry key style → (∀ e ∈ after, ∀ s, ¬ Gives e key s) → table.style key = style) ∧
      (∀ key, (∀ e ∈ entries, ∀ s, ¬ Gives e key s) → table.style key = []) ∧
      (∀ key, key ∈ table.keys ↔ ∃ e ∈ entries, ∃ s, Gives e key s) ∧
      table.keys.Nodup ∧ table.keys.Pairwise (GivesFirst entries) ∧
      (∀ other, ofText (spec ++ ':' :: other) = table.overlay (ofText other)) ∧
      (∀ entry, ':' ∉ entry → (∀ key s, ¬ Gives entry key s) →
        ofText (spec ++ ':' :: entry) = table) := by
  intro table entries
  have happend (other : Text) : ofText (spec ++ ':' :: other) = table.overlay (ofText other) := by
    rw [ofText_eq, List.splitOn_append_cons_self, ofEntries_append]
    rfl
  refine ⟨fun before entry after key style hentries hgives hafter => ?_,
    fun key h => style_ofEntries_of_not_gives h, fun key => mem_keys_ofEntries,
    nodup_keys_ofEntries entries, pairwise_keys_ofEntries entries, happend,
    fun entry hcolon hrefused => ?_⟩
  · change (ofEntries entries).style key = style
    rw [hentries]
    exact style_ofEntries_of_last hgives hafter
  · have hnone : entry? entry = none := entry?_eq_none_iff.2 hrefused
    have hempty : ofText entry = empty := by
      rw [ofText_eq, List.splitOn_eq_singleton hcolon]
      simp [ofEntries, hnone]
    rw [happend, hempty, overlay_empty]

/-- A good entry with refused ones of the same key behind it. -/
theorem ofText_gives_refused :
    let spec := "di=1:di=x:di".toList
    Gives "di=1".toList "di".toList "bold".toList ∧
      (∀ e ∈ ["di=x".toList, "di".toList], ∀ key s, ¬ Gives e key s) ∧
      (∀ e ∈ spec.splitOn ':', ∀ s, ¬ Gives e "ex".toList s) ∧
      (∀ key s, ¬ Gives "=4".toList key s) ∧
      (ofText spec).style "di".toList = "bold".toList ∧
      (ofText spec).style "ex".toList = [] ∧
      ofText (spec ++ ':' :: "=4".toList) = ofText spec := by
  intro spec
  have hwords : Rendition.words? ['1'] = .ok [.effect .bold] := by
    change Rendition.scan ['1'] [] [1] = _
    rw [Rendition.scan]
    change Rendition.scan ['1'] [.effect .bold] [] = _
    rw [Rendition.scan]
  have hkey : "di".toList ≠ [] := List.cons_ne_nil _ _
  have hsign : '=' ∉ "di".toList := by decide
  have hgood : Gives "di=1".toList "di".toList "bold".toList :=
    .intro hkey hsign (map_eq_ok_iff.2 ⟨_, hwords, rfl⟩)
  have hrefused : ∀ e ∈ ["di=x".toList, "di".toList], ∀ key s, ¬ Gives e key s := by
    rintro e he
    rw [← entry?_eq_none_iff]
    rcases List.mem_cons.1 he with rfl | he
    · rfl
    · rw [List.mem_singleton.1 he]
      rfl
  have hempty : ∀ key s, ¬ Gives "=4".toList key s := entry?_eq_none_iff.1 rfl
  have hother : ∀ e ∈ spec.splitOn ':', ∀ s, ¬ Gives e "ex".toList s := by
    intro e he s hgives
    have hsplit : spec.splitOn ':' = "di=1".toList :: ["di=x".toList, "di".toList] := rfl
    rcases List.mem_cons.1 (hsplit ▸ he) with rfl | he
    · exact absurd (hgives.key_unique hgood) (by decide)
    · exact hrefused e he _ s hgives
  obtain ⟨hlast, hnone, -, -, -, -, hnothing⟩ := ofText_gives spec
  exact ⟨hgood, hrefused, hother, hempty,
    hlast [] _ _ _ _ rfl hgood fun e he => hrefused e he _, hnone _ hother,
    hnothing _ (by decide) hempty⟩

end ShellHighlight.StyleTable
