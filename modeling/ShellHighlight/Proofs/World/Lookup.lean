/-
  What lookups in a file tree have to do with each other.

  * `Walk.run` name by name: a name that leads nowhere, a link, and everything
    else (`run_cons_of_error`, `run_cons_of_link`, `run_cons_of_entry`);
  * `World.reach_of_inspect`: a place that is no link leads to itself;
  * `World.inspect_below`: where nothing is found, nothing is found below
    either, whatever names follow: also behind `..`, and through links.
-/
import ShellHighlight.World.Lookup
import ShellHighlight.Proofs.Outcome
import ShellHighlight.Proofs.World.Path

namespace ShellHighlight

/-! ## Walks -/

/-- Below anything but a directory no name leads anywhere. -/
theorem Position.step_of_not_directory {p : Position} (h : p.tree.entry.isDirectory = false)
    (name : Text) : p.step name = .error .notDirectory := by
  unfold step
  split
  · rename_i he
    rw [he] at h
    cases h
  · rename_i he
    rw [he] at h
    cases h
  · rfl

namespace Walk

/-- The walk from the same position, with other demands on how it ends. -/
def demand (s : Walk) (follow intoDirectory : Bool) : Walk :=
  { s with follow := follow, intoDirectory := intoDirectory }

section
variable (s : Walk) (path : Text) (follow intoDirectory : Bool)

theorem demand_self : s.demand s.follow s.intoDirectory = s := rfl

theorem demand_begin : (s.demand follow intoDirectory).spend.begin path =
    (s.spend.begin path).demand follow intoDirectory := by
  unfold begin
  split_ifs <;> rfl

theorem demand_toEnd : (s.toEnd path).demand follow intoDirectory =
    s.demand follow intoDirectory := by
  unfold toEnd
  split_ifs <;> rfl

theorem exists_toEnd_eq_demand : ∃ f d, s.toEnd path = s.demand f d := by
  unfold toEnd
  split_ifs
  · exact ⟨true, true, rfl⟩
  · exact ⟨_, _, s.demand_self.symm⟩

@[simp] theorem begin_follow : (s.begin path).follow = s.follow := by
  unfold begin
  split_ifs <;> rfl

@[simp] theorem begin_intoDirectory : (s.begin path).intoDirectory = s.intoDirectory := by
  unfold begin
  split_ifs <;> rfl

/-- A walk that has to lead to a directory follows the last link. -/
theorem toEnd_follow (h : s.intoDirectory → s.follow) :
    (s.toEnd path).intoDirectory → (s.toEnd path).follow := by
  unfold toEnd
  split_ifs
  · exact fun _ => rfl
  · exact h

end

/-- A walk ends where a name leads nowhere. -/
theorem run_cons_of_error {s : Walk} {name : Text} {reason : Errno}
    (hstep : s.here.step name = .error reason) (names : List Text) :
    s.run (name :: names) = .error reason := by
  rw [run, hstep]

/-- A walk goes on behind anything but a link. -/
theorem run_cons_of_entry {s : Walk} {name : Text} {p : Position}
    (hstep : s.here.step name = .ok p) (hp : ∀ target, p.tree.entry ≠ .link target)
    (names : List Text) : s.run (name :: names) = run { s with here := p } names := by
  rw [run, hstep]
  dsimp only
  split
  · rename_i target hlink
    exact absurd hlink (hp target)
  · rfl

/-- A walk goes on behind a directory. -/
theorem run_cons_of_directory {s : Walk} {name : Text} {names : List Text} {p : Position}
    (hstep : s.here.step name = .ok p) (hp : p.tree.entry = .directory) :
    s.run (name :: names) = run { s with here := p } names :=
  run_cons_of_entry hstep (by simp [hp]) names

/-- A link is where the walk ends, or it is followed. -/
theorem run_cons_of_link {s : Walk} {name target : Text} {p : Position}
    (hstep : s.here.step name = .ok p) (hp : p.tree.entry = .link target) (names : List Text) :
    s.run (name :: names) =
      if names = [] ∧ s.follow = false then .ok { s with here := p }
      else if target = [] then .error .noEntry
      else if s.links = 0 then .error .linkLoop
      else if names = [] then run ((s.spend.begin target).toEnd target) (components target)
      else run (s.spend.begin target) (components target ++ names) := by
  rw [run, hstep]
  simp only [hp, List.isEmpty_iff, Bool.and_eq_true, Bool.not_eq_true', dite_eq_ite]

/-- A link with names behind it is followed, whatever the walk is to lead to. -/
theorem run_demand_cons_of_link {s : Walk} {name target : Text} {p : Position}
    (hstep : s.here.step name = .ok p) (hp : p.tree.entry = .link target) {names : List Text}
    (hnames : names ≠ []) (follow intoDirectory : Bool) :
    (s.demand follow intoDirectory).run (name :: names) =
      if target = [] then .error .noEntry
      else if s.links = 0 then .error .linkLoop
      else ((s.spend.begin target).demand follow intoDirectory).run (components target ++ names) := by
  rw [run_cons_of_link (s := s.demand follow intoDirectory) hstep hp, if_neg fun hn => hnames hn.1,
    if_neg hnames, demand_begin]
  rfl

/-- Induction along a walk, with a case for each way that it goes on at a name. -/
@[elab_as_elim]
theorem run_induction {motive : Walk → List Text → Prop} (nil : ∀ s, motive s [])
    (error : ∀ {s : Walk} {name : Text} {reason : Errno} (names : List Text),
      s.here.step name = .error reason → motive s (name :: names))
    (link : ∀ {s : Walk} {name target : Text} {p : Position} (names : List Text),
      s.here.step name = .ok p → p.tree.entry = .link target →
        (names = [] → s.follow = true → target ≠ [] → s.links ≠ 0 →
          motive ((s.spend.begin target).toEnd target) (components target)) →
        (names ≠ [] → target ≠ [] → s.links ≠ 0 →
          motive (s.spend.begin target) (components target ++ names)) →
        motive s (name :: names))
    (entry : ∀ {s : Walk} {name : Text} {p : Position} (names : List Text),
      s.here.step name = .ok p → (∀ target, p.tree.entry ≠ .link target) →
        motive { s with here := p } names → motive s (name :: names))
    (s : Walk) (names : List Text) : motive s names := by
  induction s, names using run.induct with
  | case1 s => exact nil s
  | case2 s name names reason hstep => exact error names hstep
  | case3 s name names p hstep target hp hlast =>
    refine link names hstep hp (fun hnames hfollow => ?_) fun hnames => ?_
    · simp [hnames, hfollow] at hlast
    · simp [hnames] at hlast
  | case4 s name names p hstep target hp hlast htarget =>
    have hnil := List.isEmpty_iff.1 htarget
    exact link names hstep hp (fun _ _ hne => absurd hnil hne) fun _ hne => absurd hnil hne
  | case5 s name names p hstep target hp hlast htarget hlinks =>
    exact link names hstep hp (fun _ _ _ hne => absurd hlinks hne) fun _ _ hne => absurd hlinks hne
  | case6 s name names p hstep target hp hlast htarget hlinks hnames ih =>
    exact link names hstep hp (fun _ _ _ _ => ih) fun hne => absurd (List.isEmpty_iff.1 hnames) hne
  | case7 s name names p hstep target hp hlast htarget hlinks hnames ih =>
    exact link names hstep hp (fun hnil => absurd (List.isEmpty_iff.2 hnil) hnames) fun _ _ _ => ih
  | case8 s name names p hstep hp ih => exact entry names hstep hp ih

/-- A walk that comes to no link comes there as well if it is to follow one. -/
theorem exists_run_demand_follow {s : Walk} {names : List Text} {t : Walk}
    (h : s.run names = .ok t) (ht : ∀ target, t.here.tree.entry ≠ .link target) :
    ∃ t', (s.demand true s.intoDirectory).run names = .ok t' ∧ t'.arrive = t.arrive := by
  induction s, names using run_induction generalizing t with
  | nil s =>
    rw [run, Except.ok.injEq] at h
    subst h
    exact ⟨s.demand true s.intoDirectory, by rw [run], rfl⟩
  | error names hstep =>
    rw [run_cons_of_error hstep] at h
    cases h
  | @link s name target p names hstep hp _ ih =>
    rcases hfollow : s.follow with _ | _
    · rw [run_cons_of_link hstep hp, hfollow] at h
      split_ifs at h with hlast htarget hlinks hnames
      · cases h
        exact absurd hp (ht target)
      · exact absurd ⟨hnames, rfl⟩ hlast
      · have hinto : s.intoDirectory = (s.spend.begin target).intoDirectory := by
          rw [begin_intoDirectory]
          rfl
        rw [run_demand_cons_of_link hstep hp hnames, if_neg htarget, if_neg hlinks, hinto]
        exact ih hnames htarget hlinks h ht
    · have hself : s.demand true s.intoDirectory = s := by
        rw [← hfollow]
        rfl
      exact ⟨t, by rw [hself]; exact h, rfl⟩
  | @entry s name p names hstep hp ih =>
    rw [run_cons_of_entry hstep hp] at h
    rw [run_cons_of_entry (s := s.demand true s.intoDirectory) hstep hp]
    exact ih h ht

theorem entry_of_arrive {s : Walk} {e : Entry} (h : s.arrive = .ok e) :
    s.here.tree.entry = e := by
  unfold arrive at h
  split_ifs at h
  exact Except.ok.inj h

theorem isDirectory_of_arrive {s : Walk} {reason : Errno} (h : s.arrive = .error reason) :
    s.here.tree.entry.isDirectory = false := by
  unfold arrive at h
  split_ifs at h with hdir
  simpa using (Bool.and_eq_true_iff.1 hdir).2

/-- **Nothing is found below what is not found.** Let a walk fail, be it on the way
    or because it has to lead to a directory. Then it fails with more names
    behind, whatever it is to lead to. -/
theorem exists_error_of_run_append {s : Walk} {names more : List Text} {reason : Errno}
    (h : s.run names >>= arrive = .error reason) (hs : s.intoDirectory → s.follow)
    (hmore : more ≠ []) (follow intoDirectory : Bool) :
    ∃ reason', (s.demand follow intoDirectory).run (names ++ more) = .error reason' := by
  induction s, names using run_induction generalizing follow intoDirectory with
  | nil s =>
    obtain ⟨name, more, rfl⟩ := List.exists_cons_of_ne_nil hmore
    rw [run] at h
    have hdir : s.here.tree.entry.isDirectory = false := isDirectory_of_arrive h
    exact ⟨_, run_cons_of_error (s := s.demand follow intoDirectory)
      (Position.step_of_not_directory hdir name) more⟩
  | @error s name _ names hstep =>
    exact ⟨_, run_cons_of_error (s := s.demand follow intoDirectory) hstep (names ++ more)⟩
  | @link s name target p names hstep hp ihlast ih =>
    have hnames : names ++ more ≠ [] := List.append_ne_nil_of_right_ne_nil _ hmore
    have hbegin : (s.spend.begin target).intoDirectory → (s.spend.begin target).follow := by
      rw [begin_intoDirectory, begin_follow]
      exact hs
    rw [run_cons_of_link hstep hp] at h
    rw [List.cons_append, run_demand_cons_of_link hstep hp hnames]
    split_ifs with htarget hlinks
    · exact ⟨_, rfl⟩
    · exact ⟨_, rfl⟩
    split_ifs at h with hlast hnil
    · -- A link that is not followed leads to itself, unless it has to be a directory.
      have harrive : arrive { s with here := p } = .error reason := h
      unfold arrive at harrive
      split_ifs at harrive with hdir
      have hfollow := hs (Bool.and_eq_true_iff.1 hdir).1
      rw [hlast.2] at hfollow
      cases hfollow
    · have hfollow : s.follow = true := by
        by_contra hf
        exact hlast ⟨hnil, by simpa using hf⟩
      rw [hnil, List.nil_append, ← (s.spend.begin target).demand_toEnd target]
      exact ihlast hnil hfollow htarget hlinks h (toEnd_follow _ _ hbegin) follow intoDirectory
    · rw [← List.append_assoc]
      exact ih hnil htarget hlinks h hbegin follow intoDirectory
  | @entry s name p names hstep hp ih =>
    rw [run_cons_of_entry hstep hp] at h
    rw [List.cons_append, run_cons_of_entry (s := s.demand follow intoDirectory) hstep hp]
    exact ih h hs follow intoDirectory

end Walk

/-! ## Lookups -/

namespace World

variable {w : World} {path : Text}

/-- A lookup finds an entry if it goes all the way to it. -/
theorem lookup_eq_ok_iff {follow : Bool} {e : Entry} :
    w.lookup follow path = .ok e ↔
      ('\x00' ∉ path ∧ path ≠ [] ∧ Text.byteCount path ≤ pathLimit) ∧
        ∃ t, (w.walk follow path).run (components path) = .ok t ∧ t.arrive = .ok e := by
  unfold lookup
  split_ifs with hnull hnil hlong
  · simp [List.contains_iff_mem.1 hnull]
  · simp [List.isEmpty_iff.1 hnil]
  · simp only [false_iff, not_and]
    rintro ⟨-, -, hle⟩
    omega
  · have hfits : '\x00' ∉ path ∧ path ≠ [] ∧ Text.byteCount path ≤ pathLimit :=
      ⟨by simpa using hnull, by simpa using hnil, by omega⟩
    simp only [mapError_eq_ok_iff, bind_eq_ok_iff, hfits, true_and, ne_eq, not_false_eq_true]

/-- A lookup that is to follow a last link begins in the same way. -/
theorem walk_follow (w : World) (path : Text) :
    w.walk true path = (w.walk false path).demand true (w.walk false path).intoDirectory := by
  unfold walk Walk.toEnd Walk.begin
  split_ifs <;> rfl

/-- A lookup that has to lead to a directory follows the last link. -/
theorem walk_intoDirectory (w : World) (follow : Bool) (path : Text) :
    (w.walk follow path).intoDirectory → (w.walk follow path).follow :=
  Walk.toEnd_follow _ _ (by simp)

/-- **A place that is no link leads to itself.** -/
theorem reach_of_inspect {e : Entry} (h : w.inspect path = .ok e)
    (he : ∀ target, e ≠ .link target) : w.reach path = .ok e := by
  obtain ⟨hfits, t, ht, harrive⟩ := lookup_eq_ok_iff.1 h
  have hlink : ∀ target, t.here.tree.entry ≠ .link target := by
    rw [Walk.entry_of_arrive harrive]
    exact he
  obtain ⟨t', ht', harrive'⟩ := Walk.exists_run_demand_follow ht hlink
  rw [← walk_follow] at ht'
  exact lookup_eq_ok_iff.2 ⟨hfits, t', ht', harrive'.trans harrive⟩

theorem mayExecute_of_inspect {e : Entry} (h : w.inspect path = .ok e)
    (he : ∀ target, e ≠ .link target) : w.mayExecute path = e.isExecutable := by
  unfold mayExecute
  rw [reach_of_inspect h he]

/-- Lookups that begin at the same place begin in the same way, apart from what
    they are to lead to. -/
theorem exists_walk_eq_demand (w : World) {longer : Text}
    (habs : isAbsolute longer = isAbsolute path) :
    ∃ f d, w.walk false longer = (w.walk false path).demand f d := by
  have hbegin (s : Walk) : s.begin longer = s.begin path := by
    rw [Walk.begin, Walk.begin, habs]
  obtain ⟨f, d, hdemand⟩ := Walk.exists_toEnd_eq_demand
    (Walk.begin ⟨w.here, Position.root w.tree, linkLimit, false, false⟩ path) longer
  exact ⟨f, d, by rw [walk, hbegin, hdemand, walk, Walk.demand_toEnd]⟩

/-- What a lookup that finds nothing goes through. -/
theorem run_of_inspect_missing {reason : Errno} (h : w.inspect path = .error (.refused reason))
    (hmissing : reason.isMissing) (hpath : path ≠ []) :
    (w.walk false path).run (components path) >>= Walk.arrive = .error reason := by
  unfold inspect lookup at h
  split_ifs at h with hnull hnil hlong
  · cases h
  · exact absurd (List.isEmpty_iff.1 hnil) hpath
  · cases h
    cases hmissing
  · obtain ⟨reason', herror, heq⟩ := mapError_eq_error_iff.1 h
    cases heq
    exact herror

/-- **Below a path where nothing is there is nothing.** -/
theorem inspect_below {rest longer : Text} {reason : Errno}
    (h : w.inspect path = .error (.refused reason)) (hmissing : reason.isMissing)
    (hpath : path ≠ []) (hlonger : Continues path rest longer) (hrest : components rest ≠ []) :
    ∃ err, w.inspect longer = .error err := by
  rcases hfound : w.inspect longer with err | e
  · exact ⟨err, rfl⟩
  obtain ⟨-, t, ht, -⟩ := lookup_eq_ok_iff.1 hfound
  obtain ⟨f, d, hdemand⟩ := w.exists_walk_eq_demand (hlonger.isAbsolute_eq hpath)
  have hfail := run_of_inspect_missing h hmissing hpath
  rw [hlonger.components_eq, hdemand] at ht
  obtain ⟨reason', herror⟩ :=
    Walk.exists_error_of_run_append hfail (w.walk_intoDirectory false path) hrest f d
  rw [herror] at ht
  cases ht

end World

end ShellHighlight
