/-
  Registrations, and what they change in the answers of a session.

  * `Session.registered` are the names that are registered in each role, and
    `Request.names` are those that a request adds. A registration adds them and
    does nothing else (`mem_registered_after`, `unregistered_after`,
    `world_after_of_not_changesWorld`);
  * sessions that agree on some names (`Session.AgreeOn`) give the same answer for
    a line that invokes one of them (`AgreeOn.reply`), and a request keeps them so
    (`AgreeOn.after`). Whole runs are then alike (`AgreeOn.answers`);
  * `registration_framed`: the order of registrations does not matter, and each of
    them matters for its own names only.
-/
import ShellHighlight.Session
import ShellHighlight.Proofs.Command
import Mathlib.Data.List.Forall2
import Mathlib.Data.Set.Basic
import Mathlib.Logic.Relation

namespace ShellHighlight

/-! ## Names -/

/-- What a name can be registered as. -/
inductive Role where
  /-- A command whose arguments are paths. -/
  | fileCommand
  /-- A command. -/
  | command
  /-- An alias. -/
  | aliased

namespace Request

/-- The names that a request registers. -/
def names : Request → Role → List Text
  | addFileCommands names, .fileCommand => names
  | addCommands names, .command => names
  | addAlias name _, .aliased => [name]
  | _, _ => []

/-- The names that a list of requests registers. -/
def registered (rs : List Request) (role : Role) : Set Text :=
  {name | ∃ r ∈ rs, name ∈ r.names role}

/-- Whether a request registers names. -/
def isRegistration : Request → Bool
  | addFileCommands _ | addCommands _ | addAlias _ _ => true
  | _ => false

/-- Whether a request changes the files or the variables of the machine. -/
def changesWorld : Request → Bool
  | putEntries _ | removeEntry _ | setVariables _ => true
  | _ => false

/-- Whether a line is to be highlighted. -/
def isHighlight : Request → Bool
  | highlight _ _ => true
  | _ => false

theorem mem_registered_cons {r : Request} {rs : List Request} {role : Role} {name : Text} :
    name ∈ registered (r :: rs) role ↔ name ∈ r.names role ∨ name ∈ registered rs role :=
  List.exists_mem_cons_iff _ _ _

theorem notMem_registered_nil {role : Role} {name : Text} : name ∉ registered [] role :=
  fun ⟨_, hr, _⟩ => List.not_mem_nil hr

theorem not_isHighlight_of_isRegistration {r : Request} (h : r.isRegistration) :
    ¬ r.isHighlight := by
  cases r <;> first | exact Bool.false_ne_true | cases h

theorem changesWorld_of_isRegistration {r : Request} (h : r.isRegistration) :
    r.changesWorld = false := by
  cases r <;> first | rfl | cases h

/-- One rearrangement of the registrations between two lines. -/
inductive Rearranges : List Request → List Request → Prop
  /-- A registration is made later. -/
  | swap {r r' : Request} : r.isRegistration → ¬ r'.isHighlight → Rearranges [r, r'] [r', r]
  /-- A registration is made once more. -/
  | again {r : Request} : r.isRegistration → Rearranges [r] [r, r]
  /-- A registration of commands whose arguments are paths is made in two parts. -/
  | splitFileCommands (front back : List Text) : Rearranges [addFileCommands (front ++ back)]
      [addFileCommands front, addFileCommands back]
  /-- A registration of commands is made in two parts. -/
  | splitCommands (front back : List Text) : Rearranges [addCommands (front ++ back)]
      [addCommands front, addCommands back]
  /-- A part of a list is rearranged. -/
  | within {rs rs' : List Request} (front back : List Request) : Rearranges rs rs' →
      Rearranges (front ++ rs ++ back) (front ++ rs' ++ back)

end Request

/-- The name that a line invokes. A blank line invokes none. -/
def invoked? (buffer : Text) : Option Text :=
  (Text.words (Text.trim buffer)).head?.map commandName

namespace Highlighter

/-- A highlighter without the names that have been registered with it. -/
def unregistered (h : Highlighter) : Highlighter :=
  { h with fileCommands := [], registry := { h.registry with commands := [], aliases := [] } }

/-- The state of the editor and the invoked name decide the mode of a line. -/
theorem mode_eq (h : Highlighter) (w : World) (e : Editor) (buffer : Text) :
    h.mode w e buffer =
      if e.isMarking then .overlay else (invoked? buffer).elim .plain (h.commandMode w) := by
  rw [mode, invoked?]
  cases Text.words (Text.trim buffer) <;> rfl

/-- Names matter for the mode of a line and not for how it is painted. -/
theorem highlight_unregistered (h : Highlighter) (w : World) (e : Editor) (buffer : Text) :
    h.highlight w e buffer = match h.mode w e buffer with
      | .overlay => ShellHighlight.overlay e buffer
      | .file => h.unregistered.highlightFiles w e buffer
      | .command => h.unregistered.highlightCommand buffer
      | .language => paintWith h.unregistered.language buffer
      | .plain => Styled.unstyled buffer := by
  rw [highlight]
  cases h.mode w e buffer <;> rfl

end Highlighter

namespace Session

variable {s s' : Session} {names : Set Text} {name buffer : Text} {role : Role}
  {r : Request} {rs rs' : List Request}

/-- The names that are registered in a role. -/
def registered (s : Session) : Role → Set Text
  | .fileCommand => {name | name ∈ s.highlighter.fileCommands}
  | .command => {name | name ∈ s.highlighter.registry.commands}
  | .aliased => {name | ∃ expansion, (name, expansion) ∈ s.highlighter.registry.aliases}

/-! ## One request -/

/-- **A registration adds its names**, and no other request adds any. -/
theorem mem_registered_after :
    name ∈ (s.after r).registered role ↔ name ∈ r.names role ∨ name ∈ s.registered role := by
  cases r with
  | addFileCommands added =>
    cases role <;> simp [after, registered, Request.names, Highlighter.addFileCommands]
  | addCommands added =>
    cases role <;> simp [after, registered, Request.names, Registry.addCommands]
  | addAlias added expansion =>
    cases role with
    | aliased =>
      by_cases hname : name = added <;>
        simp [after, registered, Request.names, Registry.addAlias, hname]
    | _ => simp [after, registered, Request.names, Registry.addAlias]
  | _ => cases role <;> simp [after, registered, Request.names]

/-- Nothing else of a highlighter changes. -/
theorem unregistered_after :
    (s.after r).highlighter.unregistered = s.highlighter.unregistered := by
  cases r <;> rfl

theorem world_after_of_not_changesWorld (h : r.changesWorld = false) :
    (s.after r).world = s.world := by
  cases r <;> first | rfl | cases h

/-- What a request makes of a machine depends on the machine only. -/
theorem world_after_congr (h : s.world = s'.world) :
    (s.after r).world = (s'.after r).world := by
  cases r <;> simp [after, h]

/-! ## Sessions that agree -/

/-- Two sessions work on the same machine with the same highlighter, apart from
    registered names that are not among `names`. -/
structure AgreeOn (names : Set Text) (s s' : Session) : Prop where
  world : s.world = s'.world
  unregistered : s.highlighter.unregistered = s'.highlighter.unregistered
  registered : ∀ role, ∀ name ∈ names, name ∈ s.registered role ↔ name ∈ s'.registered role

namespace AgreeOn

/-- A name on which two sessions agree has the same mode in both. -/
theorem commandMode_eq (h : AgreeOn names s s') (hname : name ∈ names) :
    s.highlighter.commandMode s.world name = s'.highlighter.commandMode s'.world name := by
  have hfile : s.highlighter.fileCommands.contains name =
      s'.highlighter.fileCommands.contains name := by
    rw [Bool.eq_iff_iff, List.contains_iff_mem, List.contains_iff_mem]
    exact h.registered .fileCommand name hname
  have hcommands : s.highlighter.registry.commands.contains name =
      s'.highlighter.registry.commands.contains name := by
    rw [Bool.eq_iff_iff, List.contains_iff_mem, List.contains_iff_mem]
    exact h.registered .command name hname
  have hscripts : s.highlighter.registry.scripts = s'.highlighter.registry.scripts :=
    congrArg (·.registry.scripts) h.unregistered
  have hsearch : s.highlighter.registry.searchPath = s'.highlighter.registry.searchPath :=
    congrArg (·.registry.searchPath) h.unregistered
  have hcommand : s.highlighter.registry.isCommandOrScript s.world name =
      s'.highlighter.registry.isCommandOrScript s'.world name := by
    rw [Registry.isCommandOrScript, hcommands, hscripts, hsearch, h.world]
    rfl
  have halias : s.highlighter.registry.isAlias name = s'.highlighter.registry.isAlias name := by
    rw [Bool.eq_iff_iff, Registry.isAlias_iff, Registry.isAlias_iff]
    exact h.registered .aliased name hname
  have hlanguage : s.highlighter.language = s'.highlighter.language :=
    congrArg (·.language) h.unregistered
  rw [Highlighter.commandMode, hfile, hcommand, halias, hlanguage]
  rfl

/-- **Sessions answer alike** for a line that invokes no name but one on which they
    agree. -/
theorem reply (h : AgreeOn names s s') (hbuffer : ∀ name ∈ invoked? buffer, name ∈ names)
    (e : Editor) : s.reply (.highlight e buffer) = s'.reply (.highlight e buffer) := by
  have hmode : s.highlighter.mode s.world e buffer = s'.highlighter.mode s'.world e buffer := by
    rw [Highlighter.mode_eq, Highlighter.mode_eq]
    cases hinvoked : invoked? buffer with
    | none => rfl
    | some name => rw [Option.elim_some, Option.elim_some, h.commandMode_eq (hbuffer name hinvoked)]
  rw [Session.reply, Session.reply, Highlighter.highlight_unregistered,
    Highlighter.highlight_unregistered, hmode, h.world, h.unregistered]

/-- **A request keeps sessions in agreement.** -/
theorem after (h : AgreeOn names s s') (r : Request) : AgreeOn names (s.after r) (s'.after r) where
  world := world_after_congr h.world
  unregistered := by rw [unregistered_after, unregistered_after, h.unregistered]
  registered role name hname := by
    rw [mem_registered_after, mem_registered_after, h.registered role name hname]

end AgreeOn

/-- A registration keeps a session as it is for all other names. -/
theorem agreeOn_after (hr : r.isRegistration) :
    AgreeOn {name | ∀ role, name ∉ r.names role} (s.after r) s where
  world := world_after_of_not_changesWorld (Request.changesWorld_of_isRegistration hr)
  unregistered := unregistered_after
  registered role name hname := by rw [mem_registered_after, or_iff_right (hname role)]

/-! ## Runs -/

theorem run_append (s : Session) (front back : List Request) :
    s.run (front ++ back) = s.run front ++ (front.foldl after s).run back := by
  induction front generalizing s with
  | nil => rfl
  | cons r front ih => rw [List.cons_append, run, run, ih, List.cons_append, List.foldl_cons]

theorem length_run (s : Session) (rs : List Request) : (s.run rs).length = rs.length := by
  induction rs generalizing s with
  | nil => rfl
  | cons r rs ih => rw [run, List.length_cons, List.length_cons, ih]

/-- The answer in the middle of a run is that of the session after the requests in
    front. -/
theorem getElem?_run (s : Session) (front back : List Request) (r : Request) :
    (s.run (front ++ r :: back))[front.length]? = some ((front.foldl after s).reply r) := by
  rw [run_append, ← s.length_run front, List.getElem?_append_right le_rfl, Nat.sub_self, run]
  rfl

/-- The lines that are highlighted in a run, with the answers to them. -/
def answers (s : Session) (rs : List Request) : List (Text × Reply) :=
  (rs.zip (s.run rs)).filterMap fun p => match p.1 with
    | .highlight _ buffer => some (buffer, p.2)
    | _ => none

theorem answers_highlight_cons (e : Editor) :
    s.answers (.highlight e buffer :: rs) =
      (buffer, s.reply (.highlight e buffer)) :: s.answers rs :=
  rfl

theorem answers_cons_of_not_isHighlight (h : ¬ r.isHighlight) :
    s.answers (r :: rs) = (s.after r).answers rs := by
  cases r <;> first | rfl | exact absurd rfl h

theorem answers_eq_nil (h : ∀ r ∈ rs, ¬ r.isHighlight) : s.answers rs = [] := by
  induction rs generalizing s with
  | nil => rfl
  | cons r rs ih =>
    obtain ⟨hr, hrs⟩ := List.forall_mem_cons.1 h
    rw [answers_cons_of_not_isHighlight hr, ih hrs]

theorem answers_append (s : Session) (front back : List Request) :
    s.answers (front ++ back) = s.answers front ++ (front.foldl after s).answers back := by
  rw [answers, answers, answers, run_append, List.zip_append (s.length_run front).symm,
    List.filterMap_append]

/-- Two answers to the same line, which differ only if the line invokes a name that is
    not among `names`. -/
def Alike (names : Set Text) (a a' : Text × Reply) : Prop :=
  a.1 = a'.1 ∧ (a.2 ≠ a'.2 → ∃ name ∈ invoked? a.1, name ∉ names)

/-- **Runs of sessions that agree are alike.** -/
theorem AgreeOn.answers (h : AgreeOn names s s') (rs : List Request) :
    List.Forall₂ (Alike names) (s.answers rs) (s'.answers rs) := by
  induction rs generalizing s s' with
  | nil => exact .nil
  | cons r rs ih =>
    by_cases hr : r.isHighlight
    · cases r with
      | highlight e buffer =>
        rw [answers_highlight_cons, answers_highlight_cons]
        refine .cons ⟨rfl, fun hne => ?_⟩ (ih h)
        by_contra hnone
        exact hne (h.reply (by simpa using hnone) e)
      | _ => cases hr
    · rw [answers_cons_of_not_isHighlight hr, answers_cons_of_not_isHighlight hr]
      exact ih (h.after r)

theorem AgreeOn.answers_eq (h : AgreeOn Set.univ s s') (rs : List Request) :
    s.answers rs = s'.answers rs := by
  rw [← List.forall₂_eq_eq_eq]
  refine (h.answers rs).imp fun a a' halike => Prod.ext halike.1 ?_
  by_contra hne
  obtain ⟨name, -, hname⟩ := halike.2 hne
  exact hname (Set.mem_univ name)

/-! ## After several requests -/

theorem AgreeOn.foldl (h : AgreeOn names s s') (rs : List Request) :
    AgreeOn names (rs.foldl Session.after s) (rs.foldl Session.after s') := by
  induction rs generalizing s s' with
  | nil => exact h
  | cons r rs ih => exact ih (h.after r)

theorem mem_registered_foldl : name ∈ (rs.foldl after s).registered role ↔
    name ∈ Request.registered rs role ∨ name ∈ s.registered role := by
  induction rs generalizing s with
  | nil => rw [List.foldl_nil, or_iff_right Request.notMem_registered_nil]
  | cons r rs ih =>
    rw [List.foldl_cons, ih, mem_registered_after, Request.mem_registered_cons, or_assoc,
      or_left_comm]

theorem unregistered_foldl :
    (rs.foldl after s).highlighter.unregistered = s.highlighter.unregistered := by
  induction rs generalizing s with
  | nil => rfl
  | cons r rs ih => rw [List.foldl_cons, ih, unregistered_after]

/-- The machine is what the requests that change it have made of it. -/
theorem world_foldl (h : s.world = s'.world) (rs : List Request) :
    (rs.foldl after s).world = ((rs.filter (·.changesWorld)).foldl after s').world := by
  induction rs generalizing s s' with
  | nil => exact h
  | cons r rs ih =>
    rw [List.filter_cons, List.foldl_cons]
    split_ifs with hr
    · exact ih (world_after_congr h)
    · exact ih ((world_after_of_not_changesWorld (Bool.eq_false_iff.2 hr)).trans h)

/-- **Only the names and the machine count**: two lists of requests that register the
    same names and change the machine alike lead to sessions that agree. -/
theorem agreeOn_foldl (hworld : rs.filter (·.changesWorld) = rs'.filter (·.changesWorld))
    (hnames : ∀ role, Request.registered rs role = Request.registered rs' role) :
    AgreeOn Set.univ (rs.foldl after s) (rs'.foldl after s) where
  world := by rw [world_foldl rfl rs, world_foldl rfl rs', hworld]
  unregistered := by rw [unregistered_foldl, unregistered_foldl]
  registered role name _ := by rw [mem_registered_foldl, mem_registered_foldl, hnames]

/-! ## Rearranged registrations -/

/-- Between two lines, too, only the names and the machine count. -/
theorem answers_of_gap (hrs : ∀ r ∈ rs, ¬ r.isHighlight) (hrs' : ∀ r ∈ rs', ¬ r.isHighlight)
    (hworld : rs.filter (·.changesWorld) = rs'.filter (·.changesWorld))
    (hnames : ∀ role, Request.registered rs role = Request.registered rs' role) (s : Session) :
    s.answers rs = s.answers rs' ∧ AgreeOn Set.univ (rs.foldl after s) (rs'.foldl after s) :=
  ⟨by rw [answers_eq_nil hrs, answers_eq_nil hrs'], agreeOn_foldl hworld hnames⟩

/-- **A rearrangement changes no answer**, and it leads to a session that agrees. -/
theorem answers_of_rearranges (h : Request.Rearranges rs rs') : ∀ s : Session,
    s.answers rs = s.answers rs' ∧
      AgreeOn Set.univ (rs.foldl after s) (rs'.foldl after s) := by
  induction h with
  | @swap r r' hr hr' =>
    have hhighlight := Request.not_isHighlight_of_isRegistration hr
    have hchanges := Request.changesWorld_of_isRegistration hr
    refine answers_of_gap (by simp [hhighlight, hr']) (by simp [hhighlight, hr'])
      (by simp [List.filter_cons, hchanges]) fun role => ?_
    ext name
    simp only [Request.mem_registered_cons, or_left_comm]
  | @again r hr =>
    have hhighlight := Request.not_isHighlight_of_isRegistration hr
    have hchanges := Request.changesWorld_of_isRegistration hr
    refine answers_of_gap (by simp [hhighlight]) (by simp [hhighlight]) (by simp [hchanges])
      fun role => ?_
    ext name
    simp only [Request.mem_registered_cons, ← or_assoc, or_self]
  | splitFileCommands front back =>
    refine fun s => ⟨rfl, agreeOn_foldl rfl fun role => ?_⟩
    ext name
    cases role <;> simp [Request.mem_registered_cons, Request.names, or_assoc]
  | splitCommands front back =>
    refine fun s => ⟨rfl, agreeOn_foldl rfl fun role => ?_⟩
    ext name
    cases role <;> simp [Request.mem_registered_cons, Request.names, or_assoc]
  | within front back _ ih =>
    -- behind the rearranged part the sessions agree, so the same requests keep them so
    intro s
    obtain ⟨hanswers, hagree⟩ := ih (front.foldl after s)
    simp only [answers_append, List.foldl_append, hanswers, hagree.answers_eq back, true_and]
    exact hagree.foldl back

/-- **Registrations.** What is answered for a line depends on the requests in front of
    it only through what they have made of the machine and which names they have
    registered in which role. So registrations can be moved, repeated, split and
    joined between two lines, and no answer changes. And with one registration
    more there is another answer only for lines that invoke one of its names, no
    matter how much later. -/
theorem registration_framed (s : Session) :
    (∀ (front front' back back' : List Request) (e : Editor) (buffer : Text),
        front.filter (·.changesWorld) = front'.filter (·.changesWorld) →
        (∀ role, Request.registered front role = Request.registered front' role) →
        (s.run (front ++ .highlight e buffer :: back))[front.length]? =
          (s.run (front' ++ .highlight e buffer :: back'))[front'.length]?) ∧
      (∀ rs rs', Relation.EqvGen Request.Rearranges rs rs' → s.answers rs = s.answers rs') ∧
      ∀ (front back : List Request) (r : Request), r.isRegistration →
        List.Forall₂ (fun a a' => a.1 = a'.1 ∧
            (a.2 ≠ a'.2 → ∃ name ∈ invoked? a.1, ∃ role, name ∈ r.names role))
          (s.answers (front ++ r :: back)) (s.answers (front ++ back)) := by
  refine ⟨fun front front' back back' e buffer hworld hnames => ?_, fun rs rs' h => ?_,
    fun front back r hr => ?_⟩
  · have hagree : AgreeOn Set.univ (front.foldl after s) (front'.foldl after s) :=
      agreeOn_foldl hworld hnames
    rw [getElem?_run, getElem?_run, hagree.reply (fun name _ => Set.mem_univ name) e]
  · induction h with
    | rel rs rs' h => exact (answers_of_rearranges h s).1
    | refl rs => rfl
    | symm rs rs' _ ih => exact ih.symm
    | trans rs rs' rs'' _ _ ih ih' => exact ih.trans ih'
  · -- the answers in front are the same ones, and behind the registration the sessions
    -- agree on all names but its own
    rw [answers_append, answers_append,
      answers_cons_of_not_isHighlight (Request.not_isHighlight_of_isRegistration hr)]
    refine List.rel_append (List.forall₂_same.2 fun a _ => ⟨rfl, fun hne => absurd rfl hne⟩) ?_
    refine ((agreeOn_after hr).answers back).imp fun a a' halike => ⟨halike.1, fun hne => ?_⟩
    obtain ⟨name, hinvoked, hname⟩ := halike.2 hne
    exact ⟨name, hinvoked, by simpa using hname⟩

/-- An alias and two commands, registered in either order and in one step or two, and
    the answers to a line that invokes the alias and to one that does not. -/
theorem registration_framed_alias :
    let s : Session :=
      { highlighter := { (default : Highlighter) with command := some (.fixed "b".toList) }
        world := default }
    let define := Request.addAlias "l".toList "ls".toList
    let redefine := Request.addAlias "l".toList "cat".toList
    let register := Request.addCommands ["cat".toList, "ls".toList]
    let line := Request.highlight {} "l x".toList
    let other := Request.highlight {} "less x".toList
    (∀ role, Request.registered [define, register] role =
        Request.registered [register, redefine] role) ∧
      (s.run [define, register, line])[2]? = (s.run [register, redefine, line])[2]? ∧
      (s.run [register, redefine, line])[2]? = some (.highlighted .command
        [⟨"b".toList, "l".toList⟩, ⟨[], " x".toList⟩]) ∧
      Request.Rearranges [register, line] [.addCommands ["cat".toList],
        .addCommands ["ls".toList], line] ∧
      s.answers [register, line] =
        s.answers [.addCommands ["cat".toList], .addCommands ["ls".toList], line] ∧
      define.isRegistration ∧
      (s.answers [define, other, line]).head? = (s.answers [other, line]).head? ∧
      s.answers [define, other, line] ≠ s.answers [other, line] := by
  intro s define redefine register line other
  have hnames : ∀ role, Request.registered [define, register] role =
      Request.registered [register, redefine] role := fun role => by
    ext name
    simp only [Request.mem_registered_cons, or_left_comm (a := name ∈ define.names role)]
    cases role <;> rfl
  have hsplit : Request.Rearranges [register, line] [.addCommands ["cat".toList],
      .addCommands ["ls".toList], line] :=
    .within [] [line] (.splitCommands ["cat".toList] ["ls".toList])
  obtain ⟨hrun, hrearranged, hframed⟩ := registration_framed s
  refine ⟨hnames, hrun [define, register] [register, redefine] [] [] {} _ rfl hnames, by decide,
    hsplit, hrearranged _ _ (.rel _ _ hsplit), rfl, ?_, by decide⟩
  have hfirst := (List.forall₂_cons.1 (hframed [] [other, line] define rfl)).1
  refine congrArg some (Prod.ext hfirst.1 ?_)
  by_contra hne
  obtain ⟨name, hinvoked, role, hname⟩ := hfirst.2 hne
  obtain rfl : "less".toList = name := Option.some.inj hinvoked
  cases role <;> revert hname <;> decide

end Session

end ShellHighlight
