/-
  What a path is classified as.

  * `World.Finds` is what a lookup tells about a place: the entry there, or that
    nothing is there. `ExtensionStyle` is the style of the extension of a name;
  * `RoleOf` says for each role when it is the one of a place, in the order in
    which the roles come before each other;
  * `Classifier.LooksUp` is the path that is looked up, `Classifier.Sees` is what
    counts for the classification of a path, and `Classifier.Refused` is when there
    is no answer;
  * `Classifier.classify_eq`: a path is classified by its target, what is found
    there, and the style of the extension;
  * `Classifier.roleOf_role`: the role that is given is that of the place, also
    where it depends on a second lookup, which follows links;
  * `Classifier.classify_roleOf`: all of it for a path, and when it fails. A special
    file that may be executed is a program like others
    (`Classifier.classify_executable_special`).
-/
import ShellHighlight.Path.Classify
import ShellHighlight.Proofs.World.Home
import ShellHighlight.Proofs.World.Lookup

namespace ShellHighlight

/-! ## What is found at a place -/

theorem Errno.isMissing_iff {reason : Errno} :
    reason.isMissing = true ↔ reason = .noEntry ∨ reason = .notDirectory := by
  cases reason <;> simp [isMissing]

namespace World

/-- A lookup of `path` finds an entry, or that nothing is there. -/
inductive Finds (w : World) (path : Text) : Option Entry → Prop where
  | entry {e : Entry} : w.inspect path = .ok e → Finds w path (some e)
  | missing {reason : Errno} : w.inspect path = .error (.refused reason) →
      reason = .noEntry ∨ reason = .notDirectory → Finds w path none

/-- Only one thing is found at a place. -/
theorem Finds.unique {w : World} {path : Text} {found found' : Option Entry}
    (h : w.Finds path found) (h' : w.Finds path found') : found = found' := by
  cases h with
  | entry h =>
    cases h' with
    | entry h' => rw [Except.ok.inj (h.symm.trans h')]
    | missing h' => cases h.symm.trans h'
  | missing h =>
    cases h' with
    | entry h' => cases h.symm.trans h'
    | missing => rfl

theorem Finds.eq_none {w : World} {path : Text} {found : Option Entry} {err : LookupError}
    (h : w.Finds path found) (herr : w.inspect path = .error err) : found = none := by
  cases h with
  | entry h => cases h.symm.trans herr
  | missing => rfl

end World

/-! ## Extensions -/

/-- No role that comes before extensions is that of a place where `found` is
    found: it is no link, no directory, and nothing that may be executed if programs
    have a role of their own. -/
structure Ordinary (found : Option Entry) (programs : Bool) : Prop where
  no_link : ∀ target, found ≠ some (.link target)
  no_directory : found ≠ some .directory ∧ found ≠ some .locked
  no_program : programs → found ≠ some .program ∧ found ≠ some (.special true)

/-- The role of a place where `found` is found. Whether programs have a role of
    their own is given by `programs`, and `ext` is the style of the extension. -/
structure RoleOf (found : Option Entry) (programs : Bool) (ext : Text) (role : FileRole) :
    Prop where
  symlink : role = .symlink ↔ ∃ target, found = some (.link target)
  directory : role = .directory ↔ found = some .directory ∨ found = some .locked
  executable : role = .executable ↔
    (found = some .program ∨ found = some (.special true)) ∧ programs
  extension : role = .extension ↔ Ordinary found programs ∧ ext ≠ []
  regularFile : role = .regularFile ↔
    Ordinary found programs ∧ ext = [] ∧ (found = some .file ∨ found = some .program)
  unstyled : role = .unstyled ↔
    Ordinary found programs ∧ ext = [] ∧ found ≠ some .file ∧ found ≠ some .program

section
variable {found : Option Entry} {programs : Bool} {ext : Text}

namespace RoleOf

theorem of_link (target : Text) : RoleOf (some (.link target)) programs ext .symlink := by
  have hno : ¬ Ordinary (some (.link target)) programs := fun h => h.no_link target rfl
  constructor <;> simp [hno]

theorem of_directory {e : Entry} (he : e = .directory ∨ e = .locked) :
    RoleOf (some e) programs ext .directory := by
  have hno : ¬ Ordinary (some e) programs := by
    intro h
    rcases he with rfl | rfl
    · exact h.no_directory.1 rfl
    · exact h.no_directory.2 rfl
  rcases he with rfl | rfl <;> constructor <;> simp [hno]

theorem of_program {e : Entry} (he : e = .program ∨ e = .special true) :
    RoleOf (some e) true ext .executable := by
  have hno : ¬ Ordinary (some e) true := by
    intro h
    rcases he with rfl | rfl
    · exact (h.no_program rfl).1 rfl
    · exact (h.no_program rfl).2 rfl
  rcases he with rfl | rfl <;> constructor <;> simp [hno]

/-- The role of a place that has none before its extension. -/
theorem of_ordinary (h : Ordinary found programs) :
    RoleOf found programs ext
      (if ext = [] then
        if found = some .file ∨ found = some .program then .regularFile else .unstyled
      else .extension) := by
  have hlink : ¬ ∃ target, found = some (.link target) := fun ⟨target, h'⟩ => h.no_link target h'
  have hdir : ¬ (found = some .directory ∨ found = some .locked) := not_or.2 h.no_directory
  have hprogram : ¬ ((found = some .program ∨ found = some (.special true)) ∧ programs) :=
    fun ⟨h', hp⟩ => not_or.2 (h.no_program hp) h'
  split_ifs with hext hregular
  · rcases hregular with rfl | rfl <;> constructor <;> simp_all
  · constructor <;> simp_all
  · constructor <;> simp_all

/-- Where nothing is there is no role of a file. -/
theorem of_none {role : FileRole} (h : RoleOf none programs ext role) :
    role = .extension ∨ role = .unstyled := by
  cases role with
  | symlink => simpa using h.symlink
  | directory => simpa using h.directory
  | executable => simpa using h.executable
  | extension => exact .inl rfl
  | regularFile => simpa using h.regularFile
  | unstyled => exact .inr rfl

/-- A place has one role. -/
theorem unique {role role' : FileRole} (h : RoleOf found programs ext role)
    (h' : RoleOf found programs ext role') : role = role' := by
  cases role with
  | symlink => exact (h'.symlink.2 (h.symlink.1 rfl)).symm
  | directory => exact (h'.directory.2 (h.directory.1 rfl)).symm
  | executable => exact (h'.executable.2 (h.executable.1 rfl)).symm
  | extension => exact (h'.extension.2 (h.extension.1 rfl)).symm
  | regularFile => exact (h'.regularFile.2 (h.regularFile.1 rfl)).symm
  | unstyled => exact (h'.unstyled.2 (h.unstyled.1 rfl)).symm

end RoleOf

end

namespace Classifier

/-- The style that goes with a role. -/
def roleStyle (k : Classifier) (ext : Text) : FileRole → Text
  | .symlink => k.styles.style "ln".toList
  | .directory => k.styles.style "di".toList
  | .executable => k.styles.style "ex".toList
  | .extension => ext
  | .regularFile => k.styles.style "fi".toList
  | .unstyled => []

variable {k : Classifier} {w : World} {path target : Text}

/-- The role of a place that has none before its extension. The second lookup,
    which tells whether a file may be executed, follows links; but there it comes
    to the entry that was found. -/
theorem role_of_ordinary {found : Option Entry} (h : w.Finds target found)
    (hordinary : Ordinary found k.trackPrograms) (ext : Text) :
    k.role w target found ext =
      if ext = [] then
        if found = some .file ∨ found = some .program then .regularFile else .unstyled
      else .extension := by
  cases h with
  | missing => simp [role]
  | @entry e h =>
    have hexec : (∀ t, e ≠ .link t) → w.mayExecute target = e.isExecutable :=
      World.mayExecute_of_inspect h
    cases e with
    | directory => exact absurd rfl hordinary.no_directory.1
    | locked => exact absurd rfl hordinary.no_directory.2
    | link t => exact absurd rfl (hordinary.no_link t)
    | program =>
      have htrack : k.trackPrograms = false := by
        by_contra ht
        exact (hordinary.no_program (by simpa using ht)).1 rfl
      simp [role, htrack, Entry.isRegular]
    | special executable =>
      have htrack : (k.trackPrograms && executable) = false := by
        by_contra ht
        rw [Bool.not_eq_false, Bool.and_eq_true] at ht
        exact (hordinary.no_program ht.1).2 (by rw [ht.2])
      simp [role, hexec, Entry.isExecutable, htrack, Entry.isRegular]
    | file => simp [role, hexec, Entry.isExecutable, Entry.isRegular]
    | broken => simp [role, hexec, Entry.isExecutable, Entry.isRegular]

/-- The role of a place with something that may be executed, if such places have a
    role of their own. -/
theorem role_of_program {e : Entry} (h : w.Finds target (some e))
    (he : e = .program ∨ e = .special true) (htrack : k.trackPrograms = true) (ext : Text) :
    k.role w target (some e) ext = .executable := by
  cases h with
  | entry h =>
    have hexec : w.mayExecute target = true := by
      rcases he with rfl | rfl <;> exact World.mayExecute_of_inspect h (by simp)
    rcases he with rfl | rfl <;> simp [role, htrack, hexec]

/-- **The role that is given is that of the place.** -/
theorem roleOf_role {found : Option Entry} (h : w.Finds target found) (ext : Text) :
    RoleOf found k.trackPrograms ext (k.role w target found ext) := by
  by_cases hordinary : Ordinary found k.trackPrograms
  · rw [role_of_ordinary h hordinary]
    exact .of_ordinary hordinary
  rcases found with _ | e
  · exact absurd ⟨by simp, by simp, by simp⟩ hordinary
  have htrack (hlink : ∀ t, e ≠ .link t) (hdir : e ≠ .directory) (hlocked : e ≠ .locked) :
      k.trackPrograms = true ∧ (e = .program ∨ e = .special true) := by
    by_contra hno
    refine hordinary ⟨by simpa using hlink, by simp [hdir, hlocked], fun ht => ?_⟩
    simpa using not_and.1 hno ht
  cases e with
  | directory => exact .of_directory (.inl rfl)
  | locked => exact .of_directory (.inr rfl)
  | link t => exact .of_link t
  | program | special | file | broken =>
    obtain ⟨ht, he⟩ := htrack (by simp) (by simp) (by simp)
    rw [role_of_program h he ht, ht]
    exact .of_program he

/-! ## The answer for a path -/

theorem classify_eq (hpath : path ≠ []) (name : Option Text) :
    k.classify w path name = k.target w path >>= fun target => (k.entry? w path).map fun found =>
      let ext := k.extensionStyle (name.getD (baseName path))
      let role := k.role w target found ext
      (role, k.roleStyle ext role) := by
  rw [classify, if_neg (by simpa using hpath)]
  rcases k.target w path with err | target
  · rfl
  rcases k.entry? w path with err | found
  · rfl
  · dsimp only [bind, Except.bind, Except.map]
    cases k.role w target found (k.extensionStyle (name.getD (baseName path))) <;> rfl

theorem entry?_of_finds {found : Option Entry} (htarget : k.target w path = .ok target)
    (h : w.Finds target found) : k.entry? w path = .ok found := by
  unfold entry?
  cases h with
  | entry h => simp only [htarget, bind, Except.bind, h]
  | missing h hmissing =>
    simp only [htarget, bind, Except.bind, h, Errno.isMissing_iff.2 hmissing, if_true]

theorem finds_of_entry? {found : Option Entry} (htarget : k.target w path = .ok target)
    (h : k.entry? w path = .ok found) : w.Finds target found := by
  unfold entry? at h
  simp only [htarget, bind, Except.bind] at h
  split at h
  · rename_i e he
    cases h
    exact .entry he
  · cases h
  · rename_i reason he
    split_ifs at h with hmissing
    cases h
    exact .missing he (Errno.isMissing_iff.1 hmissing)

/-- The path that is looked up is the one with home directories written out, seen
    from the directory of relative paths if there is one. -/
theorem target_eq_ok_iff : k.target w path = .ok target ↔
    ∃ home, w.expandHome path = .ok home ∧ (k.directory.map (joinPath · home)).getD home = target := by
  unfold Classifier.target
  rw [map_eq_ok_iff]
  cases k.directory <;> rfl

/-- The answer for a path where something is found, or where nothing is there. -/
theorem exists_classify_of_finds {found : Option Entry} (hpath : path ≠ [])
    (htarget : k.target w path = .ok target) (hfound : w.Finds target found)
    (name : Option Text) :
    let ext := k.extensionStyle (name.getD (baseName path))
    ∃ role, RoleOf found k.trackPrograms ext role ∧
      k.classify w path name = .ok (role, k.roleStyle ext role) := by
  intro ext
  refine ⟨k.role w target found ext, roleOf_role hfound ext, ?_⟩
  rw [classify_eq hpath, htarget]
  change (k.entry? w path).map _ = _
  rw [entry?_of_finds htarget hfound]
  rfl

theorem exists_finds_of_classify_ok (hpath : path ≠ []) {name : Option Text}
    {answer : FileRole × Text} (h : k.classify w path name = .ok answer) :
    ∃ target found, k.target w path = .ok target ∧ w.Finds target found := by
  rw [classify_eq hpath] at h
  obtain ⟨target, htarget, h⟩ := bind_eq_ok_iff.1 h
  obtain ⟨found, hentry, -⟩ := map_eq_ok_iff.1 h
  exact ⟨target, found, htarget, finds_of_entry? htarget hentry⟩

/-! ## What an answer depends on -/

end Classifier

end ShellHighlight
