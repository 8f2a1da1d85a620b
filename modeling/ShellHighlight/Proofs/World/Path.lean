/-
  Paths and the names in them.

  * `components_append`: the names in two paths with a slash between them are the
    names in both;
  * `SeenFrom` is a path as it is written from a directory, and `Named` is what a
    path is called;
  * `Continues` is how a path is written that goes on behind another one. It begins
    at the same place, also seen from another directory, and has the names of
    both (`Continues.isAbsolute_eq`, `Continues.joinPath`,
    `Continues.components_eq`).
-/
import ShellHighlight.World.Path
import ShellHighlight.Proofs.Text

namespace ShellHighlight

/-! ## Names in a path -/

/-- The names in a path are those in front of a slash and those behind it. -/
theorem components_append (path rest : Text) :
    components (path ++ '/' :: rest) = components path ++ components rest := by
  rw [components, List.splitOn_append_cons_self, List.filter_append]
  rfl

theorem components_ne_nil {path : Text} {c : Char} (hc : c ∈ path) (hslash : c ≠ '/') :
    components path ≠ [] := by
  have hmem : c ∈ (path.splitOn '/').flatten := by
    rw [Text.flatten_splitOn]
    exact List.mem_filter.2 ⟨hc, by simpa using hslash⟩
  obtain ⟨name, hname, hcname⟩ := List.mem_flatten.1 hmem
  have hmem' : name ∈ components path :=
    List.mem_filter.2 ⟨hname, by simpa using List.ne_nil_of_mem hcname⟩
  exact List.ne_nil_of_mem hmem'

theorem joinPath_ne_nil {path : Text} (hpath : path ≠ []) (dir : Text) : joinPath dir path ≠ [] := by
  unfold joinPath
  split_ifs
  · exact hpath
  · exact List.append_ne_nil_of_right_ne_nil dir hpath
  · simp

/-! ## Paths from a directory -/

/-- `longer` is `path` with `rest` behind it and a slash between them. The root is
    such a slash itself. -/
def Continues (path rest longer : Text) : Prop :=
  longer = path ++ '/' :: rest ∨ path = ['/'] ∧ longer = '/' :: rest

namespace Continues

variable {path rest longer : Text}

theorem isAbsolute_eq (h : Continues path rest longer) (hpath : path ≠ []) :
    isAbsolute longer = isAbsolute path := by
  rcases h with rfl | ⟨rfl, rfl⟩
  · obtain ⟨c, path, rfl⟩ := List.exists_cons_of_ne_nil hpath
    rfl
  · rfl

theorem components_eq (h : Continues path rest longer) :
    components longer = components path ++ components rest := by
  rcases h with rfl | ⟨rfl, rfl⟩
  · exact components_append path rest
  · exact components_append [] rest

theorem joinPath (h : Continues path rest longer) (hpath : path ≠ []) (dir : Text) :
    Continues (joinPath dir path) rest (joinPath dir longer) := by
  unfold ShellHighlight.joinPath
  rw [h.isAbsolute_eq hpath]
  have hlonger (habs : ¬ isAbsolute path) : longer = path ++ '/' :: rest := by
    refine h.resolve_right ?_
    rintro ⟨rfl, -⟩
    exact habs rfl
  split_ifs with habs hdir
  · exact h
  · exact .inl (by rw [hlonger habs, List.append_assoc])
  · exact .inl (by rw [hlonger habs, List.append_assoc, List.cons_append])

end Continues

end ShellHighlight
