import CommitCharts.Proofs.FileTree.Growth
import Mathlib.Data.List.Basic
import Mathlib.Data.List.Induction

/-!
# CommitCharts.Proofs.FileTree.Closed — trees without gaps

In the tree of a file system everything stands in a directory (`Closed`).  Making directories and writing files keeps
it so.
-/

namespace CommitCharts.FileTree

variable {α : Type} {t t' : FileTree α} {l k : Location} {name : String} {names : List String} {p : Path}

/-- What is there stands in a directory, and the working directory is one. -/
structure Closed (t : FileTree α) : Prop where
  working : t.node? t.working = some .directory
  parent : ∀ l name, t.node? (l ++ [name]) ≠ none → t.node? l = some .directory

namespace Closed

theorem none_below (h : t.Closed) (hl : t.node? l ≠ some .directory) (name : String) :
    t.node? (l ++ [name]) = none := by
  by_contra hname
  exact hl (h.parent l name hname)

theorem start (h : t.Closed) (p : Path) : t.node? (t.start p) = some .directory := by
  unfold FileTree.start
  split_ifs
  · rfl
  · exact h.working

theorem dropLast (h : t.Closed) (hl : t.node? l = some .directory) : t.node? l.dropLast = some .directory := by
  rcases List.eq_nil_or_concat' l with rfl | ⟨above, name, rfl⟩
  · rfl
  · rw [List.dropLast_concat]
    exact h.parent above name (by simp [hl])

/-- What is above a directory is one, too. -/
theorem above (h : t.Closed) (hl : t.node? l = some .directory) (hk : k <+: l) : t.node? k = some .directory := by
  obtain ⟨below, rfl⟩ := hk
  induction below using List.reverseRecOn with
  | nil => rwa [List.append_nil] at hl
  | append_singleton below name ih =>
    refine ih (h.parent (k ++ below) name ?_)
    rw [List.append_assoc, hl]
    simp

/-- Put a node into a directory, in the place of a directory only if it is one itself. -/
theorem put (h : t.Closed) (hl : t.node? l = some .directory) {n : Node α}
    (hkind : t.node? (l ++ [name]) = some .directory → n = .directory) : (t.put (l ++ [name]) n).Closed := by
  have hput := node?_put (t := t) (l := l ++ [name]) (by simp) n
  have hkept (k : Location) (hk : t.node? k = some .directory) :
      (t.put (l ++ [name]) n).node? k = some .directory := by
    rw [hput]
    split_ifs with heq
    · rw [hkind (heq ▸ hk)]
    · exact hk
  refine ⟨hkept _ h.working, fun k below hbelow => ?_⟩
  rw [hput] at hbelow
  split_ifs at hbelow with heq
  · obtain ⟨rfl, -⟩ := List.append_inj' heq rfl
    exact hkept k hl
  · exact hkept k (h.parent k below hbelow)

theorem put_directory (h : t.Closed) (hl : t.node? l = some .directory) (name : String) :
    (t.put (l ++ [name]) .directory).Closed :=
  h.put hl fun _ => rfl

end Closed

/-- Only the root is there. -/
theorem closed_empty : (FileTree.mk (α := α) ∅ []).Closed := by
  have hnone (l : Location) (name : String) : (FileTree.mk (α := α) ∅ []).node? (l ++ [name]) = none := by
    rw [node?_of_ne_nil (by simp)]
    rfl
  exact ⟨rfl, fun l name hname => absurd (hnone l name) hname⟩

theorem node?_put_directory (l : Location) (name : String) :
    (t.put (l ++ [name]) .directory).node? (l ++ [name]) = some .directory := by
  rw [node?_put (by simp), if_pos rfl]

theorem makeAlong_closed (made : Bool) (h : t.Closed) (hl : t.node? l = some .directory) :
    (t.makeAlong made l names).1.Closed := by
  induction names generalizing t l made with
  | nil => exact h
  | cons name names ih =>
    rcases name_cases name with hnoise | rfl | hlong | hplain
    · rw [makeAlong_noise made hnoise]
      exact ih made h hl
    · rw [makeAlong_up made]
      exact ih made h (h.dropLast hl)
    · rw [makeAlong_long made hlong]
      exact h
    · rw [makeAlong_plain made hplain]
      cases hnode : t.node? (l ++ [name]) with
      | none => exact ih true (h.put_directory hl name) (node?_put_directory l name)
      | some n =>
        cases n with
        | directory => exact ih made h hnode
        | file content => exact h

theorem makeDirectories_closed (h : t.Closed) (p : Path) : (t.makeDirectories p).1.Closed := by
  unfold makeDirectories
  split_ifs
  · exact h
  · exact h
  · exact makeAlong_closed false h (h.start p)

/-- A file that names lead to stands in a directory. -/
theorem LeadsToFile.parent (hlead : t.LeadsToFile l names k) (h : t.Closed) (hl : t.node? l = some .directory) :
    ∃ above name, k = above ++ [name] ∧ t.node? above = some .directory := by
  induction names generalizing l with
  | nil => exact absurd rfl hlead.ne_nil
  | cons name names ih =>
    rcases name_cases name with hnoise | rfl | hlong | hplain
    · exact ih ((leadsToFile_noise hnoise).mp hlead) hl
    · exact ih (leadsToFile_up.mp hlead) (h.dropLast hl)
    · exact absurd hlead (not_leadsToFile_long hlong)
    · rcases hlead.plain hplain with ⟨hnode, hbelow⟩ | ⟨rfl, -, -⟩
      · exact ih hbelow hnode
      · exact ⟨l, name, rfl, hl⟩

theorem write_closed {content : α} (h : t.Closed) (hw : t.write p content = .ok t') : t'.Closed := by
  obtain ⟨k, -, hlead, rfl⟩ := write_eq_ok hw
  have hkind := hlead.ne_directory
  obtain ⟨above, name, rfl, habove⟩ := hlead.parent h (h.start p)
  exact h.put habove fun hdir => absurd hdir hkind

end CommitCharts.FileTree
