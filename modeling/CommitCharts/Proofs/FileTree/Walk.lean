import CommitCharts.FileTree
import Mathlib.Tactic.SplitIfs

/-!
# CommitCharts.Proofs.FileTree.Walk — following names

A name in a path stays where it is, goes up, is too long, or is the plain name of something (`name_cases`), and a walk
has one equation for each.  Making directories goes the same way.  Where names lead to a file or to a free name, they
lead to the new file once one is put there (`walk_put`).
-/

namespace CommitCharts.FileTree

variable {α : Type} {t : FileTree α} {l k : Location} {name : String} {names : List String}

/-! ### Nodes -/

theorem node?_of_ne_nil (h : l ≠ []) : t.node? l = t.nodes.get? l := by
  simp [node?, h]

theorem node?_put (h : l ≠ []) (n : Node α) (k : Location) :
    (t.put l n).node? k = if k = l then some n else t.node? k := by
  by_cases hk : k = []
  · subst hk
    rw [if_neg (Ne.symm h)]
    rfl
  · rw [node?_of_ne_nil hk, node?_of_ne_nil hk]
    exact SortedMap.get?_insert t.nodes l k n

theorem ne_nil_of_node? (h : t.node? l ≠ some .directory) : l ≠ [] := by
  rintro rfl
  exact h rfl

/-! ### Names -/

/-- The name of something in a directory. -/
structure Plain (name : String) : Prop where
  noise : Path.isNoise name = false
  up : name ≠ ".."
  size : name.utf8ByteSize ≤ 255

theorem name_cases (name : String) :
    Path.isNoise name = true ∨ name = ".." ∨ 255 < name.utf8ByteSize ∨ Plain name := by
  by_cases hnoise : Path.isNoise name = true
  · exact .inl hnoise
  by_cases hup : name = ".."
  · exact .inr (.inl hup)
  by_cases hlong : 255 < name.utf8ByteSize
  · exact .inr (.inr (.inl hlong))
  · exact .inr (.inr (.inr ⟨by simpa using hnoise, hup, by omega⟩))

theorem not_noise_of_long (h : 255 < name.utf8ByteSize) : Path.isNoise name = false := by
  rw [← Bool.not_eq_true]
  intro hnoise
  obtain hempty | hdot : name = "" ∨ name = "." := by simpa [Path.isNoise] using hnoise
  · subst hempty
    revert h
    decide
  · subst hdot
    revert h
    decide

theorem ne_up_of_long (h : 255 < name.utf8ByteSize) : name ≠ ".." := by
  rintro rfl
  revert h
  decide

/-! ### One name -/

theorem walk_noise (h : Path.isNoise name = true) : t.walk l (name :: names) = t.walk l names := by
  rw [walk]
  exact if_pos h

theorem walk_up : t.walk l (".." :: names) = t.walk l.dropLast names := rfl

theorem walk_long (h : 255 < name.utf8ByteSize) : t.walk l (name :: names) = .error .nameTooLong := by
  have hnoise : (name.isEmpty || name == ".") = false := not_noise_of_long h
  rw [walk]
  simp only [hnoise, beq_eq_false_iff_ne.mpr (ne_up_of_long h), if_pos h, Bool.false_eq_true, if_false]

theorem walk_plain (h : Plain name) :
    t.walk l (name :: names) =
      match t.node? (l ++ [name]) with
      | some .directory => t.walk (l ++ [name]) names
      | some (.file content) =>
        if names.isEmpty then .ok (.found (l ++ [name]) (.file content)) else .error .notDirectory
      | none => if names.all String.isEmpty then .ok (.free (l ++ [name])) else .error .notFound := by
  have hnoise : (name.isEmpty || name == ".") = false := h.noise
  have hup := beq_eq_false_iff_ne.mpr h.up
  have hsize := Nat.not_lt.mpr h.size
  cases hnode : t.node? (l ++ [name]) with
  | none => simp only [walk, hnoise, hup, hsize, hnode, Bool.false_eq_true, if_false]
  | some n => cases n <;> simp only [walk, hnoise, hup, hsize, hnode, Bool.false_eq_true, if_false]

theorem makeAlong_noise (made : Bool) (h : Path.isNoise name = true) :
    t.makeAlong made l (name :: names) = t.makeAlong made l names := by
  rw [makeAlong]
  exact if_pos h

theorem makeAlong_up (made : Bool) : t.makeAlong made l (".." :: names) = t.makeAlong made l.dropLast names := rfl

theorem makeAlong_long (made : Bool) (h : 255 < name.utf8ByteSize) :
    t.makeAlong made l (name :: names) = (t, some .nameTooLong) := by
  have hnoise : (name.isEmpty || name == ".") = false := not_noise_of_long h
  rw [makeAlong]
  simp only [hnoise, beq_eq_false_iff_ne.mpr (ne_up_of_long h), if_pos h, Bool.false_eq_true, if_false]

theorem makeAlong_plain (made : Bool) (h : Plain name) :
    t.makeAlong made l (name :: names) =
      match t.node? (l ++ [name]) with
      | some .directory => t.makeAlong made (l ++ [name]) names
      | some (.file _) => (t, some (if made || names.all Path.isNoise then .exists else .notDirectory))
      | none => (t.put (l ++ [name]) .directory).makeAlong true (l ++ [name]) names := by
  have hnoise : (name.isEmpty || name == ".") = false := h.noise
  have hup := beq_eq_false_iff_ne.mpr h.up
  have hsize := Nat.not_lt.mpr h.size
  cases hnode : t.node? (l ++ [name]) with
  | none => simp only [makeAlong, hnoise, hup, hsize, hnode, Bool.false_eq_true, if_false]
  | some n => cases n <;> simp only [makeAlong, hnoise, hup, hsize, hnode, Bool.false_eq_true, if_false]

/-! ### Where names lead -/

/-- The names lead to the place of a file: to a file that is there, or to a free name. -/
def LeadsToFile (t : FileTree α) (l : Location) (names : List String) (k : Location) : Prop :=
  t.walk l names = .ok (.free k) ∨ ∃ content, t.walk l names = .ok (.found k (.file content))

theorem LeadsToFile.ne_nil (h : t.LeadsToFile l names k) : names ≠ [] := by
  rintro rfl
  rcases h with h | ⟨content, h⟩ <;> cases h

theorem leadsToFile_noise (h : Path.isNoise name = true) :
    t.LeadsToFile l (name :: names) k ↔ t.LeadsToFile l names k := by
  unfold LeadsToFile
  rw [walk_noise h]

theorem leadsToFile_up : t.LeadsToFile l (".." :: names) k ↔ t.LeadsToFile l.dropLast names k := Iff.rfl

theorem not_leadsToFile_long (h : 255 < name.utf8ByteSize) : ¬ t.LeadsToFile l (name :: names) k := by
  unfold LeadsToFile
  rw [walk_long h]
  simp

/-- A plain name is that of a directory on the way, or it is the place itself. -/
theorem LeadsToFile.plain (h : t.LeadsToFile l (name :: names) k) (hplain : Plain name) :
    (t.node? (l ++ [name]) = some .directory ∧ t.LeadsToFile (l ++ [name]) names k) ∨
      (k = l ++ [name] ∧ t.node? k ≠ some .directory ∧ names.all String.isEmpty = true) := by
  rw [LeadsToFile, walk_plain hplain] at h
  cases hnode : t.node? (l ++ [name]) with
  | none =>
    rw [hnode] at h
    dsimp only at h
    split_ifs at h with hempty
    · rcases h with h | ⟨content, h⟩ <;> cases h
      exact .inr ⟨rfl, by simp [hnode], hempty⟩
    · rcases h with h | ⟨content, h⟩ <;> cases h
  | some n =>
    rw [hnode] at h
    cases n with
    | directory => exact .inl ⟨rfl, h⟩
    | file content =>
      dsimp only at h
      split_ifs at h with hnil
      · rcases h with h | ⟨content, h⟩ <;> cases h
        exact .inr ⟨rfl, by simp [hnode], by rw [List.isEmpty_iff.mp hnil]; rfl⟩
      · rcases h with h | ⟨content, h⟩ <;> cases h

theorem LeadsToFile.ne_directory (h : t.LeadsToFile l names k) : t.node? k ≠ some .directory := by
  induction names generalizing l with
  | nil => exact absurd rfl h.ne_nil
  | cons name names ih =>
    rcases name_cases name with hnoise | rfl | hlong | hplain
    · exact ih ((leadsToFile_noise hnoise).mp h)
    · exact ih (leadsToFile_up.mp h)
    · exact absurd h (not_leadsToFile_long hlong)
    · rcases h.plain hplain with ⟨_, hbelow⟩ | ⟨_, hkind, _⟩
      · exact ih hbelow
      · exact hkind

theorem getLast?_tail_ne (h : (name :: names).getLast? ≠ some "") : names.getLast? ≠ some "" := by
  intro hlast
  exact h (by rw [List.getLast?_cons, hlast, Option.getD_some])

theorem eq_nil_of_all_isEmpty (hempty : names.all String.isEmpty = true) (hlast : names.getLast? ≠ some "") :
    names = [] := by
  cases hn : names.getLast? with
  | none => exact List.getLast?_eq_none_iff.mp hn
  | some last =>
    have hmem := List.mem_of_getLast? hn
    rw [hn, String.isEmpty_iff.mp (List.all_eq_true.mp hempty last hmem)] at hlast
    exact absurd rfl hlast

theorem walk_put (h : t.LeadsToFile l names k) (hlast : names.getLast? ≠ some "") (content : α) :
    (t.put k (.file content)).walk l names = .ok (.found k (.file content)) := by
  have hkind := h.ne_directory
  have hk := ne_nil_of_node? hkind
  induction names generalizing l with
  | nil => exact absurd rfl h.ne_nil
  | cons name names ih =>
    have htail := getLast?_tail_ne hlast
    rcases name_cases name with hnoise | rfl | hlong | hplain
    · rw [walk_noise hnoise]
      exact ih ((leadsToFile_noise hnoise).mp h) htail
    · rw [walk_up]
      exact ih (leadsToFile_up.mp h) htail
    · exact absurd h (not_leadsToFile_long hlong)
    · rw [walk_plain hplain, node?_put hk]
      rcases h.plain hplain with ⟨hnode, hbelow⟩ | ⟨rfl, _, hempty⟩
      · -- the walk goes on below a directory, and that is not where the file is
        have hne : l ++ [name] ≠ k := by
          rintro rfl
          exact hkind hnode
        rw [if_neg hne, hnode]
        exact ih hbelow htail
      · rw [if_pos rfl, eq_nil_of_all_isEmpty hempty htail]
        rfl

end CommitCharts.FileTree
