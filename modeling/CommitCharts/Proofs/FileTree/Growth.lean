import CommitCharts.Proofs.FileTree.Walk
import CommitCharts.Proofs.Path

/-!
# CommitCharts.Proofs.FileTree.Growth — trees that only grow

Making directories and writing files never takes anything away: a directory stays a directory and a file stays a file,
whatever it holds (`Grows`).  So a path that leads to a file goes on doing so (`Grows.isFile`), and a file that was
written is still one when others have been written after it.
-/

namespace CommitCharts.FileTree

variable {α : Type} {t t' t'' : FileTree α} {l k : Location} {names : List String} {p : Path}

/-- Both are directories, or both are files. -/
def Node.SameKind : Node α → Node α → Prop
  | .directory, .directory => True
  | .file _, .file _ => True
  | _, _ => False

theorem Node.SameKind.refl (n : Node α) : n.SameKind n := by cases n <;> trivial

theorem Node.SameKind.trans {a b c : Node α} (hab : a.SameKind b) (hbc : b.SameKind c) : a.SameKind c := by
  cases a <;> cases b <;> cases c <;> simp_all [SameKind]

/-- Everything in the first tree is in the second one, too, and is of the same kind there. -/
structure Grows (t t' : FileTree α) : Prop where
  working : t'.working = t.working
  kept : ∀ l n, t.node? l = some n → ∃ n', t'.node? l = some n' ∧ n.SameKind n'

namespace Grows

theorem refl (t : FileTree α) : Grows t t := ⟨rfl, fun _ n hn => ⟨n, hn, .refl n⟩⟩

theorem trans (h : Grows t t') (h' : Grows t' t'') : Grows t t'' := by
  refine ⟨h'.working.trans h.working, fun l n hn => ?_⟩
  obtain ⟨n', hn', hkind⟩ := h.kept l n hn
  obtain ⟨n'', hn'', hkind'⟩ := h'.kept l n' hn'
  exact ⟨n'', hn'', hkind.trans hkind'⟩

/-- Put a node where nothing is or where a node of its kind is. -/
theorem put (hl : l ≠ []) {n : Node α} (h : ∀ old, t.node? l = some old → old.SameKind n) : Grows t (t.put l n) := by
  refine ⟨rfl, fun k old hold => ?_⟩
  rw [node?_put hl]
  by_cases hk : k = l
  · subst hk
    exact ⟨n, if_pos rfl, h old hold⟩
  · rw [if_neg hk]
    exact ⟨old, hold, .refl old⟩

/-- A file that replaces another makes nothing new. -/
theorem replaced (hl : l ≠ []) {old : α} (h : t.node? l = some (.file old)) (content : α) :
    Grows (t.put l (.file content)) t := by
  refine ⟨rfl, fun k n hn => ?_⟩
  rw [node?_put hl] at hn
  split_ifs at hn with hk
  · cases hn
    exact ⟨.file old, by rw [hk, h], trivial⟩
  · exact ⟨n, hn, .refl n⟩

theorem directory (h : Grows t t') (hl : t.node? l = some .directory) : t'.node? l = some .directory := by
  obtain ⟨n', hn', hkind⟩ := h.kept l _ hl
  cases n' with
  | directory => exact hn'
  | file content => exact hkind.elim

theorem file (h : Grows t t') {content : α} (hl : t.node? l = some (.file content)) :
    ∃ content', t'.node? l = some (.file content') := by
  obtain ⟨n', hn', hkind⟩ := h.kept l _ hl
  cases n' with
  | directory => exact hkind.elim
  | file content' => exact ⟨content', hn'⟩

/-- Names that lead to something lead to the same place in a tree that has grown. -/
theorem walk_found (h : Grows t t') {n : Node α} (hw : t.walk l names = .ok (.found k n)) :
    ∃ n', t'.walk l names = .ok (.found k n') ∧ n.SameKind n' := by
  induction names generalizing l with
  | nil =>
    cases hw
    exact ⟨.directory, rfl, trivial⟩
  | cons name names ih =>
    rcases name_cases name with hnoise | rfl | hlong | hplain
    · rw [walk_noise hnoise] at hw ⊢
      exact ih hw
    · rw [walk_up] at hw ⊢
      exact ih hw
    · rw [walk_long hlong] at hw
      cases hw
    · rw [walk_plain hplain] at hw ⊢
      cases hnode : t.node? (l ++ [name]) with
      | none =>
        rw [hnode] at hw
        dsimp only at hw
        split_ifs at hw
        cases hw
      | some node =>
        rw [hnode] at hw
        cases node with
        | directory =>
          rw [h.directory hnode]
          exact ih hw
        | file content =>
          obtain ⟨content', hnode'⟩ := h.file hnode
          rw [hnode']
          dsimp only at hw ⊢
          split_ifs at hw ⊢
          cases hw
          exact ⟨.file content', rfl, trivial⟩

end Grows

/-! ### Paths to files -/

/-- The path leads to a file. -/
def IsFile (t : FileTree α) (p : Path) : Prop := ∃ l content, t.resolve p = .ok (.found l (.file content))

theorem isFile_iff :
    t.IsFile p ↔
      textFault? p = none ∧ ∃ l content, t.walk (t.start p) p.segments = .ok (.found l (.file content)) := by
  unfold IsFile resolve
  cases textFault? p with
  | none => simp
  | some fault => simp

theorem Grows.start (h : Grows t t') (p : Path) : t'.start p = t.start p := by
  unfold FileTree.start
  rw [h.working]

theorem Grows.isFile (h : Grows t t') (hp : t.IsFile p) : t'.IsFile p := by
  obtain ⟨hfault, l, content, hl⟩ := isFile_iff.mp hp
  obtain ⟨n', hn', hkind⟩ := h.walk_found hl
  cases n' with
  | directory => exact hkind.elim
  | file content' => exact isFile_iff.mpr ⟨hfault, l, content', by rw [h.start]; exact hn'⟩

/-! ### Making directories -/

theorem makeAlong_grows (made : Bool) : Grows t (t.makeAlong made l names).1 := by
  induction names generalizing t l made with
  | nil => exact .refl t
  | cons name names ih =>
    rcases name_cases name with hnoise | rfl | hlong | hplain
    · rw [makeAlong_noise made hnoise]
      exact ih made
    · rw [makeAlong_up made]
      exact ih made
    · rw [makeAlong_long made hlong]
      exact .refl t
    · rw [makeAlong_plain made hplain]
      cases hnode : t.node? (l ++ [name]) with
      | none =>
        have hput : Grows t (t.put (l ++ [name]) .directory) := by
          refine .put (by simp) fun old hold => ?_
          rw [hnode] at hold
          cases hold
        exact hput.trans (ih true)
      | some n =>
        cases n with
        | directory => exact ih made
        | file content => exact .refl t

theorem makeDirectories_grows (t : FileTree α) (p : Path) : Grows t (t.makeDirectories p).1 := by
  unfold makeDirectories
  split_ifs
  · exact .refl t
  · exact .refl t
  · exact makeAlong_grows false

/-! ### Writing -/

/-- A file that could be written is put where the path leads to. -/
theorem write_eq_ok {content : α} (h : t.write p content = .ok t') :
    ∃ k, textFault? p = none ∧ t.LeadsToFile (t.start p) p.dropSlashes.segments k ∧ t' = t.put k (.file content) := by
  unfold write at h
  cases hfault : textFault? p with
  | some fault =>
    rw [hfault] at h
    cases h
  | none =>
    rw [hfault] at h
    dsimp only at h
    split_ifs at h
    cases hw : t.walk (t.start p) p.dropSlashes.segments with
    | error fault =>
      rw [hw] at h
      cases h
    | ok target =>
      rw [hw] at h
      cases target with
      | free k =>
        cases h
        exact ⟨k, rfl, .inl hw, rfl⟩
      | found k n =>
        cases n with
        | directory => cases h
        | file old =>
          cases h
          exact ⟨k, rfl, .inr ⟨old, hw⟩, rfl⟩

theorem write_grows {content : α} (h : t.write p content = .ok t') : Grows t t' := by
  obtain ⟨k, -, hlead, rfl⟩ := write_eq_ok h
  have hkind := hlead.ne_directory
  refine .put (ne_nil_of_node? hkind) fun old hold => ?_
  cases old with
  | directory => exact absurd hold hkind
  | file content => trivial

theorem text_ne_empty (h : textFault? p = none) : p.text ≠ "" := by
  intro hempty
  simp [textFault?, hempty] at h

/-- What was written is a file at the end of its path, unless that asks for a directory. -/
theorem write_isFile {content : α} (hslash : p.endsInSlash = false) (h : t.write p content = .ok t') : t'.IsFile p := by
  obtain ⟨k, hfault, hlead, rfl⟩ := write_eq_ok h
  rw [Path.dropSlashes_of_not_endsInSlash hslash] at hlead
  have hlast : p.segments.getLast? ≠ some "" := Path.getLast?_segments_ne hslash (text_ne_empty hfault)
  exact isFile_iff.mpr ⟨hfault, k, content, walk_put hlead hlast content⟩

end CommitCharts.FileTree
