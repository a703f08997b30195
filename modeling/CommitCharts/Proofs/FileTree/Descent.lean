import CommitCharts.Proofs.FileTree.Closed
import CommitCharts.Proofs.Path.Names

/-!
# CommitCharts.Proofs.FileTree.Descent — going down plain paths

On a plain path every name goes one directory down, so that the path has a place whatever the tree holds (`place`).
In a closed tree nothing is below a new directory; so making directories is stopped by the first name that is too long
or that of a file, and made again it is stopped there again (`Making.again`).
-/

namespace CommitCharts

/-- No name stays or goes up. -/
def Path.Descending (names : List String) : Prop := ∀ name ∈ names, isNoise name = false ∧ name ≠ ".."

theorem Path.Plain.descending {p : Path} (h : p.Plain) : Path.Descending p.names := by
  intro name hname
  obtain ⟨hmem, hnoise⟩ := List.mem_filter.mp hname
  refine ⟨by simpa using hnoise, ?_⟩
  rintro rfl
  exact h.up hmem

namespace FileTree

open CommitCharts.Path (Descending)

variable {α : Type} {t t' : FileTree α} {l k : Location} {name last : String} {names rest : List String} {p : Path}

/-- Where a path of plain names leads. -/
def place (t : FileTree α) (p : Path) : Location := t.start p ++ p.names

theorem Grows.place (h : Grows t t') (p : Path) : t'.place p = t.place p := by
  unfold FileTree.place
  rw [h.start]

/-! ### Only names count -/

theorem makeAlong_filter (made : Bool) :
    t.makeAlong made l (names.filter (!Path.isNoise ·)) = t.makeAlong made l names := by
  induction names generalizing t l made with
  | nil => rfl
  | cons name names ih =>
    rcases name_cases name with hnoise | rfl | hlong | hplain
    · rw [List.filter_cons_of_neg (by simp [hnoise]), makeAlong_noise made hnoise]
      exact ih made
    · exact ih made
    · rw [List.filter_cons_of_pos (by simp [not_noise_of_long hlong]), makeAlong_long made hlong,
        makeAlong_long made hlong]
    · have hall : (names.filter (!Path.isNoise ·)).all Path.isNoise = names.all Path.isNoise := by
        rw [Bool.eq_iff_iff]
        simp [List.all_eq_true]
      rw [List.filter_cons_of_pos (by simp [hplain.noise]), makeAlong_plain made hplain, makeAlong_plain made hplain,
        hall]
      cases hnode : t.node? (l ++ [name]) with
      | none => exact ih true
      | some n =>
        cases n with
        | directory => exact ih made
        | file content => rfl

theorem walk_filter (hlast : Path.isNoise last = false) :
    t.walk l ((names ++ [last]).filter (!Path.isNoise ·)) = t.walk l (names ++ [last]) := by
  induction names generalizing l with
  | nil => simp [hlast]
  | cons name names ih =>
    rw [List.cons_append]
    rcases name_cases name with hnoise | rfl | hlong | hplain
    · rw [List.filter_cons_of_neg (by simp [hnoise]), walk_noise hnoise]
      exact ih
    · exact ih
    · rw [List.filter_cons_of_pos (by simp [not_noise_of_long hlong]), walk_long hlong, walk_long hlong]
    · have hfilter : (names ++ [last]).filter (!Path.isNoise ·) = names.filter (!Path.isNoise ·) ++ [last] := by
        simp [List.filter_append, hlast]
      have hne : last ≠ "" := by
        rintro rfl
        cases hlast
      rw [List.filter_cons_of_pos (by simp [hplain.noise]), walk_plain hplain, walk_plain hplain]
      cases hnode : t.node? (l ++ [name]) with
      | none =>
        rw [hfilter]
        simp [hne]
      | some n =>
        cases n with
        | directory => exact ih
        | file content =>
          rw [hfilter]
          simp

/-! ### Making directories -/

/-- Below a new directory nothing is in the way. -/
theorem makeAlong_fresh (hdown : Descending names) (hfree : ∀ name, t.node? (l ++ [name]) = none) :
    t.makeAlong true l names = t.makeAlong false l names := by
  cases names with
  | nil => rfl
  | cons name names =>
    obtain ⟨hnoise, hup⟩ := hdown name (List.mem_cons_self ..)
    rcases name_cases name with hnoise' | rfl | hlong | hplain
    · rw [hnoise] at hnoise'
      cases hnoise'
    · exact absurd rfl hup
    · rw [makeAlong_long true hlong, makeAlong_long false hlong]
    · rw [makeAlong_plain true hplain, makeAlong_plain false hplain, hfree]

/-- How directories are made along names: the tree in the end and the fault that stopped it. -/
inductive Making : FileTree α → Location → List String → FileTree α → Option Fault → Prop where
  | done (t : FileTree α) (l : Location) : Making t l [] t none
  | long {t : FileTree α} {l : Location} {name : String} {names : List String} (size : 255 < name.utf8ByteSize) :
      Making t l (name :: names) t (some .nameTooLong)
  | blocked {t : FileTree α} {l : Location} {name : String} {names : List String} {content : α} (plain : Plain name)
      (node : t.node? (l ++ [name]) = some (.file content)) :
      Making t l (name :: names) t (some (if names.all Path.isNoise then .exists else .notDirectory))
  | down {t t' : FileTree α} {l : Location} {name : String} {names : List String} {fault : Option Fault}
      (plain : Plain name) (node : t.node? (l ++ [name]) = some .directory)
      (rest : Making t (l ++ [name]) names t' fault) : Making t l (name :: names) t' fault
  | new {t t' : FileTree α} {l : Location} {name : String} {names : List String} {fault : Option Fault}
      (plain : Plain name) (node : t.node? (l ++ [name]) = none)
      (rest : Making (t.put (l ++ [name]) .directory) (l ++ [name]) names t' fault) :
      Making t l (name :: names) t' fault

theorem making (h : t.Closed) (hl : t.node? l = some .directory) (hdown : Descending names) :
    Making t l names (t.makeAlong false l names).1 (t.makeAlong false l names).2 := by
  induction names generalizing t l with
  | nil => exact .done t l
  | cons name names ih =>
    obtain ⟨hnoise, hup⟩ := hdown name (List.mem_cons_self ..)
    have hbelow : Descending names := fun name' hname' => hdown name' (List.mem_cons_of_mem _ hname')
    rcases name_cases name with hnoise' | rfl | hlong | hplain
    · rw [hnoise] at hnoise'
      cases hnoise'
    · exact absurd rfl hup
    · rw [makeAlong_long false hlong]
      exact .long hlong
    · rw [makeAlong_plain false hplain]
      cases hnode : t.node? (l ++ [name]) with
      | none =>
        have hfree (name' : String) : (t.put (l ++ [name]) .directory).node? (l ++ [name] ++ [name']) = none := by
          rw [node?_put (by simp), if_neg (by simp), h.none_below (by simp [hnode])]
        dsimp only
        rw [makeAlong_fresh hbelow hfree]
        exact .new hplain hnode (ih (h.put_directory hl name) (node?_put_directory l name) hbelow)
      | some n =>
        cases n with
        | directory => exact .down hplain hnode (ih h hnode hbelow)
        | file content => exact .blocked hplain hnode

namespace Making

variable {fault : Option Fault}

theorem grows (h : Making t l names t' fault) : Grows t t' := by
  induction h with
  | done => exact .refl _
  | long => exact .refl _
  | blocked => exact .refl _
  | down _ _ _ ih => exact ih
  | new _ node _ ih =>
    refine Grows.trans (.put (by simp) fun old hold => ?_) ih
    rw [node] at hold
    cases hold

/-- Made again in a tree that has grown, directories are stopped by the same fault, and none is new. -/
theorem again {t'' : FileTree α} (h : Making t l names t' fault) (hg : Grows t' t'') :
    t''.makeAlong false l names = (t'', fault) := by
  induction h with
  | done => rfl
  | long size => exact makeAlong_long false size
  | blocked plain node =>
    obtain ⟨content', hnode⟩ := hg.file node
    rw [makeAlong_plain false plain, hnode]
    rfl
  | down plain node rest ih =>
    rw [makeAlong_plain false plain, hg.directory (rest.grows.directory node)]
    exact ih hg
  | new plain node rest ih =>
    rw [makeAlong_plain false plain, hg.directory (rest.grows.directory (node?_put_directory ..))]
    exact ih hg

/-- Directories are only new on the way down. -/
theorem node?_eq (h : Making t l names t' fault) (k : Location) :
    t'.node? k = t.node? k ∨ (t'.node? k = some .directory ∧ k <+: l ++ names) := by
  induction h with
  | done => exact .inl rfl
  | long => exact .inl rfl
  | blocked => exact .inl rfl
  | down _ _ _ ih => simpa using ih
  | @new t t' l name names fault _ _ rest ih =>
    by_cases hk : k = l ++ [name]
    · subst hk
      exact .inr ⟨rest.grows.directory (node?_put_directory ..), by simp⟩
    · rw [node?_put (by simp), if_neg hk] at ih
      simpa using ih

end Making

/-- Every name is that of a directory in the one before. -/
inductive Passable (t : FileTree α) : Location → List String → Prop where
  | nil (l : Location) : Passable t l []
  | cons {l : Location} {name : String} {names : List String} (plain : Plain name)
      (node : t.node? (l ++ [name]) = some .directory) (rest : Passable t (l ++ [name]) names) :
      Passable t l (name :: names)

theorem Passable.grows (h : t.Passable l names) (hg : Grows t t') : t'.Passable l names := by
  induction h with
  | nil l => exact .nil l
  | cons plain node _ ih => exact .cons plain (hg.directory node) ih

theorem Passable.walk (h : t.Passable l names) : t.walk l (names ++ rest) = t.walk (l ++ names) rest := by
  induction h with
  | nil l => rw [List.nil_append, List.append_nil]
  | @cons l name names plain node _ ih =>
    rw [List.append_cons l name names, List.cons_append, walk_plain plain, node]
    exact ih

theorem Making.passable (h : Making t l names t' none) : t'.Passable l names := by
  generalize hfault : (none : Option Fault) = fault at h
  induction h with
  | done t l => exact .nil l
  | long => cases hfault
  | blocked => cases hfault
  | down plain node rest ih => exact .cons plain (rest.grows.directory node) (ih hfault)
  | new plain node rest ih => exact .cons plain (rest.grows.directory (node?_put_directory ..)) (ih hfault)

/-- The fault of a path along which no tree can have directories. -/
def textFaultAlong? (p : Path) : Option Fault :=
  if p.text.toList.contains '\x00' then some .nulByte
  else if 4096 ≤ p.text.utf8ByteSize then some .nameTooLong
  else none

theorem makeDirectories_eq (t : FileTree α) (p : Path) :
    t.makeDirectories p = match textFaultAlong? p with
      | some fault => (t, some fault)
      | none => t.makeAlong false (t.start p) p.names := by
  unfold makeDirectories textFaultAlong? Path.names
  rw [makeAlong_filter]
  split_ifs <;> rfl

/-! ### Writing to a plain path -/

def isDirectory (t : FileTree α) (l : Location) : Bool :=
  match t.node? l with
  | some .directory => true
  | _ => false

theorem isDirectory_iff : t.isDirectory l = true ↔ t.node? l = some .directory := by
  unfold isDirectory
  cases t.node? l with
  | none => simp
  | some n => cases n <;> simp

/-- What keeps a file from being written where a plain path leads, when its directory is there. -/
def placeFault? (t : FileTree α) (p : Path) : Option Fault :=
  match textFault? p with
  | some fault => some fault
  | none =>
    if p.names.any (255 < ·.utf8ByteSize) then some .nameTooLong
    else if t.isDirectory (t.place p) then some .isDirectory
    else none

theorem placeFault?_eq_none :
    t.placeFault? p = none ↔
      textFault? p = none ∧ (∀ name ∈ p.names, name.utf8ByteSize ≤ 255) ∧ t.node? (t.place p) ≠ some .directory := by
  have hlong : p.names.any (255 < ·.utf8ByteSize) = false ↔ ∀ name ∈ p.names, name.utf8ByteSize ≤ 255 := by simp
  unfold placeFault?
  rw [Ne, ← isDirectory_iff, ← hlong]
  cases textFault? p with
  | some fault => simp
  | none => cases p.names.any (255 < ·.utf8ByteSize) <;> cases t.isDirectory (t.place p) <;> simp

theorem Passable.size (h : t.Passable l names) (hname : name ∈ names) : name.utf8ByteSize ≤ 255 := by
  induction h with
  | nil => cases hname
  | cons plain _ _ ih =>
    rcases List.mem_cons.mp hname with rfl | hname
    · exact plain.size
    · exact ih hname

theorem walk_segments (h : p.Plain) : t.walk l p.segments = t.walk l p.names := by
  obtain ⟨before, last, hsegments⟩ : ∃ before last, p.segments = before ++ [last] :=
    (List.eq_nil_or_concat' p.segments).resolve_left p.segments_ne_nil
  rw [Path.names, hsegments, walk_filter (h.isNoise_last before hsegments)]

theorem write_plain (h : p.Plain) (hnames : p.names = names ++ [last]) (hpass : t.Passable (t.start p) names)
    (content : α) :
    t.write p content = match t.placeFault? p with
      | some fault => .error fault
      | none => .ok (t.put (t.place p) (.file content)) := by
  have hwalk : t.walk (t.start p) p.segments = t.walk (t.start p ++ names) [last] := by
    rw [walk_segments h, hnames, hpass.walk]
  have hplace : t.place p = t.start p ++ names ++ [last] := by rw [place, hnames, List.append_assoc]
  obtain ⟨hnoise, hup⟩ := h.descending last (by simp [hnames])
  have hlong : p.names.any (255 < ·.utf8ByteSize) = decide (255 < last.utf8ByteSize) := by
    have hshort : names.any (255 < ·.utf8ByteSize) = false := by
      simpa using fun name hname => hpass.size hname
    rw [hnames, List.any_append, hshort]
    simp
  unfold write placeFault?
  cases textFault? p with
  | some fault => rfl
  | none =>
    simp only [h.slash, Path.dropSlashes_of_not_endsInSlash h.slash, Bool.false_and, Bool.false_eq_true, if_false,
      hwalk, hlong, hplace]
    rcases name_cases last with hnoise' | rfl | hsize | hplain
    · rw [hnoise] at hnoise'
      cases hnoise'
    · exact absurd rfl hup
    · simp [walk_long hsize, hsize]
    · have hsize := Nat.not_lt.mpr hplain.size
      rw [walk_plain hplain]
      cases hnode : t.node? (t.start p ++ names ++ [last]) with
      | none => simp only [hsize, isDirectory, hnode, decide_false, Bool.false_eq_true, if_false, List.all_nil, if_true]
      | some n =>
        cases n <;>
          simp only [hsize, isDirectory, hnode, walk, decide_false, Bool.false_eq_true, if_false, List.isEmpty_nil,
            if_true]

theorem placeFault?_congr (hworking : t'.working = t.working)
    (h : t'.node? (t.place p) = some .directory ↔ t.node? (t.place p) = some .directory) :
    t'.placeFault? p = t.placeFault? p := by
  have hplace : t'.place p = t.place p := by
    unfold place start
    rw [hworking]
  have hdir : t'.isDirectory (t.place p) = t.isDirectory (t.place p) := by
    rw [Bool.eq_iff_iff, isDirectory_iff, isDirectory_iff, h]
  unfold placeFault?
  rw [hplace, hdir]

/-- What was in the way stays in the way. -/
theorem Grows.placeFault? (hg : Grows t t') {fault : Fault} (h : t.placeFault? p = some fault) :
    t'.placeFault? p = some fault := by
  by_cases hdir : t.node? (t.place p) = some .directory
  · rwa [placeFault?_congr hg.working (iff_of_true (hg.directory hdir) hdir)]
  · -- without a directory in its place, only the path itself is at fault
    unfold FileTree.placeFault? at h ⊢
    rw [← isDirectory_iff] at hdir
    cases htext : textFault? p with
    | some fault' => rwa [htext] at h
    | none =>
      rw [htext] at h
      dsimp only at h ⊢
      split_ifs at h ⊢
      exact h

end FileTree

end CommitCharts
