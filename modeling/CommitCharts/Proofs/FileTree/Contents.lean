import CommitCharts.Proofs.FileTree.Growth

/-!
# CommitCharts.Proofs.FileTree.Contents — what the files of a tree hold

Making directories leaves every file as it is (`content?_makeDirectories`).  A write that succeeds changes one file,
and that is the one its path leads to from then on (`write_denotes`).
-/

namespace CommitCharts

namespace FileTree

variable {α : Type} {t t' : FileTree α} {l k : Location} {names : List String} {p : Path} {content : α}

/-- What the file at a location holds; none if no file is there. -/
def content? (t : FileTree α) (l : Location) : Option α :=
  match t.node? l with
  | some (.file content) => some content
  | _ => none

theorem content?_eq_some : t.content? l = some content ↔ t.node? l = some (.file content) := by
  unfold content?
  cases t.node? l with
  | none => simp
  | some n => cases n <;> simp

theorem content?_put (h : l ≠ []) (content : α) (k : Location) :
    (t.put l (.file content)).content? k = if k = l then some content else t.content? k := by
  unfold content?
  rw [node?_put h]
  split_ifs <;> rfl

/-- A new directory in a free place is no file and takes none away. -/
theorem content?_put_directory (h : l ≠ []) (hfree : t.node? l = none) (k : Location) :
    (t.put l .directory).content? k = t.content? k := by
  unfold content?
  rw [node?_put h]
  split_ifs with hk
  · rw [hk, hfree]
  · rfl

theorem Grows.isSome_content? (h : Grows t t') (hl : (t.content? l).isSome = true) : (t'.content? l).isSome = true := by
  obtain ⟨content, hcontent⟩ := Option.isSome_iff_exists.mp hl
  obtain ⟨content', hnode⟩ := h.file (content?_eq_some.mp hcontent)
  exact Option.isSome_iff_exists.mpr ⟨content', content?_eq_some.mpr hnode⟩

/-! ### Making directories -/

theorem content?_makeAlong (made : Bool) (k : Location) :
    (t.makeAlong made l names).1.content? k = t.content? k := by
  induction names generalizing t l made with
  | nil => rfl
  | cons name names ih =>
    rcases name_cases name with hnoise | rfl | hlong | hplain
    · rw [makeAlong_noise made hnoise]
      exact ih made
    · rw [makeAlong_up made]
      exact ih made
    · rw [makeAlong_long made hlong]
    · rw [makeAlong_plain made hplain]
      cases hnode : t.node? (l ++ [name]) with
      | none => exact (ih true).trans (content?_put_directory (by simp) hnode k)
      | some n =>
        cases n with
        | directory => exact ih made
        | file content => rfl

theorem content?_makeDirectories (t : FileTree α) (p : Path) (k : Location) :
    (t.makeDirectories p).1.content? k = t.content? k := by
  unfold makeDirectories
  split_ifs
  · rfl
  · rfl
  · exact content?_makeAlong false k

/-! ### Paths that denote files -/

/-- The path leads to a file at the location. -/
def Denotes (t : FileTree α) (p : Path) (l : Location) : Prop := ∃ content, t.resolve p = .ok (.found l (.file content))

theorem denotes_iff :
    t.Denotes p l ↔
      textFault? p = none ∧ ∃ content, t.walk (t.start p) p.segments = .ok (.found l (.file content)) := by
  unfold Denotes resolve
  cases textFault? p with
  | none => simp
  | some fault => simp

theorem node?_of_walk (h : t.walk l names = .ok (.found k (.file content))) : t.node? k = some (.file content) := by
  induction names generalizing l with
  | nil => cases h
  | cons name names ih =>
    rcases name_cases name with hnoise | rfl | hlong | hplain
    · rw [walk_noise hnoise] at h
      exact ih h
    · rw [walk_up] at h
      exact ih h
    · rw [walk_long hlong] at h
      cases h
    · rw [walk_plain hplain] at h
      cases hnode : t.node? (l ++ [name]) with
      | none =>
        rw [hnode] at h
        dsimp only at h
        split_ifs at h
        cases h
      | some n =>
        rw [hnode] at h
        cases n with
        | directory => exact ih h
        | file old =>
          dsimp only at h
          split_ifs at h
          cases h
          exact hnode

theorem Denotes.isSome_content? (h : t.Denotes p l) : (t.content? l).isSome = true := by
  obtain ⟨-, content, hwalk⟩ := denotes_iff.mp h
  exact Option.isSome_iff_exists.mpr ⟨content, content?_eq_some.mpr (node?_of_walk hwalk)⟩

/-- A path goes on denoting the same file while the tree grows. -/
theorem Grows.denotes (h : Grows t t') (hp : t.Denotes p l) : t'.Denotes p l := by
  obtain ⟨hfault, content, hwalk⟩ := denotes_iff.mp hp
  obtain ⟨n', hn', hkind⟩ := h.walk_found hwalk
  cases n' with
  | directory => exact hkind.elim
  | file content' => exact denotes_iff.mpr ⟨hfault, content', by rw [h.start]; exact hn'⟩

/-! ### Writing -/

/-- Where names lead to the place of a file, all but the last one lead to a directory. -/
theorem LeadsToFile.reachesLast (h : t.LeadsToFile l names k) (hlast : names.getLast? ≠ some "") :
    t.reachesLast l names = true := by
  have hwalk : ∃ d, t.walk l names.dropLast = .ok (.found d .directory) := by
    induction names generalizing l with
    | nil => exact absurd rfl h.ne_nil
    | cons name names ih =>
      have htail := getLast?_tail_ne hlast
      rcases name_cases name with hnoise | rfl | hlong | hplain
      · rw [leadsToFile_noise hnoise] at h
        rw [List.dropLast_cons_of_ne_nil h.ne_nil, walk_noise hnoise]
        exact ih h htail
      · rw [leadsToFile_up] at h
        rw [List.dropLast_cons_of_ne_nil h.ne_nil, walk_up]
        exact ih h htail
      · exact absurd h (not_leadsToFile_long hlong)
      · rcases h.plain hplain with ⟨hnode, hbelow⟩ | ⟨-, -, hempty⟩
        · rw [List.dropLast_cons_of_ne_nil hbelow.ne_nil, walk_plain hplain, hnode]
          exact ih hbelow htail
        · rw [eq_nil_of_all_isEmpty hempty htail]
          exact ⟨l, rfl⟩
  obtain ⟨d, hd⟩ := hwalk
  unfold FileTree.reachesLast
  rw [hd]

/-- A path that asks for a directory is never written. -/
theorem endsInSlash_of_write (h : t.write p content = .ok t') : p.endsInSlash = false := by
  obtain ⟨k, hfault, hlead, -⟩ := write_eq_ok h
  by_contra hslash
  rw [Bool.not_eq_false] at hslash
  cases hroot : p.dropSlashes.endsInSlash with
  | true =>
    -- nothing but slashes: the root, which is no place of a file
    have hsegments : (Path.mk "/").segments = ["", ""] := by decide
    rw [Path.endsInSlash_dropSlashes hroot, hsegments, leadsToFile_noise rfl, leadsToFile_noise rfl] at hlead
    exact hlead.ne_nil rfl
  | false =>
    have hlast := Path.getLast?_segments_ne hroot (Path.text_dropSlashes_ne (text_ne_empty hfault))
    unfold write at h
    rw [hfault] at h
    dsimp only at h
    rw [hslash, hlead.reachesLast hlast] at h
    cases h

/-- A write that succeeds replaces what one location holds, and the path denotes the file there. -/
theorem write_denotes (h : t.write p content = .ok t') :
    ∃ l, t'.Denotes p l ∧ ∀ k, t'.content? k = if k = l then some content else t.content? k := by
  have hslash := endsInSlash_of_write h
  obtain ⟨l, hfault, hlead, rfl⟩ := write_eq_ok h
  rw [Path.dropSlashes_of_not_endsInSlash hslash] at hlead
  have hlast := Path.getLast?_segments_ne hslash (text_ne_empty hfault)
  exact ⟨l, denotes_iff.mpr ⟨hfault, content, walk_put hlead hlast content⟩,
    content?_put (ne_nil_of_node? hlead.ne_directory) content⟩

end FileTree

end CommitCharts
