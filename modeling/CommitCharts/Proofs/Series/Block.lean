import CommitCharts.Proofs.Series.Append
import Mathlib.Data.List.Nodup

/-!
# CommitCharts.Proofs.Series.Block — a complete commit in front

A block holds the records of one commit, one for each test.  When a block of a new commit is put in front of records,
its commit is shown first, all others keep their places (`commits_organize_block`) and their frames
(`frame?_organize_block_of_ne`).
-/

namespace CommitCharts

namespace Record

/-- The records are of one commit and have each test of the catalog once. -/
structure IsBlock (catalog : Catalog) (commit : String) (block : List Record) : Prop where
  ofCommit : ∀ r ∈ block, r.commit = commit
  tests : (block.map (·.testId)).Perm catalog.ids

variable {catalog : Catalog} {commit other : String} {block ys : List Record} {id : TestId}

theorem length_of_tests (h : (block.map (·.testId)).Perm catalog.ids) : block.length = catalog.size := by
  rw [← Catalog.length_ids, ← h.length_eq, List.length_map]

theorem IsBlock.length (h : IsBlock catalog commit block) : block.length = catalog.size := length_of_tests h.tests

theorem IsBlock.ne_nil (h : IsBlock catalog commit block) (hids : catalog.ids ≠ []) : block ≠ [] := by
  rintro rfl
  exact hids h.tests.symm.eq_nil

/-! ### What is sighted and complete -/

theorem sightings_of_commit (hne : block ≠ []) (h : ∀ r ∈ block, r.commit = commit) : sightings block = [commit] := by
  induction block using List.reverseRecOn with
  | nil => exact absurd rfl hne
  | append_singleton rs r ih =>
    have hr : r.commit = commit := h r (List.mem_append_right _ (List.mem_singleton_self r))
    have hrs : ∀ x ∈ rs, x.commit = commit := fun x hx => h x (List.mem_append_left _ hx)
    rw [sightings_concat, hr]
    by_cases hempty : rs = []
    · rw [hempty]
      rfl
    · obtain ⟨x, hx⟩ := List.exists_mem_of_ne_nil _ hempty
      rw [if_pos (List.mem_map.2 ⟨x, hx, hrs x hx⟩), ih hempty hrs]

theorem IsBlock.sightings_append (h : IsBlock catalog commit block) (hids : catalog.ids ≠ [])
    (hnew : commit ∉ ys.map (·.commit)) : sightings (block ++ ys) = commit :: sightings ys := by
  have hblock := sightings_of_commit (h.ne_nil hids) h.ofCommit
  have hkept : (ys.map (·.commit)).removeAll (block.map (·.commit)) = ys.map (·.commit) := by
    refine List.filter_eq_self.2 fun c hc => ?_
    have hout : c ∉ block.map (·.commit) := by
      intro hmem
      obtain ⟨r, hr, rfl⟩ := List.mem_map.1 hmem
      exact hnew (h.ofCommit r hr ▸ hc)
    simpa using hout
  unfold sightings at hblock ⊢
  rw [List.map_append, List.eraseDups_append, hblock, hkept]
  rfl

theorem IsBlock.covers (h : IsBlock catalog commit block) (hids : catalog.ids.Nodup) :
    Covers block catalog commit := by
  refine ⟨hids, fun id hid => ?_⟩
  obtain ⟨r, hr, hrid⟩ := List.mem_map.1 (h.tests.mem_iff.2 hid)
  exact ⟨r, hr, h.ofCommit r hr, hrid⟩

theorem IsBlock.covers_append_iff (h : IsBlock catalog commit block) (hother : other ≠ commit) :
    Covers (block ++ ys) catalog other ↔ Covers ys catalog other := by
  refine and_congr_right fun _ => forall₂_congr fun id _ => ?_
  constructor
  · rintro ⟨r, hr, hcommit, hid⟩
    rcases List.mem_append.1 hr with hr | hr
    · exact absurd (hcommit.symm.trans (h.ofCommit r hr)) hother
    · exact ⟨r, hr, hcommit, hid⟩
  · rintro ⟨r, hr, hrest⟩
    exact ⟨r, List.mem_append_right _ hr, hrest⟩

theorem IsBlock.completeCommits_append (h : IsBlock catalog commit block) (hids : catalog.ids ≠ [])
    (hnodup : catalog.ids.Nodup) (hnew : commit ∉ ys.map (·.commit)) :
    completeCommits (block ++ ys) catalog = commit :: completeCommits ys catalog := by
  unfold completeCommits
  rw [h.sightings_append hids hnew, List.filter_cons, if_pos (decide_eq_true ((h.covers hnodup).append ys))]
  refine congrArg (commit :: ·) (List.filter_congr fun c hc => decide_eq_decide.2 (h.covers_append_iff ?_))
  rintro rfl
  exact hnew (mem_sightings.1 hc)

/-! ### Values -/

theorem latest?_eq_none (h : commit ∉ ys.map (·.commit)) : latest? ys commit id = none := by
  rw [← Option.not_isSome_iff_eq_none, isSome_latest?]
  rintro ⟨r, hr, hcommit, -⟩
  exact h (List.mem_map.2 ⟨r, hr, hcommit⟩)

/-- Records of one commit in front say nothing about another. -/
theorem latest?_append_of_ne (h : ∀ r ∈ block, r.commit = commit) (hother : other ≠ commit) :
    latest? (block ++ ys) other id = latest? ys other id := by
  have hnone : latest? block other id = none := by
    refine latest?_eq_none fun hmem => ?_
    obtain ⟨r, hr, hcommit⟩ := List.mem_map.1 hmem
    exact hother (hcommit.symm.trans (h r hr))
  rw [latest?_append, hnone, Option.or_none]

/-- A block says one thing about each test. -/
theorem IsBlock.latest?_eq_some_iff (h : IsBlock catalog commit block) (hnodup : catalog.ids.Nodup) {cycles : UInt64} :
    latest? block commit id = some cycles ↔ ∃ r ∈ block, r.testId = id ∧ r.cycles = cycles := by
  have hdistinct : (block.map (·.testId)).Nodup := h.tests.nodup_iff.2 hnodup
  constructor
  · intro hlatest
    obtain ⟨r, hr, rfl⟩ := Option.map_eq_some_iff.1 hlatest
    have hid := List.find?_some hr
    exact ⟨r, List.mem_reverse.1 (List.mem_of_find?_eq_some hr), (of_decide_eq_true hid).2, rfl⟩
  · rintro ⟨r, hr, rfl, rfl⟩
    obtain ⟨cycles, hlatest⟩ := Option.isSome_iff_exists.1 (isSome_latest?.2 ⟨r, hr, h.ofCommit r hr, rfl⟩)
    obtain ⟨q, hq, rfl⟩ := Option.map_eq_some_iff.1 hlatest
    have hmem : q ∈ block := List.mem_reverse.1 (List.mem_of_find?_eq_some hq)
    have hid := List.find?_some hq
    have hsame : q = r := List.inj_on_of_nodup_map hdistinct hmem hr (of_decide_eq_true hid).2
    rw [hlatest, hsame]

end Record

namespace Series

open Record

variable {catalog : Catalog} {commit other : String} {block xs ys : List Record} {m n : Nat}

/-- A frame is determined by the last records of the tests of the catalog. -/
theorem frame?_organize_congr (hseen : commit ∈ xs.map (·.commit) ↔ commit ∈ ys.map (·.commit))
    (hlatest : ∀ id, latest? xs commit id = latest? ys commit id) :
    (organize xs catalog m).frame? commit = (organize ys catalog n).frame? commit := by
  have hsome : ((organize xs catalog m).frame? commit).isSome ↔ ((organize ys catalog n).frame? commit).isSome := by
    rw [isSome_frame?_organize, isSome_frame?_organize, hseen]
  have hget (id : TestId) : ((organize xs catalog m).frame? commit).bind (·.get? id) =
      ((organize ys catalog n).frame? commit).bind (·.get? id) := by
    rw [get?_frame?_organize, get?_frame?_organize, hlatest]
  cases hxs : (organize xs catalog m).frame? commit with
  | none =>
    rw [hxs] at hsome
    exact (Option.not_isSome_iff_eq_none.1 fun h => absurd (hsome.2 h) (by simp)).symm
  | some f =>
    obtain ⟨g, hys⟩ := Option.isSome_iff_exists.1 (hsome.1 (by rw [hxs]; rfl))
    rw [hxs, hys] at hget
    rw [hys, SortedMap.ext_get? hget]

theorem commits_organize_block (h : IsBlock catalog commit block) (hids : catalog.ids ≠ [])
    (hnodup : catalog.ids.Nodup) (hnew : commit ∉ ys.map (·.commit)) :
    (organize (block ++ ys) catalog (n + 1)).commits = commit :: (organize ys catalog n).commits := by
  rw [commits_organize, commits_organize, h.completeCommits_append hids hnodup hnew, List.take_succ_cons]

theorem frame?_organize_block_of_ne (h : ∀ r ∈ block, r.commit = commit) (hother : other ≠ commit) :
    (organize (block ++ ys) catalog m).frame? other = (organize ys catalog n).frame? other := by
  refine frame?_organize_congr ?_ fun id => latest?_append_of_ne h hother
  rw [List.map_append, List.mem_append]
  constructor
  · rintro (hmem | hmem)
    · obtain ⟨r, hr, hcommit⟩ := List.mem_map.1 hmem
      exact absurd (hcommit.symm.trans (h r hr)) hother
    · exact hmem
  · exact .inr

/-- The frame of a block's commit holds the cycles of the block and nothing else. -/
theorem get?_frame_organize_block (h : IsBlock catalog commit block) (hnodup : catalog.ids.Nodup)
    (hnew : commit ∉ ys.map (·.commit)) (id : TestId) (cycles : UInt64) :
    ((organize (block ++ ys) catalog m).frame commit).get? id = some cycles ↔
      ∃ r ∈ block, r.testId = id ∧ r.cycles = cycles := by
  rw [get?_frame, get?_frame?_organize, latest?_append, latest?_eq_none hnew, Option.none_or]
  by_cases hid : id ∈ catalog.ids
  · rw [if_pos hid, h.latest?_eq_some_iff hnodup]
  · rw [if_neg hid]
    constructor
    · intro hnone
      cases hnone
    · rintro ⟨r, hr, rfl, -⟩
      exact absurd (h.tests.mem_iff.1 (List.mem_map_of_mem hr)) hid

end Series

end CommitCharts
