import CommitCharts.Proofs.Series.Selection

/-!
# CommitCharts.Proofs.Series.Append — records in front of others

When records are followed by others, their commits keep their order and complete ones stay complete
(`commits_organize_sublist`), and every frame is the earlier one with the later one laid over it
(`frame_organize_append`).
-/

namespace CommitCharts

namespace Record

variable {catalog : Catalog}

theorem sightings_prefix_append (xs ys : List Record) : sightings xs <+: sightings (xs ++ ys) := by
  unfold sightings
  rw [List.map_append, List.eraseDups_append]
  exact List.prefix_append _ _

theorem Covers.append {xs : List Record} {commit : String} (h : Covers xs catalog commit) (ys : List Record) :
    Covers (xs ++ ys) catalog commit :=
  ⟨h.1, fun id hid => by
    obtain ⟨r, hr, hrc⟩ := h.2 id hid
    exact ⟨r, List.mem_append_left _ hr, hrc⟩⟩

theorem completeCommits_sublist (xs ys : List Record) (catalog : Catalog) :
    (completeCommits xs catalog).Sublist (completeCommits (xs ++ ys) catalog) := by
  have hcovers : ((sightings xs).filter (Covers xs catalog)).Sublist
      ((sightings xs).filter (Covers (xs ++ ys) catalog)) := by
    refine List.monotone_filter_right _ fun commit h => ?_
    exact decide_eq_true ((of_decide_eq_true h).append ys)
  exact hcovers.trans ((sightings_prefix_append xs ys).sublist.filter _)

theorem covers_of_mem_completeCommits {records : List Record} {commit : String}
    (h : commit ∈ completeCommits records catalog) : Covers records catalog commit :=
  of_decide_eq_true (List.mem_filter.1 h).2

theorem length_completeCommits_le (records : List Record) (catalog : Catalog) :
    (completeCommits records catalog).length ≤ (sightings records).length :=
  List.length_filter_le _ _

theorem latest?_append (xs ys : List Record) (commit : String) (id : TestId) :
    latest? (xs ++ ys) commit id = (latest? ys commit id).or (latest? xs commit id) := by
  unfold latest?
  rw [List.reverse_append, List.find?_append, Option.map_or]

end Record

namespace Series

/-- The frame of a commit; empty where there is none. -/
def frame (s : Series) (commit : String) : Frame := (s.frame? commit).getD ∅

theorem get?_frame (s : Series) (commit : String) (id : TestId) :
    (s.frame commit).get? id = (s.frame? commit).bind (·.get? id) := by
  unfold frame
  cases s.frame? commit <;> rfl

variable (catalog : Catalog) {xs ys : List Record} {cap : Nat}

/-- A cap that no commit exceeds leaves every complete commit. -/
theorem commits_organize_of_le {records : List Record} (h : (Record.sightings records).length ≤ cap) :
    (organize records catalog cap).commits = Record.completeCommits records catalog := by
  rw [commits_organize]
  exact List.take_of_length_le (Nat.le_trans (Record.length_completeCommits_le records catalog) h)

theorem commits_organize_sublist (h : (Record.sightings (xs ++ ys)).length ≤ cap) :
    (organize xs catalog cap).commits.Sublist (organize (xs ++ ys) catalog cap).commits := by
  have hxs := Nat.le_trans (Record.sightings_prefix_append xs ys).length_le h
  rw [commits_organize_of_le catalog h, commits_organize_of_le catalog hxs]
  exact Record.completeCommits_sublist xs ys catalog

theorem frame_organize_append (xs ys : List Record) (cap : Nat) (commit : String) :
    (organize (xs ++ ys) catalog cap).frame commit =
      ((organize xs catalog cap).frame commit).overlay ((organize ys catalog cap).frame commit) := by
  refine SortedMap.ext_get? fun id => ?_
  rw [SortedMap.get?_overlay, get?_frame, get?_frame, get?_frame, get?_frame?_organize, get?_frame?_organize,
    get?_frame?_organize, Record.latest?_append]
  split_ifs <;> rfl

end Series

end CommitCharts
