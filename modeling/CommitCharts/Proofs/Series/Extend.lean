import CommitCharts.Proofs.Series.Block
import Mathlib.Data.List.Infix

/-!
# CommitCharts.Proofs.Series.Extend — more of the same records

When more records of a history are read, the commit that was sighted last may get more of them, and new commits may
come.  If all other commits have all their records already, the complete commits so far remain the first ones
(`completeCommits_prefix_append`); if moreover no test was measured twice at a commit, they keep their values
(`organize_extends`).
-/

namespace CommitCharts

namespace Record

variable {catalog : Catalog} {xs ys : List Record} {commit : String}

/-- Records of other commits behind do not make a commit complete. -/
theorem covers_append_iff_of_notMem (h : commit ∉ ys.map (·.commit)) :
    Covers (xs ++ ys) catalog commit ↔ Covers xs catalog commit := by
  refine ⟨fun hcovers => ⟨hcovers.1, fun id hid => ?_⟩, fun hcovers => hcovers.append ys⟩
  obtain ⟨r, hr, hcommit, hrid⟩ := hcovers.2 id hid
  rcases List.mem_append.1 hr with hr | hr
  · exact ⟨r, hr, hcommit, hrid⟩
  · exact absurd (List.mem_map.2 ⟨r, hr, hcommit⟩) h

/-- Only the commit that was sighted last may be sighted again. -/
def OnlyLastContinues (xs ys : List Record) : Prop :=
  ∀ front last, sightings xs = front ++ [last] → ∀ commit ∈ front, commit ∉ ys.map (·.commit)

theorem completeCommits_prefix_append (hlast : OnlyLastContinues xs ys) (catalog : Catalog) :
    completeCommits xs catalog <+: completeCommits (xs ++ ys) catalog := by
  obtain ⟨later, hlater⟩ := sightings_prefix_append xs ys
  have hseen : (sightings xs).filter (Covers xs catalog) <+: (sightings xs).filter (Covers (xs ++ ys) catalog) := by
    rcases List.eq_nil_or_concat' (sightings xs) with hnone | ⟨front, last, hsplit⟩
    · rw [hnone]
      exact List.prefix_refl _
    · have hfront : front.filter (Covers xs catalog) = front.filter (Covers (xs ++ ys) catalog) :=
        List.filter_congr fun commit hcommit =>
          decide_eq_decide.2 (covers_append_iff_of_notMem (hlast front last hsplit commit hcommit)).symm
      rw [hsplit, List.filter_append, List.filter_append, hfront, List.prefix_append_right_inj]
      -- the last commit may become complete, but it does not cease to be
      by_cases hcovers : Covers xs catalog last
      · have hmore := hcovers.append ys
        simp [hcovers, hmore]
      · simp [hcovers]
  unfold completeCommits
  rw [← hlater, List.filter_append]
  exact hseen.trans (List.prefix_append _ _)

/-- No test of the catalog has records of one commit both before and behind. -/
def NoneAgain (catalog : Catalog) (xs ys : List Record) : Prop :=
  ∀ r ∈ xs, ∀ q ∈ ys, r.commit = q.commit → r.testId = q.testId → r.testId ∉ catalog.ids

theorem latest?_append_of_noneAgain (hnone : NoneAgain catalog xs ys) (hcovers : Covers xs catalog commit)
    {id : TestId} (hid : id ∈ catalog.ids) : latest? (xs ++ ys) commit id = latest? xs commit id := by
  have hbehind : latest? ys commit id = none := by
    rw [← Option.not_isSome_iff_eq_none, isSome_latest?]
    rintro ⟨q, hq, hqcommit, hqid⟩
    obtain ⟨r, hr, hrcommit, hrid⟩ := hcovers.2 id hid
    exact hnone r hr q hq (hrcommit.trans hqcommit.symm) (hrid.trans hqid.symm) (hrid.symm ▸ hid)
  rw [latest?_append, hbehind, Option.none_or]

end Record

namespace Series

open Record

variable {catalog : Catalog} {xs ys : List Record} {m n : Nat}

/-- More records and a larger cap leave the commits shown so far in front, with the values they had. -/
theorem organize_extends (hlast : OnlyLastContinues xs ys) (hnone : NoneAgain catalog xs ys) (hcap : n ≤ m) :
    (organize xs catalog n).commits <+: (organize (xs ++ ys) catalog m).commits ∧
    ∀ commit ∈ (organize xs catalog n).commits, ∀ id ∈ catalog.ids,
      (organize xs catalog n).value commit id = (organize (xs ++ ys) catalog m).value commit id := by
  rw [commits_organize, commits_organize]
  refine ⟨?_, fun commit hcommit id hid => ?_⟩
  · exact (List.take_prefix_take_left hcap).trans ((completeCommits_prefix_append hlast catalog).take m)
  · have hcovers := covers_of_mem_completeCommits (List.mem_of_mem_take hcommit)
    rw [value_organize hid, value_organize hid, latest?_append_of_noneAgain hnone hcovers hid]

end Series

end CommitCharts
