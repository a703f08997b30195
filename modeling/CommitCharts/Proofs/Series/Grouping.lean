import CommitCharts.Series.Organize
import Mathlib.Data.List.Induction

/-!
# CommitCharts.Proofs.Series.Grouping — what a grouping holds

A grouping of records is read off the records alone.  Its commits are those of the records in the order of first
sighting (`seen_ofRecords`).  Its frames belong to these commits (`isSome_frames_ofRecords`), and a frame holds the
cycles of the last record of every test in the catalog and nothing else (`get?_frames_ofRecords`).
-/

namespace CommitCharts

namespace Record

/-- The commits of records in the order of first sighting. -/
def sightings (records : List Record) : List String := (records.map (·.commit)).eraseDups

/-- The cycles of the last record of a test at a commit. -/
def latest? (records : List Record) (commit : String) (id : TestId) : Option UInt64 :=
  (records.reverse.find? fun r => r.commit = commit ∧ r.testId = id).map (·.cycles)

section Sightings

theorem mem_sightings {records : List Record} {commit : String} :
    commit ∈ sightings records ↔ commit ∈ records.map (·.commit) :=
  List.mem_eraseDups

@[simp] theorem sightings_nil : sightings [] = [] := rfl

theorem sightings_concat (records : List Record) (r : Record) :
    sightings (records ++ [r]) =
      if r.commit ∈ records.map (·.commit) then sightings records else sightings records ++ [r.commit] := by
  unfold sightings
  rw [List.map_append, List.map_singleton, List.eraseDups_append]
  by_cases h : r.commit ∈ records.map (·.commit)
  · have hnew : [r.commit].removeAll (records.map (·.commit)) = [] := by simpa [List.removeAll] using h
    rw [if_pos h, hnew, List.eraseDups_nil, List.append_nil]
  · have hnew : [r.commit].removeAll (records.map (·.commit)) = [r.commit] := by
      simpa [List.removeAll] using h
    rw [if_neg h, hnew, List.eraseDups_cons]
    rfl

theorem nodup_sightings (records : List Record) : (sightings records).Nodup := by
  induction records using List.reverseRecOn with
  | nil => simp
  | append_singleton records r ih =>
    rw [sightings_concat]
    split_ifs with h
    · exact ih
    · refine List.nodup_append.2 ⟨ih, by simp, ?_⟩
      rintro c hc d hd rfl
      obtain rfl : c = r.commit := by simpa using hd
      exact h (mem_sightings.1 hc)

end Sightings

section Latest

variable {commit : String} {id : TestId}

@[simp] theorem latest?_nil : latest? [] commit id = none := rfl

theorem latest?_concat (records : List Record) (r : Record) :
    latest? (records ++ [r]) commit id =
      if r.commit = commit ∧ r.testId = id then some r.cycles else latest? records commit id := by
  unfold latest?
  rw [List.reverse_append, List.reverse_singleton, List.singleton_append, List.find?_cons]
  by_cases h : r.commit = commit ∧ r.testId = id
  · simp [h]
  · rw [if_neg h, decide_eq_false h]

theorem isSome_latest? {records : List Record} :
    (latest? records commit id).isSome ↔ ∃ r ∈ records, r.commit = commit ∧ r.testId = id := by
  simp [latest?]

end Latest

end Record

namespace Grouping

variable {catalog : Catalog}

/-! ### One record -/

theorem get?_enter (frame : Frame) (r : Record) (id : TestId) :
    (enter catalog frame r).get? id =
      if id = r.testId ∧ id ∈ catalog.ids then some r.cycles else frame.get? id := by
  unfold enter
  by_cases hc : catalog.contains r.testId = true
  · rw [if_pos hc, SortedMap.get?_insert]
    have hmem := Catalog.contains_iff.1 hc
    by_cases h : id = r.testId
    · rw [if_pos h, if_pos ⟨h, h ▸ hmem⟩]
    · rw [if_neg h, if_neg fun hand => h hand.1]
  · rw [if_neg hc, if_neg]
    rintro ⟨rfl, hmem⟩
    exact hc (Catalog.contains_iff.2 hmem)

theorem get?_frames_add (g : Grouping) (r : Record) (commit : String) :
    (add catalog g r).frames.get? commit =
      if commit = r.commit then some (enter catalog ((g.frames.get? r.commit).getD ∅) r)
      else g.frames.get? commit := by
  unfold add
  cases h : g.frames.get? r.commit <;> simp [SortedMap.get?_insert]

theorem seen_add (g : Grouping) (r : Record) :
    (add catalog g r).seen = if (g.frames.get? r.commit).isSome then g.seen else g.seen ++ [r.commit] := by
  unfold add
  cases h : g.frames.get? r.commit <;> simp

/-! ### All records -/

variable (catalog)

theorem isSome_frames_ofRecords (records : List Record) (commit : String) :
    ((ofRecords catalog records).frames.get? commit).isSome ↔ commit ∈ records.map (·.commit) := by
  induction records using List.reverseRecOn with
  | nil => simp
  | append_singleton records r ih =>
    rw [ofRecords_concat, get?_frames_add]
    by_cases h : commit = r.commit
    · simp [h]
    · rw [if_neg h, ih]
      simp [h]

/-- Commits are listed in the order of first sighting. -/
theorem seen_ofRecords (records : List Record) :
    (ofRecords catalog records).seen = Record.sightings records := by
  induction records using List.reverseRecOn with
  | nil => rfl
  | append_singleton records r ih =>
    rw [ofRecords_concat, seen_add, ih, Record.sightings_concat]
    simp only [isSome_frames_ofRecords]

/-- A frame holds the last cycles of every test in the catalog, and nothing of other tests. -/
theorem get?_frames_ofRecords (records : List Record) (commit : String) (id : TestId) :
    ((ofRecords catalog records).frames.get? commit).bind (·.get? id) =
      if id ∈ catalog.ids then Record.latest? records commit id else none := by
  induction records using List.reverseRecOn with
  | nil => simp
  | append_singleton records r ih =>
    rw [ofRecords_concat, get?_frames_add, Record.latest?_concat]
    by_cases hc : commit = r.commit
    · subst hc
      -- the frame before this record, empty at the first sighting
      have hold : ((((ofRecords catalog records).frames.get? r.commit).getD ∅).get? id) =
          if id ∈ catalog.ids then Record.latest? records r.commit id else none := by
        rw [← ih]
        cases (ofRecords catalog records).frames.get? r.commit <;> simp
      rw [if_pos rfl, Option.bind_some, get?_enter, hold]
      by_cases hid : id = r.testId
      · subst hid
        by_cases hmem : r.testId ∈ catalog.ids <;> simp [hmem]
      · simp [hid, Ne.symm hid]
    · rw [if_neg hc, ih]
      simp [Ne.symm hc]

end Grouping

end CommitCharts
