import CommitCharts.Proofs.Database.RowFault
import CommitCharts.Proofs.Store.Tables

/-!
# CommitCharts.Proofs.Store.Limit — a fetch and its limit

A limit cuts the rows before any of them is read, and they are read one after the other.  So a fetch gives the first
records of any longer fetch, and when it fails, every longer fetch fails in the same way.  The error is that of the
first row that has a fault (`fetchRecent_limits`).
-/

namespace CommitCharts

/-- An item stands among the first ones if there are few enough before it. -/
theorem exists_take_eq_append_cons_iff {α : Type} {xs before : List α} {x : α} {n : Nat} :
    (∃ after, xs.take n = before ++ x :: after) ↔ (∃ after, xs = before ++ x :: after) ∧ before.length < n := by
  constructor
  · rintro ⟨after, h⟩
    refine ⟨⟨after ++ xs.drop n, ?_⟩, ?_⟩
    · rw [← List.cons_append, ← List.append_assoc, ← h, List.take_append_drop]
    · have hlength := congrArg List.length h
      rw [List.length_take, List.length_append, List.length_cons] at hlength
      omega
  · rintro ⟨⟨after, rfl⟩, hn⟩
    obtain ⟨m, rfl⟩ := Nat.exists_eq_add_of_lt hn
    exact ⟨after.take m, by rw [Nat.add_assoc, List.take_length_add_append, List.take_succ_cons]⟩

namespace Store

open Database

variable {files : Files} {s : Store} {limit limit' : Nat}

/-- A fetch reads the first rows that the store has to tell, if it has any. -/
theorem fetchRecent_eq_bind (files : Files) (s : Store) (hlimit : 0 < limit) :
    s.fetchRecent files limit =
      (s.answer? files >>= fun a => (a.rows.take limit).mapM (Row.record a.names)).mapError .query := by
  unfold fetchRecent
  rw [if_neg (Nat.ne_of_gt hlimit)]
  rfl

/-- A longer fetch begins with the records of a shorter one. -/
theorem fetchRecent_of_longer (hpos : 0 < limit) (hle : limit ≤ limit') {records : List Record}
    (h : s.fetchRecent files limit' = .ok records) : s.fetchRecent files limit = .ok (records.take limit) := by
  rw [fetchRecent_eq_bind files s (Nat.lt_of_lt_of_le hpos hle), mapError_eq_ok_iff] at h
  obtain ⟨answer, hanswer, hrows⟩ := bind_eq_ok.1 h
  rw [fetchRecent_eq_bind files s hpos, mapError_eq_ok_iff]
  have hfirst := mapM_take_of_ok hrows limit
  rw [List.take_take, Nat.min_eq_left hle] at hfirst
  exact bind_eq_ok.2 ⟨answer, hanswer, hfirst⟩

/-- A longer fetch fails as a shorter one does. -/
theorem fetchRecent_error_of_shorter (hpos : 0 < limit) (hle : limit ≤ limit') {e : Error}
    (h : s.fetchRecent files limit = .error e) : s.fetchRecent files limit' = .error e := by
  rw [fetchRecent_eq_bind files s hpos, mapError_eq_error_iff] at h
  rw [fetchRecent_eq_bind files s (Nat.lt_of_lt_of_le hpos hle), mapError_eq_error_iff]
  obtain ⟨cause, hcause, rfl⟩ := h
  refine ⟨cause, ?_, rfl⟩
  cases hanswer : s.answer? files with
  | error e =>
    rw [hanswer] at hcause
    exact hcause
  | ok answer =>
    rw [hanswer] at hcause
    have hrows : (answer.rows.take limit).mapM (Row.record answer.names) = .error cause := hcause
    have hpre : answer.rows.take limit <+: answer.rows.take limit' := List.take_prefix_take_left hle
    exact mapM_eq_error_of_prefix hpre hrows

variable {names : Names} {runs : SortedMap Int64 RunRow} {results : SortedMap Int64 ResultRow}

/-- A fetch fails with the first fault of the first row that has one, if the limit reaches the row. -/
theorem fetchRecent_eq_error_iff (hreads : Reads files s names runs results) (hpos : 0 < limit) {e : Error} :
    s.fetchRecent files limit = .error e ↔
      ∃ before j after cause, rows runs results = before ++ j :: after ∧ before.length < limit ∧
        (∀ i ∈ before, i.row.faults names = []) ∧ (j.row.faults names).head? = some cause ∧ e = .query cause := by
  have hgood (i : Joined) : (∃ x, i.record names = .ok x) ↔ i.row.faults names = [] := by
    rw [Row.faults_eq_nil_iff]
    exact exists_congr fun x => Row.record_eq_ok_iff
  rw [fetchRecent_of_reads hreads hpos, mapError_eq_error_iff]
  constructor
  · rintro ⟨cause, hcause, rfl⟩
    obtain ⟨before, j, after, hsplit, hbefore, hj⟩ := mapM_eq_error_iff.1 hcause
    obtain ⟨⟨rest, hrows⟩, hcount⟩ := exists_take_eq_append_cons_iff.1 ⟨after, hsplit⟩
    exact ⟨before, j, rest, cause, hrows, hcount, fun i hi => (hgood i).1 (hbefore i hi),
      Row.record_eq_error_iff.1 hj, rfl⟩
  · rintro ⟨before, j, after, cause, hrows, hcount, hbefore, hj, rfl⟩
    obtain ⟨rest, hsplit⟩ := exists_take_eq_append_cons_iff.2 ⟨⟨after, hrows⟩, hcount⟩
    exact ⟨cause, mapM_eq_error_iff.2 ⟨before, j, rest, hsplit, fun i hi => (hgood i).2 (hbefore i hi),
      Row.record_eq_error_iff.2 hj⟩, rfl⟩

/-- A fetch fails if and only if its limit reaches a row that is no record. -/
theorem fetchRecent_fails_iff (hreads : Reads files s names runs results) (hpos : 0 < limit) :
    (∃ e, s.fetchRecent files limit = .error e) ↔ ∃ j ∈ (rows runs results).take limit, ¬ ∃ x, j.row.Tells x := by
  rw [fetchRecent_of_reads hreads hpos]
  cases hrows : ((rows runs results).take limit).mapM (Joined.record names) with
  | error cause =>
    obtain ⟨before, j, after, hsplit, -, hj⟩ := mapM_eq_error_iff.1 hrows
    refine iff_of_true ⟨_, rfl⟩ ⟨j, by rw [hsplit]; simp, ?_⟩
    rintro ⟨x, hx⟩
    have hrecord : j.record names = .ok x := Row.record_eq_ok_iff.2 hx
    rw [hrecord] at hj
    cases hj
  | ok records =>
    refine iff_of_false nofun ?_
    rintro ⟨j, hj, hno⟩
    obtain ⟨x, hx⟩ := exists_ok_of_mem hrows hj
    exact hno ⟨x, Row.record_eq_ok_iff.1 hx⟩

/-- **Limits are prefixes**: a fetch gives the first records of every longer fetch that succeeds, and it fails as every
longer fetch does.  If the store reads two tables, it fails exactly if the limit reaches a row that is no record, and
the error is the first fault of the first such row. -/
theorem fetchRecent_limits (hpos : 1 ≤ limit) (hle : limit ≤ limit') :
    (∀ records, s.fetchRecent files limit' = .ok records → s.fetchRecent files limit = .ok (records.take limit)) ∧
    (∀ e, s.fetchRecent files limit = .error e → s.fetchRecent files limit' = .error e) ∧
    ∀ names runs results, Reads files s names runs results →
      ((∃ e, s.fetchRecent files limit = .error e) ↔ ∃ j ∈ (rows runs results).take limit, ¬ ∃ x, j.row.Tells x) ∧
      ∀ e, s.fetchRecent files limit = .error e ↔
        ∃ before j after cause, rows runs results = before ++ j :: after ∧ before.length < limit ∧
          (∀ i ∈ before, i.row.faults names = []) ∧ (j.row.faults names).head? = some cause ∧ e = .query cause :=
  ⟨fun _ => fetchRecent_of_longer hpos hle, fun _ => fetchRecent_error_of_shorter hpos hle,
    fun _ _ _ hreads => ⟨fetchRecent_fails_iff hreads hpos, fun _ => fetchRecent_eq_error_iff hreads hpos⟩⟩

section Flawed

/-- A good row, one with two faults, and one with negative cycles. -/
def flawed : Database := Database.applyAll {}
  [.createRuns, .createResults,
    .addRun none (.text "2026-01-01") (.text "new")
      [(.integer 1, .text "a", .integer 10), (.integer 5000000000, .text "b", .null),
        (.integer 3, .text "c", .integer (-5))]]

def flawedRuns : SortedMap Int64 RunRow := (flawed.runs.map Table.rows).getD ∅

def flawedResults : SortedMap Int64 ResultRow := (flawed.results.map Table.rows).getD ∅

theorem reads_flawed : Reads (onDisk flawed) diskStore {} flawedRuns flawedResults := reads_onDisk rfl rfl

theorem rows_flawed : rows flawedRuns flawedResults = joined flawedRuns flawedResults :=
  rows_eq_joined (by decide +kernel)

/-- The missing cycles of the second row are the error of every fetch of two rows or more: that its test id is out of
range counts less, and the third row comes later. -/
theorem fetchRecent_limits_flawed :
    1 ≤ 2 ∧ 2 ≤ 3 ∧ diskStore.fetchRecent (onDisk flawed) 2 = .error (.query (.columnType "Null" 3 "Cycles")) ∧
      diskStore.fetchRecent (onDisk flawed) 3 = .error (.query (.columnType "Null" 3 "Cycles")) := by
  obtain ⟨-, hfails, hrows⟩ :=
    @fetchRecent_limits (onDisk flawed) diskStore 2 3 (by decide) (by decide)
  have hsecond := ((hrows _ _ _ reads_flawed).2 (.query (.columnType "Null" 3 "Cycles"))).2
    ⟨(joined flawedRuns flawedResults).take 1, _, (joined flawedRuns flawedResults).drop 2, _, rows_flawed,
      by decide, by decide, rfl, rfl⟩
  exact ⟨by decide, by decide, hsecond, hfails _ hsecond⟩

end Flawed

end Store

end CommitCharts
