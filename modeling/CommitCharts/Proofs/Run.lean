import CommitCharts.Proofs.Store.Traces
import CommitCharts.Run

/-!
# CommitCharts.Proofs.Run — reading and generating

Generating is decided by what reading tells of the same files: the same faults, and charts of the same series
(`generateCharts_charted`).  Unless charts are drawn, only what stands beside the database may have changed.
-/

namespace CommitCharts

open FileTree

/-- What generating makes of a reading; `after` are the files once it was read. -/
def charted (after : Files) (c : Config) (catalog : Catalog) :
    Except ReadFailure Reading → Files × Except ReadFailure RunOutcome
  | .error e => (after, .error e)
  | .ok (.noStore path) => (after, .ok (.noStore path))
  | .ok (.unavailable path reason) => (after, .ok (.unavailable path reason))
  | .ok .noData => (after, .ok .noData)
  | .ok (.loaded _ series) =>
    if series.size < 2 then (after, .ok (.insufficientData series.size))
    else
      let (files, report) :=
        (Plan.standard catalog c.docsDir c.suiteDir c.chartSizes).execute after series catalog
      (files, .ok (.completed report))

theorem generateCharts_eq_charted (files : Files) (c : Config) (catalog : Catalog) :
    generateCharts files c catalog =
      charted (Store.traces files c.database) c catalog (readSeries files c catalog) := by
  unfold generateCharts readSeries
  cases Store.open files c.database with
  | error cause => cases cause <;> rfl
  | ok store =>
    dsimp only
    cases store.load files c catalog with
    | error e => rfl
    | ok loaded? =>
      cases loaded? with
      | none => rfl
      | some loaded => rfl

theorem charted_eq_noStore_iff {after : Files} {c : Config} {catalog : Catalog}
    {reading : Except ReadFailure Reading} {path : Path} :
    (charted after c catalog reading).2 = .ok (.noStore path) ↔ reading = .ok (.noStore path) := by
  cases reading with
  | error e => simp [charted]
  | ok reading =>
    cases reading with
    | noStore path' => simp [charted]
    | unavailable path reason => simp [charted]
    | noData => simp [charted]
    | loaded records series =>
      unfold charted
      dsimp only
      split_ifs <;> simp

/-- Charts are drawn of two commits at least, by the standard plan. -/
theorem charted_completed {after : Files} {c : Config} {catalog : Catalog} {reading : Except ReadFailure Reading}
    {report : Report} (h : (charted after c catalog reading).2 = .ok (.completed report)) :
    ∃ records series, reading = .ok (.loaded records series) ∧ 2 ≤ series.size ∧
      (Plan.standard catalog c.docsDir c.suiteDir c.chartSizes).execute after series catalog =
        ((charted after c catalog reading).1, report) := by
  cases reading with
  | error e => cases h
  | ok reading =>
    cases reading with
    | noStore path => cases h
    | unavailable path reason => cases h
    | noData => cases h
    | loaded records series =>
      unfold charted at h ⊢
      dsimp only at h ⊢
      split_ifs at h ⊢ with hfew
      · cases h
      · cases h
        exact ⟨records, series, rfl, Nat.le_of_not_lt hfew, rfl⟩

theorem Store.open_eq_notFound_iff {files : Files} {p q : Path} :
    Store.open files p = .error (.notFound q) ↔ files.pathExists p = false ∧ q = p := by
  unfold Store.open
  cases hexists : files.pathExists p with
  | false => simp [eq_comm]
  | true =>
    cases Target.ofPath files p with
    | error e => simp
    | ok target =>
      dsimp only
      cases Target.fault? files target <;> simp

/-- No store is found exactly if nothing is at the path. -/
theorem readSeries_eq_noStore_iff {files : Files} {c : Config} {catalog : Catalog} {path : Path} :
    readSeries files c catalog = .ok (.noStore path) ↔ files.pathExists c.database = false ∧ path = c.database := by
  rw [← Store.open_eq_notFound_iff]
  unfold readSeries
  cases Store.open files c.database with
  | error cause => cases cause <;> simp
  | ok store =>
    dsimp only
    cases store.load files c catalog with
    | error e => simp
    | ok loaded? => cases loaded? <;> simp

section Blank

end Blank

end CommitCharts
