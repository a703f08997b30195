import CommitCharts.Proofs.Reading
import CommitCharts.Run

/-!
# CommitCharts.Proofs.Store.History — all that a store has to tell

The history of a store is what its query gives without a limit, read row by row.  If every row is a record, a limit
cuts the history and nothing else (`fetchRecent_of_history`), and what is loaded is the series of the first records
(`load_of_history`).
-/

namespace CommitCharts

/-- Rows that already stand in order are read as they stand. -/
theorem Database.rows_eq_joined {runs : SortedMap Int64 RunRow} {results : SortedMap Int64 ResultRow}
    (h : (joined runs results).Pairwise fun a b => (a.order b).isLE = true) :
    rows runs results = joined runs results :=
  List.mergeSort_of_pairwise h

namespace Store

/-- The records of all kept rows, in the order in which they are read. -/
def history? (files : Files) (s : Store) : Except Database.QueryError (List Record) := do
  let answer ← s.answer? files
  answer.rows.mapM (Database.Row.record answer.names)

/-- The path of the store leads to a database of which a reader sees this content. -/
def LeadsTo (files : Files) (s : Store) (content : Content) : Prop :=
  ∃ target, Target.ofPath files s.path = .ok target ∧ target.view? files = .ok content

variable {files : Files} {s : Store} {records : List Record}

theorem answer?_of_leadsTo {content : Content} (h : LeadsTo files s content) : s.answer? files = content.answer? := by
  obtain ⟨target, hpath, hview⟩ := h
  unfold answer?
  rw [hpath]
  show Target.answer? files target = content.answer?
  unfold Target.answer?
  rw [hview]
  rfl

/-- The history of a database with both tables. -/
theorem history?_of_leadsTo {d : Database} (h : LeadsTo files s (.database d))
    {runs : Database.Table Database.RunRow} {results : Database.Table Database.ResultRow}
    (hruns : d.runs = some runs) (hresults : d.results = some results) :
    s.history? files =
      (Database.rows runs.rows results.rows).mapM fun j => Database.Row.record {} j.row := by
  have hanswer : d.answer? = .ok { rows := (Database.rows runs.rows results.rows).map Database.Joined.row } := by
    unfold Database.answer?
    rw [hresults, hruns]
  have hread : s.answer? files = d.answer? := answer?_of_leadsTo h
  unfold history?
  rw [hread, hanswer]
  exact List.mapM_map

theorem fetchRecent_of_history (h : s.history? files = .ok records) {limit : Nat} (hlimit : 0 < limit) :
    s.fetchRecent files limit = .ok (records.take limit) := by
  unfold history? at h
  unfold fetchRecent
  rw [if_neg (Nat.ne_of_gt hlimit)]
  cases ha : s.answer? files with
  | error e =>
    rw [ha] at h
    exact absurd h (by simp [bind, Except.bind])
  | ok answer =>
    rw [ha] at h
    have hrows : answer.rows.mapM (Database.Row.record answer.names) = .ok records := h
    show ((answer.rows.take limit).mapM (Database.Row.record answer.names)).mapError Error.query = _
    rw [mapM_take_of_ok hrows]
    rfl

/-- What loading records gives: nothing for no records, else their number and their series. -/
def loaded (records : List Record) (catalog : Catalog) (maxCommits : Nat) : Option (Nat × Series) :=
  if records.isEmpty then none else some (records.length, Series.organize records catalog maxCommits)

theorem loaded_of_ne_nil (h : records ≠ []) (catalog : Catalog) (maxCommits : Nat) :
    loaded records catalog maxCommits = some (records.length, Series.organize records catalog maxCommits) := by
  unfold loaded
  rw [List.isEmpty_eq_false_iff.2 h]
  rfl

theorem load_eq_ok_iff {c : Config} {catalog : Catalog} {result : Option (Nat × Series)} :
    s.load files c catalog = .ok result ↔
      ∃ records, s.fetchForCommits files c.maxCommits.toNat catalog = .ok records ∧
        loaded records catalog c.maxCommits.toNat = result := by
  unfold load loaded
  cases s.fetchForCommits files c.maxCommits.toNat catalog with
  | error e => simp
  | ok records => cases records <;> simp

theorem loaded_eq_some {catalog : Catalog} {maxCommits count : Nat} {series : Series}
    (h : loaded records catalog maxCommits = some (count, series)) :
    series = Series.organize records catalog maxCommits := by
  unfold loaded at h
  split_ifs at h
  exact (congrArg Prod.snd (Option.some.inj h)).symm

theorem recordLimit_pos {commits tests : Nat} (hcommits : 0 < commits) (htests : 0 < tests) :
    0 < recordLimit commits tests := by
  rw [recordLimit_eq]
  exact Nat.lt_min.2 ⟨Nat.mul_pos hcommits htests, by decide⟩

theorem recordLimit_mono {commits commits' : Nat} (h : commits ≤ commits') (tests : Nat) :
    recordLimit commits tests ≤ recordLimit commits' tests := by
  rw [recordLimit_eq, recordLimit_eq]
  exact Nat.le_min.2 ⟨Nat.le_trans (Nat.min_le_left _ _) (Nat.mul_le_mul_right tests h), Nat.min_le_right _ _⟩

theorem load_of_history (h : s.history? files = .ok records) {c : Config} {catalog : Catalog}
    (hcommits : 0 < c.maxCommits.toNat) (htests : 0 < catalog.size) :
    s.load files c catalog =
      .ok (loaded (records.take (recordLimit c.maxCommits.toNat catalog.size)) catalog c.maxCommits.toNat) :=
  load_eq_ok_iff.2 ⟨_, fetchRecent_of_history h (recordLimit_pos hcommits htests), rfl⟩

/-! ### A database in a directory of its own -/

/-- Files with nothing but a database. -/
def onDisk (d : Database) : Files := ⟨SortedMap.ofList [(["p.db"], .file (.database d))], []⟩

def diskStore : Store := ⟨⟨"p.db"⟩⟩

theorem leadsTo_onDisk (d : Database) : LeadsTo (onDisk d) diskStore (.database d) :=
  ⟨.file ["p.db"] (.database d) { file := some "p.db" }, by rfl, by rfl⟩

end Store

end CommitCharts
