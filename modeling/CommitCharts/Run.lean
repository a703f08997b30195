import CommitCharts.Config.Basic
import CommitCharts.Store

/-!
# CommitCharts.Run — from the store to the charts

Reading opens the store, fetches enough rows for the wanted commits and organizes them.  Generating reads in
the same way and executes the standard plan when there are commits enough.
-/

namespace CommitCharts

/-- A fault in reading an opened store. -/
structure ReadFailure where
  path : Path
  cause : Store.Error
  deriving DecidableEq, Repr

/-- The messages of a failure from the outermost to its last cause. -/
def ReadFailure.chain (f : ReadFailure) : List String :=
  ("reading results from " ++ f.path.text) :: f.cause.message ::
    match f.cause with
    | .query cause => cause.message :: cause.causes
    | .unavailable _ reason => [reason]
    | _ => []

/-- What the store has to show. -/
inductive Reading where
  | noStore (path : Path)
  | unavailable (path : Path) (reason : String)
  | noData
  | loaded (records : Nat) (series : Series)

inductive RunOutcome where
  | noStore (path : Path)
  | unavailable (path : Path) (reason : String)
  | noData
  | insufficientData (commits : Nat)
  | completed (report : Report)
  deriving DecidableEq, Repr

/-- The records of an opened store and their series; none if there are no records. -/
def Store.load (files : Files) (s : Store) (c : Config) (catalog : Catalog) :
    Except ReadFailure (Option (Nat × Series)) :=
  match s.fetchForCommits files c.maxCommits.toNat catalog with
  | .error cause => .error ⟨s.path, cause⟩
  | .ok [] => .ok none
  | .ok records => .ok (some (records.length, Series.organize records catalog c.maxCommits.toNat))

def readSeries (files : Files) (c : Config) (catalog : Catalog) : Except ReadFailure Reading :=
  match Store.open files c.database with
  | .error (.notFound path) => .ok (.noStore path)
  | .error (.unavailable path reason) => .ok (.unavailable path reason)
  | .error cause => .error ⟨c.database, cause⟩
  | .ok store =>
    match store.load files c catalog with
    | .error e => .error e
    | .ok none => .ok .noData
    | .ok (some (records, series)) => .ok (.loaded records series)

/-- Reading may leave files beside the database; drawing writes the charts. -/
def generateCharts (files : Files) (c : Config) (catalog : Catalog) :
    Files × Except ReadFailure RunOutcome :=
  let after := Store.traces files c.database
  match Store.open files c.database with
  | .error (.notFound path) => (after, .ok (.noStore path))
  | .error (.unavailable path reason) => (after, .ok (.unavailable path reason))
  | .error cause => (after, .error ⟨c.database, cause⟩)
  | .ok store =>
    match store.load files c catalog with
    | .error e => (after, .error e)
    | .ok none => (after, .ok .noData)
    | .ok (some (_, series)) =>
      if series.size < Chart.minCommits then (after, .ok (.insufficientData series.size))
      else
        let plan := Plan.standard catalog c.docsDir c.suiteDir c.chartSizes
        let (files, report) := plan.execute after series catalog
        (files, .ok (.completed report))

end CommitCharts
