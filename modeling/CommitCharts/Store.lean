import CommitCharts.Series.Organize
import CommitCharts.Store.Target

/-!
# CommitCharts.Store — reading measured results

A store is the database at a path.  Opening looks at its file; every fetch reads the tables as they are at that
moment.
-/

namespace CommitCharts

structure Store where
  path : Path
  deriving DecidableEq, Repr

namespace Store

inductive Error where
  | notFound (path : Path)
  | unavailable (path : Path) (reason : String)
  | invalidLimit
  | query (cause : Database.QueryError)
  deriving DecidableEq, Repr

def Error.message : Error → String
  | .notFound path => "performance database not found at " ++ path.text
  | .unavailable path reason => "cannot open performance database " ++ path.text ++ ": " ++ reason
  | .invalidLimit => "record limit must be positive"
  | .query cause => "query failed: " ++ cause.message

def «open» (files : Files) (path : Path) : Except Error Store :=
  if !files.pathExists path then .error (.notFound path)
  else
    match Target.ofPath files path with
    | .error e => .error (.unavailable path e.message)
    | .ok target =>
      match target.fault? files with
      | some fault => .error (.unavailable path fault.message)
      | none => .ok ⟨path⟩

/-- All that the store has to tell at this moment. -/
def answer? (files : Files) (s : Store) : Except Database.QueryError Database.Answer := do
  (← (Target.ofPath files s.path).mapError fun _ => .unreadable .unopenable).answer? files

/-- The most recent records, `limit` at most. -/
def fetchRecent (files : Files) (s : Store) (limit : Nat) : Except Error (List Record) :=
  if limit = 0 then .error .invalidLimit
  else (do (← s.answer? files).recent limit).mapError .query

/-- The files after a path was looked at for a database. -/
def traces (files : Files) (path : Path) : Files :=
  match Target.ofPath files path with
  | .ok target => if files.pathExists path then target.traces files else files
  | .error _ => files

/-- Limits are 32-bit numbers; larger ones count as the largest. -/
def saturate (n : Nat) : Nat := min n (UInt32.size - 1)

/-- Rows to ask for: one for each test at each commit. -/
def recordLimit (commits tests : Nat) : Nat := saturate (saturate commits * saturate tests)

def fetchForCommits (files : Files) (s : Store) (commits : Nat) (catalog : Catalog) :
    Except Error (List Record) :=
  s.fetchRecent files (recordLimit commits catalog.size)

theorem recordLimit_eq (commits tests : Nat) :
    recordLimit commits tests = min (commits * tests) (UInt32.size - 1) := by
  unfold recordLimit saturate
  generalize UInt32.size - 1 = b
  rcases Nat.le_total commits b with hc | hc <;> rcases Nat.le_total tests b with ht | ht
  · rw [Nat.min_eq_left hc, Nat.min_eq_left ht]
  · rw [Nat.min_eq_left hc, Nat.min_eq_right ht]
    rcases Nat.eq_zero_or_pos commits with rfl | h
    · simp
    · rw [Nat.min_eq_right (Nat.le_mul_of_pos_left _ h),
        Nat.min_eq_right (Nat.le_trans ht (Nat.le_mul_of_pos_left _ h))]
  · rw [Nat.min_eq_right hc, Nat.min_eq_left ht]
    rcases Nat.eq_zero_or_pos tests with rfl | h
    · simp
    · rw [Nat.min_eq_right (Nat.le_mul_of_pos_right _ h),
        Nat.min_eq_right (Nat.le_trans hc (Nat.le_mul_of_pos_right _ h))]
  · rw [Nat.min_eq_right hc, Nat.min_eq_right ht]
    rcases Nat.eq_zero_or_pos b with rfl | h
    · simp
    · rw [Nat.min_eq_right (Nat.le_mul_of_pos_right _ h),
        Nat.min_eq_right (Nat.le_trans hc (Nat.le_mul_of_pos_right _ (Nat.lt_of_lt_of_le h ht)))]

end Store

end CommitCharts
