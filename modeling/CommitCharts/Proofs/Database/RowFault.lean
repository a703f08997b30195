import CommitCharts.Proofs.Database.Record
import Mathlib.Data.List.ReduceOption

/-!
# CommitCharts.Proofs.Database.RowFault — what keeps a row from being a record

A row can have several faults at once.  They stand in a fixed order, each found without regard to the others
(`Row.faults`).  A row without faults is a record, and the error of any other row is the first of its faults
(`Row.record_eq_error_iff`).
-/

namespace CommitCharts

namespace Database

/-! ### Faults of a value -/

/-- A value that should be an integer and is none. -/
def integerFault? (v : Value) (index : Nat) (name : String) : Option QueryError :=
  match v with
  | .integer _ => none
  | v => some (.columnType v.typeName index name)

/-- A value that should be a text and is none, or has bytes that are no text. -/
def textFault? (v : Value) (index : Nat) (name : String) : Option QueryError :=
  match v with
  | .text _ => none
  | .malformed bytes => some (.malformedText index ((Text.utf8Fault? bytes).getD ⟨bytes.length, none⟩))
  | v => some (.columnType v.typeName index name)

/-- An integer that is negative or reaches the limit.  Other values are within all bounds. -/
def rangeFault? (v : Value) (index limit : Nat) : Option QueryError :=
  match v with
  | .integer n => if n.toInt < 0 ∨ limit ≤ n.toInt then some (.outOfRange n index) else none
  | _ => none

/-- The faults of a row, in the order in which they count: kinds of test id, cycles and commit, range of the test id,
kind of the test name, range of the cycles. -/
def Row.faults (names : Names) (row : Row) : List QueryError :=
  [integerFault? row.testId 1 names.testId, integerFault? row.cycles 3 names.cycles,
    textFault? row.commit 0 names.commit, rangeFault? row.testId 1 UInt32.size,
    textFault? row.testName 2 names.testName, rangeFault? row.cycles 3 UInt64.size].reduceOption

variable {v : Value} {index : Nat} {name : String} {e : QueryError}

theorem integerAt_eq_error_iff : integerAt v index name = .error e ↔ integerFault? v index name = some e := by
  cases v <;> simp [integerAt, integerFault?]

theorem textAt_eq_error_iff : textAt v index name = .error e ↔ textFault? v index name = some e := by
  cases v <;> simp [textAt, textFault?]

/-- A number is out of range for a test id if it is negative or too large. -/
theorem rangeFault?_testId (n : Int64) :
    rangeFault? (.integer n) index UInt32.size =
      if n < 0 ∨ UInt32.size ≤ n.toInt then some (.outOfRange n index) else none := by
  simp only [rangeFault?, Int64.lt_iff_toInt_lt, Int64.toInt_zero]

/-- It is out of range for cycles only if it is negative. -/
theorem rangeFault?_cycles (n : Int64) :
    rangeFault? (.integer n) index UInt64.size = if n < 0 then some (.outOfRange n index) else none := by
  have hbelow : ¬ (UInt64.size : Int) ≤ n.toInt := by
    have := n.toInt_lt
    simp only [UInt64.size]
    omega
  simp only [rangeFault?, Int64.lt_iff_toInt_lt, Int64.toInt_zero, hbelow, or_false]

/-! ### Faults of a row -/

theorem head?_reduceOption_cons (o : Option QueryError) (os : List (Option QueryError)) :
    (o :: os).reduceOption.head? = o.or os.reduceOption.head? := by
  cases o <;> simp

/-- **The error of a row** is the first of its faults. -/
theorem Row.record_eq_error_iff {names : Names} {row : Row} :
    row.record names = .error e ↔ (row.faults names).head? = some e := by
  unfold faults record
  simp only [head?_reduceOption_cons, List.reduceOption_nil, List.head?_nil, Option.or_none]
  refine bind_eq_error_iff (fun _ => integerAt_eq_error_iff) (fun id hid => bind_eq_error_iff
    (fun _ => integerAt_eq_error_iff) fun cycles hcycles => bind_eq_error_iff (fun _ => textAt_eq_error_iff)
      fun commit _ e => ?_) e
  rw [integerAt_eq_ok_iff.1 hid, integerAt_eq_ok_iff.1 hcycles, rangeFault?_testId, rangeFault?_cycles]
  by_cases hrange : id < 0 ∨ UInt32.size ≤ id.toInt
  · rw [if_pos hrange, if_pos hrange, Option.some_or, Option.some_inj]
    exact ⟨Except.error.inj, congrArg _⟩
  · rw [if_neg hrange, if_neg hrange, Option.none_or]
    refine bind_eq_error_iff (fun _ => textAt_eq_error_iff) (fun testName _ e => ?_) e
    by_cases hsign : cycles < 0
    · rw [if_pos hsign, if_pos hsign, Option.some_inj]
      exact ⟨Except.error.inj, congrArg _⟩
    · rw [if_neg hsign, if_neg hsign]
      exact ⟨nofun, nofun⟩

/-- A row is a record if and only if it has no fault. -/
theorem Row.faults_eq_nil_iff {names : Names} {row : Row} : row.faults names = [] ↔ ∃ r, row.Tells r := by
  rw [← List.head?_eq_none_iff]
  cases hrecord : row.record names with
  | error e =>
    rw [record_eq_error_iff.1 hrecord]
    refine iff_of_false nofun ?_
    rintro ⟨r, hr⟩
    rw [record_eq_ok_iff.2 hr] at hrecord
    cases hrecord
  | ok r =>
    refine iff_of_true (Option.eq_none_iff_forall_ne_some.2 fun e he => ?_) ⟨r, record_eq_ok_iff.1 hrecord⟩
    rw [record_eq_error_iff.2 he] at hrecord
    cases hrecord

end Database

end CommitCharts
