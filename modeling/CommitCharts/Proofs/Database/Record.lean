import CommitCharts.Database.Recent
import CommitCharts.Proofs.Reading

/-!
# CommitCharts.Proofs.Database.Record — which rows are records

A row is read value by value.  It is a record exactly when its commit and its test name are texts and its two numbers
are integers within their bounds, and then it has the texts and the numbers of the record (`Row.record_eq_ok_iff`).
-/

namespace CommitCharts

namespace Database

variable {v : Value} {index : Nat} {name : String}

theorem integerAt_eq_ok_iff {n : Int64} : integerAt v index name = .ok n ↔ v = .integer n := by
  cases v <;> simp [integerAt]

theorem textAt_eq_ok_iff {s : String} : textAt v index name = .ok s ↔ v = .text s := by
  cases v <;> simp [textAt]

/-- The integer of a column and the number of a record are the same. -/
def Stores (v : Value) (n : Nat) : Prop := ∃ k : Int64, v = .integer k ∧ k.toInt = n

/-- A row has the texts and the numbers of a record. -/
structure Row.Tells (row : Row) (r : Record) : Prop where
  commit : row.commit = .text r.commit
  testId : Stores row.testId r.testId.toNat
  testName : row.testName = .text r.testName
  cycles : Stores row.cycles r.cycles.toNat

theorem TextCell.toValue_eq_text_iff {c : TextCell} {s : String} : c.toValue = .text s ↔ c = .text s := by
  cases c <;> simp [toValue]

/-! ### Numbers within their bounds -/

theorem toInt_nonneg_iff {n : Int64} : ¬ n < 0 ↔ 0 ≤ n.toInt := by
  rw [Int64.lt_iff_toInt_lt, Int64.toInt_zero, Int.not_lt]

theorem testId_bounds {n : Int64} : ¬ (n < 0 ∨ UInt32.size ≤ n.toInt) ↔ 0 ≤ n.toInt ∧ n.toInt < UInt32.size := by
  rw [not_or, toInt_nonneg_iff, Int.not_le]

theorem toNat_testId {n : Int64} (h : ¬ (n < 0 ∨ UInt32.size ≤ n.toInt)) :
    (n.toInt.toNat.toUInt32.toNat : Int) = n.toInt := by
  obtain ⟨hnonneg, hbelow⟩ := testId_bounds.1 h
  have hfits : n.toInt.toNat < UInt32.size := by omega
  rw [Nat.toUInt32_eq, UInt32.toNat_ofNat_of_lt' hfits, Int.toNat_of_nonneg hnonneg]

theorem toNat_cycles {n : Int64} (h : ¬ n < 0) : (n.toInt.toNat.toUInt64.toNat : Int) = n.toInt := by
  have hnonneg := toInt_nonneg_iff.1 h
  have hbelow := n.toInt_lt
  have hfits : n.toInt.toNat < UInt64.size := by
    simp only [UInt64.size]
    omega
  rw [Nat.toUInt64_eq, UInt64.toNat_ofNat_of_lt' hfits, Int.toNat_of_nonneg hnonneg]

/-! ### Rows -/

/-- **Rows that are records**: those with the texts and the numbers of a record. -/
theorem Row.record_eq_ok_iff {names : Names} {row : Row} {r : Record} : row.record names = .ok r ↔ row.Tells r := by
  unfold record
  constructor
  · intro h
    obtain ⟨id, hid, h⟩ := bind_eq_ok.1 h
    obtain ⟨cycles, hcycles, h⟩ := bind_eq_ok.1 h
    obtain ⟨commit, hcommit, h⟩ := bind_eq_ok.1 h
    by_cases hrange : id < 0 ∨ UInt32.size ≤ id.toInt
    · rw [if_pos hrange] at h
      cases h
    · rw [if_neg hrange] at h
      obtain ⟨testName, htestName, h⟩ := bind_eq_ok.1 h
      by_cases hsign : cycles < 0
      · rw [if_pos hsign] at h
        cases h
      · rw [if_neg hsign] at h
        cases h
        exact ⟨textAt_eq_ok_iff.1 hcommit, ⟨id, integerAt_eq_ok_iff.1 hid, (toNat_testId hrange).symm⟩,
          textAt_eq_ok_iff.1 htestName, ⟨cycles, integerAt_eq_ok_iff.1 hcycles, (toNat_cycles hsign).symm⟩⟩
  · rintro ⟨hcommit, ⟨id, hid, hidValue⟩, htestName, ⟨cycles, hcycles, hcyclesValue⟩⟩
    have hrange : ¬ (id < 0 ∨ UInt32.size ≤ id.toInt) := by
      rw [testId_bounds, hidValue]
      exact ⟨Int.natCast_nonneg _, Int.ofNat_lt.2 r.testId.toNat_lt⟩
    have hsign : ¬ cycles < 0 := by
      rw [toInt_nonneg_iff, hcyclesValue]
      exact Int.natCast_nonneg _
    refine bind_eq_ok.2 ⟨id, integerAt_eq_ok_iff.2 hid, bind_eq_ok.2 ⟨cycles, integerAt_eq_ok_iff.2 hcycles,
      bind_eq_ok.2 ⟨r.commit, textAt_eq_ok_iff.2 hcommit, ?_⟩⟩⟩
    rw [if_neg hrange]
    refine bind_eq_ok.2 ⟨r.testName, textAt_eq_ok_iff.2 htestName, ?_⟩
    rw [if_neg hsign, hidValue, hcyclesValue]
    simp [pure, Except.pure]

end Database

end CommitCharts
