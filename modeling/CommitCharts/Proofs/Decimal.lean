import CommitCharts.Decimal.Reader
import CommitCharts.Text.Radix
import Mathlib.Data.List.Basic
import Mathlib.Data.Nat.Digits.Defs
import Mathlib.Tactic.SplitIfs

/-!
# CommitCharts.Proofs.Decimal — numbers and their decimal digits

The decimal digits of a number are digits, start with a zero only if there is nothing else (`head?_toDigits`), and read
as the number again (`Text.number?_toDigits`).
-/

namespace CommitCharts

namespace Decimal

variable {n : Nat} {c : Char} {cs : List Char}

theorem isDigit_eq (c : Char) : isDigit c = c.isDigit := by
  rw [Bool.eq_iff_iff]
  simp [isDigit, Char.isDigit, Char.le_def]

/-- The codes of digits. -/
theorem toNat_of_isDigit (h : isDigit c = true) : 48 ≤ c.toNat ∧ c.toNat < 58 := by
  simp only [isDigit, Bool.and_eq_true, decide_eq_true_eq] at h
  exact ⟨h.1, Nat.lt_succ_of_le h.2⟩

theorem isDigit_of_mem_toDigits (h : c ∈ Nat.toDigits 10 n) : isDigit c = true := by
  rw [isDigit_eq]
  exact Nat.isDigit_of_mem_toDigits (by decide) (by decide) h

/-- Of all numbers only zero has a zero in front. -/
theorem head?_toDigits (h : n ≠ 0) : (Nat.toDigits 10 n).head? ≠ some '0' := by
  induction n using Nat.strongRecOn with
  | ind n ih =>
    rw [Nat.toDigits_eq_if (by decide)]
    split_ifs with hsmall
    · rw [List.head?_cons, ne_eq, Option.some_inj]
      exact fun hzero => h ((Nat.digitChar_eq_zero).1 hzero)
    · have hrest : n / 10 ≠ 0 := by omega
      rw [List.head?_append_of_ne_nil _ Nat.toDigits_ne_nil]
      exact ih (n / 10) (by omega) hrest

/-- More digits never make a number smaller. -/
theorem le_ofDigitChars (init : Nat) (cs : List Char) : init ≤ Nat.ofDigitChars 10 cs init := by
  induction cs generalizing init with
  | nil => exact Nat.le_refl init
  | cons c cs ih =>
    rw [Nat.ofDigitChars_cons]
    exact Nat.le_trans (by omega) (ih _)

end Decimal

namespace Text

theorem digit?_of_isDigit {c : Char} (h : Decimal.isDigit c = true) : digit? 10 c = some (c.toNat - '0'.toNat) := by
  simp only [Decimal.isDigit, Bool.and_eq_true, decide_eq_true_eq] at h
  unfold digit?
  rw [if_pos h]
  have hnine : c.toNat ≤ 57 := h.2
  exact if_pos (by omega)

theorem appendDigits?_of_isDigit {cs : List Char} (h : ∀ c ∈ cs, Decimal.isDigit c = true) (init : Nat) :
    appendDigits? 10 init cs = some (Nat.ofDigitChars 10 cs init) := by
  induction cs generalizing init with
  | nil => rfl
  | cons c cs ih =>
    obtain ⟨hc, hcs⟩ := List.forall_mem_cons.1 h
    rw [appendDigits?, digit?_of_isDigit hc, Option.bind_some, ih hcs, Nat.ofDigitChars_cons]

/-- **The digits of a number** read as the number. -/
theorem number?_toDigits (n : Nat) : number? 10 (Nat.toDigits 10 n) = some n := by
  unfold number?
  rw [List.isEmpty_eq_false_iff.2 Nat.toDigits_ne_nil, if_neg Bool.false_ne_true,
    appendDigits?_of_isDigit fun c hc => Decimal.isDigit_of_mem_toDigits hc, Nat.ofDigitChars_ten_toDigits]

end Text

end CommitCharts
