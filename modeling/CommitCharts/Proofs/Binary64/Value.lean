import CommitCharts.Proofs.Binary64.Grid
import Mathlib.Order.Compare

/-!
# CommitCharts.Proofs.Binary64.Value — what an unpacked float stands for

A float that is neither infinite nor no number stands for one rational number (`Denotes`), and floats are compared as
these numbers are (`Denotes.compare`).
-/

namespace CommitCharts.Binary64

open Float.Model Float.Model.UnpackedFloat

/-- The unpacked float is canonical and stands for the number. -/
inductive Denotes : UnpackedFloat → ℚ → Prop where
  | zero (s : Sign) : Denotes (.zero s) 0
  | finite (s : Sign) {m : ℕ} {e : ℤ} (pos : 0 < m) (size : m < 2 ^ 53) (low : -1074 ≤ e) (high : e ≤ 971)
      (normal : 2 ^ 52 ≤ m ∨ e = -1074) : Denotes (.finite s m e pos) (s.apply m * 2 ^ e)

variable {u v : UnpackedFloat} {a b : ℚ}

theorem Denotes.representable (h : Denotes u a) : Representable a := by
  cases h with
  | zero s => exact .zero
  | @finite s m e pos size low high normal =>
    refine ⟨s.apply m, e, ?_, low, rfl⟩
    cases s
    · simpa [Sign.apply] using size.le
    · simpa [Sign.apply] using size.le

theorem Denotes.isFinite (h : Denotes u a) : u.isFinite = true := by
  cases h <;> rfl

/-! ### Order -/

/-- A smaller exponent makes a smaller number, since the larger one belongs to a full mantissa. -/
theorem mul_zpow_lt {m₁ m₂ : ℕ} {e₁ e₂ : ℤ} (size : m₁ < 2 ^ 53) (low : -1074 ≤ e₁) (normal : 2 ^ 52 ≤ m₂ ∨ e₂ = -1074)
    (h : e₁ < e₂) : (m₁ : ℚ) * 2 ^ e₁ < m₂ * 2 ^ e₂ := by
  have hfull : (2 ^ 52 : ℚ) ≤ m₂ := by exact_mod_cast normal.resolve_right (by omega)
  have hsize : (m₁ : ℚ) < 2 ^ 53 := by exact_mod_cast size
  calc (m₁ : ℚ) * 2 ^ e₁ < 2 ^ 53 * 2 ^ e₁ := mul_lt_mul_of_pos_right hsize (by positivity)
    _ = 2 ^ 52 * 2 ^ (e₁ + 1) := by rw [zpow_add_one₀ two_ne_zero]; ring
    _ ≤ 2 ^ 52 * 2 ^ e₂ := mul_le_mul_of_nonneg_left (zpow_le_zpow_right₀ one_le_two (by omega)) (by positivity)
    _ ≤ m₂ * 2 ^ e₂ := mul_le_mul_of_nonneg_right hfull (by positivity)

theorem compare_magnitudes {m₁ m₂ : ℕ} {e₁ e₂ : ℤ} (size₁ : m₁ < 2 ^ 53) (low₁ : -1074 ≤ e₁)
    (normal₁ : 2 ^ 52 ≤ m₁ ∨ e₁ = -1074) (size₂ : m₂ < 2 ^ 53) (low₂ : -1074 ≤ e₂)
    (normal₂ : 2 ^ 52 ≤ m₂ ∨ e₂ = -1074) :
    (compare e₁ e₂).then (compare m₁ m₂) = cmp ((m₁ : ℚ) * 2 ^ e₁) (m₂ * 2 ^ e₂) := by
  rcases lt_trichotomy e₁ e₂ with h | rfl | h
  · rw [(cmp_eq_lt_iff _ _).mpr (mul_zpow_lt size₁ low₁ normal₂ h), compare_lt_iff_lt.mpr h]
    rfl
  · rw [cmp_mul_pos_right (by positivity), compare_eq_iff_eq.mpr rfl]
    rcases lt_trichotomy m₁ m₂ with h | rfl | h
    · rw [(cmp_eq_lt_iff _ _).mpr (by exact_mod_cast h), compare_lt_iff_lt.mpr h]
      rfl
    · rw [cmp_self_eq_eq, compare_eq_iff_eq.mpr rfl]
      rfl
    · rw [(cmp_eq_gt_iff _ _).mpr (by exact_mod_cast h), compare_gt_iff_gt.mpr h]
      rfl
  · rw [(cmp_eq_gt_iff _ _).mpr (mul_zpow_lt size₂ low₂ normal₁ h), compare_gt_iff_gt.mpr h]
    rfl

theorem cmp_neg_neg (a b : ℚ) : cmp (-a) (-b) = (cmp a b).swap := by
  rw [cmp_swap]
  unfold cmp cmpUsing
  simp only [neg_lt_neg_iff]

theorem mul_zpow_pos {m : ℕ} (h : 0 < m) (e : ℤ) : (0 : ℚ) < m * 2 ^ e :=
  mul_pos (Nat.cast_pos.mpr h) (by positivity)

theorem positive_apply (m : ℕ) (e : ℤ) : (Sign.positive.apply m : ℤ) * (2 : ℚ) ^ e = m * 2 ^ e := by
  simp [Sign.apply]

theorem negative_apply (m : ℕ) (e : ℤ) : (Sign.negative.apply m : ℤ) * (2 : ℚ) ^ e = -(m * 2 ^ e) := by
  simp [Sign.apply]

/-- Floats are compared as the numbers they stand for. -/
theorem Denotes.compare (ha : Denotes u a) (hb : Denotes v b) : u.compare v = some (cmp a b) := by
  cases ha with
  | zero s =>
    cases hb with
    | zero s' =>
      rw [cmp_self_eq_eq]
      rfl
    | @finite s' m e pos size low high normal =>
      have hpos := mul_zpow_pos pos e
      cases s' with
      | negative =>
        rw [negative_apply, (cmp_eq_gt_iff _ _).mpr (neg_neg_of_pos hpos)]
        rfl
      | positive =>
        rw [positive_apply, (cmp_eq_lt_iff _ _).mpr hpos]
        rfl
  | @finite s m e pos size low high normal =>
    have hpos := mul_zpow_pos pos e
    cases hb with
    | zero s' =>
      cases s with
      | negative =>
        rw [negative_apply, (cmp_eq_lt_iff _ _).mpr (neg_neg_of_pos hpos)]
        rfl
      | positive =>
        rw [positive_apply, (cmp_eq_gt_iff _ _).mpr hpos]
        rfl
    | @finite s' m' e' pos' size' low' high' normal' =>
      have hpos' := mul_zpow_pos pos' e'
      have hmagnitudes := compare_magnitudes size low normal size' low' normal'
      cases s with
      | negative =>
        rw [negative_apply]
        cases s' with
        | negative =>
          rw [negative_apply, cmp_neg_neg, ← hmagnitudes]
          rfl
        | positive =>
          rw [positive_apply, (cmp_eq_lt_iff _ _).mpr ((neg_neg_of_pos hpos).trans hpos')]
          rfl
      | positive =>
        rw [positive_apply]
        cases s' with
        | negative =>
          rw [negative_apply, (cmp_eq_gt_iff _ _).mpr ((neg_neg_of_pos hpos').trans hpos)]
          rfl
        | positive =>
          rw [positive_apply, ← hmagnitudes]
          rfl

end CommitCharts.Binary64
