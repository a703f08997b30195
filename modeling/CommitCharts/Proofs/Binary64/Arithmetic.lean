import CommitCharts.Proofs.Binary64.Packing
import CommitCharts.Proofs.Binary64.Rounding

/-!
# CommitCharts.Proofs.Binary64.Arithmetic — floats as rational numbers

What floats stand for is added, subtracted and multiplied exactly, and the result is rounded to a nearest representable
number (`rounds_add`, `rounds_sub`, `rounds_mul`), as long as it is not too large.  The order is that of the numbers.
-/

namespace CommitCharts.Binary64

open Float.Model (Format UnpackedFloat)
open Float.Model.UnpackedFloat (Sign decreaseExponent)

/-! ### Unpacked floats -/

section

variable {u v : UnpackedFloat} {a b : ℚ}

theorem apply_neg (s : Sign) (n : ℤ) : (-s).apply n = -s.apply n := by
  cases s
  · exact (neg_neg n).symm
  · rfl

theorem Denotes.neg (h : Denotes u a) : Denotes u.neg (-a) := by
  cases h with
  | zero s =>
    rw [neg_zero]
    exact .zero (-s)
  | @finite s m e pos size low high normal =>
    have hvalue : -((s.apply m : ℤ) * 2 ^ e : ℚ) = ((-s).apply m : ℤ) * 2 ^ e := by
      rw [apply_neg, Int.cast_neg, neg_mul]
    rw [hvalue]
    exact .finite (-s) pos size low high normal

theorem Denotes.rounded (h : Denotes u a) : Rounded u a := ⟨a, h, .self h.representable⟩

theorem sub_unpacked (u v : UnpackedFloat) :
    UnpackedFloat.sub Format.binary64 u v = UnpackedFloat.add Format.binary64 u v.neg := by
  cases u with
  | notANumber => rfl
  | infinity s => cases v <;> rfl
  | zero s => cases v <;> rfl
  | finite s m e pos =>
    cases v with
    | notANumber => rfl
    | infinity s' => rfl
    | zero s' => rfl
    | finite s' m' e' pos' =>
      change UnpackedFloat.normalize _ (_ - s'.apply _) _ _ = UnpackedFloat.normalize _ (_ + (-s').apply _) _ _
      rw [apply_neg, ← sub_eq_add_neg]

theorem decreaseExponent_value {e t : ℤ} (h : t ≤ e) (s : Sign) (m : ℕ) :
    (s.apply (decreaseExponent m e t).1 : ℤ) * (2 : ℚ) ^ t = (s.apply m : ℤ) * 2 ^ e := by
  have hpow : (2 : ℚ) ^ e = 2 ^ (e - t).toNat * 2 ^ t := by
    rw [← zpow_natCast, Int.toNat_of_nonneg (by omega), ← zpow_add₀ two_ne_zero, sub_add_cancel]
  simp only [decreaseExponent, Nat.shiftLeft_eq]
  rw [hpow, cast_apply s (m * 2 ^ _), cast_apply s m]
  push_cast
  ring

theorem rounded_add (ha : Denotes u a) (hb : Denotes v b) (h : |a + b| ≤ 2 ^ 1000) :
    Rounded (UnpackedFloat.add Format.binary64 u v) (a + b) := by
  cases ha with
  | zero s =>
    cases hb with
    | zero s' =>
      rw [add_zero]
      change Rounded (if s == s' then .zero s else .zero .positive) 0
      split_ifs
      · exact (Denotes.zero s).rounded
      · exact (Denotes.zero .positive).rounded
    | finite s' pos size low high normal =>
      rw [zero_add]
      exact (Denotes.finite s' pos size low high normal).rounded
  | @finite s m e pos size low high normal =>
    cases hb with
    | zero s' =>
      rw [add_zero]
      exact (Denotes.finite s pos size low high normal).rounded
    | @finite s' m' e' pos' size' low' high' normal' =>
      have hvalue : ((s.apply (decreaseExponent m e (min e e')).1 +
          s'.apply (decreaseExponent m' e' (min e e')).1 : ℤ) : ℚ) * 2 ^ min e e' =
          (s.apply m : ℤ) * 2 ^ e + (s'.apply m' : ℤ) * 2 ^ e' := by
        rw [Int.cast_add, add_mul, decreaseExponent_value (min_le_left e e'),
          decreaseExponent_value (min_le_right e e')]
      rw [← hvalue] at h ⊢
      exact rounded_normalize _ _ .positive h

theorem rounded_sub (ha : Denotes u a) (hb : Denotes v b) (h : |a - b| ≤ 2 ^ 1000) :
    Rounded (UnpackedFloat.sub Format.binary64 u v) (a - b) := by
  rw [sub_eq_add_neg] at h ⊢
  rw [sub_unpacked]
  exact rounded_add ha hb.neg h

theorem apply_mul (s s' : Sign) (m m' : ℕ) : (s * s').apply (m * m' : ℕ) = s.apply m * s'.apply m' := by
  rw [Nat.cast_mul]
  cases s <;> cases s'
  · exact (neg_mul_neg (m : ℤ) m').symm
  · exact (neg_mul (m : ℤ) m').symm
  · exact (mul_neg (m : ℤ) m').symm
  · rfl

/-- A product has 53 bits at least, unless both of its factors are among the smallest floats. -/
theorem add_le_gridExponent {m m' : ℕ} {e e' : ℤ} (pos : 0 < m) (normal : 2 ^ 52 ≤ m ∨ e = -1074) (pos' : 0 < m')
    (normal' : 2 ^ 52 ≤ m' ∨ e' = -1074) : e + e' ≤ gridExponent (m * m') (e + e') := by
  by_cases hfull : 2 ^ 52 ≤ m * m'
  · have hlog := (Nat.le_log2 (Nat.mul_pos pos pos').ne').mpr hfull
    unfold gridExponent
    omega
  · have hleft := normal.resolve_left fun h => hfull (h.trans (Nat.le_mul_of_pos_right m pos'))
    have hright := normal'.resolve_left fun h => hfull (h.trans (Nat.le_mul_of_pos_left m' pos))
    unfold gridExponent
    omega

theorem rounded_mul (ha : Denotes u a) (hb : Denotes v b) (h : |a * b| ≤ 2 ^ 1000) :
    Rounded (UnpackedFloat.mul Format.binary64 u v) (a * b) := by
  cases ha with
  | zero s =>
    rw [zero_mul]
    cases hb with
    | zero s' => exact (Denotes.zero (s * s')).rounded
    | finite s' => exact (Denotes.zero (s * s')).rounded
  | @finite s m e pos size low high normal =>
    cases hb with
    | zero s' =>
      rw [mul_zero]
      exact (Denotes.zero (s * s')).rounded
    | @finite s' m' e' pos' size' low' high' normal' =>
      have hvalue : ((s * s').apply (m * m' : ℕ) : ℤ) * (2 : ℚ) ^ (e + e') =
          (s.apply m : ℤ) * 2 ^ e * ((s'.apply m' : ℤ) * 2 ^ e') := by
        rw [apply_mul, Int.cast_mul, zpow_add₀ two_ne_zero]
        ring
      rw [← hvalue] at h ⊢
      exact rounded_roundWithAccuracy (s * s') (Nat.mul_pos pos pos') (add_le_gridExponent pos normal pos' normal') h

end

/-! ### Floats -/

/-- The float stands for the number. -/
def HasValue (x : Float) (q : ℚ) : Prop := Denotes x.toModel.unpack q

/-- The float stands for a number nearest to the given one. -/
def Rounds (x : Float) (q : ℚ) : Prop := ∃ c, HasValue x c ∧ Nearest q c

variable {x y : Float} {a b : ℚ}

theorem HasValue.representable (h : HasValue x a) : Representable a := Denotes.representable h

theorem HasValue.isFinite (h : HasValue x a) : x.isFinite = true := Denotes.isFinite h

theorem hasValue_zero : HasValue 0 0 := .zero .positive

/-- A positive float stands for its mantissa times a power of two. -/
theorem hasValue_of_unpack {m : ℕ} {e : ℤ} {pos : 0 < m} (h : x.toModel.unpack = .finite .positive m e pos)
    (full : 2 ^ 52 ≤ m) (size : m < 2 ^ 53) (low : -1074 ≤ e) (high : e ≤ 971) : HasValue x (m * 2 ^ e) := by
  have hvalue := Denotes.finite .positive pos size low high (.inl full)
  rw [← h] at hvalue
  exact hvalue

/-- From one on, floats are whole multiples of a step that is much smaller than they are, and the next multiple can be
represented, too. -/
theorem HasValue.exists_step (h : HasValue x a) (ha : 1 ≤ a) :
    ∃ d, 0 < d ∧ Representable d ∧ Representable (a + d) ∧ 2 ^ 52 * d ≤ a := by
  unfold HasValue at h
  generalize x.toModel.unpack = u at h
  cases h with
  | zero => norm_num at ha
  | @finite s m e pos size low high normal =>
    have hsize : (m : ℚ) < 2 ^ 53 := by exact_mod_cast size
    cases s with
    | negative =>
      rw [negative_apply] at ha
      linarith [mul_zpow_pos pos e]
    | positive =>
      rw [positive_apply] at ha ⊢
      have hfull : 2 ^ 52 ≤ m := by
        refine normal.resolve_right ?_
        rintro rfl
        have hsmall : (m : ℚ) * 2 ^ (-1074 : ℤ) < 2 ^ (53 : ℤ) * 2 ^ (-1074 : ℤ) :=
          mul_lt_mul_of_pos_right hsize (by positivity)
        have hone : (2 : ℚ) ^ (53 : ℤ) * 2 ^ (-1074 : ℤ) ≤ 1 := by
          rw [← zpow_add₀ two_ne_zero]
          exact zpow_le_one_of_nonpos₀ one_le_two (by norm_num)
        linarith
      refine ⟨2 ^ e, by positivity, .two_zpow low, ⟨m + 1, e, ?_, low, by push_cast; ring⟩, ?_⟩
      · rw [abs_of_nonneg (by omega)]
        omega
      · exact mul_le_mul_of_nonneg_right (by exact_mod_cast hfull) (by positivity)

theorem rounds_of_rounded {u : UnpackedFloat} {q : ℚ} (h : Rounded u q) : Rounds (.ofModel (.pack u)) q := by
  obtain ⟨c, hc, hnearest⟩ := h
  refine ⟨c, ?_, hnearest⟩
  change Denotes (UnpackedFloat.unpack Format.binary64 (UnpackedFloat.pack Format.binary64 u)) c
  rwa [unpack_pack hc]

theorem rounds_add (ha : HasValue x a) (hb : HasValue y b) (h : |a + b| ≤ 2 ^ 1000) : Rounds (x + y) (a + b) :=
  rounds_of_rounded (rounded_add ha hb h)

theorem rounds_sub (ha : HasValue x a) (hb : HasValue y b) (h : |a - b| ≤ 2 ^ 1000) : Rounds (x - y) (a - b) :=
  rounds_of_rounded (rounded_sub ha hb h)

theorem rounds_mul (ha : HasValue x a) (hb : HasValue y b) (h : |a * b| ≤ 2 ^ 1000) : Rounds (x * y) (a * b) :=
  rounds_of_rounded (rounded_mul ha hb h)

theorem rounds_toFloat (n : UInt64) : Rounds n.toFloat n.toNat := by
  have hvalue : ((n.toNat : ℤ) : ℚ) * 2 ^ (0 : ℤ) = n.toNat := by rw [zpow_zero, mul_one, Int.cast_natCast]
  have hsize : |((n.toNat : ℤ) : ℚ) * 2 ^ (0 : ℤ)| ≤ 2 ^ 1000 := by
    have hlt : (n.toNat : ℚ) < 2 ^ 64 := by exact_mod_cast n.toNat_lt
    have hpow : (2 : ℚ) ^ 64 ≤ 2 ^ 1000 := pow_le_pow_right₀ one_le_two (by decide)
    rw [hvalue, Nat.abs_cast]
    exact hlt.le.trans hpow
  have hround := rounds_of_rounded (rounded_normalize n.toNat 0 .positive hsize)
  rwa [hvalue] at hround

theorem lt_iff (ha : HasValue x a) (hb : HasValue y b) : x < y ↔ a < b := by
  change decide ((x.toModel.unpack.compare y.toModel.unpack == some .lt) = true) = true ↔ a < b
  rw [Denotes.compare ha hb, ← cmp_eq_lt_iff]
  simp

theorem le_iff (ha : HasValue x a) (hb : HasValue y b) : x ≤ y ↔ a ≤ b := by
  change decide ((x.toModel.unpack.compare y.toModel.unpack).any Ordering.isLE = true) = true ↔ a ≤ b
  rw [Denotes.compare ha hb, ← not_lt, ← cmp_eq_gt_iff]
  cases cmp a b <;> simp

/-- A float stands for one number only. -/
theorem HasValue.unique (h : HasValue x a) (h' : HasValue x b) : a = b := by
  have hself : ¬x < x := fun hlt => lt_irrefl a ((lt_iff h h).mp hlt)
  exact le_antisymm (not_lt.mp fun hlt => hself ((lt_iff h' h).mpr hlt))
    (not_lt.mp fun hlt => hself ((lt_iff h h').mpr hlt))

end CommitCharts.Binary64
