import CommitCharts.Proofs.Binary64.Value

/-!
# CommitCharts.Proofs.Binary64.Rounding — rounding to the nearest float

Shifting a mantissa keeps two bits of what is cut off, which is enough to find the nearest whole number
(`Represents.near`).  So a number that is not too large is rounded to a float that stands for a nearest representable
number (`rounded_round`).
-/

namespace CommitCharts.Binary64

open Float.Model Float.Model.UnpackedFloat

/-! ### Shifting -/

/-- What the mantissa and the two bits after it say about a number. -/
def Represents : ExtendedMantissa → ℚ → Prop
  | ⟨m, false, false⟩, x => x = m
  | ⟨m, false, true⟩, x => m < x ∧ x < m + 1 / 2
  | ⟨m, true, false⟩, x => x = m + 1 / 2
  | ⟨m, true, true⟩, x => m + 1 / 2 < x ∧ x < m + 1

namespace Represents

variable {em : ExtendedMantissa} {x : ℚ}

theorem exact (m : ℕ) : Represents (.ofMantissaAndAccuracy m .exact) m := by
  simp [Represents, ExtendedMantissa.ofMantissaAndAccuracy]

theorem near (h : Represents em x) : |(em.roundedMantissa : ℚ) - x| ≤ 1 / 2 := by
  obtain ⟨m, round, sticky⟩ := em
  cases round with
  | false =>
    cases sticky with
    | false =>
      obtain rfl : x = m := h
      simp [ExtendedMantissa.roundedMantissa, ExtendedMantissa.accuracy, Accuracy.roundToNearestEven]
    | true =>
      obtain ⟨hlow, hhigh⟩ := h
      rw [abs_le]
      simp only [ExtendedMantissa.roundedMantissa, ExtendedMantissa.accuracy, Accuracy.roundToNearestEven]
      constructor <;> linarith
  | true =>
    cases sticky with
    | false =>
      -- a tie, which is on one of the two sides
      obtain rfl : x = m + 1 / 2 := h
      rw [abs_le]
      simp only [ExtendedMantissa.roundedMantissa, ExtendedMantissa.accuracy, Accuracy.roundToNearestEven]
      rcases Nat.mod_two_eq_zero_or_one m with heven | hodd
      · rw [heven]
        constructor <;> norm_num
      · rw [hodd]
        constructor <;> norm_num
    | true =>
      obtain ⟨hlow, hhigh⟩ := h
      rw [abs_le]
      simp only [ExtendedMantissa.roundedMantissa, ExtendedMantissa.accuracy, Accuracy.roundToNearestEven]
      constructor <;> push_cast <;> linarith

theorem shiftRightOne (h : Represents em x) : Represents em.shiftRightOne (x / 2) := by
  obtain ⟨m, round, sticky⟩ := em
  have hm : (m : ℚ) = 2 * (m / 2 : ℕ) + (m % 2 : ℕ) := by exact_mod_cast (Nat.div_add_mod m 2).symm
  rcases Nat.mod_two_eq_zero_or_one m with heven | hodd
  · rw [heven, Nat.cast_zero, add_zero] at hm
    cases round <;> cases sticky <;>
      simp only [Represents, ExtendedMantissa.shiftRightOne, heven, bne_self_eq_false, Bool.or_false,
        Bool.or_true] at h ⊢ <;>
      first | linarith | exact ⟨by linarith, by linarith⟩
  · have hbit : (1 != 0) = true := rfl
    rw [hodd, Nat.cast_one] at hm
    cases round <;> cases sticky <;>
      simp only [Represents, ExtendedMantissa.shiftRightOne, hodd, hbit, Bool.or_false, Bool.or_true] at h ⊢ <;>
      first | linarith | exact ⟨by linarith, by linarith⟩

theorem shiftRight (h : Represents em x) (n : ℕ) : Represents (em >>> n) (x / 2 ^ n) := by
  change Represents (n.repeat ExtendedMantissa.shiftRightOne em) _
  induction n with
  | zero => simpa [Nat.repeat] using h
  | succ n ih =>
    rw [Nat.repeat, pow_succ, ← div_div]
    exact ih.shiftRightOne

end Represents

/-! ### The grid of a number -/

/-- The exponent of the finest grid on which a number has at most 53 bits. -/
def gridExponent (m : ℕ) (e : ℤ) : ℤ := max (m.log2 + e - 52) (-1074)

theorem targetExponent_eq (m : ℕ) (e : ℤ) :
    Format.binary64.targetExponent (totalExponent m e) = gridExponent m e := by
  unfold Format.targetExponent totalExponent gridExponent
  have hbits : Format.binary64.mantissaBits = 53 := rfl
  have hmin : Format.binary64.minExponent = -1074 := rfl
  rw [hbits, hmin]
  congr 1
  push_cast
  ring

theorem shiftToTargetExponent_eq {m : ℕ} {e : ℤ} (h : e ≤ gridExponent m e) :
    shiftToTargetExponent Format.binary64 m e .exact =
      (ExtendedMantissa.ofMantissaAndAccuracy m .exact >>> (gridExponent m e - e).toNat, gridExponent m e) := by
  unfold shiftToTargetExponent shiftToExponent
  rw [targetExponent_eq]
  dsimp only
  rw [Int.toNat_of_nonneg (by omega), add_sub_cancel]

theorem zpow_log2_le {m : ℕ} (h : 0 < m) (e : ℤ) : (2 : ℚ) ^ (m.log2 + e) ≤ m * 2 ^ e := by
  rw [zpow_add₀ two_ne_zero, zpow_natCast]
  exact mul_le_mul_of_nonneg_right (by exact_mod_cast Nat.log2_self_le h.ne') (by positivity)

theorem lt_zpow_log2 (m : ℕ) (e : ℤ) : (m * 2 ^ e : ℚ) < 2 ^ (m.log2 + 1 + e) := by
  rw [zpow_add₀ two_ne_zero, ← Nat.cast_succ, zpow_natCast]
  exact mul_lt_mul_of_pos_right (by exact_mod_cast Nat.lt_log2_self) (by positivity)

/-- The mantissa of a number on its grid, rounded. -/
def roundedOnGrid (m : ℕ) (e : ℤ) : ℕ :=
  (ExtendedMantissa.ofMantissaAndAccuracy m .exact >>> (gridExponent m e - e).toNat).roundedMantissa

section

variable {m : ℕ} {e : ℤ}

theorem roundedOnGrid_near (he : e ≤ gridExponent m e) :
    |(roundedOnGrid m e : ℚ) - m * 2 ^ e / 2 ^ gridExponent m e| ≤ 1 / 2 := by
  have hsteps : (m * 2 ^ e / 2 ^ gridExponent m e : ℚ) = m / 2 ^ (gridExponent m e - e).toNat := by
    rw [← zpow_natCast, Int.toNat_of_nonneg (by omega), zpow_sub₀ two_ne_zero, div_div_eq_mul_div]
  rw [hsteps]
  exact ((Represents.exact m).shiftRight _).near

theorem steps_lt (m : ℕ) (e : ℤ) : (m * 2 ^ e / 2 ^ gridExponent m e : ℚ) < 2 ^ 53 := by
  rw [div_lt_iff₀ (by positivity), ← zpow_natCast, ← zpow_add₀ two_ne_zero]
  refine (lt_zpow_log2 m e).trans_le (zpow_le_zpow_right₀ one_le_two ?_)
  have := le_max_left (m.log2 + e - 52) (-1074)
  unfold gridExponent
  push_cast
  omega

theorem le_steps (hm : 0 < m) (h : gridExponent m e ≠ -1074) : (2 ^ 52 : ℚ) ≤ m * 2 ^ e / 2 ^ gridExponent m e := by
  have hgrid : gridExponent m e = m.log2 + e - 52 := by
    unfold gridExponent at h ⊢
    omega
  rw [le_div_iff₀ (by positivity), hgrid, ← zpow_natCast, ← zpow_add₀ two_ne_zero]
  refine le_trans (le_of_eq ?_) (zpow_log2_le hm e)
  congr 1
  push_cast
  ring

theorem roundedOnGrid_le (he : e ≤ gridExponent m e) : roundedOnGrid m e ≤ 2 ^ 53 := by
  have hnear := (abs_le.mp (roundedOnGrid_near he)).2
  have hlt := steps_lt m e
  have hround : (roundedOnGrid m e : ℚ) < 2 ^ 53 + 1 := by linarith
  exact Nat.lt_succ_iff.mp (by exact_mod_cast hround)

theorem le_roundedOnGrid (hm : 0 < m) (he : e ≤ gridExponent m e) :
    2 ^ 52 ≤ roundedOnGrid m e ∨ gridExponent m e = -1074 := by
  by_cases hmin : gridExponent m e = -1074
  · exact .inr hmin
  · have hnear := (abs_le.mp (roundedOnGrid_near he)).1
    have hle := le_steps hm hmin
    have hround : (2 ^ 52 : ℚ) < roundedOnGrid m e + 1 := by linarith
    exact .inl (Nat.lt_succ_iff.mp (by exact_mod_cast hround))

theorem nearest_roundedOnGrid (hm : 0 < m) (he : e ≤ gridExponent m e) :
    Nearest (m * 2 ^ e) (roundedOnGrid m e * 2 ^ gridExponent m e) := by
  have hsize : |(roundedOnGrid m e : ℤ)| ≤ 2 ^ 53 := by
    rw [Nat.abs_cast]
    exact_mod_cast roundedOnGrid_le he
  have hnear : |((roundedOnGrid m e : ℤ) : ℚ) - m * 2 ^ e / 2 ^ gridExponent m e| ≤ 1 / 2 := by
    rw [Int.cast_natCast]
    exact roundedOnGrid_near he
  have hnearest := nearest_of_grid (le_max_right _ _) hnear hsize (or_iff_not_imp_left.mpr (le_steps hm))
  rwa [Int.cast_natCast] at hnearest

end

/-! ### Rounded floats -/

theorem cast_apply (s : Sign) (m : ℕ) : ((s.apply m : ℤ) : ℚ) = (s.apply 1 : ℤ) * m := by
  cases s <;> simp [Sign.apply]

/-- A rounded mantissa that has not become too long is on its grid. -/
theorem shiftToTargetExponent_of_lt {r : ℕ} {t : ℤ} (hr : r < 2 ^ 53) (ht : -1074 ≤ t) :
    shiftToTargetExponent Format.binary64 r t .exact = (.ofMantissaAndAccuracy r .exact, t) := by
  have hlog : r.log2 ≤ 52 := by
    by_cases hzero : r = 0
    · rw [hzero]
      decide
    · exact Nat.lt_succ_iff.mp ((Nat.log2_lt hzero).mpr hr)
  have hamount : (gridExponent r t - t).toNat = 0 := by
    unfold gridExponent
    omega
  unfold shiftToTargetExponent shiftToExponent
  rw [targetExponent_eq]
  dsimp only
  rw [hamount]
  simp only [Nat.cast_zero, add_zero]
  rfl

/-- One that has become too long is a power of two, which needs one bit less. -/
theorem shiftToTargetExponent_full {t : ℤ} (ht : -1074 ≤ t) :
    shiftToTargetExponent Format.binary64 (2 ^ 53) t .exact = (.ofMantissaAndAccuracy (2 ^ 52) .exact, t + 1) := by
  have hgrid : gridExponent (2 ^ 53) t = t + 1 := by
    unfold gridExponent
    rw [Nat.log2_two_pow]
    omega
  have hamount : (t + 1 - t).toNat = 1 := by omega
  rw [shiftToTargetExponent_eq (by omega), hgrid, hamount]
  rfl

variable {m : ℕ} {e : ℤ}

theorem gridExponent_le (hm : 0 < m) (h : (m * 2 ^ e : ℚ) ≤ 2 ^ 1000) : gridExponent m e ≤ 970 := by
  have hlog : (2 : ℚ) ^ (m.log2 + e) ≤ 2 ^ (1000 : ℤ) := (zpow_log2_le hm e).trans h
  have := (zpow_le_zpow_iff_right₀ one_lt_two).mp hlog
  unfold gridExponent
  omega

theorem denotes_roundWithAccuracy (s : Sign) (hm : 0 < m) (he : e ≤ gridExponent m e) (h : (m * 2 ^ e : ℚ) ≤ 2 ^ 1000) :
    Denotes (roundWithAccuracy Format.binary64 s m e .exact) (s.apply (roundedOnGrid m e) * 2 ^ gridExponent m e) := by
  have hlow : -1074 ≤ gridExponent m e := le_max_right _ _
  have hhigh := gridExponent_le hm h
  have hfull := le_roundedOnGrid hm he
  have hsize := roundedOnGrid_le he
  have hfirst := shiftToTargetExponent_eq he
  unfold roundWithAccuracy
  rw [hfirst]
  dsimp only
  change Denotes (let second := shiftToTargetExponent Format.binary64 (roundedOnGrid m e) (gridExponent m e) .exact
    if h : second.1.mantissa = 0 then .zero s else .finite s second.1.mantissa second.2 (Nat.pos_of_ne_zero h)) _
  generalize roundedOnGrid m e = r at hfull hsize ⊢
  generalize gridExponent m e = t at hlow hhigh hfull ⊢
  rcases hsize.lt_or_eq with hlt | rfl
  · rw [shiftToTargetExponent_of_lt hlt hlow]
    by_cases hzero : r = 0
    · subst hzero
      have hvalue : ((s.apply (0 : ℕ) : ℤ) * 2 ^ t : ℚ) = 0 := by rw [cast_apply, Nat.cast_zero, mul_zero, zero_mul]
      rw [hvalue]
      exact .zero s
    · dsimp only [ExtendedMantissa.ofMantissaAndAccuracy]
      rw [dif_neg hzero]
      exact .finite s _ hlt hlow (by omega) hfull
  · rw [shiftToTargetExponent_full hlow]
    have hvalue : ((s.apply (2 ^ 53 : ℕ) : ℤ) * 2 ^ t : ℚ) = (s.apply (2 ^ 52 : ℕ) : ℤ) * 2 ^ (t + 1) := by
      rw [zpow_add_one₀ two_ne_zero, cast_apply s (2 ^ 53), cast_apply s (2 ^ 52)]
      push_cast
      ring
    have hpos : 2 ^ 52 ≠ 0 := by norm_num
    rw [hvalue]
    dsimp only [ExtendedMantissa.ofMantissaAndAccuracy]
    rw [dif_neg hpos]
    exact .finite s _ (by norm_num) (by omega) (by omega) (.inl le_rfl)

/-- A number that is not too large is rounded to a nearest one. -/
def Rounded (u : UnpackedFloat) (q : ℚ) : Prop := ∃ c, Denotes u c ∧ Nearest q c

theorem rounded_roundWithAccuracy (s : Sign) (hm : 0 < m) (he : e ≤ gridExponent m e)
    (h : |((s.apply m : ℤ) * 2 ^ e : ℚ)| ≤ 2 ^ 1000) :
    Rounded (roundWithAccuracy Format.binary64 s m e .exact) ((s.apply m : ℤ) * 2 ^ e) := by
  have hmagnitude : |((s.apply m : ℤ) * 2 ^ e : ℚ)| = m * 2 ^ e := by
    cases s <;> simp [Sign.apply]
  rw [hmagnitude] at h
  have hnearest := nearest_roundedOnGrid hm he
  refine ⟨_, denotes_roundWithAccuracy s hm he h, ?_⟩
  cases s with
  | positive =>
    rw [positive_apply, positive_apply]
    exact hnearest
  | negative =>
    rw [negative_apply, negative_apply]
    exact hnearest.neg

theorem log2_mul_two_pow (hm : 0 < m) (k : ℕ) : (m * 2 ^ k).log2 = m.log2 + k := by
  induction k with
  | zero => simp
  | succ k ih => rw [pow_succ, ← mul_assoc, mul_comm, Nat.log2_two_mul (by positivity), ih, add_assoc]

theorem rounded_round (s : Sign) (hm : 0 < m) (h : |((s.apply m : ℤ) * 2 ^ e : ℚ)| ≤ 2 ^ 1000) :
    Rounded (UnpackedFloat.round Format.binary64 s m e) ((s.apply m : ℤ) * 2 ^ e) := by
  unfold UnpackedFloat.round decreaseExponent
  rw [targetExponent_eq]
  dsimp only
  rw [Nat.shiftLeft_eq]
  generalize hk : (e - gridExponent m e).toNat = k
  -- the number has the same grid when it is written with more bits
  have hgrid : e - k ≤ gridExponent (m * 2 ^ k) (e - k) := by
    unfold gridExponent at hk ⊢
    rw [log2_mul_two_pow hm]
    omega
  have hvalue : ((s.apply (m * 2 ^ k : ℕ) : ℤ) * 2 ^ (e - k) : ℚ) = (s.apply m : ℤ) * 2 ^ e := by
    have hpow : (2 : ℚ) ^ e = 2 ^ k * 2 ^ (e - k) := by
      rw [← zpow_natCast, ← zpow_add₀ two_ne_zero, add_sub_cancel]
    rw [hpow, cast_apply s (m * 2 ^ k), cast_apply s m]
    push_cast
    ring
  rw [← hvalue] at h ⊢
  exact rounded_roundWithAccuracy s (by positivity) hgrid h

theorem rounded_normalize (n e : ℤ) (zeroSign : Sign) (h : |(n * 2 ^ e : ℚ)| ≤ 2 ^ 1000) :
    Rounded (UnpackedFloat.normalize Format.binary64 n e zeroSign) (n * 2 ^ e) := by
  unfold UnpackedFloat.normalize
  rcases lt_trichotomy n 0 with hlt | rfl | hgt
  · have hn : Sign.negative.apply ((-n).toNat : ℕ) = n := by
      simp only [Sign.apply]
      omega
    rw [compare_lt_iff_lt.mpr hlt]
    rw [← hn] at h
    simpa only [hn] using rounded_round .negative (by omega) h
  · rw [compare_eq_iff_eq.mpr rfl, Int.cast_zero, zero_mul]
    exact ⟨0, .zero zeroSign, .self .zero⟩
  · have hn : Sign.positive.apply (n.toNat : ℕ) = n := by
      simp only [Sign.apply]
      omega
    rw [compare_gt_iff_gt.mpr hgt]
    rw [← hn] at h
    simpa only [hn] using rounded_round .positive (by omega) h

end CommitCharts.Binary64
