import CommitCharts.Axis
import CommitCharts.Proofs.Binary64.Arithmetic
import Mathlib.Tactic.SplitIfs

/-!
# CommitCharts.Proofs.Axis — ranges that can carry a chart

The ends of an axis are finite, and the low end is below the high one, whatever the values are: also where rounding
makes different values equal (`isProper_overview`, `isProper_trend`).  All values lie between the ends
(`overview_contains`, `trend_contains`).
-/

namespace CommitCharts.Axis

open Binary64

instance lawfulOrderMax_uint64 : Std.LawfulOrderMax UInt64 where
  max_le_iff a b c := by
    change (if a ≤ b then b else a) ≤ c ↔ a ≤ c ∧ b ≤ c
    split_ifs <;> grind
  max_eq_or a b := by
    change (if a ≤ b then b else a) = a ∨ (if a ≤ b then b else a) = b
    split_ifs <;> simp

/-! ### Constants -/

theorem hasValue_one : HasValue 1 1 := by
  have hvalue := hasValue_of_unpack (x := 1) (m := 2 ^ 52) (e := -52) rfl (by norm_num) (by norm_num) (by norm_num)
    (by norm_num)
  norm_num at hvalue
  exact hvalue

/-- The float next to one tenth. -/
def tenth : ℚ := 7205759403792794 * 2 ^ (-56 : ℤ)

theorem hasValue_tenth : HasValue 0.1 tenth :=
  hasValue_of_unpack rfl (by norm_num) (by norm_num) (by norm_num) (by norm_num)

theorem tenth_bounds : 1 / 16 ≤ tenth ∧ tenth ≤ 1 := by
  unfold tenth
  norm_num

/-- The float next to eleven tenths. -/
def elevenTenths : ℚ := 4953959590107546 * 2 ^ (-52 : ℤ)

theorem hasValue_elevenTenths : HasValue 1.1 elevenTenths :=
  hasValue_of_unpack rfl (by norm_num) (by norm_num) (by norm_num) (by norm_num)

theorem elevenTenths_bounds : 1 ≤ elevenTenths ∧ elevenTenths ≤ 2 := by
  unfold elevenTenths
  norm_num

/-! ### Values -/

theorem representable_limit : Representable (2 ^ 64) := by
  exact_mod_cast Representable.two_zpow (e := 64) (by decide)

/-- Every value is represented by a float between zero and two to the power of 64. -/
theorem exists_hasValue_toFloat (n : UInt64) :
    ∃ a, HasValue n.toFloat a ∧ Nearest n.toNat a ∧ 0 ≤ a ∧ a ≤ 2 ^ 64 := by
  obtain ⟨a, ha, hnearest⟩ := rounds_toFloat n
  have hlt : (n.toNat : ℚ) < 2 ^ 64 := by exact_mod_cast n.toNat_lt
  exact ⟨a, ha, hnearest, hnearest.ge .zero (Nat.cast_nonneg _), hnearest.le representable_limit hlt.le⟩

/-- What comes from values is far from being too large. -/
theorem abs_le_limit {a : ℚ} (hlow : -2 ^ 66 ≤ a) (hhigh : a ≤ 2 ^ 66) : |a| ≤ 2 ^ 1000 :=
  (abs_le.mpr ⟨hlow, hhigh⟩).trans (pow_le_pow_right₀ one_le_two (by decide))

/-- Rounding keeps the order of the values. -/
theorem exists_hasValue_le {lo hi : UInt64} (h : lo ≤ hi) :
    ∃ a b, HasValue lo.toFloat a ∧ HasValue hi.toFloat b ∧ Nearest hi.toNat b ∧ a ≤ b ∧ 0 ≤ a ∧ b ≤ 2 ^ 64 := by
  obtain ⟨b, hb, hnearest, hb0, hb64⟩ := exists_hasValue_toFloat hi
  rcases (UInt64.le_iff_toNat_le.mp h).lt_or_eq with hlt | heq
  · obtain ⟨a, ha, hnearest', ha0, -⟩ := exists_hasValue_toFloat lo
    exact ⟨a, b, ha, hb, hnearest, hnearest'.mono hnearest (Nat.cast_lt.mpr hlt), ha0, hb64⟩
  · obtain rfl := UInt64.toNat_inj.mp heq
    exact ⟨b, b, hb, hb, hnearest, le_rfl, hb0, hb64⟩

theorem toFloat_nonneg (v : UInt64) : 0 ≤ v.toFloat := by
  obtain ⟨a, ha, -, hlow, -⟩ := exists_hasValue_toFloat v
  exact (le_iff hasValue_zero ha).mpr hlow

/-! ### Overview -/

/-- The value lies in the range, ends included. -/
def Range.Contains (r : Range) (v : Float) : Prop := r.lo ≤ v ∧ v ≤ r.hi

theorem isProper_iff {r : Range} :
    r.isProper = true ↔ r.lo.isFinite = true ∧ r.hi.isFinite = true ∧ r.lo < r.hi := by
  simp [Range.isProper, and_assoc]

theorem isProper_of_lt {r : Range} {lo hi : ℚ} (hlo : HasValue r.lo lo) (hhi : HasValue r.hi hi) (h : lo < hi) :
    r.isProper = true :=
  isProper_iff.mpr ⟨hlo.isFinite, hhi.isFinite, (lt_iff hlo hhi).mpr h⟩

/-- Eleven tenths of a value are not less than the value, after rounding as well. -/
theorem exists_upper (v : UInt64) :
    ∃ a upper, HasValue v.toFloat a ∧ HasValue (v.toFloat * 1.1) upper ∧ a ≤ upper := by
  obtain ⟨a, ha, -, hlow, hhigh⟩ := exists_hasValue_toFloat v
  obtain ⟨hone, htwo⟩ := elevenTenths_bounds
  have hproduct : a * 1 ≤ a * elevenTenths := mul_le_mul_of_nonneg_left hone hlow
  have hproduct' : a * elevenTenths ≤ 2 ^ 64 * 2 := mul_le_mul hhigh htwo (by linarith) (by norm_num)
  obtain ⟨upper, hupper, hnearest⟩ := rounds_mul ha hasValue_elevenTenths (abs_le_limit (by linarith) (by linarith))
  exact ⟨a, upper, ha, hupper, hnearest.ge ha.representable (by linarith)⟩

theorem overview_lo (values : List UInt64) : (overview values).lo = 0 := by
  unfold overview
  dsimp only
  split_ifs
  · rfl
  · rfl

/-- The high end of the overview is above zero and not below its largest value. -/
theorem exists_overview_hi (values : List UInt64) :
    ∃ a hi, HasValue (values.max?.getD 0).toFloat a ∧ HasValue (overview values).hi hi ∧ a ≤ hi ∧ 0 < hi := by
  obtain ⟨a, upper, ha, hupper, hle⟩ := exists_upper (values.max?.getD 0)
  unfold overview
  dsimp only
  split_ifs with hpos
  · exact ⟨a, upper, ha, hupper, hle, (lt_iff hasValue_zero hupper).mp hpos⟩
  · have hzero : upper ≤ 0 := not_lt.mp fun h => hpos ((lt_iff hasValue_zero hupper).mpr h)
    exact ⟨a, 1, ha, hasValue_one, by linarith, one_pos⟩

theorem isProper_overview (values : List UInt64) : (overview values).isProper = true := by
  obtain ⟨-, hi, -, hhi, -, hpos⟩ := exists_overview_hi values
  have hlo : HasValue (overview values).lo 0 := by
    rw [overview_lo]
    exact hasValue_zero
  exact isProper_of_lt hlo hhi hpos

/-- The overview has room for the foot of its bars. -/
theorem overview_contains_zero (values : List UInt64) : (overview values).Contains 0 := by
  obtain ⟨-, hi, -, hhi, -, hpos⟩ := exists_overview_hi values
  refine ⟨?_, (le_iff hasValue_zero hhi).mpr hpos.le⟩
  rw [overview_lo]
  exact (le_iff hasValue_zero hasValue_zero).mpr le_rfl

theorem overview_contains {values : List UInt64} {v : UInt64} (hv : v ∈ values) :
    (overview values).Contains v.toFloat := by
  obtain ⟨a, hi, ha, hhi, hle, -⟩ := exists_overview_hi values
  cases hmax : values.max? with
  | none => exact absurd (List.max?_eq_none_iff.mp hmax) (List.ne_nil_of_mem hv)
  | some top =>
    rw [hmax, Option.getD_some] at ha
    obtain ⟨c, b, hc, hb, -, hcb, hc0, -⟩ := exists_hasValue_le ((List.max?_eq_some_iff.mp hmax).2 v hv)
    obtain rfl := ha.unique hb
    refine ⟨?_, (le_iff hc hhi).mpr (hcb.trans hle)⟩
    rw [overview_lo]
    exact toFloat_nonneg v

/-! ### Trends -/

section

variable {x y p : Float} {a b c : ℚ}

/-- The ends of a padded range: rounding does not take them inside of it, and it leaves room between them if a
representable number is above the low end of the range and not above the padded high end. -/
theorem exists_ends (hx : HasValue x a) (hy : HasValue y b) (hp : HasValue p c) (hc : 0 ≤ c)
    (hlow : |a - c| ≤ 2 ^ 1000) (hhigh : |b + c| ≤ 2 ^ 1000) (hroom : ∃ z, Representable z ∧ a < z ∧ z ≤ b + c) :
    ∃ lo hi, HasValue (x - p) lo ∧ HasValue (y + p) hi ∧ lo ≤ a ∧ b ≤ hi ∧ lo < hi := by
  obtain ⟨lo, hlo, hnearest⟩ := rounds_sub hx hp hlow
  obtain ⟨hi, hhi, hnearest'⟩ := rounds_add hy hp hhigh
  obtain ⟨z, hz, haz, hzc⟩ := hroom
  have hloa : lo ≤ a := hnearest.le hx.representable (by linarith)
  exact ⟨lo, hi, hlo, hhi, hloa, hnearest'.ge hy.representable (by linarith),
    (hloa.trans_lt haz).trans_le (hnearest'.ge hz hzc)⟩

/-- A tenth of a number that is not too large. -/
theorem exists_tenth (hx : HasValue x a) (hlow : 0 ≤ a) (hhigh : a ≤ 2 ^ 64) :
    ∃ c, HasValue (x * 0.1) c ∧ Nearest (a * tenth) c ∧ 0 ≤ c ∧ c ≤ 2 ^ 64 := by
  obtain ⟨hsixteenth, hone⟩ := tenth_bounds
  have hproduct : 0 ≤ a * tenth := mul_nonneg hlow (by linarith)
  have hproduct' : a * tenth ≤ 2 ^ 64 * 1 := mul_le_mul hhigh hone (by linarith) (by norm_num)
  obtain ⟨c, hc, hnearest⟩ := rounds_mul hx hasValue_tenth (abs_le_limit (by linarith) (by linarith))
  exact ⟨c, hc, hnearest, hnearest.ge .zero hproduct, hnearest.le representable_limit (by linarith)⟩

end

/-- The padding leaves room between the ends, also if both values are rounded to the same float. -/
theorem exists_padding {lo hi : UInt64} {a b : ℚ} (ha : HasValue lo.toFloat a)
    (hb : HasValue hi.toFloat b) (hab : a ≤ b) (hlow : 0 ≤ a) (hhigh : b ≤ 2 ^ 64) (hnearest : Nearest hi.toNat b) :
    ∃ c, HasValue (padding lo.toFloat hi.toFloat) c ∧ 0 ≤ c ∧ c ≤ 2 ^ 64 ∧
      ∃ z, Representable z ∧ a < z ∧ z ≤ b + c := by
  unfold padding
  split_ifs with hlt hpos
  · -- the values are apart
    have hlt' := (lt_iff ha hb).mp hlt
    obtain ⟨d, hd, hnearest⟩ := rounds_sub hb ha (abs_le_limit (by linarith) (by linarith))
    have hd0 : 0 ≤ d := hnearest.ge .zero (by linarith)
    obtain ⟨c, hc, -, hc0, hc64⟩ := exists_tenth hd hd0 (hnearest.le representable_limit (by linarith))
    exact ⟨c, hc, hc0, hc64, b, hb.representable, hlt', by linarith⟩
  · -- the values are one float, which a tenth of it takes to the next one at least
    have hpos' := (lt_iff hasValue_zero hb).mp hpos
    have hone : 1 ≤ b := by
      refine hnearest.ge .one (Nat.one_le_cast.mpr (Nat.pos_of_ne_zero fun hzero => hpos'.ne' ?_))
      rw [hzero, Nat.cast_zero] at hnearest
      exact hnearest.eq .zero
    have heq : a = b := le_antisymm hab (not_lt.mp fun h => hlt ((lt_iff ha hb).mpr h))
    obtain ⟨d, hd, hstep, hnext, hsmall⟩ := hb.exists_step hone
    obtain ⟨c, hc, hnearest, hc0, hc64⟩ := exists_tenth hb hpos'.le hhigh
    have hdc : d ≤ c := hnearest.ge hstep (by nlinarith [tenth_bounds.1])
    exact ⟨c, hc, hc0, hc64, b + d, hnext, by linarith, by linarith⟩
  · -- all values are zero
    have hzero : b = 0 := le_antisymm (not_lt.mp fun h => hpos ((lt_iff hasValue_zero hb).mpr h)) (hlow.trans hab)
    exact ⟨1, hasValue_one, zero_le_one, by norm_num, 1, .one, by linarith, by linarith⟩

/-- The ends of a trend lie around its values, and apart from each other. -/
theorem exists_trend_ends {lo hi : UInt64} (h : lo ≤ hi) :
    ∃ a b start finish, HasValue lo.toFloat a ∧ HasValue hi.toFloat b ∧
      HasValue (lo.toFloat - padding lo.toFloat hi.toFloat) start ∧
      HasValue (hi.toFloat + padding lo.toFloat hi.toFloat) finish ∧ start ≤ a ∧ b ≤ finish ∧ start < finish := by
  obtain ⟨a, b, ha, hb, hnearest, hab, ha0, hb64⟩ := exists_hasValue_le h
  obtain ⟨c, hc, hc0, hc64, hroom⟩ := exists_padding ha hb hab ha0 hb64 hnearest
  obtain ⟨start, finish, hends⟩ :=
    exists_ends ha hb hc hc0 (abs_le_limit (by linarith) (by linarith)) (abs_le_limit (by linarith) (by linarith)) hroom
  exact ⟨a, b, start, finish, ha, hb, hends⟩

/-- A trend is padded around the smallest and the largest of its values. -/
theorem trend_cases (values : List UInt64) :
    (values = [] ∧ trend values = ⟨-1, 1⟩) ∨
      ∃ lo hi, lo ≤ hi ∧ (∀ v ∈ values, lo ≤ v ∧ v ≤ hi) ∧
        trend values = ⟨lo.toFloat - padding lo.toFloat hi.toFloat, hi.toFloat + padding lo.toFloat hi.toFloat⟩ := by
  unfold trend
  cases hmin : values.min? with
  | none => exact .inl ⟨List.min?_eq_none_iff.mp hmin, rfl⟩
  | some lo =>
    cases hmax : values.max? with
    | none => exact .inl ⟨List.max?_eq_none_iff.mp hmax, rfl⟩
    | some hi =>
      have hbounds (v : UInt64) (hv : v ∈ values) : lo ≤ v ∧ v ≤ hi :=
        ⟨(List.min?_eq_some_iff.mp hmin).2 v hv, (List.max?_eq_some_iff.mp hmax).2 v hv⟩
      exact .inr ⟨lo, hi, (hbounds lo (List.min?_mem hmin)).2, hbounds, rfl⟩

theorem isProper_trend (values : List UInt64) : (trend values).isProper = true := by
  rcases trend_cases values with ⟨-, htrend⟩ | ⟨lo, hi, hle, -, htrend⟩
  · rw [htrend]
    decide
  · obtain ⟨-, -, start, finish, -, -, hstart, hfinish, -, -, hlt⟩ := exists_trend_ends hle
    rw [htrend]
    exact isProper_of_lt hstart hfinish hlt

theorem trend_contains {values : List UInt64} {v : UInt64} (hv : v ∈ values) : (trend values).Contains v.toFloat := by
  rcases trend_cases values with ⟨hempty, -⟩ | ⟨lo, hi, hle, hbounds, htrend⟩
  · exact absurd hempty (List.ne_nil_of_mem hv)
  · obtain ⟨hlo, hhi⟩ := hbounds v hv
    obtain ⟨a, b, start, finish, ha, hb, hstart, hfinish, hbelow, habove, -⟩ := exists_trend_ends hle
    -- the value is between the two others after rounding as well
    obtain ⟨a', c, ha', hc, -, hac, -, -⟩ := exists_hasValue_le hlo
    obtain ⟨c', b', hc', hb', -, hcb, -, -⟩ := exists_hasValue_le hhi
    obtain rfl := ha.unique ha'
    obtain rfl := hb.unique hb'
    obtain rfl := hc.unique hc'
    rw [htrend]
    exact ⟨(le_iff hstart hc).mpr (hbelow.trans hac), (le_iff hc hfinish).mpr (hcb.trans habove)⟩

end CommitCharts.Axis
