import Mathlib.Algebra.Order.Field.Power
import Mathlib.Algebra.Order.Round
import Mathlib.Data.Rat.Cast.Order
import Mathlib.Tactic.Linarith
import Mathlib.Tactic.NormNum
import Mathlib.Tactic.Positivity
import Mathlib.Tactic.Ring

/-!
# CommitCharts.Proofs.Binary64.Grid — numbers of 53 bits

The numbers that a float can stand for, but for a bound on their size, and the ones among them that are nearest to a
given number.  Rounding to a nearest one never goes past a number that needs none (`Nearest.ge`, `Nearest.le`), and it
keeps the order (`Nearest.mono`).  The nearest whole number on a grid that is fine enough is nearest
(`nearest_of_grid`).
-/

namespace CommitCharts.Binary64

/-- A whole number of at most 53 bits times a power of two, of which `2 ^ -1074` is the smallest. -/
def Representable (q : ℚ) : Prop := ∃ m e : ℤ, |m| ≤ 2 ^ 53 ∧ -1074 ≤ e ∧ q = m * 2 ^ e

namespace Representable

theorem of_int {n : ℤ} (h : |n| ≤ 2 ^ 53) : Representable n := ⟨n, 0, h, by decide, by simp⟩

theorem zero : Representable 0 := by
  simpa using of_int (n := 0) (by decide)

theorem one : Representable 1 := by
  simpa using of_int (n := 1) (by decide)

theorem two_zpow {e : ℤ} (h : -1074 ≤ e) : Representable (2 ^ e) := ⟨1, e, by decide, h, by simp⟩

theorem neg {q : ℚ} (h : Representable q) : Representable (-q) := by
  obtain ⟨m, e, hm, he, rfl⟩ := h
  exact ⟨-m, e, by rwa [abs_neg], he, by push_cast; ring⟩

end Representable

/-- No number that is representable is nearer to the first than the second. -/
structure Nearest (q y : ℚ) : Prop where
  representable : Representable y
  closest : ∀ z, Representable z → |y - q| ≤ |z - q|

namespace Nearest

variable {q q' y y' z : ℚ}

theorem ge (h : Nearest q y) (hz : Representable z) (hle : z ≤ q) : z ≤ y := by
  by_contra hlt
  have hclosest := h.closest z hz
  rw [abs_of_nonpos (by linarith), abs_of_nonpos (by linarith)] at hclosest
  linarith

theorem le (h : Nearest q y) (hz : Representable z) (hle : q ≤ z) : y ≤ z := by
  by_contra hlt
  have hclosest := h.closest z hz
  rw [abs_of_nonneg (by linarith), abs_of_nonneg (by linarith)] at hclosest
  linarith

theorem eq (h : Nearest q y) (hq : Representable q) : y = q :=
  le_antisymm (h.le hq le_rfl) (h.ge hq le_rfl)

theorem self (h : Representable q) : Nearest q q := ⟨h, fun z _ => by simp⟩

theorem neg (h : Nearest q y) : Nearest (-q) (-y) := by
  refine ⟨h.representable.neg, fun z hz => ?_⟩
  have hclosest := h.closest (-z) hz.neg
  rwa [← abs_neg (-y - -q), ← abs_neg (z - -q), show -(-y - -q) = y - q by ring, show -(z - -q) = -z - q by ring]

/-- Of two numbers in the wrong order, the first number would be above the middle and the second one below it. -/
theorem mono (h : Nearest q y) (h' : Nearest q' y') (hlt : q < q') : y ≤ y' := by
  by_contra hwrong
  have hleft : (y - q) ^ 2 ≤ (y' - q) ^ 2 := sq_le_sq.mpr (h.closest y' h'.representable)
  have hright : (y' - q') ^ 2 ≤ (y - q') ^ 2 := sq_le_sq.mpr (h'.closest y h.representable)
  have hgap : 0 < (y - y') * (q' - q) := mul_pos (by linarith) (by linarith)
  linarith [show (y - q) ^ 2 - (y' - q) ^ 2 + ((y' - q') ^ 2 - (y - q') ^ 2) = 2 * ((y - y') * (q' - q)) by ring]

end Nearest

/-! ### Points of a grid -/

/-- A whole number within one half is a nearest one. -/
theorem abs_sub_le_of_near {x : ℚ} {r : ℤ} (hr : |r - x| ≤ 1 / 2) (n : ℤ) : |(r : ℚ) - x| ≤ |n - x| := by
  by_cases heq : n = r
  · rw [heq]
  · have hapart : (1 : ℚ) ≤ |((n - r : ℤ) : ℚ)| := by
      rw [← Int.cast_abs]
      exact_mod_cast Int.one_le_abs (sub_ne_zero.mpr heq)
    push_cast at hapart
    have htriangle := abs_sub_le (n : ℚ) x r
    rw [abs_sub_comm x r] at htriangle
    linarith

theorem zpow_div_zpow (k e t : ℤ) : (k : ℚ) * 2 ^ e / 2 ^ t = k * 2 ^ (e - t) := by
  rw [zpow_sub₀ two_ne_zero, mul_div_assoc]

/-- On a grid that is as fine as the size of a number allows, the nearest point is nearest. -/
theorem nearest_of_grid {q : ℚ} {r t : ℤ} (ht : -1074 ≤ t) (hr : |r - q / 2 ^ t| ≤ 1 / 2) (hsize : |r| ≤ 2 ^ 53)
    (hfine : t = -1074 ∨ 2 ^ 52 ≤ q / 2 ^ t) : Nearest q (r * 2 ^ t) := by
  have hpos : (0 : ℚ) < 2 ^ t := by positivity
  -- distances are compared in steps of the grid
  have hsteps (z : ℚ) : |z - q| = |z / 2 ^ t - q / 2 ^ t| * 2 ^ t := by
    rw [← sub_div, abs_div, abs_of_pos hpos, div_mul_cancel₀ _ hpos.ne']
  refine ⟨⟨r, t, hsize, ht, rfl⟩, fun z hz => ?_⟩
  rw [hsteps, hsteps z, mul_div_cancel_right₀ _ hpos.ne']
  refine mul_le_mul_of_nonneg_right ?_ hpos.le
  obtain ⟨k, e, hk, he, rfl⟩ := hz
  rw [zpow_div_zpow]
  by_cases hle : t ≤ e
  · -- the other number is on the grid
    have hz : (k : ℚ) * 2 ^ (e - t) = ((k * 2 ^ (e - t).toNat : ℤ) : ℚ) := by
      push_cast
      rw [← zpow_natCast, Int.toNat_of_nonneg (by omega)]
    rw [hz]
    exact abs_sub_le_of_near hr _
  · -- the other number is finer than the grid, so that it is not above the point `2 ^ 52`
    have hfine := hfine.resolve_left (by omega)
    have hz : (k : ℚ) * 2 ^ (e - t) ≤ 2 ^ 52 := by
      have hk' : (k : ℚ) ≤ 2 ^ 53 := by exact_mod_cast (abs_le.mp hk).2
      calc (k : ℚ) * 2 ^ (e - t) ≤ 2 ^ 53 * 2 ^ (-1 : ℤ) :=
            mul_le_mul hk' (zpow_le_zpow_right₀ one_le_two (by omega)) (by positivity) (by positivity)
        _ = 2 ^ 52 := by norm_num
    obtain ⟨edge, hedge⟩ : ∃ n : ℤ, (n : ℚ) = 2 ^ 52 := ⟨2 ^ 52, by norm_num⟩
    rw [← hedge] at hfine hz
    refine (abs_sub_le_of_near hr edge).trans ?_
    rw [abs_of_nonpos (sub_nonpos.mpr hfine), abs_of_nonpos (by linarith)]
    linarith

end CommitCharts.Binary64
