import CommitCharts.Proofs.Binary64.Value
import Mathlib

/-!
# CommitCharts.Proofs.Binary64.Packing — floats as bits

A float that stands for a number is the same after it has been packed into bits and unpacked again (`unpack_pack`).
-/

namespace CommitCharts.Binary64

open Float.Model (Format UnpackedFloat)
open Float.Model.UnpackedFloat

theorem toNat_implicit (mantissa : BitVec 52) : (1#1 ++ mantissa).toNat = 2 ^ 52 + mantissa.toNat := by
  rw [BitVec.toNat_append, ← Nat.shiftLeft_add_eq_or_of_lt mantissa.isLt]
  rfl

theorem unpack_subnormal (s : Sign) {mantissa : BitVec 52} (h : mantissa ≠ 0#52) :
    unpack Format.binary64 (packComponents Format.binary64 s 0#11 mantissa) =
      .finite s mantissa.toNat (-1074) (by simpa [BitVec.toNat_pos, BitVec.pos_iff_ne_zero]) := by
  unfold unpack
  simp only [unpackMantissa_packComponents, unpackExponent_packComponents, unpackSign_packComponents,
    Sign.ofBitVec_toBitVec]
  rw [if_neg (by decide), if_true, dif_neg h]
  rfl

theorem unpack_normal (s : Sign) {exponent : BitVec 11} (mantissa : BitVec 52) (hinfinite : exponent ≠ -1#11)
    (hzero : exponent ≠ 0#11) :
    unpack Format.binary64 (packComponents Format.binary64 s exponent mantissa) =
      .finite s (2 ^ 52 + mantissa.toNat) (exponent.toNat - 1075) (Nat.add_pos_left (Nat.two_pow_pos 52) _) := by
  unfold unpack
  simp only [unpackMantissa_packComponents, unpackExponent_packComponents, unpackSign_packComponents,
    Sign.ofBitVec_toBitVec]
  rw [if_neg hinfinite, if_neg hzero]
  simp only [toNat_implicit]
  rfl

theorem unpack_pack {u : UnpackedFloat} {q : ℚ} (h : Denotes u q) :
    unpack Format.binary64 (pack Format.binary64 u) = u := by
  cases h with
  | zero s => cases s <;> rfl
  | @finite s m e pos size low high normal =>
    have hbits : Format.binary64.mantissaBits = 53 := rfl
    have hbias : (e + Format.binary64.exponentBias + Format.binary64.mantissaBitsWithoutImplicit).toNat =
        (e + 1075).toNat := by
      congr 1
      exact add_assoc e 1023 52
    have hfits : ¬ 2 ^ Format.binary64.exponentBits ≤ (e + 1075).toNat + 1 := by
      change ¬ 2048 ≤ (e + 1075).toNat + 1
      omega
    unfold pack
    simp only [hbias, hbits]
    rw [if_neg hfits]
    by_cases hfull : 2 ^ 52 ≤ m
    · -- the first bit of a full mantissa is not packed
      have hlog : m.log2 + 1 = 53 := by rw [(Nat.log2_eq_iff pos.ne').mpr ⟨hfull, size⟩]
      have hexponent : (BitVec.ofNat 11 (e + 1075).toNat).toNat = (e + 1075).toNat := by
        rw [BitVec.toNat_ofNat, Nat.mod_eq_of_lt (by omega)]
      have hmantissa : 2 ^ 52 + (BitVec.ofNat 52 m).toNat = m := by
        rw [BitVec.toNat_ofNat]
        omega
      have hinfinite : BitVec.ofNat 11 (e + 1075).toNat ≠ -1#11 := by
        intro heq
        have hnat := congrArg BitVec.toNat heq
        rw [hexponent] at hnat
        have hones : (-1#11).toNat = 2047 := rfl
        omega
      have hzero : BitVec.ofNat 11 (e + 1075).toNat ≠ 0#11 := by
        intro heq
        have hnat := congrArg BitVec.toNat heq
        rw [hexponent] at hnat
        have hones : (0#11).toNat = 0 := rfl
        omega
      rw [if_pos hlog, unpack_normal s (BitVec.ofNat 52 m) hinfinite hzero]
      simp only [hexponent, hmantissa]
      congr 1
      omega
    · have hlog : m.log2 + 1 ≠ 53 := by
        have := (Nat.log2_lt pos.ne').mpr (Nat.lt_of_not_le hfull)
        omega
      have hmantissa : (BitVec.ofNat 52 m).toNat = m := by
        rw [BitVec.toNat_ofNat, Nat.mod_eq_of_lt (Nat.lt_of_not_le hfull)]
      have hne : BitVec.ofNat 52 m ≠ 0#52 := by
        intro heq
        have hnat := congrArg BitVec.toNat heq
        rw [hmantissa] at hnat
        exact pos.ne' hnat
      rw [if_neg hlog, unpack_subnormal s hne]
      simp only [hmantissa, normal.resolve_left hfull]

end CommitCharts.Binary64
