import AirMonitor.Sensor.HeatingTime
import Mathlib

namespace AirMonitor.HeatingTime

theorem mantissaExponent_of_lt {n : Nat} (h : n < 64) : mantissaExponent n = (n, 0) := by
  rw [mantissaExponent, if_pos h]

theorem mantissaExponent_of_not_lt {n : Nat} (h : ¬n < 64) : mantissaExponent n =
    ((mantissaExponent (n / 4)).1, (mantissaExponent (n / 4)).2 + 1) := by
  rw [mantissaExponent, if_neg h]

theorem mantissa_lt (n : Nat) : (mantissaExponent n).1 < 64 := by
  induction n using mantissaExponent.induct with
  | case1 n h =>
    rw [mantissaExponent_of_lt h]
    exact h
  | case2 n h ih =>
    rw [mantissaExponent_of_not_lt h]
    exact ih

/-- The mantissa is cut off, so the packed time never exceeds the given one. -/
theorem mantissa_mul_le (n : Nat) : (mantissaExponent n).1 * 4 ^ (mantissaExponent n).2 ≤ n := by
  induction n using mantissaExponent.induct with
  | case1 n h =>
    rw [mantissaExponent_of_lt h]
    exact Nat.le_of_eq (Nat.mul_one n)
  | case2 n h ih =>
    rw [mantissaExponent_of_not_lt h, Nat.pow_succ, ← Nat.mul_assoc]
    exact Nat.le_trans (Nat.mul_le_mul_right 4 ih) (Nat.div_mul_le_self n 4)

theorem sixteen_le_mantissa {n : Nat} (hn : 64 ≤ n) : 16 ≤ (mantissaExponent n).1 := by
  induction n using mantissaExponent.induct with
  | case1 n h => exact absurd hn (Nat.not_le.2 h)
  | case2 n h ih =>
    rw [mantissaExponent_of_not_lt h]
    -- The mantissa is the first quotient below 64, and what it is a quarter of was not.
    by_cases hlast : n / 4 < 64
    · rw [mantissaExponent_of_lt hlast]
      change 16 ≤ n / 4
      omega
    · exact ih (Nat.not_lt.1 hlast)

theorem exponent_lt {n : Nat} (h : n < 4096) : (mantissaExponent n).2 < 4 := by
  by_cases hn : n < 64
  · rw [mantissaExponent_of_lt hn]
    exact Nat.zero_lt_succ 3
  · have hmantissa := sixteen_le_mantissa (Nat.not_lt.1 hn)
    have hle : 4 ^ 2 * 4 ^ (mantissaExponent n).2 ≤ n :=
      Nat.le_trans (Nat.mul_le_mul_right _ hmantissa) (mantissa_mul_le n)
    have hpow : 4 ^ (2 + (mantissaExponent n).2) < 4 ^ 6 := by
      rw [Nat.pow_add]
      exact Nat.lt_of_le_of_lt hle h
    have hexponent := (Nat.pow_lt_pow_iff_right (by decide)).1 hpow
    omega

/-- A time of less than 4096 units fits the byte. -/
theorem toNat_pack {n : Nat} (h : n < 4096) :
    (pack n).toNat = (mantissaExponent n).1 + 64 * (mantissaExponent n).2 := by
  have hmantissa := mantissa_lt n
  have hexponent := exponent_lt h
  rw [pack, UInt8.toNat_ofNat']
  omega

/-- The two parts of a byte are the ones that it was packed from. -/
theorem pack_parts {n : Nat} (h : n < 4096) :
    (pack n).toNat % 64 = (mantissaExponent n).1 ∧
      (pack n).toNat / 64 = (mantissaExponent n).2 := by
  have hmantissa := mantissa_lt n
  have hbyte := toNat_pack h
  omega

theorem unpack_pack {n : Nat} (h : n < 4096) :
    unpack (pack n) = (mantissaExponent n).1 * 4 ^ (mantissaExponent n).2 := by
  rw [unpack, (pack_parts h).1, (pack_parts h).2, Nat.shiftLeft_eq, Nat.pow_mul]

/-- The register stands for no longer time than the one that was asked for. -/
theorem unpack_encode_le (millis : UInt16) : unpack (encode millis) ≤ millis.toNat := by
  rw [encode]
  split
  · next h => exact UInt16.le_iff_toNat_le.1 h
  · next h =>
    have hlt : millis.toNat < 0xFC0 := UInt16.lt_iff_toNat_lt.1 (UInt16.not_le.1 h)
    rw [unpack_pack (Nat.lt_trans hlt (by decide))]
    exact mantissa_mul_le millis.toNat

end AirMonitor.HeatingTime
