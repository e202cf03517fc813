import AirMonitor.Number.Text
import AirMonitor.Proofs.SingleOrder

namespace AirMonitor.Single

open Float.Model (Format UnpackedFloat)
open Float.Model.UnpackedFloat

def biased (x : Float32) : Nat := (unpackExponent (word x)).toNat

def fraction (x : Float32) : Nat := (unpackMantissa (word x)).toNat

def negative (x : Float32) : Bool := unpackSign (word x) != 0

theorem biased_eq (x : Float32) : ((x.toBits >>> 23) &&& 0xFF).toNat = biased x := by
  have h : x.toBits.toNat < 2 ^ 32 := x.toBits.toNat_lt
  have hmask : (x.toBits.toNat >>> 23) &&& 255 = (x.toBits.toNat >>> 23) % 2 ^ 8 :=
    Nat.and_two_pow_sub_one_eq_mod _ 8
  simp only [biased, word, unpackExponent, BitVec.toNat_cast, BitVec.extractLsb_toNat,
    UInt32.toNat_and, UInt32.toNat_shiftRight, UInt32.toNat_ofNat, UInt32.toNat_toBitVec,
    Nat.shiftRight_eq_div_pow, Nat.reduceMod, Nat.reducePow, Nat.reduceSub, Nat.reduceAdd]
    at hmask ⊢
  exact hmask

theorem fraction_eq (x : Float32) : (x.toBits &&& 0x7FFFFF).toNat = fraction x := by
  have hmask : x.toBits.toNat &&& 8388607 = x.toBits.toNat % 2 ^ 23 :=
    Nat.and_two_pow_sub_one_eq_mod _ 23
  simp only [fraction, word, unpackMantissa, BitVec.toNat_cast, BitVec.extractLsb_toNat,
    UInt32.toNat_and, UInt32.toNat_ofNat, UInt32.toNat_toBitVec,
    Nat.shiftRight_zero, Nat.reduceMod, Nat.reducePow, Nat.reduceSub, Nat.reduceAdd] at hmask ⊢
  exact hmask

theorem negative_eq (x : Float32) : (x.toBits >>> 31 != 0) = negative x := by
  have h : (x.toBits >>> 31).toNat = (unpackSign (word x)).toNat := by
    have h : x.toBits.toNat < 2 ^ 32 := x.toBits.toNat_lt
    simp only [word, unpackSign, BitVec.toNat_cast, BitVec.extractLsb_toNat,
      UInt32.toNat_shiftRight, UInt32.toNat_ofNat, UInt32.toNat_toBitVec,
      Nat.shiftRight_eq_div_pow, Nat.reduceMod, Nat.reducePow, Nat.reduceSub, Nat.reduceAdd]
    omega
  have hzero : x.toBits >>> 31 = 0 ↔ unpackSign (word x) = 0 := by
    rw [← UInt32.toNat_inj, ← BitVec.toNat_inj, h]
    rfl
  rw [negative, Bool.eq_iff_iff, bne_iff_ne, bne_iff_ne, ne_eq, ne_eq, hzero]

/-- A single is taken apart along the fields of its bits. -/
theorem partsOf_eq (x : Float32) : partsOf x =
    if biased x = 255 then if fraction x = 0 then .infinite (negative x) else .nan
    else if biased x = 0 then .finite (negative x) (fraction x) Parts.lowestExponent
    else .finite (negative x) (Parts.smallestNormal + fraction x)
      (Parts.lowestExponent + biased x - 1) := by
  rw [partsOf, biased_eq, fraction_eq, negative_eq]

theorem biased_of_finite {x : Float32} (h : x.isFinite = true) : biased x ≠ 255 := by
  intro hbiased
  have hexponent : unpackExponent (word x) = 255 := BitVec.eq_of_toNat_eq hbiased
  have hunpack : (unpack .binary32 (word x)).isFinite = true := h
  revert hunpack
  fun_cases unpack .binary32 (word x) with
  | case1 m e s sign he hm => exact Bool.false_ne_true
  | case2 m e he hm => exact Bool.false_ne_true
  | case3 m e s sign he he0 hm => exact absurd hexponent he
  | case4 m e exponent s sign he he0 hm => exact absurd hexponent he
  | case5 m e exponent s sign he he0 => exact absurd hexponent he

theorem partsOf_of_finite {x : Float32} (h : x.isFinite = true) :
    ∃ mantissa exponent, partsOf x = .finite (negative x) mantissa exponent := by
  rw [partsOf_eq, if_neg (biased_of_finite h)]
  split
  · exact ⟨_, _, rfl⟩
  · exact ⟨_, _, rfl⟩

theorem partsOf_cases (x : Float32) : partsOf x = .nan ∨ partsOf x = .infinite (negative x) ∨
    ∃ mantissa exponent, partsOf x = .finite (negative x) mantissa exponent := by
  rw [partsOf_eq]
  split
  · split
    · exact .inr (.inl rfl)
    · exact .inl rfl
  · split
    · exact .inr (.inr ⟨_, _, rfl⟩)
    · exact .inr (.inr ⟨_, _, rfl⟩)

/-- Of the numbers with a minus sign only one is not below 0. -/
theorem partsOf_of_nonneg {x : Float32} (h : 0 ≤ x) :
    negative x = false ∨ partsOf x = .finite true 0 Parts.lowestExponent := by
  obtain ⟨-, -, hrank⟩ := (le_iff 0 x).mp h
  rw [rank_zero] at hrank
  cases hsign : negative x with
  | false => exact .inl rfl
  | true =>
    have hbits : Sign.ofBitVec (unpackSign (word x)) = .negative := if_neg (bne_iff_ne.mp hsign)
    have hzero : magnitude (word x) = 0 := by
      rw [rank, signedMagnitude, hbits, Sign.apply] at hrank
      omega
    have hfields : biased x = 0 ∧ fraction x = 0 := by
      simp only [magnitude] at hzero
      constructor
      · exact Nat.eq_zero_of_le_zero (by rw [biased]; omega)
      · exact Nat.eq_zero_of_le_zero (by rw [fraction]; omega)
    rw [partsOf_eq, hfields.1, hfields.2, hsign]
    exact .inr rfl

end AirMonitor.Single
