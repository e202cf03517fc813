import AirMonitor.Proofs.SingleProducts

namespace AirMonitor.Single

open Float.Model (Format UnpackedFloat)
open Float.Model.UnpackedFloat

theorem packComponents_unpacked (bits : BitVec Format.binary32.numBits) :
    packComponents .binary32 (Sign.ofBitVec (unpackSign bits)) (unpackExponent bits)
      (unpackMantissa bits) = bits := by
  have hsign : unpackSign (packComponents .binary32 (Sign.ofBitVec (unpackSign bits))
      (unpackExponent bits) (unpackMantissa bits)) = unpackSign bits :=
    eq_of_apply_eq Nat.one_ne_zero (congrArg (Sign.apply · 1) (unpackSign_packComponents _ _ _))
  apply BitVec.eq_of_toNat_eq
  rw [toNat_eq, toNat_eq bits, hsign, magnitude, magnitude, unpackExponent_packComponents,
    unpackMantissa_packComponents]

/-- Packing gives the bits back, as there is only one way to write that something is no number. -/
theorem pack_unpack {bits : BitVec Format.binary32.numBits} (h : Format.binary32.Valid bits) :
    pack .binary32 (unpack .binary32 bits) = bits := by
  have hparts := packComponents_unpacked bits
  fun_cases unpack .binary32 bits with
  | case1 m e s sign he hm =>
    rw [show unpackExponent bits = _ from he, show unpackMantissa bits = _ from hm] at hparts
    exact hparts
  | case2 m e he hm => exact (h.eq_packedNaN he hm).symm
  | case3 m e s sign he he0 hm =>
    rw [show unpackExponent bits = _ from he0, show unpackMantissa bits = _ from hm] at hparts
    exact hparts
  | case4 m e exponent s sign he he0 hm =>
    -- The mantissa is too short to be taken for the one of a normal number.
    have hexponent : (exponent + 1 + 150).toNat = 1 := by
      rw [show exponent = e.toNat - 150 from rfl, show e.toNat = 0 from congrArg BitVec.toNat he0]
      rfl
    have hlog : m.toNat.log2 + 1 ≠ 24 := by
      have hlt : m.toNat.log2 < 23 := log2_lt m.isLt (by decide)
      omega
    rw [show unpackExponent bits = _ from he0] at hparts
    rw [pack_finite, hexponent, if_neg (by decide), if_neg hlog, BitVec.ofNat_toNat]
    exact hparts
  | case5 m e exponent s sign he he0 =>
    have he255 : e.toNat ≠ 255 := fun h => he (BitVec.eq_of_toNat_eq h)
    have he256 : e.toNat < 256 := e.isLt
    have hexponent : (exponent + 150).toNat = e.toNat := by
      rw [show exponent = e.toNat - 150 from rfl]
      omega
    have hm23 : m.toNat < 2 ^ 23 := m.isLt
    have hlog : (2 ^ 23 + m.toNat).log2 = 23 :=
      (Nat.log2_eq_iff (by omega)).2 ⟨by omega, by omega⟩
    -- The leading bit that unpacking puts in is dropped again.
    have hmantissa : BitVec.ofNat 23 (2 ^ 23 + m.toNat) = m := by
      apply BitVec.eq_of_toNat_eq
      rw [BitVec.toNat_ofNat]
      omega
    rw [pack_finite, hexponent, toNat_one_append, hlog, if_neg (by omega), if_pos rfl, hmantissa,
      BitVec.ofNat_toNat]
    exact hparts

theorem pack_toModel (x : Float32) : Float32.ofModel (.pack x.toModel.unpack) = x := by
  obtain ⟨⟨bits, hvalid⟩⟩ := x
  have hbits : UInt32.ofBitVec (pack .binary32 (unpack .binary32 bits.toBitVec)) = bits :=
    congrArg UInt32.ofBitVec (pack_unpack hvalid)
  simp only [Float32.Model.pack, Float32.Model.unpack, hbits]

/-- The negative zero is neutral, also for zeros and for what is no number. -/
theorem neg_zero_add (x : Float32) : -0.0 + x = x := by
  have hzero : (-0.0 : Float32).toModel.unpack = .zero .negative := by rfl
  have hsum : add .binary32 (.zero .negative) x.toModel.unpack = x.toModel.unpack := by
    cases x.toModel.unpack with
    | zero s => cases s <;> rfl
    | _ => rfl
  calc -0.0 + x
    _ = .ofModel (.pack (add .binary32 (-0.0 : Float32).toModel.unpack x.toModel.unpack)) := rfl
    _ = x := by rw [hzero, hsum, pack_toModel]

end AirMonitor.Single
