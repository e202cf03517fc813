namespace AirMonitor

structure BitField where
  mask : UInt8
  shift : UInt8
  deriving DecidableEq, Repr

namespace BitField

def get (field : BitField) (byte : UInt8) : UInt8 :=
  (byte &&& field.mask) >>> field.shift

/-- Replaces the field and keeps every other bit; bits of `value` beyond the field are dropped. -/
def set (field : BitField) (byte value : UInt8) : UInt8 :=
  (byte &&& ~~~field.mask) ||| ((value <<< field.shift) &&& field.mask)

theorem set_inside (field : BitField) (byte value : UInt8) :
    field.set byte value &&& field.mask = (value <<< field.shift) &&& field.mask := by
  apply UInt8.toBitVec_inj.1
  simp only [set, UInt8.toBitVec_and, UInt8.toBitVec_or, UInt8.toBitVec_not]
  ext i hi
  simp only [BitVec.getElem_and, BitVec.getElem_or, BitVec.getElem_not]
  cases field.mask.toBitVec[i] <;> simp

theorem set_outside (field : BitField) (byte value : UInt8) :
    field.set byte value &&& ~~~field.mask = byte &&& ~~~field.mask := by
  apply UInt8.toBitVec_inj.1
  simp only [set, UInt8.toBitVec_and, UInt8.toBitVec_or, UInt8.toBitVec_not]
  ext i hi
  simp only [BitVec.getElem_and, BitVec.getElem_or, BitVec.getElem_not]
  cases field.mask.toBitVec[i] <;> simp

theorem get_set (field : BitField) (byte value : UInt8) :
    field.get (field.set byte value) =
      ((value <<< field.shift) &&& field.mask) >>> field.shift := by
  rw [get, set_inside]

end BitField

def wordOf (high low : UInt8) : UInt16 :=
  (high.toUInt16 <<< 8) ||| low.toUInt16

theorem toNat_wordOf (high low : UInt8) :
    (wordOf high low).toNat = 256 * high.toNat + low.toNat := by
  have hhigh := high.toNat_lt
  have hfit : high.toNat <<< 8 < 2 ^ 16 := by
    rw [Nat.shiftLeft_eq]
    omega
  rw [wordOf, UInt16.toNat_or, UInt16.toNat_shiftLeft, UInt8.toNat_toUInt16, UInt8.toNat_toUInt16]
  change (high.toNat <<< 8) % 2 ^ 16 ||| low.toNat = _
  rw [Nat.mod_eq_of_lt hfit, ← Nat.shiftLeft_add_eq_or_of_lt low.toNat_lt, Nat.shiftLeft_eq,
    Nat.mul_comm]

end AirMonitor
