import AirMonitor.Bits

/-!
Words and bytes by their parts, and the parts as numbers.
-/

namespace AirMonitor

theorem forall_byte {p : UInt8 → Prop} (h : ∀ i : Fin 256, p (UInt8.ofNat i.val)) (byte : UInt8) :
    p byte := by
  simpa using h ⟨byte.toNat, byte.toNat_lt⟩

theorem and_full (byte : UInt8) : byte &&& 0xFF = byte := UInt8.and_neg_one

theorem shiftLeft_or (high : Nat) {low : Nat} (places : Nat) (h : low < 1 <<< places) :
    high <<< places ||| low = (1 <<< places) * high + low := by
  rw [Nat.one_shiftLeft] at h ⊢
  rw [← Nat.shiftLeft_add_eq_or_of_lt h, Nat.shiftLeft_eq, Nat.mul_comm]

theorem toNat_shiftLeft16 (byte : UInt8) {places : UInt16} (h : places.toNat ≤ 8) :
    (byte.toUInt16 <<< places).toNat = byte.toNat <<< places.toNat := by
  have hbyte : byte.toNat * 2 ^ places.toNat < 2 ^ 8 * 2 ^ 8 :=
    Nat.mul_lt_mul_of_lt_of_le byte.toNat_lt (Nat.pow_le_pow_right (by decide) h) (by decide)
  have hplaces : places.toNat % 16 = places.toNat := Nat.mod_eq_of_lt (by omega)
  rw [UInt16.toNat_shiftLeft, UInt8.toNat_toUInt16, hplaces, Nat.shiftLeft_eq]
  exact Nat.mod_eq_of_lt hbyte

theorem toNat_shiftLeft32 (byte : UInt8) {places : UInt32} (h : places.toNat ≤ 24) :
    (byte.toUInt32 <<< places).toNat = byte.toNat <<< places.toNat := by
  have hbyte : byte.toNat * 2 ^ places.toNat < 2 ^ 8 * 2 ^ 24 :=
    Nat.mul_lt_mul_of_lt_of_le byte.toNat_lt (Nat.pow_le_pow_right (by decide) h) (by decide)
  have hplaces : places.toNat % 32 = places.toNat := Nat.mod_eq_of_lt (by omega)
  rw [UInt32.toNat_shiftLeft, UInt8.toNat_toUInt32, hplaces, Nat.shiftLeft_eq]
  exact Nat.mod_eq_of_lt hbyte

/-- A byte of two halves. -/
def halves (high low : UInt8) : UInt8 := high <<< 4 ||| (low &&& 0x0F)

theorem toNat_lowHalf (byte : UInt8) : (byte &&& 0x0F).toNat = byte.toNat % 16 := by
  rw [UInt8.toNat_and]
  exact Nat.and_two_pow_sub_one_eq_mod byte.toNat 4

theorem toNat_highHalf (byte : UInt8) : (byte >>> 4).toNat = byte.toNat / 16 := by
  rw [UInt8.toNat_shiftRight]
  exact Nat.shiftRight_eq_div_pow byte.toNat 4

theorem toNat_halves (high low : UInt8) :
    (halves high low).toNat = 16 * (high.toNat % 16) + low.toNat % 16 := by
  have hshift : (high <<< 4).toNat = (high.toNat % 16) <<< 4 := by
    rw [UInt8.toNat_shiftLeft]
    change high.toNat <<< 4 % 2 ^ 8 = _
    rw [Nat.shiftLeft_eq, Nat.shiftLeft_eq]
    omega
  rw [halves, UInt8.toNat_or, toNat_lowHalf, hshift]
  exact shiftLeft_or _ 4 (Nat.mod_lt _ (by decide))

theorem halves_low (high low : UInt8) : halves high low &&& 0x0F = low &&& 0x0F := by
  apply UInt8.toNat_inj.1
  rw [toNat_lowHalf, toNat_halves, toNat_lowHalf]
  omega

theorem halves_high (high low : UInt8) : halves high low >>> 4 = high &&& 0x0F := by
  apply UInt8.toNat_inj.1
  rw [toNat_highHalf, toNat_halves, toNat_lowHalf]
  omega

def lowByte (word : UInt16) : UInt8 := word.toUInt8

def highByte (word : UInt16) : UInt8 := (word >>> 8).toUInt8

/-- The upper eight of twelve bits. -/
def topByte (word : UInt16) : UInt8 := (word >>> 4).toUInt8

variable {word : UInt16} {high low : UInt8}

theorem toNat_lowByte (word : UInt16) : (lowByte word).toNat = word.toNat % 256 :=
  UInt16.toNat_toUInt8 word

theorem toNat_highByte (word : UInt16) : (highByte word).toNat = word.toNat / 256 := by
  have hword := word.toNat_lt
  rw [highByte, UInt16.toNat_toUInt8, UInt16.toNat_shiftRight]
  change word.toNat >>> 8 % 2 ^ 8 = _
  rw [Nat.shiftRight_eq_div_pow]
  omega

theorem toNat_topByte (h : word < 4096) : (topByte word).toNat = word.toNat / 16 := by
  have hword : word.toNat < 4096 := UInt16.lt_iff_toNat_lt.1 h
  rw [topByte, UInt16.toNat_toUInt8, UInt16.toNat_shiftRight]
  change word.toNat >>> 4 % 2 ^ 8 = _
  rw [Nat.shiftRight_eq_div_pow]
  omega

theorem wordOf_bytes (word : UInt16) : wordOf (highByte word) (lowByte word) = word := by
  apply UInt16.toNat_inj.1
  rw [toNat_wordOf, toNat_highByte, toNat_lowByte]
  omega

/-- Twelve bits from their upper eight and their lower four. -/
theorem toNat_join (h : low.toNat < 16) :
    (high.toUInt16 <<< 4 ||| low.toUInt16).toNat = 16 * high.toNat + low.toNat := by
  rw [UInt16.toNat_or, UInt8.toNat_toUInt16, toNat_shiftLeft16 _ (by decide)]
  exact shiftLeft_or _ 4 h

theorem join_topByte (h : word < 4096) :
    (topByte word).toUInt16 <<< 4 ||| (lowByte word &&& 0x0F).toUInt16 = word := by
  have hlow : (lowByte word &&& 0x0F).toNat = word.toNat % 16 := by
    rw [toNat_lowHalf, toNat_lowByte]
    omega
  apply UInt16.toNat_inj.1
  rw [toNat_join (by omega), hlow, toNat_topByte h]
  omega

theorem join_lt (h : low.toNat < 16) : high.toUInt16 <<< 4 ||| low.toUInt16 < 4096 := by
  have hhigh := high.toNat_lt
  apply UInt16.lt_iff_toNat_lt.2
  rw [toNat_join h]
  change _ < 4096
  omega

end AirMonitor
