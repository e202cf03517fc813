namespace AirMonitor.HeatingTime

/-- A six-bit mantissa and the power of four that it is a multiple of, rounding down. -/
def mantissaExponent (n : Nat) : Nat × Nat :=
  if n < 64 then (n, 0)
  else ((mantissaExponent (n / 4)).1, (mantissaExponent (n / 4)).2 + 1)

def pack (n : Nat) : UInt8 :=
  UInt8.ofNat ((mantissaExponent n).1 + 64 * (mantissaExponent n).2)

def unpack (byte : UInt8) : Nat := (byte.toNat % 64) <<< (2 * (byte.toNat / 64))

def encode (millis : UInt16) : UInt8 :=
  if 0xFC0 ≤ millis then 0xFF else pack millis.toNat

/-- Register value of the shared heating time, in units of 0.477 ms; longer times saturate. -/
def encodeShared (millis : UInt16) : UInt8 :=
  if 0x783 ≤ millis then 0xFF else pack (millis.toNat * 1000 / 477)

def encodeMultiple (multiple : UInt16) : UInt8 :=
  if multiple ≤ 255 then multiple.toUInt8 else 255

end AirMonitor.HeatingTime
