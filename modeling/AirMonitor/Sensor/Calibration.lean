import AirMonitor.Sensor.Register

namespace AirMonitor

structure CoefficientDump where
  first : Vector UInt8 23
  second : Vector UInt8 14
  third : Vector UInt8 5

/-- The byte read from a register, 0 for a register outside the three blocks. -/
def CoefficientDump.at (dump : CoefficientDump) (address : UInt8) : UInt8 :=
  dump.first[(address - Register.coefficients1).toNat]?.getD
    (dump.second[(address - Register.coefficients2).toNat]?.getD
      (dump.third[(address - Register.coefficients3).toNat]?.getD 0))

structure Calibration where
  h1 : UInt16 := 0
  h2 : UInt16 := 0
  h3 : Int8 := 0
  h4 : Int8 := 0
  h5 : Int8 := 0
  h6 : UInt8 := 0
  h7 : Int8 := 0
  gh1 : Int8 := 0
  gh2 : Int16 := 0
  gh3 : Int8 := 0
  t1 : UInt16 := 0
  t2 : Int16 := 0
  t3 : Int8 := 0
  p1 : UInt16 := 0
  p2 : Int16 := 0
  p3 : Int8 := 0
  p4 : Int16 := 0
  p5 : Int16 := 0
  p6 : Int8 := 0
  p7 : Int8 := 0
  p8 : Int16 := 0
  p9 : Int16 := 0
  p10 : UInt8 := 0
  heatRange : UInt8 := 0
  heatValue : Int8 := 0
  rangeError : Int8 := 0
  deriving DecidableEq, Repr

/-- The coefficients at their register addresses; `h1` and `h2` share the register between them,
and the range error is the signed upper half of its register. -/
def Calibration.ofDump (dump : CoefficientDump) : Calibration where
  h1 := (dump.at 0xE3).toUInt16 <<< 4 ||| (dump.at 0xE2 &&& 0x0F).toUInt16
  h2 := (dump.at 0xE1).toUInt16 <<< 4 ||| (dump.at 0xE2 >>> 4).toUInt16
  h3 := (dump.at 0xE4).toInt8
  h4 := (dump.at 0xE5).toInt8
  h5 := (dump.at 0xE6).toInt8
  h6 := dump.at 0xE7
  h7 := (dump.at 0xE8).toInt8
  gh1 := (dump.at 0xED).toInt8
  gh2 := (wordOf (dump.at 0xEC) (dump.at 0xEB)).toInt16
  gh3 := (dump.at 0xEE).toInt8
  t1 := wordOf (dump.at 0xEA) (dump.at 0xE9)
  t2 := (wordOf (dump.at 0x8B) (dump.at 0x8A)).toInt16
  t3 := (dump.at 0x8C).toInt8
  p1 := wordOf (dump.at 0x8F) (dump.at 0x8E)
  p2 := (wordOf (dump.at 0x91) (dump.at 0x90)).toInt16
  p3 := (dump.at 0x92).toInt8
  p4 := (wordOf (dump.at 0x95) (dump.at 0x94)).toInt16
  p5 := (wordOf (dump.at 0x97) (dump.at 0x96)).toInt16
  p6 := (dump.at 0x99).toInt8
  p7 := (dump.at 0x98).toInt8
  p8 := (wordOf (dump.at 0x9D) (dump.at 0x9C)).toInt16
  p9 := (wordOf (dump.at 0x9F) (dump.at 0x9E)).toInt16
  p10 := dump.at 0xA0
  heatRange := (dump.at 0x02 &&& 0x30) >>> 4
  heatValue := (dump.at 0x00).toInt8
  rangeError := (dump.at 0x04 &&& 0xF0).toInt8 / 16

end AirMonitor
