import AirMonitor.Sensor.Compensation

namespace AirMonitor

/-- One compensated measurement: °C, Pa, percent and Ω, with the chip's own bookkeeping. -/
structure Field where
  status : UInt8 := 0
  gasIndex : UInt8 := 0
  measurement : UInt8 := 0
  temperature : Float32 := 0
  pressure : Float32 := 0
  humidity : Float32 := 0
  gas : Float32 := 0

namespace FieldStatus

def newData : UInt8 := 0x80
def gasValid : UInt8 := 0x20
def heaterStable : UInt8 := 0x10

def has (flag status : UInt8) : Bool := status &&& flag != 0

end FieldStatus

def Field.isNew (field : Field) : Bool := FieldStatus.has FieldStatus.newData field.status

def Field.gasValid (field : Field) : Bool := FieldStatus.has FieldStatus.gasValid field.status

def Field.heaterStable (field : Field) : Bool :=
  FieldStatus.has FieldStatus.heaterStable field.status

abbrev FieldBlock := Vector UInt8 17

def FieldBlock.slice (bytes : Vector UInt8 (17 * count)) (i : Fin count) : FieldBlock :=
  Vector.ofFn fun j =>
    have h : 17 * i.val + j.val < 17 * count := by omega
    bytes[17 * i.val + j.val]

structure RawField where
  status : UInt8
  gasIndex : UInt8
  measurement : UInt8
  pressure : UInt32
  temperature : UInt32
  humidity : UInt16
  gas : UInt16
  gasRange : UInt8
  deriving DecidableEq, Repr

/-- A 20-bit reading, the lowest four bits in the upper half of the last byte. -/
def reading20 (high middle low : UInt8) : UInt32 :=
  (high.toUInt32 <<< 12) ||| (middle.toUInt32 <<< 4) ||| (low.toUInt32 >>> 4)

def reading10 (high low : UInt8) : UInt16 :=
  (high.toUInt16 <<< 2) ||| (low.toUInt16 >>> 6)

def FieldBlock.gasBytes (block : FieldBlock) (variant : UInt8) : UInt8 × UInt8 :=
  if variant = Register.highGasVariant then (block[15], block[16]) else (block[13], block[14])

def RawField.ofBlock (variant : UInt8) (block : FieldBlock) : RawField :=
  let gas := FieldBlock.gasBytes block variant
  { status := (block[0] &&& FieldStatus.newData) |||
      (gas.2 &&& (FieldStatus.gasValid ||| FieldStatus.heaterStable))
    gasIndex := block[0] &&& 0x0F
    measurement := block[1]
    pressure := reading20 block[2] block[3] block[4]
    temperature := reading20 block[5] block[6] block[7]
    humidity := wordOf block[8] block[9]
    gas := reading10 gas.1 gas.2
    gasRange := gas.2 &&& 0x0F }

/-- Pressure and humidity are corrected by the fine temperature of the same block. -/
def RawField.compensate (variant : UInt8) (calibration : Calibration) (raw : RawField) : Field :=
  let temperature := calibration.temperature raw.temperature
  { status := raw.status
    gasIndex := raw.gasIndex
    measurement := raw.measurement
    temperature := temperature.1
    pressure := calibration.pressure raw.pressure temperature.2
    humidity := calibration.humidity raw.humidity temperature.2
    gas := if variant = Register.highGasVariant then gasHigh raw.gas raw.gasRange
      else calibration.gasLow raw.gas raw.gasRange }

def Field.ofBlock (variant : UInt8) (calibration : Calibration) (block : FieldBlock) : Field :=
  (RawField.ofBlock variant block).compensate variant calibration

end AirMonitor
