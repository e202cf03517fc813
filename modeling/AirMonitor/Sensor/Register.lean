import AirMonitor.Bits

namespace AirMonitor.Register

def field0 : UInt8 := 0x1D
def heaterTarget0 : UInt8 := 0x5A
def heaterWait0 : UInt8 := 0x64
def heaterShared : UInt8 := 0x6E
def ctrlGas0 : UInt8 := 0x70
def ctrlGas1 : UInt8 := 0x71
def ctrlHum : UInt8 := 0x72
def ctrlMeas : UInt8 := 0x74
def config : UInt8 := 0x75
def uniqueId : UInt8 := 0x83
def coefficients1 : UInt8 := 0x8A
def coefficients2 : UInt8 := 0xE1
def coefficients3 : UInt8 := 0x00
def chipId : UInt8 := 0xD0
def softReset : UInt8 := 0xE0
def variant : UInt8 := 0xF0

def expectedChipId : UInt8 := 0x61

def resetCommand : UInt8 := 0xB6

/-- The variant id of chips whose gas channel is the wide-range one. -/
def highGasVariant : UInt8 := 0x01

def fieldLength : Nat := 17
def fieldCount : Nat := 3

/-- Longest register read of one transaction: all measurement fields at once. -/
def maxReadLength : Nat := 51

def maxWritePairs : Nat := 10

/-- Settling time after a reset, and pause between two sleep requests. -/
def settleMicros : UInt32 := 10000

-- In `ctrlMeas`.
def mode : BitField := ⟨0x03, 0⟩
def temperatureOversampling : BitField := ⟨0xE0, 5⟩
def pressureOversampling : BitField := ⟨0x1C, 2⟩

-- In `ctrlHum`.
def humidityOversampling : BitField := ⟨0x07, 0⟩

-- In `config`; the standby time only counts unless `noStandby` is set.
def filter : BitField := ⟨0x1C, 2⟩
def standby : BitField := ⟨0xE0, 5⟩

-- In `ctrlGas1`, with the number of heater steps of a cycle.
def noStandby : BitField := ⟨0x80, 7⟩
def heaterSteps : BitField := ⟨0x0F, 0⟩
def runGas : BitField := ⟨0x30, 4⟩

-- In `ctrlGas0`.
def heaterOff : BitField := ⟨0x08, 3⟩

def runGasCode (variant : UInt8) : UInt8 := if variant = highGasVariant then 2 else 1

@[simp] theorem mode_get_set (byte value : UInt8) :
    mode.get (mode.set byte value) = mode.get value := by
  rw [BitField.get_set]
  simp [BitField.get, mode]

end AirMonitor.Register
