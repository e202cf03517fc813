import AirMonitor.Bus.I2c
import AirMonitor.CarbonDioxide.Frame
import AirMonitor.Estimator
import AirMonitor.Sensor.Driver

/-!
Computations as a machine does them that stops where an index leaves its array, a number leaves
its word or a word is shifted by all its bits. `none` is such a stop.
-/

namespace AirMonitor.Checked

variable {α : Type}

def fit? (bits n : Nat) : Option Nat := if n < 1 <<< bits then some n else none

def sub? (a b : Nat) : Option Nat := if b ≤ a then some (a - b) else none

def add32? (a b : UInt32) : Option UInt32 :=
  if a.toNat + b.toNat < UInt32.size then some (a + b) else none

/-- Bits that leave the word are lost. -/
def shiftLeft? (bits n amount : Nat) : Option Nat :=
  if amount < bits then some (n <<< amount % 1 <<< bits) else none

def shiftRight? (bits n amount : Nat) : Option Nat :=
  if amount < bits then some (n >>> amount) else none

def set? (xs : List α) (i : Nat) (x : α) : Option (List α) :=
  if i < xs.length then some (xs.set i x) else none

def slice? (xs : List α) (low high : Nat) : Option (List α) :=
  if low ≤ high ∧ high ≤ xs.length then some ((xs.take high).drop low) else none

def copyInto? (buffer : List α) (low high : Nat) (xs : List α) : Option (List α) := do
  let part ← slice? buffer low high
  if part.length = xs.length then return buffer.take low ++ xs ++ buffer.drop high else none

def busBytes? (frame : WriteFrame) : Option (Except BusError (List UInt8)) :=
  if I2c.bufferSize ≤ frame.data.length then some (.error .overflow)
  else do
    let buffer ← set? (List.replicate I2c.bufferSize 0) 0 frame.register
    let buffer ← copyInto? buffer 1 (frame.data.length + 1) frame.data
    let bytes ← slice? buffer 0 (frame.data.length + 1)
    return .ok bytes

/-- Writes pairs into a buffer, behind the first value and `i` other pairs. -/
def fillFrame? : (i : Nat) → List (UInt8 × UInt8) → List UInt8 → Option (List UInt8)
  | _, [], buffer => some buffer
  | i, pair :: pairs, buffer => do
    let buffer ← set? buffer (1 + 2 * i) pair.1
    let buffer ← set? buffer (2 + 2 * i) pair.2
    fillFrame? (i + 1) pairs buffer

def frame? (pairs : List (UInt8 × UInt8)) : Option WriteFrame := do
  let first ← pairs[0]?
  let others ← slice? pairs 1 pairs.length
  let buffer ← set? (List.replicate (2 * Register.maxWritePairs - 1) 0) 0 first.2
  let buffer ← fillFrame? 0 others buffer
  let length ← sub? (2 * pairs.length) 1
  let data ← slice? buffer 0 length
  return ⟨first.1, data⟩

def fillTable? (base : UInt8) :
    (i : Nat) → List UInt8 → List (UInt8 × UInt8) → Option (List (UInt8 × UInt8))
  | _, [], table => some table
  | i, value :: values, table => do
    let register ← fit? 8 (base.toNat + i)
    let table ← set? table i (UInt8.ofNat register, value)
    fillTable? base (i + 1) values table

def table? (capacity : Nat) (base : UInt8) (values : List UInt8) :
    Option (List (UInt8 × UInt8)) := do
  let table ← fillTable? base 0 values (List.replicate capacity (0, 0))
  slice? table 0 values.length

/-- Quarters a time until six bits hold it, and counts in a byte how often. -/
def quarter? (n factor : Nat) : Option (Nat × Nat) :=
  if n < 64 then some (n, factor)
  else (fit? 8 (factor + 1)).bind (quarter? (n / 4))

def pack? (n : Nat) : Option UInt8 := do
  let quartered ← quarter? n 0
  let high ← fit? 8 (quartered.2 * 64)
  let byte ← fit? 8 (quartered.1 + high)
  return UInt8.ofNat byte

def encode? (millis : UInt16) : Option UInt8 :=
  if 0xFC0 ≤ millis then some 0xFF else pack? millis.toNat

def encodeShared? (millis : UInt16) : Option UInt8 :=
  if 0x783 ≤ millis then some 0xFF
  else do
    let scaled ← fit? 32 (millis.toNat * 1000)
    pack? (scaled / 477)

def getBits? (field : BitField) (byte : UInt8) : Option UInt8 := do
  let value ← shiftRight? 8 (byte &&& field.mask).toNat field.shift.toNat
  return UInt8.ofNat value

def setBits? (field : BitField) (byte value : UInt8) : Option UInt8 := do
  let moved ← shiftLeft? 8 value.toNat field.shift.toNat
  return (byte &&& ~~~field.mask) ||| (UInt8.ofNat moved &&& field.mask)

/-- Reads a configuration; the oversampling of the humidity is not moved. -/
def config? (block : List UInt8) : Option Config := do
  let noStandby ← getBits? Register.noStandby (← block[0]?)
  let standby ← if noStandby = 0 then do
      let code ← getBits? Register.standby (← block[4]?)
      pure (Standby.ofBits code)
    else pure .none
  let humidity := (← block[1]?) &&& Register.humidityOversampling.mask
  let temperature ← getBits? Register.temperatureOversampling (← block[3]?)
  let pressure ← getBits? Register.pressureOversampling (← block[3]?)
  let filter ← getBits? Register.filter (← block[4]?)
  return ⟨.ofBits temperature, .ofBits pressure, .ofBits humidity, .ofBits filter, standby⟩

def patchByte? (field : BitField) (value : UInt8) (i : Nat) (block : List UInt8) :
    Option (List UInt8) := do
  let byte ← setBits? field (← block[i]?) value
  set? block i byte

def patch? (config : Config) (block : List UInt8) : Option (List UInt8) := do
  let block ← patchByte? Register.filter config.filter.bits 4 block
  let block ← patchByte? Register.temperatureOversampling config.temperature.bits 3 block
  let block ← patchByte? Register.pressureOversampling config.pressure.bits 3 block
  let block ← patchByte? Register.humidityOversampling config.humidity.bits 1 block
  let block ← patchByte? Register.standby config.standby.fields.2 4 block
  patchByte? Register.noStandby config.standby.fields.1 0 block

def gasControl? (variant steps : UInt8) (control : List UInt8) :
    Option (List (UInt8 × UInt8)) := do
  let control ← patchByte? Register.heaterOff 0 0 control
  let control ← patchByte? Register.heaterSteps steps 1 control
  let control ← patchByte? Register.runGas (Register.runGasCode variant) 1 control
  return [(Register.ctrlGas0, ← control[0]?), (Register.ctrlGas1, ← control[1]?)]

def uniqueId? (id : List UInt8) : Option UInt32 := do
  let upper ← add32? (← id[3]?).toUInt32 ((← id[2]?).toUInt32 <<< 8)
  let middle ← add32? ((upper &&& 0x7FFF) <<< 16) ((← id[1]?).toUInt32 <<< 8)
  add32? middle (← id[0]?).toUInt32

def measurementMicros? (driver : Driver) (mode : Mode) : Option Nat := do
  let cycles ← fit? 32 (driver.config.temperature.cycles + driver.config.pressure.cycles)
  let cycles ← fit? 32 (cycles + driver.config.humidity.cycles)
  let micros ← fit? 32 (cycles * 1963)
  let micros ← fit? 32 (micros + 477 * 4)
  let micros ← fit? 32 (micros + 477 * 5)
  if (if mode = .sleep then driver.lastMode else mode) = .parallel then return micros
  else fit? 32 (micros + 1000)

def forcedMicros? (driver : Driver) : Option Nat := do
  let measuring ← measurementMicros? driver .forced
  let heating ← fit? 32 (driver.heaterMillis * 1000)
  fit? 32 (measuring + heating)

def absorb? (dry : Float32) (estimator : Estimator) : Option (Bool × Estimator) :=
  if estimator.burnedIn < Estimator.burnInReadings then do
    let burnedIn ← fit? 8 (estimator.burnedIn + 1)
    return (true, { estimator with burnedIn })
  else if estimator.ceiling < dry then return (false, { estimator with ceiling := dry })
  else return (false, estimator)

def score? (gas humidity temperature : Float32) (estimator : Estimator) :
    Option (Float32 × Estimator) := do
  let dry := dryGas gas humidity temperature
  let absorbed ← absorb? dry estimator
  let score := if absorbed.1 then Estimator.unavailable
    else Estimator.grade Estimator.square dry absorbed.2.ceiling
  return (score, absorbed.2)

def checksum? (frame : CarbonDioxide.Frame) : Option UInt8 := do
  let content ← slice? frame.toList 1 8
  let sum := content.foldl (fun sum byte => sum + byte) 0
  let complement ← sub? 0xFF sum.toNat
  return UInt8.ofNat complement + 1

end AirMonitor.Checked
