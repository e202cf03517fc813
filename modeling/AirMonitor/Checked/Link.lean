import AirMonitor.Checked.Driver
import AirMonitor.Sensor.Link

namespace AirMonitor.Checked

/-- A program over the bus that may stop. -/
abbrev CheckedLink (σ : Type) := ExceptT SensorError (StateT σ Option)

/-- A program that does not stop. -/
def carry {σ α : Type} (program : Link σ α) : CheckedLink σ α := fun link => some (program link)

def check {σ α : Type} (result? : Option α) : CheckedLink σ α :=
  fun link => result?.map fun result => (.ok result, link)

variable {σ : Type} [Transport σ]

def send (frame : WriteFrame) : Link σ Unit := fun link =>
  let ran := Transport.write frame link
  (ran.1.mapError fun _ => .commFailure, ran.2)

def write? (pairs : List (UInt8 × UInt8)) : CheckedLink σ Unit := do
  if pairs.length = 0 ∨ Register.maxWritePairs < pairs.length then
    throw .invalidLength
  let frame ← check (frame? pairs)
  carry (send frame)

def readInto? (register : UInt8) (low high : Nat) (buffer : List UInt8) :
    CheckedLink σ (List UInt8) := do
  let part ← check (slice? buffer low high)
  let bytes ← carry (Link.read register part.length)
  return buffer.take low ++ bytes.toList ++ buffer.drop high

def reset? : CheckedLink σ Unit := do
  write? [(Register.softReset, Register.resetCommand)]
  carry (Link.delay Register.settleMicros)

def readId? : CheckedLink σ UInt32 := do
  let id ← carry (Link.read Register.uniqueId 4)
  check (uniqueId? id.toList)

def readDump? : CheckedLink σ (List UInt8) := do
  let buffer := List.replicate (23 + 14 + 5) 0
  let buffer ← readInto? Register.coefficients1 0 23 buffer
  let buffer ← readInto? Register.coefficients2 23 (23 + 14) buffer
  readInto? Register.coefficients3 (23 + 14) buffer.length buffer

def handshake? : CheckedLink σ (UInt8 × Calibration) := do
  reset?
  let chip ← carry (Link.readByte Register.chipId)
  if chip ≠ Register.expectedChipId then
    throw (.deviceNotFound chip)
  let variant ← carry (Link.readByte Register.variant)
  let bytes ← readDump?
  let calibration ← check (calibration? bytes)
  return (variant, calibration)

def readConfig? : CheckedLink σ Config := do
  let block ← carry (Link.read Register.ctrlGas1 5)
  check (config? block.toList)

def writeTable? (capacity : Nat) (base : UInt8) (values : List UInt8) : CheckedLink σ Unit := do
  let pairs ← check (table? capacity base values)
  write? pairs

/-- Builds both tables before the first of them is written. -/
def writeSteps? (target wait : HeaterStep → Option UInt8) (steps : List HeaterStep) :
    CheckedLink σ Unit := do
  if steps.length = 0 then
    throw .invalidLength
  let targets ← check (steps.mapM target)
  let waits ← check (steps.mapM wait)
  let targets ← check (table? HeaterSteps.capacity Register.heaterTarget0 targets)
  let waits ← check (table? HeaterSteps.capacity Register.heaterWait0 waits)
  write? targets
  write? waits

def writeProfile? (target : HeaterStep → UInt8) : HeaterProfile → CheckedLink σ UInt8
  | .forced step => do
    let wait ← check (encode? step.duration)
    write? [(Register.heaterTarget0, target step), (Register.heaterWait0, wait)]
    return 0
  | .sequential steps => do
    writeSteps? (fun step => some (target step)) (fun step => encode? step.duration) steps.1
    return UInt8.ofNat steps.1.length
  | .parallel steps sharedMillis => do
    writeSteps? (fun step => some (target step))
      (fun step => some (HeatingTime.encodeMultiple step.duration)) steps.1
    let shared ← check (encodeShared? sharedMillis)
    write? [(Register.heaterShared, shared)]
    return UInt8.ofNat steps.1.length

def blocks : Nat → List UInt8 → List (List UInt8)
  | 0, _ => []
  | count + 1, bytes =>
    bytes.take Register.fieldLength :: blocks count (bytes.drop Register.fieldLength)

def readBlocks? (count : Nat) : CheckedLink σ (List (List UInt8)) := do
  let length := count * Register.fieldLength
  let buffer := List.replicate Register.maxReadLength 0
  let buffer ← readInto? Register.field0 0 length buffer
  let read ← check (slice? buffer 0 length)
  return blocks count read

def readFields? : Mode → CheckedLink σ (List (List UInt8))
  | .sleep => return []
  | .forced => readBlocks? 1
  | .parallel | .sequential => readBlocks? Register.fieldCount

section

variable [Settling σ]

/-- Asks the chip to sleep until it does; every request is a frame of its own. -/
def sleep? (link : σ) : Option (Except SensorError UInt8 × σ) :=
  let seen := Transport.read Register.ctrlMeas 1 link
  match hr : seen.1 with
  | .error _ => some (.error .commFailure, seen.2)
  | .ok control =>
    if hm : Register.mode.get (onlyByte control) = 0 then some (.ok (onlyByte control), seen.2)
    else
      match hf : frame? [(Register.ctrlMeas, Register.mode.set (onlyByte control) 0)] with
      | none => none
      | some frame =>
        let asked := Transport.write frame seen.2
        match hw : asked.1 with
        | .error _ => some (.error .commFailure, asked.2)
        | .ok () =>
          have hframe : sleepRequest (onlyByte control) = frame := Option.some.inj hf
          have hless := Settling.resistance_request link hr hm (hframe ▸ hw)
          have := Nat.lt_of_le_of_lt (Settling.resistance_delay Register.settleMicros asked.2)
            (hframe ▸ hless)
          sleep? (Transport.delay Register.settleMicros asked.2)
termination_by Settling.resistance link

def changeMode? (mode : Mode) : CheckedLink σ Unit := do
  let control ← (sleep? : CheckedLink σ UInt8)
  if mode ≠ .sleep then
    write? [(Register.ctrlMeas, Register.mode.set control mode.bits)]

def writeConfig? (config : Config) : CheckedLink σ Unit := do
  let mode ← carry Link.readMode
  changeMode? .sleep
  let block ← carry (Link.read Register.ctrlGas1 5)
  let block ← check (patch? config block.toList)
  writeTable? 5 Register.ctrlGas1 block
  if mode ≠ .sleep then
    changeMode? mode

def programHeater? (variant : UInt8) (target : HeaterStep → UInt8) (profile : HeaterProfile) :
    CheckedLink σ Unit := do
  changeMode? .sleep
  let steps ← writeProfile? target profile
  let control ← carry (Link.read Register.ctrlGas0 2)
  let pairs ← check (gasControl? variant steps control.toList)
  write? pairs

end

end AirMonitor.Checked
