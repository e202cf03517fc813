import AirMonitor.Sensor.Config
import AirMonitor.Sensor.Field
import AirMonitor.Sensor.HeaterProfile
import AirMonitor.Sensor.HeatingTime
import AirMonitor.Sensor.Outcome
import AirMonitor.Sensor.Settling

namespace AirMonitor

/-- A program over the bus. The state of the link outlives a failure. -/
abbrev Link (σ : Type) := ExceptT SensorError (StateM σ)

def consecutive (register : UInt8) : List UInt8 → List (UInt8 × UInt8)
  | [] => []
  | value :: values => (register, value) :: consecutive (register + 1) values

@[simp] theorem length_consecutive (register : UInt8) (values : List UInt8) :
    (consecutive register values).length = values.length := by
  induction values generalizing register with
  | nil => rfl
  | cons value values ih => simp [consecutive, ih]

namespace Link

variable {σ α β : Type}

@[simp] theorem pure_apply (a : α) (link : σ) : (pure a : Link σ α) link = (.ok a, link) := rfl

@[simp] theorem throw_apply (e : SensorError) (link : σ) :
    (throw e : Link σ α) link = (.error e, link) := rfl

theorem bind_apply (first : Link σ α) (next : α → Link σ β) (link : σ) :
    (first >>= next) link =
      match (first link).1 with
      | .ok a => next a (first link).2
      | .error e => (.error e, (first link).2) := by
  simp only [bind, ExceptT.bind, ExceptT.mk, StateT.bind]
  obtain ⟨result, after⟩ := first link
  cases result <;> rfl

variable [Transport σ]

/-- Lengths that no transaction can have are refused before the bus is used. -/
def read (register : UInt8) (length : Nat) : Link σ (Vector UInt8 length) := fun link =>
  if length = 0 ∨ Register.maxReadLength < length then (.error .invalidLength, link)
  else
    let ran := Transport.read register length link
    (ran.1.mapError fun _ => .commFailure, ran.2)

def readByte (register : UInt8) : Link σ UInt8 := do
  let bytes ← read register 1
  return onlyByte bytes

def write (pairs : List (UInt8 × UInt8)) : Link σ Unit := fun link =>
  match WriteFrame.ofPairs? pairs with
  | none => (.error .invalidLength, link)
  | some frame =>
    if Register.maxWritePairs < pairs.length then (.error .invalidLength, link)
    else
      let ran := Transport.write frame link
      (ran.1.mapError fun _ => .commFailure, ran.2)

theorem write_refused {pairs : List (UInt8 × UInt8)}
    (h : pairs = [] ∨ Register.maxWritePairs < pairs.length) (link : σ) :
    write pairs link = (.error .invalidLength, link) := by
  cases pairs with
  | nil => rfl
  | cons pair pairs =>
    have hlength : Register.maxWritePairs < (pair :: pairs).length :=
      h.resolve_left (List.cons_ne_nil _ _)
    rw [write]
    simp only [WriteFrame.ofPairs?, if_pos hlength]

theorem write_sent {pairs : List (UInt8 × UInt8)} {frame : WriteFrame}
    (h : WriteFrame.ofPairs? pairs = some frame) (hfits : pairs.length ≤ Register.maxWritePairs)
    (link : σ) : write pairs link =
      ((Transport.write frame link).1.mapError fun _ => .commFailure,
        (Transport.write frame link).2) := by
  rw [write, h]
  exact if_neg (Nat.not_lt.2 hfits)

def delay (micros : UInt32) : Link σ Unit := fun link => (.ok (), Transport.delay micros link)

def reset : Link σ Unit := do
  write [(Register.softReset, Register.resetCommand)]
  delay Register.settleMicros

/-- The 24-bit id of the chip, its lowest byte first and the two highest ones last in reverse. -/
def uniqueId : Link σ UInt32 := do
  let id ← read Register.uniqueId 4
  let upper := (id[3].toUInt32 + (id[2].toUInt32 <<< 8)) &&& 0x7FFF
  return (upper <<< 16) + (id[1].toUInt32 <<< 8) + id[0].toUInt32

def readDump : Link σ CoefficientDump := do
  let first ← read Register.coefficients1 23
  let second ← read Register.coefficients2 14
  let third ← read Register.coefficients3 5
  return ⟨first, second, third⟩

def handshake : Link σ (UInt8 × Calibration) := do
  reset
  let chip ← readByte Register.chipId
  if chip ≠ Register.expectedChipId then
    throw (.deviceNotFound chip)
  let variant ← readByte Register.variant
  let dump ← readDump
  return (variant, .ofDump dump)

def readMode : Link σ Mode := do
  let control ← readByte Register.ctrlMeas
  return .ofBits (Register.mode.get control)

/-- Asks the chip to sleep until it does, and yields its mode register as last read. -/
def sleep [Settling σ] (link : σ) : Except SensorError UInt8 × σ :=
  let seen := Transport.read Register.ctrlMeas 1 link
  match hr : seen.1 with
  | .error _ => (.error .commFailure, seen.2)
  | .ok control =>
    if hm : Register.mode.get (onlyByte control) = 0 then (.ok (onlyByte control), seen.2)
    else
      let asked := Transport.write (sleepRequest (onlyByte control)) seen.2
      match hw : asked.1 with
      | .error _ => (.error .commFailure, asked.2)
      | .ok () =>
        have := Nat.lt_of_le_of_lt (Settling.resistance_delay Register.settleMicros asked.2)
          (Settling.resistance_request link hr hm hw)
        sleep (Transport.delay Register.settleMicros asked.2)
termination_by Settling.resistance link

theorem sleep_eq [Settling σ] (link : σ) : sleep link =
    match (Transport.read Register.ctrlMeas 1 link).1 with
    | .error _ => (.error .commFailure, (Transport.read Register.ctrlMeas 1 link).2)
    | .ok control =>
      if Register.mode.get (onlyByte control) = 0 then
        (.ok (onlyByte control), (Transport.read Register.ctrlMeas 1 link).2)
      else
        let asked := Transport.write (sleepRequest (onlyByte control))
          (Transport.read Register.ctrlMeas 1 link).2
        match asked.1 with
        | .error _ => (.error .commFailure, asked.2)
        | .ok () => sleep (Transport.delay Register.settleMicros asked.2) := by
  rw [sleep]
  split
  · next hr => simp only [hr]
  · next hr =>
    split
    · next hm => simp only [hr, hm, ↓reduceIte]
    · next hm =>
      simp only [hr, hm, ↓reduceIte]
      split <;> next hw => simp only [hw]

/-- A mode is only ever started from sleep. -/
def changeMode [Settling σ] (mode : Mode) : Link σ Unit := do
  let control ← (sleep : Link σ UInt8)
  if mode ≠ .sleep then
    write [(Register.ctrlMeas, Register.mode.set control mode.bits)]

def readConfig : Link σ Config := do
  let block ← read Register.ctrlGas1 5
  return .ofBlock block

def writeConfig [Settling σ] (config : Config) : Link σ Unit := do
  let mode ← readMode
  changeMode .sleep
  let block ← read Register.ctrlGas1 5
  write (consecutive Register.ctrlGas1 (config.patch block).toList)
  if mode ≠ .sleep then
    changeMode mode

def writeSteps (target wait : HeaterStep → UInt8) (steps : List HeaterStep) : Link σ Unit := do
  write (consecutive Register.heaterTarget0 (steps.map target))
  write (consecutive Register.heaterWait0 (steps.map wait))

def writeProfile (target : HeaterStep → UInt8) : HeaterProfile → Link σ UInt8
  | .forced step => do
    write [(Register.heaterTarget0, target step),
      (Register.heaterWait0, HeatingTime.encode step.duration)]
    return 0
  | .sequential steps => do
    writeSteps target (fun step => HeatingTime.encode step.duration) steps.1
    return UInt8.ofNat steps.1.length
  | .parallel steps sharedMillis => do
    writeSteps target (fun step => HeatingTime.encodeMultiple step.duration) steps.1
    write [(Register.heaterShared, HeatingTime.encodeShared sharedMillis)]
    return UInt8.ofNat steps.1.length

def programHeater [Settling σ] (variant : UInt8) (target : HeaterStep → UInt8)
    (profile : HeaterProfile) : Link σ Unit := do
  changeMode .sleep
  let steps ← writeProfile target profile
  let control ← read Register.ctrlGas0 2
  write [(Register.ctrlGas0, Register.heaterOff.set control[0] 0),
    (Register.ctrlGas1, Register.runGas.set (Register.heaterSteps.set control[1] steps)
      (Register.runGasCode variant))]

def readBlocks (count : Nat) : Link σ (List FieldBlock) := do
  let bytes ← read Register.field0 (17 * count)
  return (List.finRange count).map (FieldBlock.slice bytes)

def readFields : Mode → Link σ (List FieldBlock)
  | .sleep => return []
  | .forced => readBlocks 1
  | .parallel | .sequential => readBlocks 3

end Link

end AirMonitor
