import AirMonitor.Estimator
import AirMonitor.Sample
import AirMonitor.Sensor.Operation

namespace AirMonitor

/-- A sensor whose readers come and go between two turns at it: they start a measurement or join
one, and collect it after waiting. -/
structure SharedSensor (σ : Type) where
  session : Session σ
  waiting : UInt8 := 0
  estimator : Estimator := {}

instance : Journaled (SharedSensor σ) where
  journal shared := shared.session.journal
  withJournal journal shared := { shared with session := { shared.session with journal } }

namespace SharedSensor

def use (action : StateM (Session σ) α) : StateM (SharedSensor σ) α := fun shared =>
  let ran := action shared.session
  (ran.1, { shared with session := ran.2 })

def forcedMicros (driver : Driver) : Nat :=
  driver.measurementMicros .forced + driver.heaterMillis * 1000

def leave : StateM (SharedSensor σ) Unit :=
  modify fun shared =>
    { shared with waiting := if shared.waiting = 0 then 0 else shared.waiting - 1 }

def grade (field : Field) : StateM (SharedSensor σ) Float32 := do
  let estimator := (← get).estimator
  if !estimator.isCalibrated then
    log .debug "IAQ burn-in"
  let graded := estimator.score field.gas field.humidity field.temperature
  modify fun shared => { shared with estimator := graded.2 }
  return graded.1

variable {σ : Type} [Transport σ]

/-- The second turn of a reader: the first field of the measurement, or the one of an earlier
measurement if there is nothing new. Yields also whether it is new. -/
def collect : StateM (SharedSensor σ) (Field × Bool) := do
  leave
  match ← use Session.fetch with
  | .ok 0 =>
    log .error "No new BME68x data, reusing previous values"
    return ((← get).session.driver.buffer.first, false)
  | .ok _ => return ((← use Session.nextField).1, true)
  | .error e =>
    log .error s!"BME68x fetch failed: {e.label}"
    return ((← get).session.driver.buffer.first, false)

def complete : StateM (SharedSensor σ) Sample := do
  let (field, fresh) ← collect
  let score ← if fresh then grade field else pure Estimator.unavailable
  return .ofField field score

/-- The first turn of a reader: starts a measurement, unless another reader is waiting for one.
Yields the microseconds to wait. -/
def enter [Settling σ] : StateM (SharedSensor σ) Nat := do
  let waiting := (← get).waiting
  modify fun shared => { shared with waiting := if waiting = 255 then 255 else waiting + 1 }
  if 0 < waiting then
    log .debug "Joining pending forced measurement"
  else if let .error e := ← use (Session.setMode .forced) then
    log .warn s!"Could not start forced measurement: {e.label}"
  return forcedMicros (← get).session.driver

end SharedSensor

end AirMonitor
