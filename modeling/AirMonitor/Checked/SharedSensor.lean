import AirMonitor.Checked.Session
import AirMonitor.SharedSensor

namespace AirMonitor

/-- What others can do with a shared sensor: readers take their turns or give up, someone operates
the driver or has a field scored, and the bus or the chip changes by itself. -/
inductive SensorUse (σ : Type) where
  | operate (operation : Operation)
  | enter
  | collect
  | complete
  | leave
  | grade (field : Field)
  | disturb (change : σ → σ)

def SharedSensor.serve {σ : Type} [Transport σ] [Settling σ] :
    SensorUse σ → StateM (SharedSensor σ) Unit
  | .operate operation => do
    let _ ← use (Session.perform operation)
  | .enter => do
    let _ ← enter
  | .collect => do
    let _ ← collect
  | .complete => do
    let _ ← complete
  | .leave => leave
  | .grade field => do
    let _ ← grade field
  | .disturb change =>
    modify fun shared => { shared with session.link := change shared.session.link }

def SharedSensor.serveAll {σ : Type} [Transport σ] [Settling σ] (uses : List (SensorUse σ))
    (shared : SharedSensor σ) : SharedSensor σ :=
  uses.foldl (fun shared request => (serve request shared).2) shared

namespace Checked

variable {σ α : Type}

def use? (action : StateT (Session σ) Option α) : StateT (SharedSensor σ) Option α :=
  fun shared => do
    let ran ← action shared.session
    return (ran.1, { shared with session := ran.2 })

def grade? (field : Field) : StateT (SharedSensor σ) Option Float32 := do
  let estimator := (← get).estimator
  if !estimator.isCalibrated then
    act (log .debug "IAQ burn-in")
  let graded ← score? field.gas field.humidity field.temperature estimator
  modify fun shared => { shared with estimator := graded.2 }
  return graded.1

variable [Transport σ]

def collect? : StateT (SharedSensor σ) Option (Field × Bool) := do
  act SharedSensor.leave
  match ← use? fetch? with
  | .ok 0 =>
    act (log .error "No new BME68x data, reusing previous values")
    return ((← get).session.driver.buffer.first, false)
  | .ok _ => return ((← use? deliver?).1, true)
  | .error e =>
    act (log .error s!"BME68x fetch failed: {e.label}")
    return ((← get).session.driver.buffer.first, false)

def complete? : StateT (SharedSensor σ) Option Sample := do
  let collected ← collect?
  let score ← if collected.2 then grade? collected.1 else pure Estimator.unavailable
  return .ofField collected.1 score

variable [Settling σ]

def enter? : StateT (SharedSensor σ) Option Nat := do
  let waiting := (← get).waiting
  modify fun shared => { shared with waiting := if waiting = 255 then 255 else waiting + 1 }
  if 0 < waiting then
    act (log .debug "Joining pending forced measurement")
  else if let .error e := ← use? (setMode? .forced) then
    act (log .warn s!"Could not start forced measurement: {e.label}")
  forcedMicros? (← get).session.driver

def serve? : SensorUse σ → StateT (SharedSensor σ) Option Unit
  | .operate operation => do
    let _ ← use? (perform? operation)
  | .enter => do
    let _ ← enter?
  | .collect => do
    let _ ← collect?
  | .complete => do
    let _ ← complete?
  | .leave => act SharedSensor.leave
  | .grade field => do
    let _ ← grade? field
  | .disturb change =>
    modify fun shared => { shared with session.link := change shared.session.link }

def serveAll? (uses : List (SensorUse σ)) (shared : SharedSensor σ) : Option (SharedSensor σ) :=
  uses.foldlM (fun shared request => (serve? request shared).map Prod.snd) shared

end Checked

end AirMonitor
