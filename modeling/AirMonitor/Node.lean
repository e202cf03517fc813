import AirMonitor.CarbonDioxide.Meter
import AirMonitor.Number.Shortest
import AirMonitor.Payload
import AirMonitor.RollingAverage
import AirMonitor.SharedSensor

namespace AirMonitor

inductive Co2Source where
  | fixed (ppm : Int32)
  | meter
  deriving DecidableEq

inductive Purpose where
  | sample
  | display
  | report (source : Co2Source)
  deriving DecidableEq

inductive Phase where
  | arriving
  | waiting (micros : Nat)
  deriving DecidableEq

structure Reader where
  purpose : Purpose
  phase : Phase := .arriving
  deriving DecidableEq

inductive ReportError where
  | format
  | send
  deriving DecidableEq, Repr

/-- Where reports go, with all it was given so far and whether it took them. -/
structure Sink where
  offline : Bool := false
  offers : List (String × Bool) := []

def displayWindow : Nat := 5

/-- A node: its sensors, and the readers that are under way. -/
structure Node (σ : Type) where
  sensor : SharedSensor σ
  sensorId : String
  uart : CarbonDioxide.Uart := {}
  sink : Sink := {}
  shown : RollingAverage displayWindow := .empty
  /-- Whether someone who is no reader keeps the sensor. -/
  held : Bool := false
  readers : List (Nat × Reader) := []

instance : Journaled (Node σ) where
  journal node := Journaled.journal node.sensor
  withJournal journal node := { node with sensor := Journaled.withJournal journal node.sensor }

inductive Progress where
  | absent
  | blocked
  | waiting (micros : Nat)
  | sampled (sample : Sample)
  | displayed (sample : Sample)
  | reported (sample : Sample) (result : Except ReportError Unit)

namespace Node

def useSensor (action : StateM (SharedSensor σ) α) : StateM (Node σ) α := fun node =>
  let ran := action node.sensor
  (ran.1, { node with sensor := ran.2 })

def useMeter (action : StateM CarbonDioxide.Meter α) : StateM (Node σ) α := fun node =>
  let ran := action ⟨node.uart, Journaled.journal node⟩
  (ran.1, Journaled.withJournal ran.2.journal { node with uart := ran.2.uart })

def display (sample : Sample) : StateM (Node σ) Unit := do
  if 0 ≤ sample.score then
    modify fun node => { node with shown := node.shown.push sample.score }
  let temperature := shortest sample.temperature
  let humidity := shortest sample.humidity
  let pressure := shortest sample.pressure
  let gas := shortest sample.gas
  log .info s!"T {temperature} C | RH {humidity} % | P {pressure} Pa | gas {gas} Ohm"
  let node ← get
  if node.sensor.estimator.isCalibrated then
    let score := shortest sample.score
    let mean := shortest node.shown.mean
    log .info s!"IAQ {score} (avg of last {node.shown.window.length}: {mean})"
  else
    log .info "IAQ calibrating"

def offer (text : String) : StateM (Node σ) Bool := fun node =>
  let taken := !node.sink.offline
  (taken, { node with
    sink := { node.sink with offers := node.sink.offers ++ [(text, taken)] } })

def ship (sample : Sample) : StateM (Node σ) (Except ReportError Unit) := do
  match Payload.format? (← get).sensorId sample with
  | none =>
    log .error "Report payload does not fit"
    return .error .format
  | some text =>
    if ← offer text then
      log .debug s!"Report sent: {text}"
      return .ok ()
    else
      log .warn "Report could not be sent"
      return .error .send

def co2 : Co2Source → StateM (Node σ) Int32
  | .fixed ppm => return ppm
  | .meter => useMeter CarbonDioxide.Meter.concentration

def deliver (sample : Sample) : Purpose → StateM (Node σ) Progress
  | .sample => return .sampled sample
  | .display => do
    display sample
    return .displayed sample
  | .report source => do
    let sample := { sample with co2 := ← co2 source }
    return .reported sample (← ship sample)

/-- Gives a reader up; one that waits no longer counts as waiting. -/
def cancel (id : Nat) : StateM (Node σ) Unit := do
  if let some reader := (← get).readers.lookup id then
    modify fun node => { node with readers := node.readers.filter (·.1 != id) }
    if let .waiting _ := reader.phase then
      useSensor SharedSensor.leave

def arrive (id : Nat) (purpose : Purpose) : StateM (Node σ) Unit := do
  cancel id
  modify fun node => { node with readers := (id, { purpose }) :: node.readers }

variable {σ : Type} [Transport σ] [Settling σ]

/-- Takes a reader as far as it gets: to its wait, or from there to its end. -/
def poll (id : Nat) : StateM (Node σ) Progress := do
  let node ← get
  match node.readers.lookup id with
  | none => return .absent
  | some reader =>
    if node.held then
      return .blocked
    match reader.phase with
    | .arriving =>
      let micros ← useSensor SharedSensor.enter
      modify fun node => { node with
        readers := node.readers.map fun entry =>
          if entry.1 = id then (id, { reader with phase := .waiting micros }) else entry }
      return .waiting micros
    | .waiting _ =>
      modify fun node => { node with readers := node.readers.filter (·.1 != id) }
      let sample ← useSensor SharedSensor.complete
      deliver sample reader.purpose

end Node

end AirMonitor
