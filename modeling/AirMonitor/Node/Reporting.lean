import AirMonitor.Node.Event

namespace AirMonitor

/-- What others do while a report waits: the events of the node, and single steps of other
reports. -/
inductive ReportStep (σ : Type) where
  | event (event : NodeEvent σ)
  | grade (field : Field)
  | measure (source : Co2Source)
  | ship (sample : Sample)

namespace Node

variable {σ : Type} [Transport σ] [Settling σ]

def takeStep : ReportStep σ → StateM (Node σ) Unit
  | .event event => do
    let _ ← step event
  | .grade field => do
    let _ ← useSensor (SharedSensor.grade field)
  | .measure source => do
    let _ ← co2 source
  | .ship sample => do
    let _ ← ship sample

def onward (steps : List (ReportStep σ)) (node : Node σ) : Node σ :=
  steps.foldl (fun node step => (takeStep step node).2) node

/-- A report from its first turn at the sensor on. Others take their steps while it waits for the
measurement, for the meter, and until its sample is shipped. -/
def report (source : Co2Source) (waiting meanwhile later : List (ReportStep σ)) :
    StateM (Node σ) Progress := do
  let _ ← useSensor SharedSensor.enter
  modify (onward waiting)
  let sample ← useSensor SharedSensor.complete
  modify (onward meanwhile)
  let sample := { sample with co2 := ← co2 source }
  modify (onward later)
  return .reported sample (← ship sample)

end Node

end AirMonitor
