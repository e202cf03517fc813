import AirMonitor.Estimator

/-!
Callers that score at the same time. A call uses the estimator twice, and other calls may use it
in between; each use excludes all others while it lasts.
-/

namespace AirMonitor

structure Reading where
  gas : Float32
  humidity : Float32
  temperature : Float32

def Reading.dry (reading : Reading) : Float32 :=
  dryGas reading.gas reading.humidity reading.temperature

inductive Stage where
  | due
  | spent
  | absorbed
  | graded (score : Float32)

structure Call where
  reading : Reading
  stage : Stage := .due

namespace Call

def result? (call : Call) : Option Float32 :=
  match call.stage with
  | .spent => some Estimator.unavailable
  | .graded score => some score
  | _ => none

/-- The next use that the call makes of the estimator, if any is left. -/
def advance (square : Float32 → Float32) (call : Call) (estimator : Estimator) : Call × Estimator :=
  match call.stage with
  | .due =>
    let absorbed := estimator.absorb call.reading.dry
    ({ call with stage := if absorbed.1 then .spent else .absorbed }, absorbed.2)
  | .absorbed =>
    let score := Estimator.grade square call.reading.dry estimator.ceiling
    ({ call with stage := .graded score }, estimator)
  | _ => (call, estimator)

def started (call : Call) : Bool :=
  match call.stage with
  | .due => false
  | _ => true

/-- What the call has taught the estimator. -/
def taught? (call : Call) : Option Float32 :=
  match call.stage with
  | .absorbed | .graded _ => some call.reading.dry
  | _ => none

end Call

/-- The calls that there are in all, at one estimator. -/
structure Crowd where
  estimator : Estimator := {}
  calls : List Call

namespace Crowd

def ofReadings (readings : List Reading) : Crowd :=
  { calls := readings.map fun reading => { reading } }

variable (square : Float32 → Float32)

def step (crowd : Crowd) (i : Nat) : Crowd :=
  match crowd.calls[i]? with
  | none => crowd
  | some call =>
    let advanced := call.advance square crowd.estimator
    { estimator := advanced.2, calls := crowd.calls.set i advanced.1 }

def after (crowd : Crowd) (schedule : List Nat) : Crowd := schedule.foldl (step square) crowd

def started (crowd : Crowd) : Nat := crowd.calls.countP Call.started

def taught (crowd : Crowd) : List Float32 := crowd.calls.filterMap Call.taught?

end Crowd

end AirMonitor
