import AirMonitor.Sensor.Setting

namespace AirMonitor

/-- One heater set-point: a target in °C and a time in milliseconds; in a parallel profile the
time is a multiple of the shared one. -/
structure HeaterStep where
  temperature : UInt16
  duration : UInt16
  deriving DecidableEq, Repr

def HeaterSteps.capacity : Nat := 10

abbrev HeaterSteps := { steps : List HeaterStep // steps.length ≤ HeaterSteps.capacity }

def HeaterSteps.ofList? (steps : List HeaterStep) : Option HeaterSteps :=
  if h : steps.length ≤ capacity then some ⟨steps, h⟩ else none

inductive HeaterProfile where
  | forced (step : HeaterStep)
  | sequential (steps : HeaterSteps)
  | parallel (steps : HeaterSteps) (sharedMillis : UInt16)
  deriving DecidableEq

def HeaterProfile.sequential? (steps : List HeaterStep) : Option HeaterProfile :=
  (HeaterSteps.ofList? steps).map .sequential

/-- Refuses a multiplier that is wider than the wait register. -/
def HeaterProfile.parallel? (steps : List HeaterStep) (sharedMillis : UInt16) :
    Option HeaterProfile :=
  if steps.any (fun step => 255 < step.duration) then none
  else (HeaterSteps.ofList? steps).map (.parallel · sharedMillis)

def HeaterProfile.mode : HeaterProfile → Mode
  | .forced _ => .forced
  | .sequential _ => .sequential
  | .parallel _ _ => .parallel

def HeaterProfile.steps : HeaterProfile → List HeaterStep
  | .forced step => [step]
  | .sequential steps => steps.1
  | .parallel steps _ => steps.1

/-- Heating time of a forced profile; the other profiles heat alongside the conversions. -/
def HeaterProfile.forcedMillis : HeaterProfile → Nat
  | .forced step => step.duration.toNat
  | _ => 0

def HeaterProfile.lacksSharedTime : HeaterProfile → Bool
  | .parallel _ sharedMillis => sharedMillis = 0
  | _ => false

end AirMonitor
