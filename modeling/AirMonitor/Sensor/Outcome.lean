namespace AirMonitor

inductive SensorError where
  | commFailure
  | deviceNotFound (chipId : UInt8)
  /-- A transaction of no bytes or of too many, or a heater profile without steps. -/
  | invalidLength
  /-- The configuration could not be read, so none was written. -/
  | configWriteSkipped
  deriving DecidableEq, Repr

def SensorError.code : SensorError → Int8
  | .commFailure => -2
  | .deviceNotFound _ => -3
  | .invalidLength => -4
  | .configWriteSkipped => -2

theorem SensorError.code_neg (e : SensorError) : e.code < 0 := by
  cases e with
  | deviceNotFound chipId => exact (by decide : (-3 : Int8) < 0)
  | _ => decide

def SensorError.label : SensorError → String
  | .commFailure => "CommFailure"
  | .deviceNotFound _ => "DeviceNotFound"
  | .invalidLength => "InvalidLength"
  | .configWriteSkipped => "ConfigWriteSkipped"

inductive SensorWarning where
  | modeNotStarted
  | noNewData
  | noSharedDuration
  deriving DecidableEq, Repr

def SensorWarning.code : SensorWarning → Int8
  | .modeNotStarted => 1
  | .noNewData => 2
  | .noSharedDuration => 3

inductive Outcome where
  | success
  | warning (warning : SensorWarning)
  | failure (error : SensorError)
  deriving DecidableEq, Repr

def Outcome.ofResult : Except SensorError α → Outcome
  | .ok _ => .success
  | .error e => .failure e

def Outcome.code : Outcome → Int8
  | .success => 0
  | .warning w => w.code
  | .failure e => e.code

inductive Status where
  | ok
  | warning
  | error
  deriving DecidableEq, Repr

def Status.ofCode (code : Int8) : Status :=
  if code < 0 then .error else if 0 < code then .warning else .ok

end AirMonitor
