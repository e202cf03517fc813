import AirMonitor.CarbonDioxide.Frame
import AirMonitor.CarbonDioxide.Uart
import AirMonitor.Log

namespace AirMonitor.CarbonDioxide

inductive MeterError where
  | write
  | read
  | timeout
  | checksum
  deriving DecidableEq, Repr

def MeterError.label : MeterError → String
  | .write => "Write"
  | .read => "Read"
  | .timeout => "Timeout"
  | .checksum => "Checksum"

def MeterError.ofReceive : ReceiveError → MeterError
  | .broken => .read
  | .timeout => .timeout

structure Meter where
  uart : Uart := {}
  journal : List LogLine := []

instance : Journaled Meter := ⟨Meter.journal, fun journal meter => { meter with journal }⟩

namespace Meter

def responseMillis : UInt32 := 200

def send (frame : Frame) : StateM Meter (Except MeterError Unit) := fun meter =>
  let sent := meter.uart.transmit frame.toList
  (if sent.1 then .ok () else .error .write, { meter with uart := sent.2 })

def receive : StateM Meter (Except MeterError Frame) := fun meter =>
  let received := meter.uart.receiveExactly 9 responseMillis
  ((received.1.mapError MeterError.ofReceive).map Frame.ofList, { meter with uart := received.2 })

def accept (answer : Frame) : Except MeterError UInt16 :=
  if answer.isValid then .ok answer.concentration else .error .checksum

/-- Asks for one reading, in parts per million. -/
def read : StateM Meter (Except MeterError UInt16) := do
  match ← send .readRequest with
  | .error e => return .error e
  | .ok () =>
    let answer ← receive
    return answer.bind accept

def unavailable : Int32 := -1

def concentration : StateM Meter Int32 := do
  match ← read with
  | .ok ppm => return Int32.ofNat ppm.toNat
  | .error e =>
    log .warn s!"MH-Z19C read failed: {e.label}"
    return unavailable

def setSelfCalibration (enable : Bool) : StateM Meter (Except MeterError Unit) := do
  let result ← send (.selfCalibrationRequest enable)
  if result.isOk then
    log .info s!"MH-Z19C self calibration: {enable}"
  return result

end Meter

end AirMonitor.CarbonDioxide
