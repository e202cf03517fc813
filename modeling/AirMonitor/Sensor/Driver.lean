import AirMonitor.Sensor.Config
import AirMonitor.Sensor.FieldBuffer
import AirMonitor.Sensor.HeaterProfile
import AirMonitor.Sensor.Outcome

namespace AirMonitor

structure Driver where
  variant : UInt8 := 0
  calibration : Calibration := {}
  /-- The configuration last read from the chip or written to it. -/
  config : Config := .initial
  heater : Option HeaterProfile := none
  buffer : FieldBuffer := .initial
  /-- The mode last started, which the chip leaves by itself after a forced measurement. -/
  lastMode : Mode := .sleep
  ambient : Int8 := 25
  outcome : Outcome := .success

namespace Driver

/-- What an operation over the bus leaves behind: how it ended and, if it succeeded, what was
learned from it. -/
def conclude (driver : Driver) (learn : α → Driver → Driver) : Except SensorError α → Driver
  | .ok a => learn a { driver with outcome := .success }
  | .error e => { driver with outcome := .failure e }

def withConfig (config : Config) (driver : Driver) : Driver := { driver with config }

/-- `sleep` is no mode that a measurement was started in. -/
def withMode (mode : Mode) (driver : Driver) : Driver :=
  if mode = .sleep then driver else { driver with lastMode := mode }

def withHeater (profile : HeaterProfile) (driver : Driver) : Driver :=
  { driver with
    heater := some profile
    outcome := if profile.lacksSharedTime then .warning .noSharedDuration else driver.outcome }

def withoutFields (driver : Driver) : Driver := { driver with buffer := driver.buffer.clear }

def withFields (blocks : List FieldBlock) (driver : Driver) : Driver :=
  let fields := blocks.map (Field.ofBlock driver.variant driver.calibration)
  let buffer := driver.buffer.store fields
  { driver with
    buffer
    outcome :=
      if driver.lastMode = .sleep then .warning .modeNotStarted
      else if buffer.count = 0 then .warning .noNewData
      else driver.outcome }

def status (driver : Driver) : Status := .ofCode driver.outcome.code

def measurementMicros (driver : Driver) (mode : Mode) : Nat :=
  driver.config.measurementMicros (if mode = .sleep then driver.lastMode else mode)

def heaterMillis (driver : Driver) : Nat := (driver.heater.map HeaterProfile.forcedMillis).getD 0

def heaterTarget (driver : Driver) (step : HeaterStep) : UInt8 :=
  driver.calibration.heaterTarget step.temperature driver.ambient

def nextField (driver : Driver) : (Field × Nat) × Driver :=
  if driver.lastMode = .forced then ((driver.buffer.first, 0), driver)
  else
    let next := driver.buffer.next
    (next.1, { driver with buffer := next.2 })

end Driver

end AirMonitor
