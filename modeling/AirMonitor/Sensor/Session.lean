import AirMonitor.Log
import AirMonitor.Sensor.Driver
import AirMonitor.Sensor.Link

namespace AirMonitor

structure Session (σ : Type) where
  driver : Driver := {}
  link : σ
  journal : List LogLine := []

instance : Journaled (Session σ) := ⟨Session.journal, fun journal s => { s with journal }⟩

namespace Session

def update (f : Driver → Driver) : StateM (Session σ) Unit :=
  modify fun s => { s with driver := f s.driver }

/-- Runs a program over the bus, and concludes it on this side. -/
def attempt (program : Link σ α) (learn : α → Driver → Driver) :
    StateM (Session σ) (Except SensorError α) := fun s =>
  let ran := program s.link
  (ran.1, { s with link := ran.2, driver := s.driver.conclude learn ran.1 })

def ask (program : Link σ α) : StateM (Session σ) (Except SensorError α) :=
  attempt program fun _ driver => driver

def setAmbient (celsius : Int8) : StateM (Session σ) Unit :=
  update fun driver => { driver with ambient := celsius }

def nextField : StateM (Session σ) (Field × Nat) := fun s =>
  let next := s.driver.nextField
  (next.1, { s with driver := next.2 })

variable {σ : Type} [Transport σ]

def softReset : StateM (Session σ) (Except SensorError Unit) := ask Link.reset

def uniqueId : StateM (Session σ) (Except SensorError UInt32) := ask Link.uniqueId

def readRegisters (register : UInt8) (length : Nat) :
    StateM (Session σ) (Except SensorError (Vector UInt8 length)) :=
  ask (Link.read register length)

def writeRegisters (pairs : List (UInt8 × UInt8)) :
    StateM (Session σ) (Except SensorError Unit) :=
  ask (Link.write pairs)

def readMode : StateM (Session σ) (Except SensorError Mode) := ask Link.readMode

def readConfig : StateM (Session σ) (Except SensorError Config) :=
  attempt Link.readConfig Driver.withConfig

/-- Empties the buffer and refills it with the new fields of the mode last started. Yields how
many there are. -/
def fetch : StateM (Session σ) (Except SensorError Nat) := do
  update Driver.withoutFields
  let result ← attempt (Link.readFields (← get).driver.lastMode) Driver.withFields
  let count := (← get).driver.buffer.count
  return result.map fun _ => count

def connect : StateM (Session σ) (Except SensorError Unit) := do
  log .info "Initializing BME68x"
  let result ← attempt Link.handshake fun (variant, calibration) driver =>
    { driver with variant, calibration }
  match result with
  | .error e =>
    if let .deviceNotFound chip := e then
      log .error s!"Unexpected chip id {chip}"
    return .error e
  | .ok (variant, _) =>
    let uid := (← uniqueId).toOption.getD 0
    log .info s!"BME68x ready (variant {variant}, uid {uid})"
    return .ok ()

variable [Settling σ]

def setMode (mode : Mode) : StateM (Session σ) (Except SensorError Unit) :=
  attempt (Link.changeMode mode) fun _ => Driver.withMode mode

/-- Changes the configuration of the chip as it is at the time; one that cannot be read is not
written either. -/
def changeConfig (change : Config → Config) : StateM (Session σ) (Except SensorError Unit) := do
  match ← readConfig with
  | .error _ =>
    log .warn "BME68x config read failed, write skipped"
    return .error .configWriteSkipped
  | .ok config =>
    attempt (Link.writeConfig (change config)) fun _ => Driver.withConfig (change config)

def setOversampling (temperature pressure humidity : Oversampling) :
    StateM (Session σ) (Except SensorError Unit) :=
  changeConfig fun config => { config with temperature, pressure, humidity }

def setFilter (filter : Filter) : StateM (Session σ) (Except SensorError Unit) :=
  changeConfig fun config => { config with filter }

def setStandby (standby : Standby) : StateM (Session σ) (Except SensorError Unit) :=
  changeConfig fun config => { config with standby }

def setHeater (profile : HeaterProfile) : StateM (Session σ) (Except SensorError Unit) := do
  let driver := (← get).driver
  let result ← attempt (Link.programHeater driver.variant driver.heaterTarget profile) fun _ =>
    Driver.withHeater profile
  if result.isOk && profile.lacksSharedTime then
    log .warn "Parallel heater profile without shared heater duration"
  return result

end Session

end AirMonitor
