import AirMonitor.Checked.Link
import AirMonitor.Sensor.Operation

namespace AirMonitor.Checked

/-- An action that does not stop. -/
def act {τ α : Type} (action : StateM τ α) : StateT τ Option α := fun s => some (action s)

def conclude? {α : Type} (driver : Driver) (learn? : α → Driver → Option Driver) :
    Except SensorError α → Option Driver
  | .ok a => learn? a { driver with outcome := .success }
  | .error e => some { driver with outcome := .failure e }

variable {σ α : Type}

def attempt? (program : CheckedLink σ α) (learn? : α → Driver → Option Driver) :
    StateT (Session σ) Option (Except SensorError α) := fun s => do
  let ran ← program s.link
  let driver ← conclude? s.driver learn? ran.1
  return (ran.1, { s with link := ran.2, driver })

def ask? (program : CheckedLink σ α) : StateT (Session σ) Option (Except SensorError α) :=
  attempt? program fun _ driver => some driver

def deliver? : StateT (Session σ) Option (Field × Nat) := fun s => do
  let next ← nextField? s.driver
  return (next.1, { s with driver := next.2 })

variable [Transport σ]

def fetch? : StateT (Session σ) Option (Except SensorError Nat) := do
  act (Session.update Driver.withoutFields)
  let result ← attempt? (readFields? (← get).driver.lastMode) withFields?
  let count := (← get).driver.buffer.count
  return result.map fun _ => count

def connect? : StateT (Session σ) Option (Except SensorError Unit) := do
  act (log .info "Initializing BME68x")
  let result ← attempt? handshake? fun found driver =>
    some { driver with variant := found.1, calibration := found.2 }
  match result with
  | .error e =>
    if let .deviceNotFound chip := e then
      act (log .error s!"Unexpected chip id {chip}")
    return .error e
  | .ok found =>
    let uid := (← ask? readId?).toOption.getD 0
    act (log .info s!"BME68x ready (variant {found.1}, uid {uid})")
    return .ok ()

variable [Settling σ]

def setMode? (mode : Mode) : StateT (Session σ) Option (Except SensorError Unit) :=
  attempt? (changeMode? mode) fun _ driver => some (driver.withMode mode)

def changeConfig? (change : Config → Config) :
    StateT (Session σ) Option (Except SensorError Unit) := do
  match ← attempt? readConfig? fun config driver => some (driver.withConfig config) with
  | .error _ =>
    act (log .warn "BME68x config read failed, write skipped")
    return .error .configWriteSkipped
  | .ok config =>
    attempt? (writeConfig? (change config)) fun _ driver =>
      some (driver.withConfig (change config))

def setHeater? (profile : HeaterProfile) :
    StateT (Session σ) Option (Except SensorError Unit) := do
  let driver := (← get).driver
  let result ← attempt? (programHeater? driver.variant driver.heaterTarget profile) fun _ driver =>
    some (driver.withHeater profile)
  if result.isOk && profile.lacksSharedTime then
    act (log .warn "Parallel heater profile without shared heater duration")
  return result

def perform? : Operation → StateT (Session σ) Option (Except SensorError Reply)
  | .softReset => return (← ask? reset?).map fun _ => .done
  | .uniqueId => return (← ask? readId?).map .uniqueId
  | .readRegisters register length =>
    return (← ask? (carry (Link.read register length))).map fun bytes => .bytes bytes.toList
  | .writeRegisters pairs => return (← ask? (write? pairs)).map fun _ => .done
  | .setAmbient celsius => do
    act (Session.setAmbient celsius)
    return .ok .done
  | .setMode mode => return (← setMode? mode).map fun _ => .done
  | .readMode => return (← ask? (carry Link.readMode)).map .mode
  | .readConfig =>
    return (← attempt? readConfig? fun config driver => some (driver.withConfig config)).map .config
  | .setOversampling temperature pressure humidity =>
    return (← changeConfig? fun config =>
      { config with temperature, pressure, humidity }).map fun _ => .done
  | .setFilter filter =>
    return (← changeConfig? fun config => { config with filter }).map fun _ => .done
  | .setStandby standby =>
    return (← changeConfig? fun config => { config with standby }).map fun _ => .done
  | .setHeater profile => return (← setHeater? profile).map fun _ => .done
  | .fetch => return (← fetch?).map .fetched
  | .nextField => do
    let next ← deliver?
    return .ok (.field next.1 next.2)

end AirMonitor.Checked
