import AirMonitor.Bus.I2c
import AirMonitor.Node
import AirMonitor.Settings

namespace AirMonitor

variable {σ : Type}

namespace Session

/-- A setting that cannot be applied is done without. -/
def apply (setting : String) (change : StateM (Session σ) (Except SensorError Unit)) :
    StateM (Session σ) Unit := do
  if let .error e ← change then
    log .warn s!"{setting} not applied: {e.label}"

def configure [Transport σ] [Settling σ] (settings : SensorSettings) :
    StateM (Session σ) Unit := do
  setAmbient settings.ambient
  apply "Oversampling" (setOversampling settings.temperature settings.pressure settings.humidity)
  apply "Filter" (setFilter settings.filter)
  apply "Heater profile" (setHeater settings.heaterProfile)

end Session

def SensorSettings.bus (settings : SensorSettings) (peripheral : σ) (clock : Clock) : I2c σ :=
  { peripheral, address := settings.address, clock }

namespace Node

def start (settings : NodeSettings) (link : σ) (uart : CarbonDioxide.Uart) : Node σ where
  sensor := { session := { link } }
  sensorId := settings.sensorId
  uart

/-- The readers that the tasks of a node send to its sensor, by their numbers. -/
def taskReaders : List (Nat × Purpose) := [(0, .report .meter), (1, .display)]

def launch (settings : NodeSettings) (id : Nat) (purpose : Purpose) : StateM (Node σ) Unit := do
  match purpose with
  | .report _ => log .info s!"Reporting as {settings.sensorId} every {settings.reportMillis} ms"
  | .display => log .info s!"Local display running every {settings.displayMillis} ms"
  | .sample => pure ()
  arrive id purpose

def launchAll (settings : NodeSettings) (tasks : List (Nat × Purpose)) : StateM (Node σ) Unit :=
  tasks.forM fun task => launch settings task.1 task.2

def setUpMeter (selfCalibration : Bool) : StateM (Node σ) Unit := do
  if let .error e ← useMeter (CarbonDioxide.Meter.setSelfCalibration selfCalibration) then
    log .warn s!"MH-Z19C self calibration not set: {e.label}"

variable [Transport σ] [Settling σ]

/-- Sets both sensors up. A node does without settings and without its meter, but not without its
gas sensor. -/
def boot (settings : NodeSettings) : StateM (Node σ) (Except SensorError Unit) := do
  log .info "Embassy initialized!"
  match ← useSensor (SharedSensor.use Session.connect) with
  | .error e =>
    log .error s!"BME68x not available: {e.label}"
    log .error "Check connections: SDA=GPIO4, SCL=GPIO5, VCC=3.3V, GND=GND"
    return .error e
  | .ok () =>
    useSensor (SharedSensor.use (Session.configure settings.sensor))
    setUpMeter settings.selfCalibration
    return .ok ()

end Node

end AirMonitor
