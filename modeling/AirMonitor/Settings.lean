import AirMonitor.Sensor.HeaterProfile

namespace AirMonitor

structure SensorSettings where
  temperature : Oversampling := .x8
  pressure : Oversampling := .x8
  humidity : Oversampling := .x8
  filter : Filter := .size7
  /-- In °C. -/
  heaterTemperature : UInt16 := 300
  heaterMillis : UInt16 := 100
  /-- In °C. -/
  ambient : Int8 := 25
  address : UInt8 := 0x77
  deriving DecidableEq, Repr

def SensorSettings.heaterProfile (settings : SensorSettings) : HeaterProfile :=
  .forced ⟨settings.heaterTemperature, settings.heaterMillis⟩

structure NodeSettings where
  sensorId : String := "air-node-01"
  reportMillis : UInt64 := 3000
  displayMillis : UInt64 := 1000
  selfCalibration : Bool := true
  sensor : SensorSettings := {}
  deriving DecidableEq, Repr

/-- Bits per second on the line to the carbon dioxide meter. -/
def meterBaud : UInt32 := 9600

end AirMonitor
