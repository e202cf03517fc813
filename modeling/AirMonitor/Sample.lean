import AirMonitor.Sensor.Field

namespace AirMonitor

/-- One reading of the node: °C, percent, Pa, Ω, a score of 0 to 100, parts per million and µg/m³.
A quantity that is not available is -1. -/
structure Sample where
  temperature : Float32
  humidity : Float32
  pressure : Float32
  gas : Float32
  score : Float32
  co2 : Int32
  particulates : Float32

def Sample.ofField (field : Field) (score : Float32) : Sample where
  temperature := field.temperature
  humidity := field.humidity
  pressure := field.pressure
  gas := field.gas
  score := score
  co2 := -1
  particulates := -1.0

end AirMonitor
