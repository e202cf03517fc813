namespace AirMonitor

/-- Gas resistance as it would be in dry air: the absolute humidity in g/m³ follows from the
relative one by the saturation pressure at the temperature in °C. -/
def dryGas (gas humidity temperature : Float32) : Float32 :=
  let saturated := 611.2 * Float32.exp (17.62 * temperature / (243.12 + temperature)) /
    (461.52 * (temperature + 273.15))
  let absolute := humidity * 10.0 * saturated
  gas * Float32.exp (0.03 * absolute)

structure Estimator where
  ceiling : Float32 := 0
  burnedIn : Nat := 0

namespace Estimator

def burnInReadings : Nat := 25

def unavailable : Float32 := -1.0

def isCalibrated (estimator : Estimator) : Bool := burnInReadings ≤ estimator.burnedIn

/-- Takes one dry gas resistance in: it is spent on the burn-in, or else may raise the ceiling.
Yields whether it was spent. -/
def absorb (dry : Float32) (estimator : Estimator) : Bool × Estimator :=
  if estimator.burnedIn < burnInReadings then
    (true, { estimator with burnedIn := estimator.burnedIn + 1 })
  else if estimator.ceiling < dry then (false, { estimator with ceiling := dry })
  else (false, estimator)

def grade (square : Float32 → Float32) (dry ceiling : Float32) : Float32 :=
  if ceiling ≤ 0 then 0
  else
    let share := square (dry / ceiling)
    (if share < 1 then share else 1) * 100

/-- The second power as the mathematics library takes it. -/
def square (share : Float32) : Float32 := share * share

def score (gas humidity temperature : Float32) (estimator : Estimator) : Float32 × Estimator :=
  let dry := dryGas gas humidity temperature
  let absorbed := estimator.absorb dry
  (if absorbed.1 then unavailable else grade square dry absorbed.2.ceiling, absorbed.2)

end Estimator

end AirMonitor
