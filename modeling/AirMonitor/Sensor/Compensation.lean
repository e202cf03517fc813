import AirMonitor.Sensor.Calibration

namespace AirMonitor

private def real8 (n : Int8) : Float32 := Float32.ofInt n.toInt

private def real16 (n : Int16) : Float32 := Float32.ofInt n.toInt

/-- Temperature in °C and the fine temperature that pressure and humidity are corrected by. -/
def Calibration.temperature (c : Calibration) (adc : UInt32) : Float32 × Float32 :=
  let adc := adc.toFloat32
  let t1 := c.t1.toFloat32
  let linear := ((adc / 16384.0) - (t1 / 1024.0)) * real16 c.t2
  let offset := (adc / 131072.0) - (t1 / 8192.0)
  let square := offset * offset * (real8 c.t3 * 16.0)
  let fine := linear + square
  (fine / 5120.0, fine)

/-- Whether `x` vanishes once its fraction is cut off, as it also does when it is no number. -/
def truncatesToZero (x : Float32) : Bool := !(x ≤ -1.0 || 1.0 ≤ x)

def Calibration.pressure (c : Calibration) (adc : UInt32) (fine : Float32) : Float32 :=
  let centred := (fine / 2.0) - 64000.0
  let offset := centred * centred * (real8 c.p6 / 131072.0)
  let offset := offset + centred * real16 c.p5 * 2.0
  let offset := (offset / 4.0) + (real16 c.p4 * 65536.0)
  let slope := (((real8 c.p3 * centred * centred) / 16384.0) + (real16 c.p2 * centred)) / 524288.0
  let slope := (1.0 + (slope / 32768.0)) * c.p1.toFloat32
  if truncatesToZero slope then 0.0
  else
    let raw := 1048576.0 - adc.toFloat32
    let p := ((raw - (offset / 4096.0)) * 6250.0) / slope
    let square := (real16 c.p9 * p * p) / 2147483648.0
    let linear := p * (real16 c.p8 / 32768.0)
    let cube := (p / 256.0) * (p / 256.0) * (p / 256.0) * (c.p10.toFloat32 / 131072.0)
    p + (square + linear + cube + (real8 c.p7 * 128.0)) / 16.0

/-- Keeps a value that is no number. -/
def clampPercent (x : Float32) : Float32 :=
  if x < 0.0 then 0.0 else if 100.0 < x then 100.0 else x

def Calibration.humidity (c : Calibration) (adc : UInt16) (fine : Float32) : Float32 :=
  let t := fine / 5120.0
  let base := adc.toFloat32 - ((c.h1.toFloat32 * 16.0) + ((real8 c.h3 / 2.0) * t))
  let scaled := base * ((c.h2.toFloat32 / 262144.0) *
    (1.0 + ((real8 c.h4 / 16384.0) * t) + ((real8 c.h5 / 1048576.0) * t * t)))
  let bend := c.h6.toFloat32 / 16384.0
  let drift := real8 c.h7 / 2097152.0
  clampPercent (scaled + ((bend + (drift * t)) * scaled * scaled))

def lowGasGain : Vector Float32 16 :=
  #v[0.0, 0.0, 0.0, 0.0, 0.0, -1.0, 0.0, -0.8, 0.0, 0.0, -0.2, -0.5, 0.0, -1.0, 0.0, 0.0]

def lowGasScale : Vector Float32 16 :=
  #v[0.0, 0.0, 0.0, 0.0, 0.1, 0.7, 0.0, -0.8, -0.1, 0.0, 0.0, 0.0, 0.0, 0.0, 0.0, 0.0]

def gasRangeOf (byte : UInt8) : Fin 16 := Fin.ofNat 16 byte.toNat

def Calibration.gasLow (c : Calibration) (adc : UInt16) (range : UInt8) : Float32 :=
  let range := gasRangeOf range
  let step := (UInt32.ofNat (1 <<< range.val)).toFloat32
  let gain := (1340.0 + (5.0 * real8 c.rangeError)) * (1.0 + lowGasGain[range] / 100.0)
  let scale := 1.0 + (lowGasScale[range] / 100.0)
  1.0 / (scale * 0.000000125 * step * (((adc.toFloat32 - 512.0) / gain) + 1.0))

def gasHigh (adc : UInt16) (range : UInt8) : Float32 :=
  let step := (UInt32.ofNat (262144 >>> (gasRangeOf range).val)).toFloat32
  1000000.0 * step / (4096.0 + (adc.toFloat32 - 512.0) * 3.0)

/-- Register value that heats the plate to a target in °C, of at most 400 to protect the plate. -/
def Calibration.heaterTarget (c : Calibration) (target : UInt16) (ambient : Int8) : UInt8 :=
  let target := (if target ≤ 400 then target else 400).toFloat32
  let base := (real8 c.gh1 / 16.0) + 49.0
  let slope := ((real16 c.gh2 / 32768.0) * 0.0005) + 0.00235
  let surroundings := real8 c.gh3 / 1024.0
  let heated := base * (1.0 + (slope * target))
  let total := heated + (surroundings * real8 ambient)
  (3.4 * ((total * (4.0 / (4.0 + c.heatRange.toFloat32)) *
    (1.0 / (1.0 + (real8 c.heatValue * 0.002)))) - 25.0)).toUInt8

end AirMonitor
