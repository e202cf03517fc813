import AirMonitor.Checked.Arithmetic

namespace AirMonitor.Checked

def calibration? (bytes : List UInt8) : Option Calibration := do
  let byte? (i : Nat) : Option UInt8 := bytes[i]?
  let word? (high low : Nat) : Option UInt16 := return wordOf (← byte? high) (← byte? low)
  return {
    t1 := ← word? 32 31
    t2 := (← word? 1 0).toInt16
    t3 := (← byte? 2).toInt8
    p1 := ← word? 5 4
    p2 := (← word? 7 6).toInt16
    p3 := (← byte? 8).toInt8
    p4 := (← word? 11 10).toInt16
    p5 := (← word? 13 12).toInt16
    p6 := (← byte? 15).toInt8
    p7 := (← byte? 14).toInt8
    p8 := (← word? 19 18).toInt16
    p9 := (← word? 21 20).toInt16
    p10 := ← byte? 22
    h1 := (← byte? 25).toUInt16 <<< 4 ||| ((← byte? 24) &&& 0x0F).toUInt16
    h2 := (← byte? 23).toUInt16 <<< 4 ||| ((← byte? 24) >>> 4).toUInt16
    h3 := (← byte? 26).toInt8
    h4 := (← byte? 27).toInt8
    h5 := (← byte? 28).toInt8
    h6 := ← byte? 29
    h7 := (← byte? 30).toInt8
    gh1 := (← byte? 35).toInt8
    gh2 := (← word? 34 33).toInt16
    gh3 := (← byte? 36).toInt8
    heatRange := ((← byte? 39) &&& 0x30) >>> 4
    heatValue := (← byte? 37).toInt8
    rangeError := ((← byte? 41) &&& 0xF0).toInt8 / 16 }

def raw? (variant : UInt8) (block : List UInt8) : Option RawField := do
  let places := if variant = Register.highGasVariant then (15, 16) else (13, 14)
  let gasHigh ← block[places.1]?
  let gasLow ← block[places.2]?
  return {
    pressure := reading20 (← block[2]?) (← block[3]?) (← block[4]?)
    temperature := reading20 (← block[5]?) (← block[6]?) (← block[7]?)
    humidity := wordOf (← block[8]?) (← block[9]?)
    status := ((← block[0]?) &&& FieldStatus.newData) |||
      (gasLow &&& (FieldStatus.gasValid ||| FieldStatus.heaterStable))
    gasIndex := (← block[0]?) &&& 0x0F
    measurement := ← block[1]?
    gas := reading10 gasHigh gasLow
    gasRange := gasLow &&& 0x0F }

/-- Gas resistance on the low gas variant: the range shifts a word and picks from two tables. -/
def gasLow? (calibration : Calibration) (adc : UInt16) (range : UInt8) : Option Float32 := do
  let range := (range &&& 0x0F).toNat
  let step ← shiftLeft? 32 1 range
  let gain ← lowGasGain.toList[range]?
  let scale ← lowGasScale.toList[range]?
  let gain := (1340.0 + (5.0 * Float32.ofInt calibration.rangeError.toInt)) * (1.0 + gain / 100.0)
  let scale := 1.0 + (scale / 100.0)
  return 1.0 / (scale * 0.000000125 * (UInt32.ofNat step).toFloat32 *
    (((adc.toFloat32 - 512.0) / gain) + 1.0))

def gasHigh? (adc : UInt16) (range : UInt8) : Option Float32 := do
  let step ← shiftRight? 32 262144 (range &&& 0x0F).toNat
  return 1000000.0 * (UInt32.ofNat step).toFloat32 / (4096.0 + (adc.toFloat32 - 512.0) * 3.0)

def decode? (variant : UInt8) (calibration : Calibration) (block : List UInt8) :
    Option Field := do
  let raw ← raw? variant block
  let gas ← if variant = Register.highGasVariant then gasHigh? raw.gas raw.gasRange
    else gasLow? calibration raw.gas raw.gasRange
  let temperature := calibration.temperature raw.temperature
  return {
    status := raw.status
    gasIndex := raw.gasIndex
    measurement := raw.measurement
    temperature := temperature.1
    pressure := calibration.pressure raw.pressure temperature.2
    humidity := calibration.humidity raw.humidity temperature.2
    gas }

def fill? : (n : Nat) → List Field → List Field → Option (Nat × List Field)
  | n, [], slots => some (n, slots)
  | n, field :: fields, slots => do
    let slots ← set? slots n field
    fill? (n + 1) fields slots

/-- Swaps the field at a place forward until the one before it does not come later. -/
def sift? : (place : Nat) → List Field → Option (List Field)
  | 0, fields => some fields
  | place + 1, fields => do
    let field ← fields[place + 1]?
    let before ← fields[place]?
    if field.precedes before then
      let fields ← set? fields (place + 1) before
      let fields ← set? fields place field
      sift? place fields
    else return fields

/-- Sorts so many further fields into those before `place`, which are sorted. -/
def sort? : (further place : Nat) → List Field → Option (List Field)
  | 0, _, fields => some fields
  | further + 1, place, fields => do
    let fields ← sift? place fields
    sort? further (place + 1) fields

def store? (buffer : FieldBuffer) (decoded : List Field) : Option FieldBuffer := do
  let filled ← fill? 0 (decoded.filter Field.isNew) buffer.slots.toList
  let fresh ← slice? filled.2 0 filled.1
  let fresh ← sort? (filled.1 - 1) 1 fresh
  let slots := fresh ++ filled.2.drop filled.1
  return { buffer with
    slots := #v[← slots[0]?, ← slots[1]?, ← slots[2]?]
    count := filled.1 }

def cursor? (n : Nat) : Option (Fin 3) := if h : n < 3 then some ⟨n, h⟩ else none

/-- Delivers a field; the cursor and the count are bytes. -/
def next? (buffer : FieldBuffer) : Option ((Field × Nat) × FieldBuffer) := do
  let field ← buffer.slots.toList[buffer.cursor.val]?
  if buffer.count = 0 then return ((field, 0), buffer)
  let following ← fit? 8 (buffer.cursor.val + 1)
  if buffer.count ≤ following then
    let last ← sub? buffer.count 1
    return ((field, 0), { buffer with cursor := ← cursor? last })
  else
    let remaining ← sub? buffer.count following
    return ((field, remaining), { buffer with cursor := ← cursor? following })

def nextField? (driver : Driver) : Option ((Field × Nat) × Driver) := do
  if driver.lastMode = .forced then
    let first ← driver.buffer.slots.toList[0]?
    return ((first, 0), driver)
  else
    let next ← next? driver.buffer
    return (next.1, { driver with buffer := next.2 })

def withFields? (blocks : List (List UInt8)) (driver : Driver) : Option Driver := do
  let fields ← blocks.mapM (decode? driver.variant driver.calibration)
  let slots := (fields ++ List.replicate Register.fieldCount ({} : Field)).take Register.fieldCount
  let decoded ← slice? slots 0 blocks.length
  let buffer ← store? driver.buffer decoded
  return { driver with
    buffer
    outcome :=
      if driver.lastMode = .sleep then .warning .modeNotStarted
      else if buffer.count = 0 then .warning .noNewData
      else driver.outcome }

end AirMonitor.Checked
