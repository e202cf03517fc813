import AirMonitor.BoundedText
import AirMonitor.Number.Text
import AirMonitor.Sample

namespace AirMonitor.Payload

def hexDigit (n : Nat) : Char := (Nat.toDigits 16 n).headD '0'

def escape (c : Char) : List Char :=
  match c with
  | '"' => ['\\', '"']
  | '\\' => ['\\', '\\']
  | '\n' => ['\\', 'n']
  | '\r' => ['\\', 'r']
  | '\t' => ['\\', 't']
  | c =>
    if c.toNat < 0x20 then
      ['\\', 'u', '0', '0', hexDigit (c.toNat / 16), hexDigit (c.toNat % 16)]
    else [c]

def quoted (text : String) : String :=
  String.ofList ('"' :: text.toList.flatMap escape ++ ['"'])

def members (sensorId : String) (sample : Sample) : List (String × String) :=
  [("sensor_id", quoted sensorId),
    ("temperature", fixedPlaces 2 sample.temperature),
    ("humidity", fixedPlaces 2 sample.humidity),
    ("pm25", fixedPlaces 2 sample.particulates),
    ("tvoc", fixedPlaces 2 sample.score),
    ("co2", toString sample.co2.toInt)]

def text (sensorId : String) (sample : Sample) : String :=
  "\x7b" ++ String.intercalate "," ((members sensorId sample).map fun (key, value) =>
    quoted key ++ ":" ++ value) ++ "\x7d"

def capacity : Nat := 192

def pieces (sensorId : String) (sample : Sample) : List String :=
  ["\x7b\"sensor_id\":", "\""] ++
    sensorId.toList.map (fun c => String.ofList (escape c)) ++
    ["\"",
      ",\"temperature\":", fixedPlaces 2 sample.temperature,
      ",\"humidity\":", fixedPlaces 2 sample.humidity,
      ",\"pm25\":", fixedPlaces 2 sample.particulates,
      ",\"tvoc\":", fixedPlaces 2 sample.score,
      ",\"co2\":", toString sample.co2.toInt, "\x7d"]

/-- Writes a report into a text of limited size, unless a piece of it does not fit any more. -/
def format? (sensorId : String) (sample : Sample) : Option String :=
  (({} : BoundedText capacity).pushAll? (pieces sensorId sample)).map BoundedText.text

end AirMonitor.Payload
