import AirMonitor.Bits

namespace AirMonitor.CarbonDioxide

/-- A start byte, seven bytes of content, and the checksum over them. -/
abbrev Frame := Vector UInt8 9

namespace Frame

/-- Missing bytes are 0 and further ones are dropped. -/
def ofList (bytes : List UInt8) : Frame := Vector.ofFn fun i => bytes[i.val]?.getD 0

def checksum (frame : Frame) : UInt8 :=
  let sum := frame[1] + frame[2] + frame[3] + frame[4] + frame[5] + frame[6] + frame[7]
  (0xFF - sum) + 1

def isValid (frame : Frame) : Bool := frame[8] == checksum frame

def concentration (frame : Frame) : UInt16 := wordOf frame[2] frame[3]

def request (command : UInt8) (payload : Vector UInt8 5) : Frame :=
  let unsigned : Frame := (#v[0xFF, 0x01, command] ++ payload).push 0
  unsigned.set 8 (checksum unsigned)

def readRequest : Frame := request 0x86 #v[0, 0, 0, 0, 0]

def selfCalibrationRequest (enable : Bool) : Frame :=
  request 0x79 #v[if enable then 0xA0 else 0x00, 0, 0, 0, 0]

end Frame

end AirMonitor.CarbonDioxide
