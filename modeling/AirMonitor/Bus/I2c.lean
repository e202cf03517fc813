import AirMonitor.Bus.Clock
import AirMonitor.Bus.Transport

namespace AirMonitor

inductive I2cEvent where
  | write (address : UInt8) (bytes : List UInt8) (succeeded : Bool)
  | writeRead (address : UInt8) (bytes : List UInt8) (length : Nat) (succeeded : Bool)
  | wait (micros now : UInt32)
  deriving DecidableEq, Repr

/-- A peripheral reached over an I²C bus, with the clock its delays are measured by. -/
structure I2c (σ : Type) where
  peripheral : σ
  address : UInt8
  clock : Clock
  events : List I2cEvent := []

namespace I2c

/-- Size of the buffer a frame is built in, the register included. -/
def bufferSize : Nat := 64

variable {σ : Type} [Transport σ]

def write (bytes : List UInt8) (bus : I2c σ) : Except BusError Unit × I2c σ :=
  match bytes with
  | [] => (.ok (), bus)
  | register :: data =>
    let ran := Transport.write ⟨register, data⟩ bus.peripheral
    (ran.1, { bus with
      peripheral := ran.2
      events := bus.events ++ [.write bus.address bytes ran.1.isOk] })

def writeRead (register : UInt8) (length : Nat) (bus : I2c σ) :
    Except BusError (Vector UInt8 length) × I2c σ :=
  let ran := Transport.read register length bus.peripheral
  (ran.1, { bus with
    peripheral := ran.2
    events := bus.events ++ [.writeRead bus.address [register] length ran.1.isOk] })

instance : Transport (I2c σ) where
  write frame bus :=
    if bufferSize ≤ frame.data.length then (.error .overflow, bus)
    else bus.write (frame.register :: frame.data)
  read register length bus := bus.writeRead register length
  delay micros bus :=
    let clock := bus.clock.wait micros
    { bus with clock, events := bus.events ++ [.wait micros clock.now] }

end I2c

end AirMonitor
