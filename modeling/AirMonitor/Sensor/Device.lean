import AirMonitor.Bus.RegisterFile
import AirMonitor.Bus.Transport
import AirMonitor.Sensor.Register

namespace AirMonitor

structure Device where
  registers : RegisterFile
  failAt : Nat → Bool := fun _ => false
  failReads : Bool := false
  failWrites : Bool := false
  /-- Whether a forced measurement is over as soon as it has started. -/
  autoSleep : Bool := false
  /-- How many requests to sleep are still ignored. -/
  stuck : Nat := 0
  transactions : Nat := 0

namespace Device

def modeBits (device : Device) : UInt8 :=
  Register.mode.get (device.registers.get Register.ctrlMeas)

def store (device : Device) (address value : UInt8) : Device :=
  if address = Register.ctrlMeas then
    if Register.mode.get value = 0 ∧ device.modeBits ≠ 0 ∧ 0 < device.stuck then
      { device with
        registers := device.registers.set address (Register.mode.set value device.modeBits)
        stuck := device.stuck - 1 }
    else if device.autoSleep ∧ Register.mode.get value = 1 then
      { device with registers := device.registers.set address (Register.mode.set value 0) }
    else { device with registers := device.registers.set address value }
  else { device with registers := device.registers.set address value }

def storeAll (device : Device) (pairs : List (UInt8 × UInt8)) : Device :=
  pairs.foldl (fun device pair => device.store pair.1 pair.2) device

def counted (device : Device) : Device :=
  { device with transactions := device.transactions + 1 }

/-- Sets the failing transactions and starts to number from 0 again. -/
def schedule (device : Device) (failAt : Nat → Bool) : Device :=
  { device with failAt, transactions := 0 }

def poke (device : Device) (address : UInt8) (bytes : List UInt8) : Device :=
  { device with registers := device.registers.setBlock address bytes }

def supported : Device :=
  ({ registers := .zero } : Device).poke Register.chipId [Register.expectedChipId]

end Device

/-- A failed transaction changes nothing but the number of the next one. -/
instance : Transport Device where
  write frame device :=
    if device.failWrites || device.failAt device.transactions then
      (.error .failed, device.counted)
    else (.ok (), device.counted.storeAll frame.pairs)
  read register length device :=
    if device.failReads || device.failAt device.transactions then
      (.error .failed, device.counted)
    else (.ok (device.registers.block register length), device.counted)
  delay _ device := device

end AirMonitor
