import AirMonitor.Bus.I2c
import AirMonitor.Bus.Traced
import AirMonitor.Sensor.Device

namespace AirMonitor

def sleepRequest (control : UInt8) : WriteFrame :=
  ⟨Register.ctrlMeas, [Register.mode.set control 0]⟩

/-- A chip that falls asleep if it is asked to often enough. -/
class Settling (σ : Type) [Transport σ] where
  /-- A bound on the sleep requests that an active chip still outlasts. -/
  resistance : σ → Nat
  resistance_delay (micros : UInt32) (s : σ) :
    resistance (Transport.delay micros s) ≤ resistance s
  resistance_request (s : σ) {control : Vector UInt8 1} :
    (Transport.read Register.ctrlMeas 1 s).1 = .ok control →
    Register.mode.get (onlyByte control) ≠ 0 →
    (Transport.write (sleepRequest (onlyByte control)) (Transport.read Register.ctrlMeas 1 s).2).1 =
      .ok () →
    resistance (Transport.write (sleepRequest (onlyByte control))
      (Transport.read Register.ctrlMeas 1 s).2).2 < resistance s

namespace Device

theorem read_ok {device : Device} {register : UInt8} {length : Nat} {bytes : Vector UInt8 length}
    (h : (Transport.read register length device).1 = .ok bytes) :
    bytes = device.registers.block register length := by
  simp only [Transport.read] at h
  split at h <;> simp_all

theorem read_state (device : Device) (register : UInt8) (length : Nat) :
    (Transport.read register length device).2 = device.counted := by
  simp only [Transport.read]
  split <;> rfl

theorem write_ok {device : Device} {frame : WriteFrame}
    (h : (Transport.write frame device).1 = .ok ()) :
    (Transport.write frame device).2 = device.counted.storeAll frame.pairs := by
  simp only [Transport.write] at h ⊢
  split <;> simp_all

theorem write_failed {device : Device} {frame : WriteFrame} {e : BusError}
    (h : (Transport.write frame device).1 = .error e) :
    (Transport.write frame device).2 = device.counted := by
  simp only [Transport.write] at h ⊢
  split <;> simp_all

def resistance (device : Device) : Nat :=
  if device.modeBits = 0 then 0 else device.stuck + 1

theorem resistance_counted (device : Device) :
    device.counted.resistance = device.resistance := rfl

theorem resistance_store_sleep {device : Device} (h : device.modeBits ≠ 0) {value : UInt8}
    (hv : Register.mode.get value = 0) :
    (device.store Register.ctrlMeas value).resistance < device.resistance := by
  have h' : Register.mode.get (device.registers.get Register.ctrlMeas) ≠ 0 := h
  rcases Nat.eq_zero_or_pos device.stuck with hs | hs
  · simp [store, resistance, modeBits, hv, h', hs]
  · simp [store, resistance, modeBits, hv, h', hs]
    split <;> omega

theorem resistance_request (device : Device) {control : Vector UInt8 1}
    (hr : (Transport.read Register.ctrlMeas 1 device).1 = .ok control)
    (hm : Register.mode.get (onlyByte control) ≠ 0)
    (hw : (Transport.write (sleepRequest (onlyByte control))
      (Transport.read Register.ctrlMeas 1 device).2).1 = .ok ()) :
    (Transport.write (sleepRequest (onlyByte control))
      (Transport.read Register.ctrlMeas 1 device).2).2.resistance < device.resistance := by
  have hc : onlyByte control = device.registers.get Register.ctrlMeas := by
    rw [read_ok hr]
    simp [RegisterFile.block, onlyByte]
  rw [write_ok hw, read_state]
  rw [hc] at hm ⊢
  have hm' : device.counted.counted.modeBits ≠ 0 := hm
  have h := resistance_store_sleep hm'
    (Register.mode_get_set (device.registers.get Register.ctrlMeas) 0)
  rw [resistance_counted, resistance_counted] at h
  exact h

end Device

instance : Settling Device where
  resistance := Device.resistance
  resistance_delay _ _ := Nat.le_refl _
  resistance_request := Device.resistance_request

instance [Transport σ] [Settling σ] : Settling (Traced σ) where
  resistance t := Settling.resistance t.inner
  resistance_delay micros t := Settling.resistance_delay micros t.inner
  resistance_request t := Settling.resistance_request t.inner

instance [Transport σ] [Settling σ] : Settling (I2c σ) where
  resistance bus := Settling.resistance bus.peripheral
  resistance_delay _ bus := Nat.le_refl (Settling.resistance bus.peripheral)
  resistance_request bus := Settling.resistance_request bus.peripheral

end AirMonitor
