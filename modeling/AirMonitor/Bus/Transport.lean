import AirMonitor.Bus.WriteFrame

namespace AirMonitor

inductive BusError where
  | failed
  | overflow
  deriving DecidableEq, Repr

/-- A way to the registers of a peripheral. A failed transaction also yields a state, since it
may have left a trace. -/
class Transport (σ : Type) where
  write : WriteFrame → σ → Except BusError Unit × σ
  read : UInt8 → (length : Nat) → σ → Except BusError (Vector UInt8 length) × σ
  delay : UInt32 → σ → σ

def onlyByte (bytes : Vector UInt8 1) : UInt8 := bytes[0]

end AirMonitor
