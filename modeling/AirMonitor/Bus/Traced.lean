import AirMonitor.Bus.Transport

namespace AirMonitor

inductive BusEvent where
  | write (frame : WriteFrame) (succeeded : Bool)
  | read (register : UInt8) (length : Nat) (succeeded : Bool)
  | delay (micros : UInt32)
  deriving DecidableEq, Repr

/-- A transport that also records what goes over it, oldest first. -/
structure Traced (σ : Type) where
  inner : σ
  events : List BusEvent := []

instance [Transport σ] : Transport (Traced σ) where
  write frame t :=
    let ran := Transport.write frame t.inner
    (ran.1, ⟨ran.2, t.events ++ [.write frame ran.1.isOk]⟩)
  read register length t :=
    let ran := Transport.read register length t.inner
    (ran.1, ⟨ran.2, t.events ++ [.read register length ran.1.isOk]⟩)
  delay micros t := ⟨Transport.delay micros t.inner, t.events ++ [.delay micros]⟩

end AirMonitor
