import AirMonitor.Sensor.Settling

namespace AirMonitor

structure Limited (σ : Type) where
  inner : σ
  left : Nat

namespace Limited

variable {σ : Type} [Transport σ]

instance : Transport (Limited σ) where
  write frame t :=
    match t.left with
    | 0 => (.error .failed, t)
    | left + 1 =>
      let ran := Transport.write frame t.inner
      (ran.1, ⟨ran.2, left⟩)
  read register length t :=
    match t.left with
    | 0 => (.error .failed, t)
    | left + 1 =>
      let ran := Transport.read register length t.inner
      (ran.1, ⟨ran.2, left⟩)
  delay micros t := { t with inner := Transport.delay micros t.inner }

theorem write_left {frame : WriteFrame} {t : Limited σ}
    (h : (Transport.write frame t).1 = .ok ()) :
    (Transport.write frame t).2.left < t.left := by
  obtain ⟨inner, left⟩ := t
  cases left with
  | zero => cases h
  | succ left => exact Nat.lt_succ_self left

theorem read_left (register : UInt8) (length : Nat) (t : Limited σ) :
    (Transport.read register length t).2.left ≤ t.left := by
  obtain ⟨inner, left⟩ := t
  cases left with
  | zero => exact Nat.le_refl 0
  | succ left => exact Nat.le_succ left

end Limited

/-- However a chip behaves, it is not asked to sleep more often than transactions are carried. -/
instance [Transport σ] : Settling (Limited σ) where
  resistance t := t.left
  resistance_delay _ t := Nat.le_refl t.left
  resistance_request t _ _ _ hw :=
    Nat.lt_of_lt_of_le (Limited.write_left hw) (Limited.read_left Register.ctrlMeas 1 t)

end AirMonitor
