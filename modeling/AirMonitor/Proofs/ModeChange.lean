import AirMonitor.Proofs.Untouched

namespace AirMonitor

namespace BitField

theorem set_congr {field : BitField} {byte other : UInt8}
    (h : byte &&& ~~~field.mask = other &&& ~~~field.mask) (value : UInt8) :
    field.set byte value = field.set other value := by
  rw [set, set, h]

theorem set_set (field : BitField) (byte first second : UInt8) :
    field.set (field.set byte first) second = field.set byte second :=
  set_congr (field.set_outside byte first) second

end BitField

theorem Register.mode_set_get (byte : UInt8) : mode.set byte (mode.get byte) = byte := by
  have h : mode.set byte (mode.get byte) = (byte &&& ~~~mode.mask) ||| (byte &&& mode.mask) := by
    simp [BitField.set, BitField.get, mode, UInt8.and_assoc]
  rw [h]
  apply UInt8.toBitVec_inj.1
  simp only [UInt8.toBitVec_and, UInt8.toBitVec_or, UInt8.toBitVec_not]
  ext i hi
  simp only [BitVec.getElem_and, BitVec.getElem_or, BitVec.getElem_not]
  cases mode.mask.toBitVec[i] <;> simp

theorem Mode.bits_ofBits (byte : UInt8) :
    (ofBits (Register.mode.get byte)).bits = Register.mode.get byte := by
  have htoNat : (Register.mode.get byte).toNat = byte.toNat % 4 := by
    simp [BitField.get, Register.mode, Nat.and_two_pow_sub_one_eq_mod byte.toNat 2]
  have hbits {bits value : UInt8} (h : bits.toNat = value.toNat)
      (hvalue : (ofBits value).bits = value) : (ofBits bits).bits = bits := by
    rw [UInt8.toNat_inj.1 h, hvalue]
  rcases (by omega : byte.toNat % 4 = 0 ∨ byte.toNat % 4 = 1 ∨ byte.toNat % 4 = 2 ∨
    byte.toNat % 4 = 3) with h | h | h | h <;> rw [h] at htoNat
  · exact @hbits _ 0 htoNat rfl
  · exact @hbits _ 1 htoNat rfl
  · exact @hbits _ 2 htoNat rfl
  · exact @hbits _ 3 htoNat rfl

namespace RegisterFile

/-- The registers after a mode was written into them. -/
def withMode (bits : UInt8) (file : RegisterFile) : RegisterFile :=
  file.set Register.ctrlMeas (Register.mode.set (file.get Register.ctrlMeas) bits)

def modeBits (file : RegisterFile) : UInt8 := Register.mode.get (file.get Register.ctrlMeas)

theorem modeBits_withMode (bits : UInt8) (file : RegisterFile) :
    (file.withMode bits).modeBits = Register.mode.get bits := by
  rw [modeBits, withMode, get_set_self, Register.mode_get_set]

theorem withMode_modeBits (file : RegisterFile) : file.withMode file.modeBits = file := by
  rw [withMode, modeBits, Register.mode_set_get, set_get]

theorem get_withMode (bits : UInt8) (file : RegisterFile) :
    (file.withMode bits).get Register.ctrlMeas =
      Register.mode.set (file.get Register.ctrlMeas) bits :=
  get_set_self _ _ _

theorem withMode_withMode (first second : UInt8) (file : RegisterFile) :
    (file.withMode first).withMode second = file.withMode second := by
  rw [withMode, get_withMode, BitField.set_set, withMode, set_set]
  rfl

theorem withMode_of_asleep {file : RegisterFile} (h : file.modeBits = 0) :
    file.withMode 0 = file := by
  rw [← h, withMode_modeBits]

theorem bits_withMode {chosen : RegisterBits} (hmode : RegisterBits.mode.Apart chosen)
    (bits : UInt8) (file : RegisterFile) : (file.withMode bits).bits chosen = file.bits chosen :=
  bits_set (BitField.set_and_of_apart (hmode Register.ctrlMeas) _ _)

theorem get_withMode_of_ne {address : UInt8} (h : address ≠ Register.ctrlMeas) (bits : UInt8)
    (file : RegisterFile) : (file.withMode bits).get address = file.get address :=
  get_set_of_ne _ _ h.symm

/-- The settings that share a register with the mode survive it. -/
theorem upper_withMode (bits : UInt8) (file : RegisterFile) :
    (file.withMode bits).get Register.ctrlMeas &&& 0xFC =
      file.get Register.ctrlMeas &&& 0xFC := by
  rw [get_withMode, BitField.set_and_of_apart (by decide)]

theorem modeBits_withMode_bits (mode : Mode) (file : RegisterFile) :
    (file.withMode mode.bits).modeBits = mode.bits := by
  rw [modeBits_withMode]
  cases mode <;> rfl

/-- The same registers, but for a mode that may have given way to sleep. -/
def Settles (file after : RegisterFile) : Prop := after = file ∨ after = file.withMode 0

namespace Settles

variable {file after last : RegisterFile}

theorem refl (file : RegisterFile) : file.Settles file := .inl rfl

theorem trans (h : file.Settles after) (h' : after.Settles last) : file.Settles last := by
  rcases h with rfl | rfl
  · exact h'
  · rcases h' with rfl | rfl
    · exact .inr rfl
    · exact .inr (withMode_withMode 0 0 file)

theorem eq_of_asleep (h : file.Settles after) (hasleep : file.modeBits = 0) : after = file := by
  rcases h with h | h
  · exact h
  · rw [h, withMode_of_asleep hasleep]

theorem withMode_eq (h : file.Settles after) (bits : UInt8) :
    after.withMode bits = file.withMode bits := by
  rcases h with rfl | rfl
  · rfl
  · exact withMode_withMode 0 bits file

theorem bits_eq {chosen : RegisterBits} (hmode : RegisterBits.mode.Apart chosen)
    (h : file.Settles after) : after.bits chosen = file.bits chosen := by
  rcases h with rfl | rfl
  · rfl
  · exact bits_withMode hmode 0 file

theorem modeBits (h : file.Settles after) :
    after.modeBits = file.modeBits ∨ after.modeBits = 0 := by
  rcases h with rfl | rfl
  · exact .inl rfl
  · exact .inr (modeBits_withMode 0 file)

end Settles

end RegisterFile

/-- A chip may ignore a request to sleep, and may be done with a measurement at once. -/
theorem Device.store_mode (device : Device) (bits : UInt8) :
    device.registers.Settles (device.store Register.ctrlMeas
      (Register.mode.set (device.registers.get Register.ctrlMeas) bits)).registers ∨
    (device.store Register.ctrlMeas
      (Register.mode.set (device.registers.get Register.ctrlMeas) bits)).registers =
        device.registers.withMode bits := by
  rw [Device.store, if_pos rfl, BitField.set_set, BitField.set_set]
  split
  · exact .inl (.inl device.registers.withMode_modeBits)
  · split
    · exact .inl (.inr rfl)
    · exact .inr rfl

namespace Link

theorem read_registers (register : UInt8) (length : Nat) (t : Traced Device) :
    (read register length t).2.inner.registers = t.inner.registers := by
  rcases read_cases register length t with ⟨_, h⟩ | h | h <;> rw [h] <;> rfl

theorem read_ok {register : UInt8} {length : Nat} {t : Traced Device} {bytes : Vector UInt8 length}
    (h : (read register length t).1 = .ok bytes) :
    bytes = t.inner.registers.block register length := by
  rcases read_cases register length t with ⟨_, hr⟩ | hr | hr <;> rw [hr] at h <;> cases h
  rfl

theorem readMode_registers (t : Traced Device) :
    (readMode t).2.inner.registers = t.inner.registers := by
  have h := read_registers Register.ctrlMeas 1 t
  rw [readMode, readByte, bind_apply, bind_apply]
  cases hr : (read Register.ctrlMeas 1 t).1 <;> exact h

theorem readMode_ok {t : Traced Device} {mode : Mode} (h : (readMode t).1 = .ok mode) :
    mode.bits = t.inner.registers.modeBits := by
  rw [readMode, readByte, bind_apply, bind_apply] at h
  cases hr : (read Register.ctrlMeas 1 t).1 with
  | error e => simp [hr] at h
  | ok bytes =>
    simp only [hr, pure_apply, Except.ok.injEq] at h
    rw [← h, Mode.bits_ofBits, read_ok hr, onlyByte_block]
    rfl

/-- What holds of every ending of the sleep loop, by the states that a chip goes through. -/
theorem sleep_induction_chip {P : Traced Device → Except SensorError UInt8 × Traced Device → Prop}
    (unread : ∀ t, P t (.error .commFailure,
      ⟨t.inner.counted, t.events ++ [.read Register.ctrlMeas 1 false]⟩))
    (asleep : ∀ t, t.inner.modeBits = 0 → P t (.ok (t.inner.registers.get Register.ctrlMeas),
      ⟨t.inner.counted, t.events ++ [.read Register.ctrlMeas 1 true]⟩))
    (refused : ∀ t, t.inner.modeBits ≠ 0 → P t (.error .commFailure,
      ⟨t.inner.counted.counted, t.events ++ [.read Register.ctrlMeas 1 true] ++
        [.write (sleepRequest (t.inner.registers.get Register.ctrlMeas)) false]⟩))
    (asked : ∀ t u : Traced Device, t.inner.modeBits ≠ 0 →
      u.inner = t.inner.counted.counted.store Register.ctrlMeas
        (Register.mode.set (t.inner.registers.get Register.ctrlMeas) 0) →
      u.events = t.events ++ [.read Register.ctrlMeas 1 true] ++
        [.write (sleepRequest (t.inner.registers.get Register.ctrlMeas)) true] ++
        [.delay Register.settleMicros] →
      P u (sleep u) → P t (sleep u))
    (t : Traced Device) : P t (sleep t) := by
  have hread (t : Traced Device) {result : Except BusError (Vector UInt8 1)}
      (hr : (Transport.read Register.ctrlMeas 1 t).1 = result) :
      (Transport.read Register.ctrlMeas 1 t).2 =
        ⟨t.inner.counted, t.events ++ [.read Register.ctrlMeas 1 result.isOk]⟩ := by
    rw [← Device.read_state t.inner Register.ctrlMeas 1, ← hr]
    rfl
  have hmode {t : Traced Device} {control : Vector UInt8 1}
      (hr : (Transport.read Register.ctrlMeas 1 t).1 = .ok control) :
      t.inner.modeBits = Register.mode.get (onlyByte control) := by
    rw [Device.modeBits, read_ctrlMeas hr]
  induction t using sleep_induction with
  | unread t e hr =>
    rw [hread t hr]
    exact unread t
  | asleep t control hr hm =>
    rw [hread t hr, read_ctrlMeas hr]
    exact asleep t ((hmode hr).trans hm)
  | refused t control hr hm u e hw =>
    rw [hread t hr, read_ctrlMeas hr] at hw
    have hfailed := Device.write_failed (congrArg Prod.fst hw)
    obtain ⟨hresult, rfl⟩ := Prod.mk.inj hw
    rw [hfailed, hresult]
    exact refused t (hmode hr ▸ hm)
  | asked t control hr hm u hw ih =>
    rw [hread t hr, read_ctrlMeas hr] at hw
    have hstored := Device.write_ok (congrArg Prod.fst hw)
    obtain ⟨hresult, rfl⟩ := Prod.mk.inj hw
    refine asked t _ (hmode hr ▸ hm) hstored ?_ ih
    rw [hresult]
    rfl

theorem sleep_settles (t : Traced Device) :
    t.inner.registers.Settles (sleep t).2.inner.registers := by
  induction t using sleep_induction_chip with
  | unread t => exact .refl _
  | asleep t hm => exact .refl _
  | refused t hm => exact .refl _
  | asked t u hm hu _ ih =>
    apply RegisterFile.Settles.trans _ ih
    rw [hu]
    exact (Device.store_mode t.inner.counted.counted 0).elim id .inr

theorem sleep_asleep {t : Traced Device} {control : UInt8} (h : (sleep t).1 = .ok control) :
    (sleep t).2.inner.modeBits = 0 := by
  obtain ⟨hcontrol, hasleep⟩ := sleep_ok t control h
  rwa [hcontrol] at hasleep

/-- A mode is started only if all went well. -/
theorem changeMode_registers (mode : Mode) (t : Traced Device) :
    t.inner.registers.Settles (changeMode mode t).2.inner.registers ∨
    ((changeMode mode t).1 = .ok () ∧
      (changeMode mode t).2.inner.registers = t.inner.registers.withMode mode.bits) := by
  have hsleep := sleep_settles t
  rw [changeMode, bind_apply]
  cases hs : (sleep t).1 with
  | error e => exact .inl hsleep
  | ok control =>
    have hcontrol := (sleep_ok t control hs).1
    simp only
    split
    · rcases write_cases [(Register.ctrlMeas, Register.mode.set control mode.bits)] (sleep t).2
        with ⟨_, hw⟩ | ⟨frame, _, hw | hw⟩
      · rw [hw]
        exact .inl hsleep
      · rw [hw]
        exact .inl hsleep
      · rw [hw, hcontrol]
        rcases (sleep t).2.inner.counted.store_mode mode.bits with h | h
        · exact .inl (hsleep.trans h)
        · exact .inr ⟨rfl, h.trans (hsleep.withMode_eq mode.bits)⟩
    · exact .inl hsleep

theorem changeMode_sleep_settles (t : Traced Device) :
    t.inner.registers.Settles (changeMode .sleep t).2.inner.registers :=
  (changeMode_registers .sleep t).elim id fun h => .inr h.2

theorem changeMode_sleep_ok {t : Traced Device} (h : (changeMode .sleep t).1 = .ok ()) :
    (changeMode .sleep t).2.inner.modeBits = 0 := by
  rw [changeMode, bind_apply] at h ⊢
  cases hs : (sleep t).1 with
  | error e => simp [hs] at h
  | ok control => exact sleep_asleep hs

end Link

end AirMonitor
