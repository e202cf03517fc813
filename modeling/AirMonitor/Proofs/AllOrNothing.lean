import AirMonitor.Proofs.ConfigMirror
import AirMonitor.Proofs.Reports
import AirMonitor.Proofs.Steady

namespace AirMonitor

namespace Link

theorem readConfig_cases (t : Traced Device) :
    readConfig t = (.error .commFailure,
      ⟨t.inner.counted, t.events ++ [.read Register.ctrlGas1 5 false]⟩) ∨
    readConfig t = (.ok t.inner.registers.config,
      ⟨t.inner.counted, t.events ++ [.read Register.ctrlGas1 5 true]⟩) := by
  rw [readConfig, bind_apply]
  rcases read_cases Register.ctrlGas1 5 t with ⟨hlength, _⟩ | hr | hr
  · exact absurd hlength (by decide)
  · rw [hr]
    exact .inl rfl
  · rw [hr]
    exact .inr rfl

theorem OnlyComm.writeConfig (config : Config) :
    OnlyComm (Link.writeConfig config : Link (Traced Device) Unit) := by
  intro t e h
  have hcases := writeConfig_cases config t
  generalize Link.writeConfig config t = ended at h hcases
  cases hcases with
  | unsent hsame =>
    cases h
    rfl
  | sent hreply hconfig hsent => exact hreply e h

/-- Either nothing of a configuration has reached the registers or all of it has, and then the
mode may be resumed. -/
inductive Overwritten (config : Config) (bits : UInt8) (file : RegisterFile) :
    Except SensorError Unit → RegisterFile → Prop where
  | before {reply : Except SensorError Unit} {after : RegisterFile} (hreply : reply ≠ .ok ())
    (h : file.Settles after) : Overwritten config bits file reply after
  | taken {reply : Except SensorError Unit} {after : RegisterFile}
    (h : after = (file.withMode 0).withConfig config) : Overwritten config bits file reply after
  | resumed {reply : Except SensorError Unit} {after : RegisterFile}
    (h : after = ((file.withMode 0).withConfig config).withMode bits) :
    Overwritten config bits file reply after

/-- The chip may fall asleep first. -/
theorem overwritten_bind {config : Config} {bits : UInt8} {first : Link (Traced Device) α}
    {next : α → Link (Traced Device) Unit} {t : Traced Device}
    (hfirst : t.inner.registers.Settles (first t).2.inner.registers)
    (hnext : ∀ a, (first t).1 = .ok a → Overwritten config bits (first t).2.inner.registers
      (next a (first t).2).1 (next a (first t).2).2.inner.registers) :
    Overwritten config bits t.inner.registers
      ((first >>= next : Link (Traced Device) Unit) t).1
      ((first >>= next : Link (Traced Device) Unit) t).2.inner.registers := by
  rw [bind_apply]
  cases hr : (first t).1 with
  | error e => exact .before (by simp) hfirst
  | ok a =>
    have h := hnext a hr
    generalize (next a (first t).2).1 = reply at h ⊢
    generalize (next a (first t).2).2.inner.registers = after at h ⊢
    cases h with
    | before hreply h => exact .before hreply (hfirst.trans h)
    | taken h => exact .taken (hfirst.withMode_eq 0 ▸ h)
    | resumed h => exact .resumed (hfirst.withMode_eq 0 ▸ h)

theorem resume_registers (mode : Mode) {t : Traced Device} (hasleep : t.inner.modeBits = 0) :
    let ended := (if mode ≠ .sleep then changeMode mode else pure () : Link (Traced Device) Unit) t
    ended.2.inner.registers = t.inner.registers ∨
      ended.2.inner.registers = t.inner.registers.withMode mode.bits := by
  split
  · rcases changeMode_registers mode t with h | ⟨_, h⟩
    · exact .inl (h.eq_of_asleep hasleep)
    · exact .inr h
  · exact .inl rfl

/-- All five registers go out in one write, which a chip that is asleep takes as it is. -/
theorem overwritten_write (config : Config) (mode : Mode) {t : Traced Device}
    (hasleep : t.inner.modeBits = 0) :
    let ended := (do
      write (consecutive Register.ctrlGas1
        (config.patch (t.inner.registers.block Register.ctrlGas1 5)).toList)
      if mode ≠ .sleep then changeMode mode else pure () : Link (Traced Device) Unit) t
    Overwritten config mode.bits t.inner.registers ended.1 ended.2.inner.registers := by
  generalize hpairs : consecutive Register.ctrlGas1
    (config.patch (t.inner.registers.block Register.ctrlGas1 5)).toList = pairs
  rw [bind_apply]
  rcases write_cases pairs t with ⟨_, hw⟩ | ⟨frame, _, hw | hw⟩
  · rw [hw]
    exact .before (by simp) (.refl _)
  · rw [hw]
    exact .before (by simp) (.refl _)
  · rw [hw]
    have htaken : (t.inner.counted.storeAll pairs).registers =
        (t.inner.registers.withMode 0).withConfig config := by
      rw [RegisterFile.withMode_of_asleep hasleep, RegisterFile.withConfig,
        ← RegisterFile.setPairs_consecutive, hpairs]
      apply Device.storeAll_asleep
      intro pair hpair he
      rw [← hpairs] at hpair
      exact ⟨(RegisterFile.mode_of_patch config _ hpair he).trans hasleep, hasleep⟩
    have hstill : (t.inner.counted.storeAll pairs).modeBits = 0 := by
      have h := RegisterFile.modeBits_withConfig config (t.inner.registers.withMode 0)
      rw [← htaken, RegisterFile.modeBits_withMode] at h
      exact h
    rcases resume_registers mode (t := ⟨_, t.events ++ [.write frame true]⟩) hstill with h | h
    · exact .taken (h.trans htaken)
    · exact .resumed (h.trans (congrArg _ htaken))

theorem writeConfig_overwritten (config : Config) (t : Traced Device) :
    Overwritten config t.inner.registers.modeBits t.inner.registers (writeConfig config t).1
      (writeConfig config t).2.inner.registers := by
  apply overwritten_bind (.inl (readMode_registers t))
  intro mode hmode
  rw [← readMode_ok hmode]
  apply overwritten_bind (changeMode_sleep_settles _)
  intro _ hslept
  have hasleep := changeMode_sleep_ok hslept
  generalize (changeMode .sleep (readMode t).2).2 = t at hasleep ⊢
  have hregisters := read_registers Register.ctrlGas1 5 t
  apply overwritten_bind (.inl hregisters)
  intro block hblock
  rw [read_ok hblock, ← hregisters]
  apply overwritten_write
  rw [Device.modeBits, hregisters]
  exact hasleep

namespace Overwritten

variable {config : Config} {bits : UInt8} {file after : RegisterFile}
  {reply : Except SensorError Unit}

theorem bits_eq {chosen : RegisterBits} (hmode : RegisterBits.mode.Apart chosen)
    (hconfig : RegisterBits.config.Apart chosen) (h : Overwritten config bits file reply after) :
    after.bits chosen = file.bits chosen := by
  have htaken : ((file.withMode 0).withConfig config).bits chosen = file.bits chosen := by
    rw [RegisterFile.bits_withConfig hconfig, RegisterFile.bits_withMode hmode]
  cases h with
  | before hreply h => exact h.bits_eq hmode
  | taken h => rw [h, htaken]
  | resumed h => rw [h, RegisterFile.bits_withMode hmode, htaken]

theorem config_eq (h : Overwritten config bits file reply after) :
    (reply ≠ .ok () ∧ after.config = file.config) ∨ after.config = config := by
  have hmode := RegisterBits.mode_apart_config
  have htaken := RegisterFile.config_withConfig config (file.withMode 0)
  cases h with
  | before hreply h => exact .inl ⟨hreply, RegisterFile.config_congr (h.bits_eq hmode)⟩
  | taken h => exact .inr (h ▸ htaken)
  | resumed h =>
    rw [h, RegisterFile.config_congr (RegisterFile.bits_withMode hmode _ _)]
    exact .inr htaken

theorem modeBits (h : Overwritten config file.modeBits file reply after) :
    after.modeBits = file.modeBits ∨ after.modeBits = 0 := by
  cases h with
  | before hreply h => exact h.modeBits
  | taken h =>
    rw [h, RegisterFile.modeBits_withConfig, RegisterFile.modeBits_withMode]
    exact .inr rfl
  | resumed h =>
    have hsame := RegisterFile.modeBits_withMode file.modeBits file
    rw [RegisterFile.withMode_modeBits] at hsame
    rw [h, RegisterFile.modeBits_withMode]
    exact .inl hsame.symm

end Overwritten

end Link

/-- The registers that hold no part of a configuration. -/
def RegisterBits.outside : RegisterBits := fun address =>
  if address < Register.ctrlGas1 ∨ Register.config < address then 0xFF else 0

theorem RegisterBits.mode_apart_outside : mode.Apart outside := by decide +kernel

theorem RegisterBits.config_apart_outside : config.Apart outside := by decide +kernel

theorem RegisterFile.get_of_outside {file other : RegisterFile}
    (h : file.bits .outside = other.bits .outside) {address : UInt8}
    (haddress : address < Register.ctrlGas1 ∨ Register.config < address) :
    file.get address = other.get address := by
  have hall : RegisterBits.outside address = -1 := if_pos haddress
  have h := and_of_bits h (congrArg (· &&& (-1)) hall)
  rwa [UInt8.and_neg_one, UInt8.and_neg_one] at h

namespace Session

/-- The ways in which a configuration setter can end. -/
inductive Ending where
  /-- The configuration could not be read. -/
  | skipped
  /-- A later transaction failed. -/
  | interrupted
  | completed

def Ending.reply : Ending → Except SensorError Reply
  | .skipped => .error .configWriteSkipped
  | .interrupted => .error .commFailure
  | .completed => .ok .done

/-- What a setter that ended so has put on the bus and left on the chip. -/
def Ended (change : Config → Config) (s after : Session (Traced Device)) : Ending → Prop
  | .skipped =>
    after.link.events = s.link.events ++ [.read Register.ctrlGas1 5 false] ∧
    after.registers = s.registers ∧ after.driver.config = s.driver.config
  | .interrupted =>
    (∃ later, after.link.events = s.link.events ++ .read Register.ctrlGas1 5 true :: later ∧
      later.any BusEvent.failed = true) ∧
    (after.registers.config = s.registers.config ∨
      after.registers.config = change s.registers.config) ∧
    (after.registers.modeBits = s.registers.modeBits ∨ after.registers.modeBits = 0)
  | .completed =>
    (∃ later, after.link.events = s.link.events ++ .read Register.ctrlGas1 5 true :: later ∧
      later.any BusEvent.failed = false) ∧
    after.registers.config = change s.registers.config

theorem Ending.reply_injective {ending other : Ending} (h : ending.reply = other.reply) :
    ending = other := by
  cases ending <;> cases other <;> first | rfl | cases h

theorem changeConfig_ended (change : Config → Config) (s : Session (Traced Device)) :
    (∃ ending : Ending, (changeConfig change s).1.map (fun _ => Reply.done) = ending.reply ∧
      Ended change s (changeConfig change s).2 ending) ∧
    (changeConfig change s).2.registers.bits .outside = s.registers.bits .outside := by
  rw [changeConfig, bind_run]
  simp only [readConfig, attempt]
  rcases Link.readConfig_cases s.link with hr | hr
  · rw [hr]
    exact ⟨⟨.skipped, rfl, rfl, rfl, rfl⟩, rfl⟩
  · rw [hr]
    simp only
    generalize ht : (⟨s.link.inner.counted,
      s.link.events ++ [.read Register.ctrlGas1 5 true]⟩ : Traced Device) = t
    have hevents : t.events = s.link.events ++ [.read Register.ctrlGas1 5 true] := ht ▸ rfl
    have hregisters : t.inner.registers = s.registers := ht ▸ rfl
    obtain ⟨later, hlater, hfailed⟩ := Link.Reports.writeConfig (change s.registers.config) t
    have hwritten := Link.writeConfig_overwritten (change s.registers.config) t
    have hcomm := Link.OnlyComm.writeConfig (change s.registers.config) t
    rw [hevents, List.append_assoc] at hlater
    rw [hregisters] at hwritten
    refine ⟨?_, hwritten.bits_eq RegisterBits.mode_apart_outside RegisterBits.config_apart_outside⟩
    change ∃ ending : Ending, (Link.writeConfig (change s.registers.config) t).1.map _ = _ ∧
      Ended change s ⟨_, (Link.writeConfig (change s.registers.config) t).2, _⟩ ending
    generalize Link.writeConfig (change s.registers.config) t = ended at *
    obtain ⟨reply, after⟩ := ended
    cases reply with
    | error e =>
      obtain rfl := hcomm e rfl
      exact ⟨.interrupted, rfl, ⟨later, hlater, hfailed.2 rfl⟩,
        hwritten.config_eq.imp And.right id, hwritten.modeBits⟩
    | ok done =>
      have hnone : later.any BusEvent.failed = false := by simpa using hfailed
      have hconfig := hwritten.config_eq.resolve_left fun h => h.1 rfl
      exact ⟨.completed, rfl, ⟨later, hlater, hnone⟩, hconfig⟩

/-- A configuration setter has written nothing, or was interrupted before or after the chip took
the whole configuration, or is through; the registers around it stay as they are. -/
theorem setter_all_or_nothing {operation : Operation} {change : Config → Config}
    (h : operation.change? = some change) (s : Session (Traced Device)) :
    (∃! ending : Ending, (perform operation s).1 = ending.reply ∧
      Ended change s (perform operation s).2 ending) ∧
    ∀ address, address < Register.ctrlGas1 ∨ Register.config < address →
      (perform operation s).2.registers.get address = s.registers.get address := by
  obtain ⟨⟨ending, hreply, hended⟩, houtside⟩ := changeConfig_ended change s
  rw [perform_of_change h]
  refine ⟨⟨ending, ⟨hreply, hended⟩, ?_⟩, fun address => RegisterFile.get_of_outside houtside⟩
  rintro other ⟨hother, _⟩
  exact Ending.reply_injective (hother.symm.trans hreply)

theorem setter_all_or_nothing_resumeFails :
    (Operation.setFilter .size3).change?.isSome ∧
    (perform (.setFilter .size3) resumeFails).1 = Ending.interrupted.reply ∧
    Ended (fun config => { config with filter := .size3 }) resumeFails
      (perform (.setFilter .size3) resumeFails).2 .interrupted := by
  obtain ⟨⟨ending, ⟨hreply, hended⟩, _⟩, _⟩ :=
    @setter_all_or_nothing (.setFilter .size3) _ rfl resumeFails
  obtain rfl : ending = .interrupted :=
    Ending.reply_injective (hreply.symm.trans setFilter_resumeFails.1)
  exact ⟨rfl, hreply, hended⟩

end Session

end AirMonitor
