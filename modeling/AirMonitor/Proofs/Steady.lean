import AirMonitor.Proofs.ModeChange

namespace AirMonitor

/-- A configuration is patched around the bits that do not belong to it. -/
theorem Config.patch_and {chosen : RegisterBits} (h : RegisterBits.config.Apart chosen)
    (config : Config) (block : ConfigBlock) {i : Nat} (hi : i < 5) :
    (config.patch block)[i] &&& chosen (Register.ctrlGas1 + UInt8.ofNat i) =
      block[i] &&& chosen (Register.ctrlGas1 + UInt8.ofNat i) := by
  match i, hi with
  | 0, _ => exact BitField.set_and_of_apart (h.of_and rfl) _ _
  | 1, _ => exact BitField.set_and_of_apart (h.of_and rfl) _ _
  | 2, _ => rfl
  | 3, _ =>
    exact (BitField.set_and_of_apart (h.of_and rfl) _ _).trans
      (BitField.set_and_of_apart (h.of_and rfl) _ _)
  | 4, _ =>
    exact (BitField.set_and_of_apart (h.of_and rfl) _ _).trans
      (BitField.set_and_of_apart (h.of_and rfl) _ _)

/-- A chip on a bus without failures, which leaves no mode by itself. -/
structure Device.Steady (device : Device) : Prop where
  scheduled : ∀ n, device.failAt n = false
  reads : device.failReads = false
  writes : device.failWrites = false
  stays : device.autoSleep = false

namespace Device

variable {device : Device}

theorem Steady.counted (h : device.Steady) : device.counted.Steady :=
  ⟨h.scheduled, h.reads, h.writes, h.stays⟩

theorem Steady.store (h : device.Steady) (address value : UInt8) :
    (device.store address value).Steady := by
  rw [Device.store]
  split
  · split
    · exact ⟨h.scheduled, h.reads, h.writes, h.stays⟩
    · split <;> exact ⟨h.scheduled, h.reads, h.writes, h.stays⟩
  · exact ⟨h.scheduled, h.reads, h.writes, h.stays⟩

theorem Steady.storeAll (h : device.Steady) (pairs : List (UInt8 × UInt8)) :
    (device.storeAll pairs).Steady := by
  induction pairs generalizing device with
  | nil => exact h
  | cons pair pairs ih => exact ih (h.store pair.1 pair.2)

theorem Steady.read (h : device.Steady) (register : UInt8) (length : Nat) :
    Transport.read register length device =
      (.ok (device.registers.block register length), device.counted) := by
  simp [Transport.read, h.reads, h.scheduled]

theorem Steady.write (h : device.Steady) (frame : WriteFrame) :
    Transport.write frame device = (.ok (), device.counted.storeAll frame.pairs) := by
  simp [Transport.write, h.writes, h.scheduled]

/-- Only a request to sleep may be ignored. -/
theorem Steady.store_registers (h : device.Steady) {address value : UInt8}
    (hsleep : address = Register.ctrlMeas → Register.mode.get value = 0 → device.modeBits = 0) :
    (device.store address value).registers = device.registers.set address value := by
  rw [Device.store]
  split
  · next he =>
    split
    · next hr => exact absurd (hsleep he hr.1) hr.2.1
    · rw [h.stays]
      simp
  · rfl

/-- A chip that is asleep takes every value in which it is asleep as well. -/
theorem store_asleep {address value : UInt8} (h : address = Register.ctrlMeas →
    Register.mode.get value = 0 ∧ device.modeBits = 0) :
    (device.store address value).registers = device.registers.set address value := by
  rw [Device.store]
  split
  · next he =>
    obtain ⟨hvalue, hmode⟩ := h he
    simp [hvalue, hmode]
  · rfl

theorem modeBits_store {address value : UInt8}
    (h : address = Register.ctrlMeas → Register.mode.get value = 0)
    (hasleep : device.modeBits = 0) : (device.store address value).modeBits = 0 := by
  rw [modeBits, store_asleep fun he => ⟨h he, hasleep⟩, RegisterFile.get_set]
  split
  · next he => exact h he
  · exact hasleep

theorem modeBits_storeAll {pairs : List (UInt8 × UInt8)}
    (h : ∀ pair ∈ pairs, pair.1 = Register.ctrlMeas → Register.mode.get pair.2 = 0)
    (hasleep : device.modeBits = 0) : (device.storeAll pairs).modeBits = 0 := by
  induction pairs generalizing device with
  | nil => exact hasleep
  | cons pair pairs ih =>
    have hstored := modeBits_store (h pair List.mem_cons_self) hasleep
    exact ih (fun other hother => h other (List.mem_cons_of_mem _ hother)) hstored

theorem storeAll_asleep {pairs : List (UInt8 × UInt8)}
    (h : ∀ pair ∈ pairs, pair.1 = Register.ctrlMeas →
      Register.mode.get pair.2 = 0 ∧ device.modeBits = 0) :
    (device.storeAll pairs).registers = device.registers.setPairs pairs := by
  induction pairs generalizing device with
  | nil => rfl
  | cons pair pairs ih =>
    have hstored : (device.store pair.1 pair.2).registers =
        device.registers.set pair.1 pair.2 := store_asleep (h pair List.mem_cons_self)
    have hrest : ∀ other ∈ pairs, other.1 = Register.ctrlMeas →
        Register.mode.get other.2 = 0 ∧ (device.store pair.1 pair.2).modeBits = 0 := by
      intro other hother he
      obtain ⟨hvalue, hmode⟩ := h other (List.mem_cons_of_mem _ hother) he
      exact ⟨hvalue, modeBits_store (fun hp => (h pair List.mem_cons_self hp).1) hmode⟩
    apply (ih hrest).trans
    rw [hstored]
    rfl

end Device

/-- How many steps the chip is told that a cycle has. -/
def HeaterProfile.cycle : HeaterProfile → UInt8
  | .forced _ => 0
  | .sequential steps => UInt8.ofNat steps.1.length
  | .parallel steps _ => UInt8.ofNat steps.1.length

/-- The registers that a profile is written to, and what is written there. -/
def HeaterProfile.pairs (target : HeaterStep → UInt8) : HeaterProfile → List (UInt8 × UInt8)
  | .forced step =>
    [(Register.heaterTarget0, target step),
      (Register.heaterWait0, HeatingTime.encode step.duration)]
  | .sequential steps =>
    consecutive Register.heaterTarget0 (steps.1.map target) ++
      consecutive Register.heaterWait0 (steps.1.map fun step => HeatingTime.encode step.duration)
  | .parallel steps sharedMillis =>
    consecutive Register.heaterTarget0 (steps.1.map target) ++
      consecutive Register.heaterWait0
        (steps.1.map fun step => HeatingTime.encodeMultiple step.duration) ++
      [(Register.heaterShared, HeatingTime.encodeShared sharedMillis)]

namespace RegisterFile

theorem setPairs_append (file : RegisterFile) (first second : List (UInt8 × UInt8)) :
    file.setPairs (first ++ second) = (file.setPairs first).setPairs second :=
  List.foldl_append

/-- The registers after a configuration was written into them. -/
def withConfig (config : Config) (file : RegisterFile) : RegisterFile :=
  file.setBlock Register.ctrlGas1 (config.patch (file.block Register.ctrlGas1 5)).toList

theorem config_withConfig (config : Config) (file : RegisterFile) :
    (file.withConfig config).config = config :=
  config_setBlock file config _

theorem bits_withConfig {chosen : RegisterBits} (hconfig : RegisterBits.config.Apart chosen)
    (config : Config) (file : RegisterFile) :
    (file.withConfig config).bits chosen = file.bits chosen := by
  rw [withConfig, ← setPairs_consecutive]
  apply bits_setPairs
  intro pair hpair
  obtain ⟨i, hi, rfl⟩ := mem_consecutive hpair
  have hi : i < 5 := by simpa using hi
  apply (Config.patch_and hconfig config _ hi).trans
  simp [block]

theorem modeBits_withConfig (config : Config) (file : RegisterFile) :
    (file.withConfig config).modeBits = file.modeBits :=
  BitField.get_congr
    (and_of_bits (bits_withConfig RegisterBits.config_apart_mode config file) rfl)

/-- A configuration is patched around the mode. -/
theorem mode_of_patch (config : Config) (file : RegisterFile) {pair : UInt8 × UInt8}
    (hpair : pair ∈ consecutive Register.ctrlGas1
      (config.patch (file.block Register.ctrlGas1 5)).toList)
    (he : pair.1 = Register.ctrlMeas) : Register.mode.get pair.2 = file.modeBits := by
  obtain ⟨i, hi, rfl⟩ := mem_consecutive hpair
  have hi : i < 5 := by simpa using hi
  have he : Register.ctrlGas1 + UInt8.ofNat i = Register.ctrlMeas := he
  have hmode := Config.patch_and RegisterBits.config_apart_mode config
    (file.block Register.ctrlGas1 5) hi
  simp only [block, Vector.getElem_ofFn, he] at hmode
  rw [Vector.getElem_toList]
  exact BitField.get_congr hmode

/-- The registers after the heater was programmed in them. -/
def withHeater (variant : UInt8) (target : HeaterStep → UInt8) (profile : HeaterProfile)
    (file : RegisterFile) : RegisterFile :=
  let stored := (file.withMode 0).setPairs (profile.pairs target)
  stored.setPairs
    [(Register.ctrlGas0, Register.heaterOff.set (stored.get Register.ctrlGas0) 0),
      (Register.ctrlGas1, Register.runGas.set
        (Register.heaterSteps.set (stored.get Register.ctrlGas1) profile.cycle)
        (Register.runGasCode variant))]

end RegisterFile

/-- Whether the chip ignores a request to sleep or not, the next one asks for the same. -/
theorem Device.withMode_store (device : Device) (bits : UInt8) :
    (device.store Register.ctrlMeas
      (Register.mode.set (device.registers.get Register.ctrlMeas) 0)).registers.withMode bits =
        device.registers.withMode bits := by
  have hsettles : device.registers.Settles (device.store Register.ctrlMeas
      (Register.mode.set (device.registers.get Register.ctrlMeas) 0)).registers :=
    (device.store_mode 0).elim id .inr
  exact hsettles.withMode_eq bits

namespace Link

/-- On a steady chip with these registers, a program yields a result and leaves other registers. -/
def Yields (program : Link (Traced Device) α) (file : RegisterFile) (a : α)
    (file' : RegisterFile) : Prop :=
  ∀ t, t.inner.Steady → t.inner.registers = file →
    (program t).1 = .ok a ∧ (program t).2.inner.Steady ∧ (program t).2.inner.registers = file'

namespace Yields

variable {file file' file'' : RegisterFile}

theorem pure (a : α) : Yields (Pure.pure a) file a file := fun _ hs hf => ⟨rfl, hs, hf⟩

theorem bind {first : Link (Traced Device) α} {next : α → Link (Traced Device) β} {a : α} {b : β}
    (hfirst : Yields first file a file') (hnext : Yields (next a) file' b file'') :
    Yields (first >>= next) file b file'' := by
  intro t hs hf
  obtain ⟨hok, hs', hf'⟩ := hfirst t hs hf
  rw [bind_apply, hok]
  exact hnext _ hs' hf'

theorem read (register : UInt8) {length : Nat} (hlow : length ≠ 0)
    (hhigh : length ≤ Register.maxReadLength) :
    Yields (Link.read register length) file (file.block register length) file := by
  intro t hs hf
  subst hf
  have hread := hs.read register length
  rw [Link.read, if_neg (by omega)]
  simp only [Transport.read] at hread ⊢
  rw [hread]
  exact ⟨rfl, hs.counted, rfl⟩

theorem readByte (register : UInt8) :
    Yields (Link.readByte register) file (file.get register) file := by
  have h : Yields (Link.readByte register) file (onlyByte (file.block register 1)) file :=
    bind (read register (by decide) (by decide)) (pure _)
  rwa [onlyByte_block] at h

theorem stores {pairs : List (UInt8 × UInt8)} (hlow : pairs ≠ [])
    (hhigh : pairs.length ≤ Register.maxWritePairs)
    (hstored : ∀ device : Device, device.Steady → device.registers = file →
      (device.storeAll pairs).registers = file') :
    Yields (Link.write pairs) file () file' := by
  intro t hs hf
  obtain ⟨pair, pairs, rfl⟩ := List.exists_cons_of_ne_nil hlow
  have hpairs := @WriteFrame.pairs_of_ofPairs? (pair :: pairs) _ rfl
  have hwrite := hs.write ⟨pair.1, pair.2 :: interleave pairs⟩
  rw [hpairs] at hwrite
  rw [Link.write_sent rfl hhigh]
  simp only [Transport.write] at hwrite ⊢
  rw [hwrite]
  exact ⟨rfl, hs.counted.storeAll _, hstored _ hs.counted hf⟩

theorem write {pairs : List (UInt8 × UInt8)} (hlow : pairs ≠ [])
    (hhigh : pairs.length ≤ Register.maxWritePairs)
    (hsleep : ∀ pair ∈ pairs, pair.1 = Register.ctrlMeas →
      Register.mode.get pair.2 = 0 ∧ file.modeBits = 0) :
    Yields (Link.write pairs) file () (file.setPairs pairs) := by
  apply stores hlow hhigh
  intro device hs hf
  subst hf
  exact Device.storeAll_asleep hsleep

theorem sleep : Yields Link.sleep file (Register.mode.set (file.get Register.ctrlMeas) 0)
    (file.withMode 0) := by
  intro t hs hf
  subst hf
  induction t using Link.sleep_induction with
  | unread t e hr =>
    have hread := congrArg Prod.fst (hs.read Register.ctrlMeas 1)
    exact absurd (hread.symm.trans hr) (by simp)
  | asleep t control hr hm =>
    have hcontrol := read_ctrlMeas hr
    have hbits : t.inner.registers.modeBits = 0 := by
      rw [RegisterFile.modeBits, ← hcontrol, hm]
    have hfile : t.inner.registers.withMode 0 = t.inner.registers := by
      rw [← hbits, RegisterFile.withMode_modeBits]
    have hafter : (Transport.read Register.ctrlMeas 1 t).2.inner = t.inner.counted :=
      Device.read_state t.inner Register.ctrlMeas 1
    rw [← RegisterFile.get_withMode, hfile, hcontrol, hafter]
    exact ⟨rfl, hs.counted, rfl⟩
  | refused t control hr hm u e hw =>
    have hread : (Transport.read Register.ctrlMeas 1 t).2.inner = t.inner.counted :=
      Device.read_state t.inner Register.ctrlMeas 1
    have hwrite : (Transport.write (sleepRequest (onlyByte control))
        (Transport.read Register.ctrlMeas 1 t).2.inner).1 = .error e := congrArg Prod.fst hw
    rw [hread, hs.counted.write] at hwrite
    cases hwrite
  | asked t control hr hm u hw ih =>
    have hread : (Transport.read Register.ctrlMeas 1 t).2.inner = t.inner.counted :=
      Device.read_state t.inner Register.ctrlMeas 1
    have hwrite : (Transport.write (sleepRequest (onlyByte control))
        (Transport.read Register.ctrlMeas 1 t).2.inner).2 = u.inner :=
      congrArg (fun ended => ended.2.inner) hw
    rw [hread, hs.counted.write, read_ctrlMeas hr] at hwrite
    have hu : u.inner = t.inner.counted.counted.store Register.ctrlMeas
        (Register.mode.set (t.inner.counted.counted.registers.get Register.ctrlMeas) 0) :=
      hwrite.symm
    have hfile : u.inner.registers.withMode 0 = t.inner.registers.withMode 0 := by
      rw [hu, Device.withMode_store]
      rfl
    have hsteady : u.inner.Steady := hu ▸ hs.counted.counted.store _ _
    have h := ih hsteady
    rw [← RegisterFile.get_withMode] at h ⊢
    rw [← hfile]
    exact h

theorem changeMode (mode : Mode) :
    Yields (Link.changeMode mode) file () (file.withMode mode.bits) := by
  apply bind sleep
  split
  · next hmode =>
    have hbits : Register.mode.get mode.bits ≠ 0 := by
      cases mode with
      | sleep => exact (hmode rfl).elim
      | _ => decide
    apply stores (by simp) (by simp [Register.maxWritePairs])
    intro device hs hf
    have hstored : (device.store Register.ctrlMeas (Register.mode.set
        (Register.mode.set (file.get Register.ctrlMeas) 0) mode.bits)).registers = _ :=
      hs.store_registers fun _ hsleep =>
        absurd ((Register.mode_get_set _ mode.bits).symm.trans hsleep) hbits
    apply hstored.trans
    rw [hf, RegisterFile.withMode, RegisterFile.set_set, BitField.set_set]
    rfl
  · next hmode =>
    have hmode : mode = .sleep := Decidable.not_not.1 hmode
    subst hmode
    exact pure _

theorem readMode : Yields Link.readMode file (.ofBits file.modeBits) file :=
  bind (readByte Register.ctrlMeas) (pure _)

theorem readConfig : Yields Link.readConfig file file.config file :=
  bind (read Register.ctrlGas1 (by decide) (by decide)) (pure _)

theorem writeConfig (config : Config) : Yields (Link.writeConfig config) file ()
    (((file.withMode 0).withConfig config).withMode file.modeBits) := by
  have hwrite : Yields (Link.write (consecutive Register.ctrlGas1
      (config.patch ((file.withMode 0).block Register.ctrlGas1 5)).toList)) (file.withMode 0) ()
      ((file.withMode 0).withConfig config) := by
    rw [RegisterFile.withConfig, ← RegisterFile.setPairs_consecutive]
    apply write (by simp [consecutive, Config.patch]) (by simp [Register.maxWritePairs])
    intro pair hpair he
    have hasleep := RegisterFile.modeBits_withMode 0 file
    exact ⟨(RegisterFile.mode_of_patch config _ hpair he).trans hasleep, hasleep⟩
  have hbits : (Mode.ofBits file.modeBits).bits = file.modeBits := Mode.bits_ofBits _
  apply bind readMode
  apply bind (changeMode .sleep)
  apply bind (read _ (by decide) (by decide))
  apply bind hwrite
  split
  · have h := @changeMode ((file.withMode 0).withConfig config) (.ofBits file.modeBits)
    rwa [hbits] at h
  · next hmode =>
    rw [Decidable.not_not.1 hmode] at hbits
    have hfile := RegisterFile.withMode_modeBits ((file.withMode 0).withConfig config)
    rw [RegisterFile.modeBits_withConfig, RegisterFile.modeBits_withMode] at hfile
    rw [← hbits]
    exact Eq.subst hfile.symm (pure ())

theorem write_heater {pairs : List (UInt8 × UInt8)} (hlow : pairs ≠ [])
    (hhigh : pairs.length ≤ Register.maxWritePairs)
    (hrange : ∀ pair ∈ pairs,
      Register.heaterTarget0 ≤ pair.1 ∧ pair.1 ≤ Register.heaterShared) :
    Yields (Link.write pairs) file () (file.setPairs pairs) := by
  apply write hlow hhigh
  intro pair hpair he
  exact absurd he (heater_ne hrange (by decide) pair hpair)

theorem writeSteps {target wait : HeaterStep → UInt8} {steps : HeaterSteps} (h : steps.1 ≠ []) :
    Yields (Link.writeSteps target wait steps.1) file ()
      (file.setPairs (consecutive Register.heaterTarget0 (steps.1.map target) ++
        consecutive Register.heaterWait0 (steps.1.map wait))) := by
  rw [RegisterFile.setPairs_append]
  have hfits := heater_fits h
  exact bind (write_heater (hfits _ _).1 (hfits _ _).2 (heater_range (.inl rfl) steps target))
    (write_heater (hfits _ _).1 (hfits _ _).2 (heater_range (.inr rfl) steps wait))

theorem writeProfile {target : HeaterStep → UInt8} {profile : HeaterProfile}
    (h : profile.steps ≠ []) : Yields (Link.writeProfile target profile) file profile.cycle
      (file.setPairs (profile.pairs target)) := by
  cases profile with
  | forced step =>
    refine bind (write_heater (by simp) (by simp [Register.maxWritePairs]) ?_) (pure _)
    simp only [List.mem_cons, List.not_mem_nil, or_false, forall_eq_or_imp, forall_eq]
    decide
  | sequential steps => exact bind (writeSteps h) (pure _)
  | parallel steps sharedMillis =>
    rw [HeaterProfile.pairs, RegisterFile.setPairs_append]
    apply bind (writeSteps h)
    refine bind (write_heater (by simp) (by simp [Register.maxWritePairs]) ?_) (pure _)
    simp only [List.mem_singleton, forall_eq]
    decide

theorem programHeater {variant : UInt8} {target : HeaterStep → UInt8} {profile : HeaterProfile}
    (h : profile.steps ≠ []) : Yields (Link.programHeater variant target profile) file ()
      (file.withHeater variant target profile) := by
  apply bind (changeMode .sleep)
  apply bind (writeProfile h)
  apply bind (read _ (by decide) (by decide))
  have hfirst (stored : RegisterFile) :
      (stored.block Register.ctrlGas0 2)[0] = stored.get Register.ctrlGas0 := by
    simp [RegisterFile.block]
  have hsecond (stored : RegisterFile) :
      (stored.block Register.ctrlGas0 2)[1] = stored.get Register.ctrlGas1 := by
    simp [RegisterFile.block, Register.ctrlGas0, Register.ctrlGas1]
  rw [hfirst, hsecond]
  apply write (by simp) (by simp [Register.maxWritePairs])
  intro pair hpair he
  simp only [List.mem_cons, List.not_mem_nil, or_false] at hpair
  rcases hpair with rfl | rfl
  · exact absurd he (by decide : Register.ctrlGas0 ≠ Register.ctrlMeas)
  · exact absurd he (by decide : Register.ctrlGas1 ≠ Register.ctrlMeas)

end Yields

end Link

end AirMonitor
