import AirMonitor.Proofs.Independence
import AirMonitor.Proofs.Lasting
import AirMonitor.Proofs.Leads

namespace AirMonitor

namespace HeaterProfile

/-- The code of a step's heating time. -/
def wait (profile : HeaterProfile) (step : HeaterStep) : UInt8 :=
  if profile.mode = .parallel then HeatingTime.encodeMultiple step.duration
  else HeatingTime.encode step.duration

/-- The shared heating time with its register, if the profile has one. -/
def shared : HeaterProfile → List (UInt8 × UInt8)
  | .parallel _ sharedMillis => [(Register.heaterShared, HeatingTime.encodeShared sharedMillis)]
  | _ => []

variable (target : HeaterStep → UInt8) (profile : HeaterProfile)

theorem pairs_eq : profile.pairs target =
    consecutive Register.heaterTarget0 (profile.steps.map target) ++
      consecutive Register.heaterWait0 (profile.steps.map profile.wait) ++ profile.shared := by
  cases profile with
  | forced step => rfl
  | sequential steps => exact (List.append_nil _).symm
  | parallel steps sharedMillis => rfl

theorem length_steps_le : profile.steps.length ≤ 10 := by
  cases profile with
  | forced step => exact Nat.succ_le_succ (Nat.zero_le 9)
  | sequential steps => exact steps.2
  | parallel steps sharedMillis => exact steps.2

theorem pairs_distinct : ((profile.pairs target).map Prod.fst).Nodup := by
  have hall : ((List.range 10).map (Register.heaterTarget0 + UInt8.ofNat ·) ++
      (List.range 10).map (Register.heaterWait0 + UInt8.ofNat ·) ++
      [Register.heaterShared]).Nodup := by decide
  have hsteps (register : UInt8) (code : HeaterStep → UInt8) :
      ((consecutive register (profile.steps.map code)).map Prod.fst).Sublist
        ((List.range 10).map (register + UInt8.ofNat ·)) := by
    rw [map_fst_consecutive, List.length_map]
    exact (List.range_sublist.2 profile.length_steps_le).map _
  have hshared : (profile.shared.map Prod.fst).Sublist [Register.heaterShared] := by
    cases profile with
    | parallel steps sharedMillis => exact List.Sublist.refl _
    | _ => exact List.nil_sublist _
  rw [pairs_eq, List.map_append, List.map_append]
  exact (((hsteps _ _).append (hsteps _ _)).append hshared).nodup hall

variable {profile} in
theorem target_mem {i : Nat} {step : HeaterStep} (h : profile.steps[i]? = some step) :
    (Register.heaterTarget0 + UInt8.ofNat i, target step) ∈ profile.pairs target := by
  rw [pairs_eq]
  apply List.mem_append_left _ (List.mem_append_left _ _)
  apply List.mem_of_getElem? (i := i)
  rw [getElem?_consecutive, List.getElem?_map, h]
  rfl

variable {profile} in
theorem wait_mem {i : Nat} {step : HeaterStep} (h : profile.steps[i]? = some step) :
    (Register.heaterWait0 + UInt8.ofNat i, profile.wait step) ∈ profile.pairs target := by
  rw [pairs_eq]
  apply List.mem_append_left _ (List.mem_append_right _ _)
  apply List.mem_of_getElem? (i := i)
  rw [getElem?_consecutive, List.getElem?_map, h]
  rfl

/-- No pair of a profile is for a register apart from those of its steps and its shared time. -/
theorem pairs_apart {address : UInt8}
    (hsteps : ∀ i < profile.steps.length, address ≠ Register.heaterTarget0 + UInt8.ofNat i ∧
      address ≠ Register.heaterWait0 + UInt8.ofNat i)
    (hshared : profile.mode = .parallel → address ≠ Register.heaterShared) :
    ∀ pair ∈ profile.pairs target, pair.1 ≠ address := by
  intro pair hpair
  rw [pairs_eq] at hpair
  rcases List.mem_append.1 hpair with hpair | hpair
  · rcases List.mem_append.1 hpair with hpair | hpair
    · obtain ⟨i, hi, rfl⟩ := mem_consecutive hpair
      exact (hsteps i (by simpa using hi)).1.symm
    · obtain ⟨i, hi, rfl⟩ := mem_consecutive hpair
      exact (hsteps i (by simpa using hi)).2.symm
  · cases profile with
    | parallel steps sharedMillis =>
      obtain rfl := List.mem_singleton.1 hpair
      exact (hshared rfl).symm
    | _ => cases hpair

end HeaterProfile

theorem BitField.set_zero (field : BitField) (byte : UInt8) :
    field.set byte 0 = byte &&& ~~~field.mask := by
  simp [set]

namespace RegisterFile

/-- What a heater profile has made of the registers, and what it has left alone. -/
structure Programmed (variant : UInt8) (target : HeaterStep → UInt8) (profile : HeaterProfile)
    (before after : RegisterFile) : Prop where
  targets : ∀ i step, profile.steps[i]? = some step →
    after.get (Register.heaterTarget0 + UInt8.ofNat i) = target step
  waits : profile.mode ≠ .parallel → ∀ i step, profile.steps[i]? = some step →
    after.get (Register.heaterWait0 + UInt8.ofNat i) = HeatingTime.encode step.duration
  multiples : profile.mode = .parallel → ∀ i step, profile.steps[i]? = some step →
    (after.get (Register.heaterWait0 + UInt8.ofNat i)).toNat = min step.duration.toNat 255
  shared : ∀ steps sharedMillis, profile = .parallel steps sharedMillis →
    after.get Register.heaterShared = HeatingTime.encodeShared sharedMillis
  heaterOn : after.get Register.ctrlGas0 = before.get Register.ctrlGas0 &&& 0xF7
  cycle : (Register.heaterSteps.get (after.get Register.ctrlGas1)).toNat =
    if profile.mode = .forced then 0 else profile.steps.length
  gas : Register.runGas.get (after.get Register.ctrlGas1) =
    if variant = Register.highGasVariant then 2 else 1
  spare : after.get Register.ctrlGas1 &&& 0xC0 = before.get Register.ctrlGas1 &&& 0xC0
  asleep : after.get Register.ctrlMeas = before.get Register.ctrlMeas &&& 0xFC
  others : ∀ address,
    (∀ i < profile.steps.length, address ≠ Register.heaterTarget0 + UInt8.ofNat i ∧
      address ≠ Register.heaterWait0 + UInt8.ofNat i) →
    (profile.mode = .parallel → address ≠ Register.heaterShared) →
    address ∉ [Register.ctrlGas0, Register.ctrlGas1, Register.ctrlMeas] →
    after.get address = before.get address

variable (variant : UInt8) (target : HeaterStep → UInt8) (profile : HeaterProfile)
  (file : RegisterFile)

theorem get_withHeater_of_ne {address : UInt8} (hfirst : address ≠ Register.ctrlGas0)
    (hsecond : address ≠ Register.ctrlGas1) : (file.withHeater variant target profile).get address =
      ((file.withMode 0).setPairs (profile.pairs target)).get address := by
  apply get_setPairs_outside
  simp only [List.mem_cons, List.not_mem_nil, or_false, forall_eq_or_imp, forall_eq]
  exact ⟨hfirst.symm, hsecond.symm⟩

/-- The registers of the heater are those that a profile names. -/
theorem get_withHeater_of_mem {pair : UInt8 × UInt8} (h : pair ∈ profile.pairs target) :
    (file.withHeater variant target profile).get pair.1 = pair.2 := by
  have hne {address : UInt8} (haddress : ¬ address ≤ Register.heaterShared) : pair.1 ≠ address :=
    Link.heater_ne (fun _ => HeaterProfile.pairs_range) haddress pair h
  rw [get_withHeater_of_ne variant target profile file (hne (by decide)) (hne (by decide))]
  exact get_setPairs_inside (profile.pairs_distinct target) h _

theorem get_setPairs_heater {address : UInt8} (h : ¬ address ≤ Register.heaterShared) :
    ((file.withMode 0).setPairs (profile.pairs target)).get address =
      (file.withMode 0).get address :=
  get_setPairs_outside (Link.heater_ne (fun _ => HeaterProfile.pairs_range) h) _

theorem get_withHeater_gas0 : (file.withHeater variant target profile).get Register.ctrlGas0 =
    Register.heaterOff.set (file.get Register.ctrlGas0) 0 := by
  have hstored := get_setPairs_heater target profile file
    (by decide : ¬ Register.ctrlGas0 ≤ Register.heaterShared)
  rw [get_withMode_of_ne (by decide)] at hstored
  rw [← hstored]
  exact (get_set_of_ne _ _ (by decide : Register.ctrlGas1 ≠ Register.ctrlGas0)).trans
    (get_set_self _ _ _)

theorem get_withHeater_gas1 : (file.withHeater variant target profile).get Register.ctrlGas1 =
    Register.runGas.set (Register.heaterSteps.set (file.get Register.ctrlGas1) profile.cycle)
      (Register.runGasCode variant) := by
  have hstored := get_setPairs_heater target profile file
    (by decide : ¬ Register.ctrlGas1 ≤ Register.heaterShared)
  rw [get_withMode_of_ne (by decide)] at hstored
  rw [← hstored]
  exact get_set_self _ _ _

end RegisterFile

namespace HeaterProfile

theorem cycle_toNat (profile : HeaterProfile) :
    profile.cycle.toNat = if profile.mode = .forced then 0 else profile.steps.length := by
  have hfit (steps : HeaterSteps) : (UInt8.ofNat steps.1.length).toNat = steps.1.length := by
    have hle := steps.2
    have hcapacity : HeaterSteps.capacity = 10 := rfl
    rw [UInt8.toNat_ofNat']
    omega
  cases profile with
  | forced step => rfl
  | sequential steps => exact hfit steps
  | parallel steps sharedMillis => exact hfit steps

theorem encodeMultiple_toNat (multiple : UInt16) :
    (HeatingTime.encodeMultiple multiple).toNat = min multiple.toNat 255 := by
  have hhigh : (255 : UInt16).toNat = 255 := rfl
  rw [HeatingTime.encodeMultiple]
  split
  · next h =>
    rw [UInt16.le_iff_toNat_le, hhigh] at h
    rw [UInt16.toNat_toUInt8]
    omega
  · next h =>
    rw [UInt16.le_iff_toNat_le, hhigh] at h
    rw [Nat.min_eq_right (by omega)]
    rfl

/-- A parallel profile is only built of steps whose multiples fit their registers. -/
theorem duration_of_parallel? {steps : List HeaterStep} {sharedMillis : UInt16}
    {profile : HeaterProfile} (h : parallel? steps sharedMillis = some profile) {step : HeaterStep}
    (hstep : step ∈ profile.steps) : step.duration.toNat ≤ 255 := by
  rw [parallel?] at h
  split at h
  · cases h
  · next hfit =>
    obtain ⟨kept, hkept, rfl⟩ := Option.map_eq_some_iff.1 h
    have hsteps : kept.1 = steps := by
      rw [HeaterSteps.ofList?] at hkept
      split at hkept
      · exact congrArg Subtype.val (Option.some.inj hkept).symm
      · cases hkept
    have hstep : step ∈ steps := hsteps ▸ hstep
    have hfit : ¬ 255 < step.duration := fun hwide =>
      hfit (List.any_eq_true.2 ⟨step, hstep, decide_eq_true hwide⟩)
    exact UInt16.le_iff_toNat_le.1 (UInt16.not_lt.1 hfit)

end HeaterProfile

theorem RegisterFile.programmed_withHeater (variant : UInt8) (target : HeaterStep → UInt8)
    (profile : HeaterProfile) (file : RegisterFile) :
    Programmed variant target profile file (file.withHeater variant target profile) := by
  have hwait {i : Nat} {step : HeaterStep} (h : profile.steps[i]? = some step) :
      (file.withHeater variant target profile).get (Register.heaterWait0 + UInt8.ofNat i) =
        profile.wait step :=
    get_withHeater_of_mem variant target profile file (HeaterProfile.wait_mem target h)
  constructor
  case targets =>
    intro i step h
    exact get_withHeater_of_mem variant target profile file (HeaterProfile.target_mem target h)
  case waits =>
    intro hmode i step h
    rw [hwait h, HeaterProfile.wait, if_neg hmode]
  case multiples =>
    intro hmode i step h
    rw [hwait h, HeaterProfile.wait, if_pos hmode, HeaterProfile.encodeMultiple_toNat]
  case shared =>
    rintro steps sharedMillis rfl
    have hmem : (Register.heaterShared, HeatingTime.encodeShared sharedMillis) ∈
        (HeaterProfile.parallel steps sharedMillis).pairs target := by
      rw [HeaterProfile.pairs_eq]
      exact List.mem_append_right _ List.mem_cons_self
    exact get_withHeater_of_mem variant target _ file hmem
  case heaterOn =>
    rw [get_withHeater_gas0, BitField.set_zero]
    rfl
  case cycle =>
    have hcycle : Register.heaterSteps.get (Register.heaterSteps.set
        (file.get Register.ctrlGas1) profile.cycle) = profile.cycle := by
      rw [BitField.get_set]
      exact (UInt8.shiftRight_zero).trans
        ((congrArg (· &&& 0x0F) UInt8.shiftLeft_zero).trans profile.cycle_and)
    rw [get_withHeater_gas1, BitField.get_set_of_apart (by decide), hcycle, profile.cycle_toNat]
  case gas =>
    rw [get_withHeater_gas1, BitField.get_set, Register.runGasCode]
    split <;> rfl
  case spare =>
    rw [get_withHeater_gas1, BitField.set_and_of_apart (by decide),
      BitField.set_and_of_apart (by decide)]
  case asleep =>
    rw [get_withHeater_of_ne variant target profile file (by decide) (by decide),
      get_setPairs_heater target profile file (by decide), get_withMode, BitField.set_zero]
    rfl
  case others =>
    intro address hsteps hshared hcontrol
    simp only [List.mem_cons, List.not_mem_nil, or_false, not_or] at hcontrol
    rw [get_withHeater_of_ne variant target profile file hcontrol.1 hcontrol.2.1,
      get_setPairs_outside (profile.pairs_apart target hsteps hshared),
      get_withMode_of_ne hcontrol.2.2]

namespace Link

/-- Nothing can be written of a profile without steps. -/
theorem writeProfile_empty {profile : HeaterProfile} (h : profile.steps = [])
    (target : HeaterStep → UInt8) (t : Traced Device) :
    writeProfile target profile t = (.error .invalidLength, t) := by
  have hsteps {steps : HeaterSteps} (h : steps.1 = []) (wait : HeaterStep → UInt8) :
      writeSteps target wait steps.1 t = (.error .invalidLength, t) := by
    rw [h]
    rfl
  cases profile with
  | forced step => cases h
  | sequential steps => rw [writeProfile, bind_apply, hsteps h]
  | parallel steps sharedMillis => rw [writeProfile, bind_apply, hsteps h]

theorem programHeater_empty {profile : HeaterProfile} (h : profile.steps = []) (variant : UInt8)
    (target : HeaterStep → UInt8) {t : Traced Device} (ht : t.inner.Reliable) :
    (programHeater variant target profile t).1 = .error .invalidLength ∧
      (programHeater variant target profile t).2.inner.registers =
        t.inner.registers.withMode 0 := by
  obtain ⟨hslept, hfile⟩ := (Yields.changeMode .sleep).reliable Indifferent.changeMode_sleep ht
  rw [programHeater, bind_apply, hslept]
  simp only
  rw [bind_apply, writeProfile_empty h]
  exact ⟨rfl, hfile⟩

end Link

namespace Session

/-- On a bus without failures a profile is programmed as it is, and one without steps is refused
with the chip asleep; a parallel profile that could be built needs no multiple cut short. -/
theorem heater_programmed (profile : HeaterProfile) (s : Session (Traced Device))
    (hs : s.link.inner.Reliable) :
    let ended := setHeater profile s
    (profile.steps ≠ [] →
      ended.1 = .ok () ∧ ended.2.driver.heater = some profile ∧
      RegisterFile.Programmed s.driver.variant
        (fun step => s.driver.calibration.heaterTarget step.temperature s.driver.ambient) profile
        s.registers ended.2.registers) ∧
    (profile.steps = [] →
      ended.1 = .error .invalidLength ∧ ended.2.driver.heater = s.driver.heater ∧
      ended.2.registers.get Register.ctrlMeas = s.registers.get Register.ctrlMeas &&& 0xFC ∧
      ∀ address, address ≠ Register.ctrlMeas →
        ended.2.registers.get address = s.registers.get address) ∧
    ∀ steps sharedMillis, HeaterProfile.parallel? steps sharedMillis = some profile →
      ∀ step ∈ profile.steps, min step.duration.toNat 255 = step.duration.toNat := by
  intro ended
  obtain ⟨hreply, hdriver, hlink⟩ := setHeater_run profile s
  have hregisters : ended.2.registers = (Link.programHeater s.driver.variant
      s.driver.heaterTarget profile s.link).2.inner.registers :=
    congrArg (·.inner.registers) hlink
  have hended := attempt_cases (Link.programHeater s.driver.variant s.driver.heaterTarget profile)
    (fun _ => Driver.withHeater profile) s
  rw [← hreply, ← hdriver] at hended
  refine ⟨?_, ?_, ?_⟩
  · intro hsteps
    obtain ⟨hok, hfile⟩ := (Link.Yields.programHeater hsteps).reliable
      (Link.Indifferent.programHeater s.driver.variant s.driver.heaterTarget profile) hs
    obtain ⟨_, _, hok, hdriver⟩ := hended.resolve_right fun ⟨e, he, _⟩ => by
      rw [hok] at he
      cases he
    refine ⟨hok, ?_, ?_⟩
    · rw [hdriver]
      rfl
    · rw [hregisters, hfile]
      exact RegisterFile.programmed_withHeater _ _ _ _
  · intro hsteps
    obtain ⟨hrefused, hfile⟩ :=
      Link.programHeater_empty hsteps s.driver.variant s.driver.heaterTarget hs
    obtain ⟨e, he, herror, hdriver⟩ := hended.resolve_left fun ⟨_, hok, _⟩ => by
      rw [hrefused] at hok
      cases hok
    obtain rfl := Except.error.inj (hrefused.symm.trans he)
    refine ⟨herror, ?_, ?_, ?_⟩
    · rw [hdriver]
      rfl
    · rw [hregisters, hfile, RegisterFile.get_withMode, BitField.set_zero]
      rfl
    · intro address haddress
      rw [hregisters, hfile, RegisterFile.get_withMode_of_ne haddress]
      rfl
  · intro steps sharedMillis hparallel step hstep
    exact Nat.min_eq_left (HeaterProfile.duration_of_parallel? hparallel hstep)

/-- A chip in a forced measurement that ignores a request to sleep. -/
def lingering : Session (Traced Device) where
  link := ⟨{ registers := RegisterFile.zero.set Register.ctrlMeas 0x55, autoSleep := true,
             stuck := 1 }, []⟩

theorem heater_programmed_lingering :
    let profile := .parallel ⟨[⟨320, 5⟩, ⟨150, 300⟩], by decide⟩ 140
    let ended := setHeater profile lingering
    lingering.link.inner.Reliable ∧ profile.steps ≠ [] ∧ ended.1 = .ok () ∧
    (ended.2.registers.get (Register.heaterWait0 + 1)).toNat = 255 ∧
    ended.2.registers.get Register.heaterShared = HeatingTime.encodeShared 140 ∧
    ended.2.registers.get Register.ctrlMeas = 0x54 := by
  intro profile ended
  have hs : lingering.link.inner.Reliable := ⟨fun _ => rfl, rfl, rfl⟩
  have hsteps : profile.steps ≠ [] := List.cons_ne_nil _ _
  obtain ⟨hok, _, hprogrammed⟩ := (heater_programmed profile lingering hs).1 hsteps
  exact ⟨hs, hsteps, hok, hprogrammed.multiples rfl 1 _ rfl, hprogrammed.shared _ _ rfl,
    hprogrammed.asleep⟩

end Session

end AirMonitor
