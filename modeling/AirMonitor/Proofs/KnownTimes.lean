import AirMonitor.Proofs.AllOrNothing
import AirMonitor.Proofs.DriverHistory
import AirMonitor.Proofs.HeatingTimes
import AirMonitor.SharedSensor

namespace AirMonitor

/-- The first heating time is that of the forced profile in force, if there is one. -/
def Driver.KnowsHeating (driver : Driver) (file : RegisterFile) : Prop :=
  ∀ step, driver.heater = some (.forced step) →
    file.get Register.heaterWait0 = HeatingTime.encode step.duration

/-- The driver knows what the chip was programmed with, as far as a wait depends on it. -/
structure Driver.Knows (driver : Driver) (file : RegisterFile) : Prop where
  cycles : driver.config.cycles = file.config.cycles
  heating : driver.KnowsHeating file

theorem HeaterProfile.forcedMillis_lt (profile : HeaterProfile) :
    profile.forcedMillis < 2 ^ 16 := by
  cases profile with
  | forced step => exact step.duration.toNat_lt
  | sequential steps => exact Nat.two_pow_pos 16
  | parallel steps sharedMillis => exact Nat.two_pow_pos 16

namespace Driver

variable {driver : Driver} {file : RegisterFile}

theorem Knows.of_reset (hconfig : driver.config = .initial) (hheater : driver.heater = none)
    (hhumidity : file.get Register.ctrlHum &&& 0x07 = 0)
    (hothers : file.get Register.ctrlMeas &&& 0xFC = 0) : driver.Knows file := by
  have hpart {mask : UInt8} (h : 0xFC &&& mask = mask) :
      file.get Register.ctrlMeas &&& mask = 0 := by
    rw [← h, ← UInt8.and_assoc, hothers, UInt8.zero_and]
  have htemperature : Register.temperatureOversampling.get (file.get Register.ctrlMeas) = 0 := by
    rw [BitField.get, hpart rfl]
    rfl
  have hpressure : Register.pressureOversampling.get (file.get Register.ctrlMeas) = 0 := by
    rw [BitField.get, hpart rfl]
    rfl
  have hhumidity : Register.humidityOversampling.get (file.get Register.ctrlHum) = 0 := by
    rw [BitField.get, show Register.humidityOversampling.mask = 0x07 from rfl, hhumidity]
    rfl
  constructor
  · rw [hconfig, RegisterFile.config_eq, htemperature, hpressure, hhumidity]
    rfl
  · intro step hstep
    rw [hheater] at hstep
    cases hstep

theorem measurementMicros_forced (driver : Driver) :
    driver.measurementMicros .forced = 1963 * driver.config.cycles + 477 * 9 + 1000 := by
  rw [Nat.mul_comm]
  rfl

/-- The wait is long enough for what the chip was programmed with. -/
theorem Knows.covered (h : driver.Knows file) {step : HeaterStep}
    (hforced : driver.heater = some (.forced step)) :
    1963 * file.config.cycles + 477 * 9 + 1000 +
      1000 * HeatingTime.unpack (file.get Register.heaterWait0) ≤
    SharedSensor.forcedMicros driver := by
  have hheating : HeatingTime.unpack (file.get Register.heaterWait0) ≤ driver.heaterMillis := by
    rw [h.heating step hforced, heaterMillis, hforced]
    exact HeatingTime.unpack_encode_le step.duration
  rw [SharedSensor.forcedMicros, measurementMicros_forced, h.cycles]
  omega

theorem forcedMicros_lt (driver : Driver) : SharedSensor.forcedMicros driver < 2 ^ 32 := by
  have hcycles := driver.config.cycles_le
  have hheating : driver.heaterMillis < 2 ^ 16 := by
    rw [heaterMillis]
    cases driver.heater with
    | none => decide
    | some profile => exact profile.forcedMillis_lt
  rw [SharedSensor.forcedMicros, measurementMicros_forced]
  omega

end Driver

/-- Whatever went over the bus so far was carried. -/
def Traced.Unfailed (t : Traced σ) : Prop := t.events.any BusEvent.failed = false

namespace Traced

variable {t u : Traced σ}

theorem Unfailed.of_grown (h : t.Grown u) (hu : u.Unfailed) : t.Unfailed := by
  obtain ⟨later, hlater⟩ := h
  rw [Unfailed, ← hlater, List.any_append, Bool.or_eq_false_iff] at hu
  exact hu.1

theorem Reported.grown {ended : Except SensorError α × Traced σ} (h : t.Reported ended) :
    t.Grown ended.2 := by
  obtain ⟨later, hlater, _⟩ := h
  exact ⟨later, hlater.symm⟩

theorem Reported.ne_commFailure {ended : Except SensorError α × Traced σ} (h : t.Reported ended)
    (hu : ended.2.Unfailed) : ended.1 ≠ .error .commFailure := by
  obtain ⟨later, hlater, hfailed⟩ := h
  rw [Unfailed, hlater, List.any_append, Bool.or_eq_false_iff] at hu
  intro hreply
  rw [hfailed.2 hreply] at hu
  cases hu.2

end Traced

/-- The register of the first heating time. -/
def RegisterBits.firstWait : RegisterBits := fun address =>
  if address = Register.heaterWait0 then 0xFF else 0

theorem RegisterBits.mode_apart_firstWait : mode.Apart firstWait := by decide +kernel

theorem RegisterFile.get_of_firstWait {file other : RegisterFile}
    (h : file.bits .firstWait = other.bits .firstWait) :
    file.get Register.heaterWait0 = other.get Register.heaterWait0 := by
  have h := @and_of_bits _ _ _ h Register.heaterWait0 (-1) rfl
  rwa [UInt8.and_neg_one, UInt8.and_neg_one] at h

namespace Link

/-- How programming a heater can end: the first heating time is that of the profile, or it is the
one there was before, unless the bus failed. -/
def Heated (profile : HeaterProfile) (before : UInt8)
    (ended : Except SensorError α × Traced Device) : Prop :=
  match ended.1 with
  | .ok _ => ∀ step, profile = .forced step →
    ended.2.inner.registers.get Register.heaterWait0 = HeatingTime.encode step.duration
  | .error e => e = .commFailure ∨ ended.2.inner.registers.get Register.heaterWait0 = before

variable {profile : HeaterProfile} {before : UInt8}

theorem heated_bind {first : Link (Traced Device) α} {next : α → Link (Traced Device) β}
    (hcomm : OnlyComm first) (hkeeps : Within (Same (Traced.shown .firstWait)) first)
    (hnext : ∀ a t, Heated profile (t.inner.registers.get Register.heaterWait0) (next a t))
    (t : Traced Device) : Heated profile (t.inner.registers.get Register.heaterWait0)
      ((first >>= next : Link (Traced Device) β) t) := by
  have hkept := RegisterFile.get_of_firstWait (congrArg Prod.fst (hkeeps t))
  rw [bind_apply]
  cases hr : (first t).1 with
  | ok a =>
    have h := hnext a (first t).2
    rwa [hkept] at h
  | error e => exact .inl (hcomm t e hr)

theorem Heated.bind {first : Link (Traced Device) α} {next : α → Link (Traced Device) β}
    {t : Traced Device} (h : Heated profile before (first t)) (hcomm : ∀ a, OnlyComm (next a))
    (hkeeps : ∀ a, Within (Same (Traced.shown .firstWait)) (next a)) :
    Heated profile before ((first >>= next : Link (Traced Device) β) t) := by
  rw [Heated] at h
  rw [bind_apply]
  cases hr : (first t).1 with
  | error e =>
    rw [hr] at h
    exact h
  | ok a =>
    rw [hr] at h
    have hkept := RegisterFile.get_of_firstWait (congrArg Prod.fst (hkeeps a (first t).2))
    rw [Heated]
    simp only
    cases hn : (next a (first t).2).1 with
    | ok b =>
      intro step hstep
      rw [hkept]
      exact h step hstep
    | error e => exact .inl (hcomm a _ e hn)

theorem writeSteps_error {target wait : HeaterStep → UInt8} {steps : HeaterSteps}
    {t : Traced Device} {e : SensorError} (h : (writeSteps target wait steps.1 t).1 = .error e) :
    e = .commFailure ∨ (writeSteps target wait steps.1 t).2 = t := by
  by_cases hempty : steps.1 = []
  · rw [hempty]
    exact .inr rfl
  · have hwrite (register : UInt8) (code : HeaterStep → UInt8) :
        OnlyComm (write (σ := Traced Device) (consecutive register (steps.1.map code))) :=
      .write (heater_fits hempty register code).1 (heater_fits hempty register code).2
    exact .inl (OnlyComm.bind (hwrite _ _) (fun _ => hwrite _ _) t e h)

/-- Steps that are refused are not written. -/
theorem writeSteps_heated (h : ∀ step, profile ≠ .forced step) (target wait : HeaterStep → UInt8)
    (steps : HeaterSteps) (t : Traced Device) :
    Heated profile (t.inner.registers.get Register.heaterWait0)
      (writeSteps target wait steps.1 t) := by
  rw [Heated]
  cases hr : (writeSteps target wait steps.1 t).1 with
  | ok _ =>
    intro step hstep
    exact (h step hstep).elim
  | error e =>
    rcases writeSteps_error hr with he | hsame
    · exact .inl he
    · rw [hsame]
      exact .inr rfl

theorem write_forced_heated (target : UInt8) (step : HeaterStep) (t : Traced Device) :
    Heated (.forced step) before (write [(Register.heaterTarget0, target),
      (Register.heaterWait0, HeatingTime.encode step.duration)] t) := by
  rcases write_cases [(Register.heaterTarget0, target),
    (Register.heaterWait0, HeatingTime.encode step.duration)] t with ⟨hlength, _⟩ | ⟨_, _, hw | hw⟩
  · simp [Register.maxWritePairs] at hlength
  · rw [hw]
    exact .inl rfl
  · rw [hw]
    intro other hother
    obtain rfl := HeaterProfile.forced.inj hother
    have hother : ∀ pair ∈ [(Register.heaterTarget0, target),
        (Register.heaterWait0, HeatingTime.encode step.duration)], pair.1 ≠ Register.ctrlMeas := by
      simp only [List.mem_cons, List.not_mem_nil, or_false, forall_eq_or_imp, forall_eq]
      decide
    rw [Device.storeAll_asleep fun pair hpair he => absurd he (hother pair hpair)]
    exact RegisterFile.get_set_self _ _ _

theorem writeProfile_heated (target : HeaterStep → UInt8) (profile : HeaterProfile)
    (t : Traced Device) : Heated profile (t.inner.registers.get Register.heaterWait0)
      (writeProfile target profile t) := by
  cases profile with
  | forced step =>
    exact (write_forced_heated (target step) step t).bind (fun _ => .pure _) fun _ => within_pure _
  | sequential steps =>
    exact (writeSteps_heated (by simp) _ _ steps t).bind (fun _ => .pure _) fun _ => within_pure _
  | parallel steps sharedMillis =>
    have hshared : Within (Same (Traced.shown .firstWait)) (write (σ := Traced Device)
        [(Register.heaterShared, HeatingTime.encodeShared sharedMillis)]) := fun t =>
      write_one_keeps RegisterBits.mode_apart_firstWait (by decide)
        (UInt8.and_zero.trans UInt8.and_zero.symm)
    apply (writeSteps_heated (by simp) _ _ steps t).bind
    · exact fun _ => .bind (.write (by simp) (by simp [Register.maxWritePairs])) fun _ => .pure _
    · exact fun _ => within_bind hshared fun _ => within_pure _

theorem programHeater_heated (variant : UInt8) (target : HeaterStep → UInt8)
    (profile : HeaterProfile) (t : Traced Device) :
    Heated profile (t.inner.registers.get Register.heaterWait0)
      (programHeater variant target profile t) := by
  have hmode := RegisterBits.mode_apart_firstWait
  apply heated_bind (.changeMode .sleep) (changeMode_keeps hmode .sleep)
  intro _ t
  apply (writeProfile_heated target profile t).bind
  · exact fun _ => .bind (.read _ (by decide) (by decide)) fun _ =>
      .write (by simp) (by simp [Register.maxWritePairs])
  · intro steps
    apply within_bind (read_keeps _ _)
    intro control t
    apply write_keeps hmode
    · rintro _ ⟨⟩
      exact (by decide : Register.ctrlGas0 ≠ Register.ctrlGas1)
    · intro pair hpair
      simp only [List.mem_cons, List.not_mem_nil, or_false] at hpair
      rcases hpair with rfl | rfl
      · exact UInt8.and_zero.trans UInt8.and_zero.symm
      · exact UInt8.and_zero.trans UInt8.and_zero.symm

end Link

/-- The operations that leave the registers to the driver. -/
inductive Operation.Contained : Operation → Prop where
  | setMode (mode : Mode) : Contained (.setMode mode)
  | readConfig : Contained .readConfig
  | setter {operation : Operation} {change : Config → Config}
    (h : operation.change? = some change) : Contained operation
  | setHeater (profile : HeaterProfile) : Contained (.setHeater profile)
  | fetch : Contained .fetch
  | nextField : Contained .nextField

namespace Session

variable {s t u : Session (Traced Device)} {operation : Operation}

theorem changeConfig_grown (change : Config → Config) (s : Session (Traced Device)) :
    s.link.Grown (changeConfig change s).2.link := by
  obtain ⟨⟨ending, _, hended⟩, _⟩ := changeConfig_ended change s
  cases ending with
  | skipped => exact ⟨_, hended.1.symm⟩
  | interrupted =>
    obtain ⟨⟨later, hlater, _⟩, _⟩ := hended
    exact ⟨_, hlater.symm⟩
  | completed =>
    obtain ⟨⟨later, hlater, _⟩, _⟩ := hended
    exact ⟨_, hlater.symm⟩

theorem perform_grown (h : operation.Contained) (s : Session (Traced Device)) :
    s.link.Grown (perform operation s).2.link := by
  cases h with
  | setMode mode => exact (Link.Reports.changeMode mode s.link).grown
  | readConfig => exact (Link.Reports.readConfig s.link).grown
  | setter hchange =>
    rw [perform_of_change hchange]
    exact changeConfig_grown _ s
  | setHeater profile =>
    have hlink : (perform (.setHeater profile) s).2.link = _ := (setHeater_run profile s).2.2
    rw [hlink]
    exact (Link.Reports.programHeater _ _ profile s.link).grown
  | fetch => exact (Link.Reports.readFields _ s.link).grown
  | nextField => exact List.prefix_refl _

/-- A setter succeeds unless the bus fails. -/
theorem setter_reply {change : Config → Config} (hchange : operation.change? = some change)
    (hu : (perform operation s).2.link.Unfailed) : (perform operation s).1 = .ok .done := by
  obtain ⟨⟨ending, hreply, hended⟩, _⟩ := changeConfig_ended change s
  rw [perform_of_change hchange, Traced.Unfailed] at hu
  rw [perform_of_change hchange]
  cases ending with
  | skipped =>
    rw [hended.1, List.any_append] at hu
    simp [BusEvent.failed] at hu
  | interrupted =>
    obtain ⟨⟨later, hlater, hfailed⟩, _⟩ := hended
    rw [hlater, List.any_append, List.any_cons, hfailed] at hu
    simp at hu
  | completed => exact hreply

theorem setter_mirrors {change : Config → Config} (hchange : operation.change? = some change)
    (hu : (perform operation s).2.link.Unfailed) : (perform operation s).2.Mirrors := by
  have hreply := setter_reply hchange hu
  have htold : Told operation s := by
    rw [Told, hreply]
    exact .inl ⟨rfl, .inr (Option.isSome_of_eq_some hchange)⟩
  apply (mirrors_of_told htold).2
  intro htorn
  cases hreply.symm.trans htorn.1

/-- Unless the bus fails, the configuration is known afterwards, or it is neither changed nor
learned. -/
theorem perform_config (hcontained : operation.Contained)
    (hu : (perform operation s).2.link.Unfailed) :
    (perform operation s).2.Mirrors ∨ Same mirrored s (perform operation s).2 := by
  cases hcontained with
  | setMode mode => exact .inr (setMode_mirrored mode s)
  | setHeater profile => exact .inr (setHeater_mirrored profile s)
  | fetch => exact .inr (fetch_mirrored s)
  | setter hchange => exact .inl (setter_mirrors hchange hu)
  | readConfig =>
    cases hr : (Link.readConfig s.link).1 with
    | ok config =>
      apply Or.inl
      apply mirrors_of_readConfig
      change ((Link.readConfig s.link).1.map Reply.config).isOk
      rw [hr]
      rfl
    | error e =>
      have hknown := readConfig_known s
      rw [hr] at hknown
      exact .inr (Prod.ext hknown (Link.readConfig_keeps s.link))
  | nextField =>
    refine .inr (Prod.ext ?_ rfl)
    change s.driver.nextField.2.config = s.driver.config
    rw [Driver.nextField]
    split <;> rfl

/-- Only programming a heater changes the first heating time. -/
theorem perform_wait (hcontained : operation.Contained)
    (hheater : ∀ profile, operation ≠ .setHeater profile) :
    (perform operation s).2.registers.get Register.heaterWait0 =
      s.registers.get Register.heaterWait0 := by
  have hkeeps {α : Type} {program : Link (Traced Device) α}
      (h : Within (Same (Traced.shown .firstWait)) program) :
      (program s.link).2.inner.registers.get Register.heaterWait0 =
        s.registers.get Register.heaterWait0 :=
    RegisterFile.get_of_firstWait (congrArg Prod.fst (h s.link))
  cases hcontained with
  | setMode mode =>
    exact hkeeps (Link.changeMode_keeps RegisterBits.mode_apart_firstWait mode)
  | readConfig => exact hkeeps Link.readConfig_keeps
  | setter hchange =>
    rw [perform_of_change hchange]
    exact RegisterFile.get_of_outside (changeConfig_ended _ s).2 (.inl (by decide))
  | setHeater profile => exact (hheater profile rfl).elim
  | fetch => exact hkeeps (Link.readFields_keeps _)
  | nextField => rfl

theorem setHeater_heating {profile : HeaterProfile}
    (hu : (perform (.setHeater profile) s).2.link.Unfailed)
    (h : s.driver.KnowsHeating s.registers) :
    (perform (.setHeater profile) s).2.driver.KnowsHeating
      (perform (.setHeater profile) s).2.registers := by
  obtain ⟨hreply, _, hlink⟩ := setHeater_run profile s
  have hheater := (perform_leads (.setHeater profile) s).remembered.heater
  have hheated := Link.programHeater_heated s.driver.variant s.driver.heaterTarget profile s.link
  have hreported :=
    Link.Reports.programHeater s.driver.variant s.driver.heaterTarget profile s.link
  have hlink : (perform (.setHeater profile) s).2.link = (Link.programHeater s.driver.variant
      s.driver.heaterTarget profile s.link).2 := hlink
  have hreply : (perform (.setHeater profile) s).1 = (Link.programHeater s.driver.variant
      s.driver.heaterTarget profile s.link).1.map fun _ => .done :=
    congrArg (Except.map fun _ => Reply.done) hreply
  rw [hreply] at hheater
  rw [hlink] at hu
  rw [Link.Heated] at hheated
  intro step hstep
  rw [registers, hlink]
  cases hr : (Link.programHeater s.driver.variant s.driver.heaterTarget profile s.link).1 with
  | ok done =>
    rw [hr] at hheater hheated
    exact hheated step (Option.some.inj (hheater.symm.trans hstep))
  | error e =>
    rw [hr] at hheater hheated
    -- A profile that is refused leaves the one in force, and its heating time too.
    rcases hheated with rfl | hkept
    · exact (hreported.ne_commFailure hu hr).elim
    · exact hkept.trans (h step (hheater.symm.trans hstep))

theorem perform_heating (hcontained : operation.Contained)
    (hu : (perform operation s).2.link.Unfailed)
    (h : s.driver.KnowsHeating s.registers) :
    (perform operation s).2.driver.KnowsHeating (perform operation s).2.registers := by
  by_cases hheater : ∃ profile, operation = .setHeater profile
  · obtain ⟨profile, rfl⟩ := hheater
    exact setHeater_heating hu h
  · have hother : ∀ profile, operation ≠ .setHeater profile :=
      fun profile he => hheater ⟨profile, he⟩
    have hkept := (perform_leads operation s).remembered.heater
    have hnone : Performed.programmed? (operation, (perform operation s).1) = none := by
      cases operation with
      | setHeater profile => exact (hother profile rfl).elim
      | _ => rfl
    rw [hnone] at hkept
    intro step hstep
    rw [perform_wait hcontained hother]
    exact h step (hkept.symm.trans hstep)

theorem perform_knows (hcontained : operation.Contained)
    (hu : (perform operation s).2.link.Unfailed) (h : s.driver.Knows s.registers) :
    (perform operation s).2.driver.Knows (perform operation s).2.registers := by
  constructor
  · rcases perform_config hcontained hu with hmirrors | hsame
    · exact congrArg Config.cycles hmirrors
    · have hknown : (perform operation s).2.driver.config = s.driver.config :=
        congrArg Prod.fst hsame
      have hconfig : (perform operation s).2.registers.config = s.registers.config :=
        RegisterFile.config_congr (congrArg (fun shown => shown.2.1) hsame)
      rw [hknown, hconfig]
      exact h.cycles
  · exact perform_heating hcontained hu h.heating

/-- Nothing that is on the bus gets lost, and unless the bus fails the driver goes on to know what
the chip was programmed with. -/
def Informed (s t : Session (Traced Device)) : Prop :=
  s.link.Grown t.link ∧
    (t.link.Unfailed → s.driver.Knows s.registers → t.driver.Knows t.registers)

theorem Informed.refl (s : Session (Traced Device)) : s.Informed s :=
  ⟨List.prefix_refl _, fun _ h => h⟩

theorem Informed.trans (hs : s.Informed t) (ht : t.Informed u) : s.Informed u :=
  ⟨hs.1.trans ht.1, fun hu h => ht.2 hu (hs.2 (.of_grown ht.1 hu) h)⟩

theorem Informed.of_perform (hcontained : operation.Contained)
    (s : Session (Traced Device)) : s.Informed (perform operation s).2 :=
  ⟨perform_grown hcontained s, perform_knows hcontained⟩

end Session

end AirMonitor
