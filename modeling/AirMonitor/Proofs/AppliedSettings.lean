import AirMonitor.Node.Boot
import AirMonitor.Proofs.KnownTimes
import AirMonitor.Proofs.Turns

/-!
What is left of the settings of a node when transactions fail while its chip is set up.
-/

namespace AirMonitor

theorem Link.OnlyComm.programForced (variant : UInt8) (target : HeaterStep → UInt8)
    (step : HeaterStep) :
    OnlyComm (Link.programHeater (σ := Traced Device) variant target (.forced step)) :=
  .bind (.changeMode .sleep) fun _ =>
    .bind (.bind (.write (by simp) (by simp [Register.maxWritePairs])) fun _ => .pure _) fun _ =>
      .bind (.read _ (by decide) (by decide)) fun _ =>
        .write (by simp) (by simp [Register.maxWritePairs])

namespace Session

/-- A setting of the chip fails exactly if the bus does, and is silent otherwise. -/
def Candid (change : StateM (Session (Traced σ)) (Except SensorError Unit)) : Prop :=
  ∀ s, ∃ events lines, (change s).2.link.events = s.link.events ++ events ∧
    (change s).2.journal = s.journal ++ lines ∧
    match (change s).1 with
    | .ok _ => lines = [] ∧ events.any BusEvent.failed = false
    | .error _ => events.any BusEvent.failed = true

/-- Whatever fails in between leaves a line in the journal, and nothing else does. -/
def Noticed (s after : Session (Traced σ)) : Prop :=
  ∃ events lines, after.link.events = s.link.events ++ events ∧
    after.journal = s.journal ++ lines ∧ (lines = [] ↔ events.any BusEvent.failed = false)

instance : IsPreorder (Session (Traced σ)) Noticed where
  refl s := ⟨[], [], (List.append_nil _).symm, (List.append_nil _).symm, iff_of_true rfl rfl⟩
  trans s t u := by
    rintro ⟨events, lines, hevents, hlines, hfailed⟩ ⟨events', lines', hevents', hlines', hfailed'⟩
    refine ⟨events ++ events', lines ++ lines', ?_, ?_, ?_⟩
    · rw [hevents', hevents, List.append_assoc]
    · rw [hlines', hlines, List.append_assoc]
    · rw [List.append_eq_nil_iff, hfailed, hfailed', List.any_append, Bool.or_eq_false_iff]

theorem Noticed.silent {s t u : Session (Traced σ)} (h : Noticed s t) (h' : Noticed t u)
    (hu : u.journal = s.journal) : t.journal = s.journal ∧ u.journal = t.journal := by
  obtain ⟨_, lines, _, hlines, _⟩ := h
  obtain ⟨_, lines', _, hlines', _⟩ := h'
  rw [hlines', hlines, List.append_assoc, List.append_right_eq_self, List.append_eq_nil_iff] at hu
  obtain ⟨rfl, rfl⟩ := hu
  rw [List.append_nil] at hlines hlines'
  exact ⟨hlines, hlines'⟩

section

variable {setting : String}
  {change : StateM (Session (Traced σ)) (Except SensorError Unit)}

theorem apply_noticed (h : Candid change) : Within Noticed (apply setting change) := by
  intro s
  obtain ⟨events, lines, hevents, hlines, hreply⟩ := h s
  rw [apply, bind_run]
  cases hr : (change s).1 with
  | ok done =>
    rw [hr] at hreply
    exact ⟨events, lines, hevents, hlines, iff_of_true hreply.1 hreply.2⟩
  | error e =>
    rw [hr] at hreply
    refine ⟨events, lines ++ [⟨.warn, s!"{setting} not applied: {e.label}"⟩], hevents, ?_, ?_⟩
    · rw [← List.append_assoc, ← hlines]
      rfl
    · rw [hreply]
      simp

/-- A setting that was applied silently was applied. -/
theorem apply_silent (h : Candid change) {s : Session (Traced σ)}
    (hsilent : (apply setting change s).2.journal = s.journal) :
    (change s).1 = .ok () ∧ (apply setting change s).2 = (change s).2 := by
  obtain ⟨_, lines, _, hlines, _⟩ := h s
  rw [apply, bind_run] at *
  cases hr : (change s).1 with
  | ok done => exact ⟨rfl, rfl⟩
  | error e =>
    rw [hr] at hsilent
    have hlogged : (change s).2.journal ++ [⟨.warn, s!"{setting} not applied: {e.label}"⟩] =
      s.journal := hsilent
    rw [hlines, List.append_assoc, List.append_right_eq_self] at hlogged
    simp at hlogged

theorem apply_bind_silent (h : Candid change) {next : StateM (Session (Traced σ)) Unit}
    (hnext : Within Noticed next) {s : Session (Traced σ)}
    (hsilent : ((do apply setting change; next) s).2.journal = s.journal) :
    (change s).1 = .ok () ∧ ((do apply setting change; next) s).2 = (next (change s).2).2 ∧
      (next (change s).2).2.journal = (change s).2.journal := by
  rw [bind_run] at *
  obtain ⟨hfirst, hrest⟩ := (apply_noticed h s).silent (hnext _) hsilent
  obtain ⟨hok, hran⟩ := apply_silent h hfirst
  rw [hran] at hrest
  exact ⟨hok, congrArg (fun t => (next t).2) hran, hrest⟩

end

theorem apply_all_silent {a b c : String}
    {first second third : StateM (Session (Traced σ)) (Except SensorError Unit)}
    (hfirst : Candid first) (hsecond : Candid second) (hthird : Candid third)
    {s : Session (Traced σ)}
    (hsilent : ((do
      apply a first
      apply b second
      apply c third) s).2.journal = s.journal) :
    (first s).1 = .ok () ∧ (second (first s).2).1 = .ok () ∧
      (third (second (first s).2).2).1 = .ok () ∧ ((do
        apply a first
        apply b second
        apply c third) s).2 = (third (second (first s).2).2).2 := by
  have hlast : Within Noticed (apply c third) := apply_noticed hthird
  obtain ⟨hok, hran, hsilent⟩ :=
    apply_bind_silent hfirst (.bind (apply_noticed hsecond) fun _ => hlast) hsilent
  obtain ⟨hok', hran', hsilent⟩ := apply_bind_silent hsecond hlast hsilent
  obtain ⟨hok'', hran''⟩ := apply_silent hthird hsilent
  exact ⟨hok, hok', hok'', hran.trans (hran'.trans hran'')⟩

theorem changeConfig_candid (change : Config → Config) :
    Candid (changeConfig (σ := Traced Device) change) := by
  intro s
  have hjournal : ∃ lines, (changeConfig change s).2.journal = s.journal ++ lines ∧
      ((changeConfig change s).1.isOk → lines = []) := by
    rw [changeConfig, bind_run]
    cases hr : (readConfig s).1 with
    | error e => exact ⟨_, rfl, fun hok => by cases hok⟩
    | ok config => exact ⟨[], (List.append_nil _).symm, fun _ => rfl⟩
  obtain ⟨lines, hlines, hsilent⟩ := hjournal
  obtain ⟨⟨ending, hreply, hended⟩, _⟩ := changeConfig_ended change s
  generalize changeConfig change s = after at *
  obtain ⟨reply, after⟩ := after
  cases ending with
  | skipped =>
    cases reply with
    | ok done => cases hreply
    | error e => exact ⟨_, lines, hended.1, hlines, rfl⟩
  | interrupted =>
    cases reply with
    | ok done => cases hreply
    | error e =>
      obtain ⟨⟨later, hlater, hfailed⟩, _⟩ := hended
      exact ⟨_, lines, hlater, hlines, hfailed⟩
  | completed =>
    cases reply with
    | ok done =>
      obtain ⟨⟨later, hlater, hcarried⟩, _⟩ := hended
      exact ⟨_, lines, hlater, hlines, hsilent rfl, hcarried⟩
    | error e => cases hreply

theorem setHeater_candid (step : HeaterStep) :
    Candid (setHeater (σ := Traced Device) (.forced step)) := by
  intro s
  obtain ⟨hreply, _, hlink⟩ := setHeater_run (.forced step) s
  obtain ⟨events, hevents, hfailed⟩ :=
    Link.Reports.programHeater s.driver.variant s.driver.heaterTarget (.forced step) s.link
  have hcomm := Link.OnlyComm.programForced s.driver.variant s.driver.heaterTarget step s.link
  have hjournal : (setHeater (.forced step) s).2.journal = s.journal ++ [] := by
    rw [List.append_nil]
    simp only [setHeater, bind_run, get_run, HeaterProfile.lacksSharedTime, Bool.and_false]
    rfl
  refine ⟨events, [], hlink ▸ hevents, hjournal, ?_⟩
  have hreply : (setHeater (.forced step) s).1 = (Link.programHeater s.driver.variant
    s.driver.heaterTarget (.forced step) s.link).1 := hreply
  rw [hreply]
  cases hr : (Link.programHeater s.driver.variant s.driver.heaterTarget (.forced step)
      s.link).1 with
  | ok done =>
    rw [hr] at hfailed
    exact ⟨rfl, by simpa using hfailed⟩
  | error e =>
    obtain rfl := hcomm e hr
    exact hfailed.2 hr

end Session

def SensorSettings.over (settings : SensorSettings) (config : Config) : Config :=
  { config with
    temperature := settings.temperature
    pressure := settings.pressure
    humidity := settings.humidity
    filter := settings.filter }

namespace Session

/-- The settings of a node are those of its chip and of the driver. -/
structure Applied (settings : SensorSettings) (s after : Session (Traced Device)) : Prop where
  config : after.registers.config = settings.over s.registers.config
  known : after.Mirrors
  heating : after.registers.get Register.heaterWait0 = HeatingTime.encode settings.heaterMillis
  heater : after.driver.heater = some settings.heaterProfile
  ambient : after.driver.ambient = settings.ambient

theorem Applied.congr {settings : SensorSettings} {s t after other : Session (Traced Device)}
    (h : Applied settings s after) (hbefore : t.registers.config = s.registers.config)
    (hafter : other.unlogged = after.unlogged) : Applied settings t other := by
  obtain ⟨hdriver, hlink⟩ := Prod.mk.inj hafter
  have hregisters : other.registers = after.registers := congrArg (·.inner.registers) hlink
  constructor
  case config => rw [hregisters, hbefore, h.config]
  case known =>
    have hknown : after.driver.config = after.registers.config := h.known
    rw [← hdriver, ← hregisters] at hknown
    exact hknown
  case heating => rw [hregisters, h.heating]
  case heater => rw [hdriver, h.heater]
  case ambient => rw [hdriver, h.ambient]

/-- A reader waits for as long as the settings take. -/
theorem Applied.forcedMicros_eq {settings : SensorSettings} {s after : Session (Traced Device)}
    (h : Applied settings s after) : SharedSensor.forcedMicros after.driver =
      1963 * (settings.temperature.cycles + settings.pressure.cycles +
        settings.humidity.cycles) + 477 * 9 + 1000 + 1000 * settings.heaterMillis.toNat := by
  have hconfig : after.driver.config = settings.over s.registers.config := h.known.trans h.config
  rw [SharedSensor.forcedMicros, Driver.measurementMicros_forced, hconfig, Driver.heaterMillis,
    h.heater, Nat.mul_comm 1000]
  rfl

theorem setter_applied {operation : Operation} {change : Config → Config}
    (hchange : operation.change? = some change) {s : Session (Traced Device)}
    (h : (changeConfig change s).1 = .ok ()) :
    (changeConfig change s).2.registers.config = change s.registers.config ∧
      (changeConfig change s).2.Mirrors ∧
      (changeConfig change s).2.driver.ambient = s.driver.ambient := by
  have hchanged := changeConfig_cases change s
  have hambient := (changeConfig_leads hchange s).remembered.ambient
  have hnone : Performed.assumed? (operation, .ok .done) = none := by
    cases operation with
    | setAmbient celsius => cases hchange
    | _ => rfl
  rw [h] at hambient
  change _ = (Performed.assumed? (operation, .ok .done)).getD _ at hambient
  rw [hnone] at hambient
  generalize changeConfig change s = ended at *
  cases hchanged with
  | skipped hknown hlink => cases h
  | unsent hknown hlink => cases h
  | torn hknown hconfig hsent => cases h
  | written hknown hconfig => exact ⟨hconfig, hknown.trans hconfig.symm, hambient⟩

theorem setHeater_applied {step : HeaterStep} {s : Session (Traced Device)}
    (h : (setHeater (.forced step) s).1 = .ok ()) (hmirrors : s.Mirrors) :
    let after := (setHeater (.forced step) s).2
    after.registers.config = s.registers.config ∧ after.Mirrors ∧
      after.registers.get Register.heaterWait0 = HeatingTime.encode step.duration ∧
      after.driver.heater = some (.forced step) ∧ after.driver.ambient = s.driver.ambient := by
  intro after
  obtain ⟨hreply, _, hlink⟩ := setHeater_run (.forced step) s
  have hlink : after.link = (Link.programHeater s.driver.variant s.driver.heaterTarget
    (.forced step) s.link).2 := hlink
  have hkept := setHeater_mirrored (.forced step) s
  have hconfig : after.registers.config = s.registers.config :=
    RegisterFile.config_congr (congrArg (fun shown => shown.2.1) hkept)
  have hheated :=
    Link.programHeater_heated s.driver.variant s.driver.heaterTarget (.forced step) s.link
  have hok : (Link.programHeater s.driver.variant s.driver.heaterTarget (.forced step)
    s.link).1 = .ok () := hreply.symm.trans h
  have hled := setHeater_leads (.forced step) s
  rw [h] at hled
  rw [Link.Heated, hok, ← hlink] at hheated
  exact ⟨hconfig, (mirrors_congr hkept).2 hmirrors, hheated step rfl, hled.remembered.heater,
    hled.remembered.ambient⟩

theorem configure_noticed (settings : SensorSettings) :
    Within Noticed (configure (σ := Traced Device) settings) :=
  .bind (fun _ => ⟨[], [], (List.append_nil _).symm, (List.append_nil _).symm,
    iff_of_true rfl rfl⟩) fun _ => .bind (apply_noticed (changeConfig_candid _)) fun _ =>
      .bind (apply_noticed (changeConfig_candid _)) fun _ => apply_noticed (setHeater_candid _)

/-- What was set in silence was set. -/
theorem configure_silent {settings : SensorSettings} {s : Session (Traced Device)}
    (hsilent : (configure settings s).2.journal = s.journal) :
    Applied settings s (configure settings s).2 := by
  let step : HeaterStep := ⟨settings.heaterTemperature, settings.heaterMillis⟩
  have hrun : configure settings s = (do
      apply "Oversampling" (changeConfig fun config => { config with
        temperature := settings.temperature
        pressure := settings.pressure
        humidity := settings.humidity })
      apply "Filter" (changeConfig fun config => { config with filter := settings.filter })
      apply "Heater profile" (setHeater (.forced step)) :
        StateM (Session (Traced Device)) Unit) (setAmbient settings.ambient s).2 := by
    rw [configure, bind_run]
    rfl
  rw [hrun] at hsilent ⊢
  obtain ⟨hoversampled, hfiltered, hheated, hran⟩ := apply_all_silent (changeConfig_candid _)
    (changeConfig_candid _) (setHeater_candid step) hsilent
  have hfirst := @setter_applied (.setOversampling _ _ _) _ rfl _ hoversampled
  have hsecond := @setter_applied (.setFilter _) _ rfl _ hfiltered
  obtain ⟨hconfig, hmirrors, hheating, hheater, hambient⟩ :=
    setHeater_applied hheated hsecond.2.1
  rw [hran]
  refine ⟨?_, hmirrors, hheating, hheater, ?_⟩
  · rw [hconfig, hsecond.1, hfirst.1]
    rfl
  · rw [hambient, hsecond.2.2, hfirst.2.2]
    rfl

/-- On a bus that does not fail, everything is set. -/
theorem configure_unfailed {settings : SensorSettings} {s : Session (Traced Device)}
    (h : (configure settings s).2.link.Unfailed) : Applied settings s (configure settings s).2 := by
  obtain ⟨events, lines, hevents, hlines, hnoticed⟩ := configure_noticed settings s
  rw [Traced.Unfailed, hevents, List.any_append, Bool.or_eq_false_iff] at h
  apply configure_silent
  rw [hlines, hnoticed.2 h.2, List.append_nil]

end Session

end AirMonitor
