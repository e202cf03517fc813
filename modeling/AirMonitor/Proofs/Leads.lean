import AirMonitor.Proofs.ConfigMirror

/-!
What an operation makes of the driver, by the way it ended. Whatever is said of the driver over
whole runs is read off these cases.
-/

namespace AirMonitor

/-- The driver with another outcome. -/
def Driver.ended (outcome : Outcome) (driver : Driver) : Driver := { driver with outcome }

/-- The operations from which nothing is learned but how they ended. -/
def Operation.asks : Operation → Bool
  | .softReset | .uniqueId | .readRegisters _ _ | .writeRegisters _ | .readMode => true
  | _ => false

/-- The operations that leave nothing behind but an outcome when they fail. -/
def Operation.plain : Operation → Bool
  | .setMode _ | .readConfig | .setHeater _ => true
  | operation => operation.asks

theorem Operation.plain_of_asks {operation : Operation} (h : operation.asks = true) :
    operation.plain = true := by
  cases operation with
  | setMode mode => rfl
  | readConfig => rfl
  | setHeater profile => rfl
  | _ => exact h

namespace Session

variable {σ : Type}

theorem attempt_cases (program : Link σ α) (learn : α → Driver → Driver) (s : Session σ) :
    (∃ a, (program s.link).1 = .ok a ∧ (attempt program learn s).1 = .ok a ∧
      (attempt program learn s).2.driver = learn a (s.driver.ended .success)) ∨
    ∃ e, (program s.link).1 = .error e ∧ (attempt program learn s).1 = .error e ∧
      (attempt program learn s).2.driver = s.driver.ended (.failure e) := by
  cases hr : (program s.link).1 with
  | ok a =>
    have hdriver : (attempt program learn s).2.driver =
        s.driver.conclude learn (program s.link).1 := rfl
    rw [hr] at hdriver
    exact .inl ⟨a, rfl, hr, hdriver⟩
  | error e =>
    have hdriver : (attempt program learn s).2.driver =
        s.driver.conclude learn (program s.link).1 := rfl
    rw [hr] at hdriver
    exact .inr ⟨e, rfl, hr, hdriver⟩

theorem attempt_bind {program : Link σ α} {learn : α → Driver → Driver}
    {next : Except SensorError α → StateM (Session σ) β} {P : Driver → Prop} {s : Session σ}
    (hok : ∀ a t, t.driver = learn a (s.driver.ended .success) → P (next (.ok a) t).2.driver)
    (herror : ∀ e t, t.driver = s.driver.ended (.failure e) → P (next (.error e) t).2.driver) :
    P ((attempt program learn >>= next) s).2.driver := by
  rw [bind_run]
  rcases attempt_cases program learn s with ⟨a, _, hreply, hdriver⟩ | ⟨e, _, hreply, hdriver⟩
  · rw [hreply]
    exact hok a _ hdriver
  · rw [hreply]
    exact herror e _ hdriver

variable [Transport σ]

/-- The reply to an operation, and the driver after it. -/
inductive Leads (s : Session σ) : Operation → Except SensorError Reply → Driver → Prop where
  | assumed (celsius : Int8) :
    Leads s (.setAmbient celsius) (.ok .done) { s.driver with ambient := celsius }
  | delivered : Leads s .nextField
    (.ok (.field s.driver.nextField.1.1 s.driver.nextField.1.2)) s.driver.nextField.2
  | told {operation : Operation} (h : operation.asks = true) (reply : Reply) :
    Leads s operation (.ok reply) (s.driver.ended .success)
  | mirrored (config : Config) :
    Leads s .readConfig (.ok (.config config)) ((s.driver.ended .success).withConfig config)
  | started (mode : Mode) :
    Leads s (.setMode mode) (.ok .done) ((s.driver.ended .success).withMode mode)
  | changed {operation : Operation} (h : operation.change?.isSome) (config : Config) :
    Leads s operation (.ok .done) ((s.driver.ended .success).withConfig config)
  | heated (profile : HeaterProfile) :
    Leads s (.setHeater profile) (.ok .done) ((s.driver.ended .success).withHeater profile)
  | fetched {blocks : List FieldBlock}
    (h : (Link.readFields s.driver.lastMode s.link).1 = .ok blocks) (count : Nat) :
    Leads s .fetch (.ok (.fetched count))
      ((s.driver.withoutFields.ended .success).withFields blocks)
  | unfetched (e : SensorError) :
    Leads s .fetch (.error e) (s.driver.withoutFields.ended (.failure e))
  /-- The configuration could not be read. -/
  | skipped {operation : Operation} (h : operation.change?.isSome)
    (hread : ∀ config, (readConfig s).1 ≠ .ok config) :
    Leads s operation (.error .configWriteSkipped) (s.driver.ended (.failure .commFailure))
  /-- The configuration was read, but could not be changed. -/
  | interrupted {operation : Operation} (h : operation.change?.isSome) {config : Config}
    (hread : (readConfig s).1 = .ok config) (e : SensorError) :
    Leads s operation (.error e) ((s.driver.withConfig config).ended (.failure e))
  | failed {operation : Operation} (h : operation.plain = true) (e : SensorError) :
    Leads s operation (.error e) (s.driver.ended (.failure e))

theorem attempt_leads {program : Link σ α} {learn : α → Driver → Driver} {operation : Operation}
    {s : Session σ} (hplain : operation.plain = true) (reply : α → Reply)
    (h : ∀ a, Leads s operation (.ok (reply a)) (learn a (s.driver.ended .success))) :
    Leads s operation ((attempt program learn s).1.map reply)
      (attempt program learn s).2.driver := by
  rcases attempt_cases program learn s with ⟨a, _, hreply, hdriver⟩ | ⟨e, _, hreply, hdriver⟩
  · rw [hreply, hdriver]
    exact h a
  · rw [hreply, hdriver]
    exact .failed hplain e

theorem ask_leads {program : Link σ α} {operation : Operation} (hasks : operation.asks = true)
    (reply : α → Reply) (s : Session σ) :
    Leads s operation ((ask program s).1.map reply) (ask program s).2.driver :=
  attempt_leads (Operation.plain_of_asks hasks) reply fun a => .told hasks (reply a)

theorem fetch_leads (s : Session σ) :
    Leads s .fetch ((fetch s).1.map .fetched) (fetch s).2.driver := by
  have hran : (fetch s).2.driver = s.driver.withoutFields.conclude Driver.withFields
      (Link.readFields s.driver.lastMode s.link).1 := rfl
  have hreply : (fetch s).1 = (Link.readFields s.driver.lastMode s.link).1.map fun _ =>
      (fetch s).2.driver.buffer.count := rfl
  rw [hreply, hran]
  cases hr : (Link.readFields s.driver.lastMode s.link).1 with
  | ok blocks => exact .fetched hr _
  | error e => exact .unfetched e

variable [Settling σ]

theorem changeConfig_leads {operation : Operation} {change : Config → Config}
    (h : operation.change? = some change) (s : Session σ) :
    Leads s operation ((changeConfig change s).1.map fun _ => .done)
      (changeConfig change s).2.driver := by
  have hsome : operation.change?.isSome := Option.isSome_of_eq_some h
  rw [changeConfig, bind_run]
  rcases attempt_cases Link.readConfig Driver.withConfig s with ⟨config, _, hreply, hdriver⟩ |
    ⟨e, hran, hreply, hdriver⟩
  · have hread : (readConfig s).1 = .ok config := hreply
    have hread' : (readConfig s).2.driver = (s.driver.ended .success).withConfig config := hdriver
    rw [hread]
    rcases attempt_cases (Link.writeConfig (change config))
      (fun _ => Driver.withConfig (change config)) (readConfig s).2 with
      ⟨_, _, hreply, hdriver⟩ | ⟨e, _, hreply, hdriver⟩
    · rw [hread'] at hdriver
      simp only [hreply, hdriver]
      exact .changed hsome (change config)
    · rw [hread'] at hdriver
      simp only [hreply, hdriver]
      exact .interrupted hsome hread e
  · have hread : (readConfig s).1 = .error e := hreply
    have hread' : (readConfig s).2.driver = s.driver.ended (.failure e) := hdriver
    have hcomm : e = .commFailure := Link.OnlyComm.bind
      (Link.OnlyComm.read _ (by decide) (by decide)) (fun _ => .pure _) s.link e hran
    rw [hread]
    change Leads s operation (.error .configWriteSkipped) (readConfig s).2.driver
    rw [hread', hcomm]
    exact .skipped hsome (by simp [hread])

theorem setHeater_leads (profile : HeaterProfile) (s : Session σ) :
    Leads s (.setHeater profile) ((setHeater profile s).1.map fun _ => .done)
      (setHeater profile s).2.driver := by
  obtain ⟨hreply, hdriver, _⟩ := setHeater_run profile s
  rw [hreply, hdriver]
  exact attempt_leads rfl _ fun _ => .heated profile

theorem perform_leads (operation : Operation) (s : Session σ) :
    Leads s operation (perform operation s).1 (perform operation s).2.driver := by
  cases operation with
  | softReset => exact ask_leads rfl _ s
  | uniqueId => exact ask_leads rfl _ s
  | readRegisters register length => exact ask_leads rfl _ s
  | writeRegisters pairs => exact ask_leads rfl _ s
  | readMode => exact ask_leads rfl _ s
  | setAmbient celsius => exact .assumed celsius
  | nextField => exact .delivered
  | setMode mode => exact attempt_leads rfl _ fun _ => .started mode
  | readConfig => exact attempt_leads rfl _ fun config => .mirrored config
  | setOversampling temperature pressure humidity => exact changeConfig_leads rfl s
  | setFilter filter => exact changeConfig_leads rfl s
  | setStandby standby => exact changeConfig_leads rfl s
  | setHeater profile => exact setHeater_leads profile s
  | fetch => exact fetch_leads s

end Session

end AirMonitor
