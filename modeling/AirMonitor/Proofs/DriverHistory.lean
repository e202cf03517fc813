import AirMonitor.Proofs.Leads

namespace AirMonitor

/-- An operation, with what came of it. -/
abbrev Performed := Operation × Except SensorError Reply

namespace Performed

def started? : Performed → Option Mode
  | (.setMode mode, .ok _) => if mode = .sleep then none else some mode
  | _ => none

def programmed? : Performed → Option HeaterProfile
  | (.setHeater profile, .ok _) => some profile
  | _ => none

/-- The ambient temperature that was assumed from then on. -/
def assumed? : Performed → Option Int8
  | (.setAmbient celsius, .ok _) => some celsius
  | _ => none

/-- What the driver remembers for good of an operation. -/
structure Remembered (performed : Performed) (before after : Driver) : Prop where
  lastMode : after.lastMode = performed.started?.getD before.lastMode
  heater : after.heater = (performed.programmed?.map some).getD before.heater
  ambient : after.ambient = performed.assumed?.getD before.ambient
  calibration : after.calibration = before.calibration
  variant : after.variant = before.variant

theorem Remembered.of_asks {operation : Operation} (h : operation.asks = true) (reply : Reply)
    (driver : Driver) (outcome : Outcome) :
    Remembered (operation, .ok reply) driver (driver.ended outcome) := by
  cases operation with
  | setMode mode => cases h
  | setHeater profile => cases h
  | setAmbient celsius => cases h
  | _ => exact ⟨rfl, rfl, rfl, rfl, rfl⟩

theorem Remembered.of_change {operation : Operation} (h : operation.change?.isSome)
    (reply : Except SensorError Reply) (driver : Driver) (config : Config) (outcome : Outcome) :
    Remembered (operation, reply) driver ((driver.withConfig config).ended outcome) := by
  cases operation with
  | setOversampling temperature pressure humidity => exact ⟨rfl, rfl, rfl, rfl, rfl⟩
  | setFilter filter => exact ⟨rfl, rfl, rfl, rfl, rfl⟩
  | setStandby standby => exact ⟨rfl, rfl, rfl, rfl, rfl⟩
  | _ => cases h

theorem Remembered.of_error (operation : Operation) (e : SensorError) (driver : Driver)
    (outcome : Outcome) : Remembered (operation, .error e) driver (driver.ended outcome) := by
  cases operation <;> exact ⟨rfl, rfl, rfl, rfl, rfl⟩

end Performed

namespace Session

variable {σ : Type} [Transport σ]

theorem Leads.remembered {s : Session σ} {operation : Operation}
    {reply : Except SensorError Reply} {driver : Driver} (h : Leads s operation reply driver) :
    Performed.Remembered (operation, reply) s.driver driver := by
  cases h with
  | assumed celsius => exact ⟨rfl, rfl, rfl, rfl, rfl⟩
  | delivered =>
    have hnext :
        s.driver.nextField.2 = { s.driver with buffer := s.driver.nextField.2.buffer } := by
      rw [Driver.nextField]
      split <;> rfl
    rw [hnext]
    exact ⟨rfl, rfl, rfl, rfl, rfl⟩
  | told h reply => exact .of_asks h reply s.driver .success
  | mirrored config => exact ⟨rfl, rfl, rfl, rfl, rfl⟩
  | started mode =>
    rw [Driver.withMode]
    split
    · next hsleep =>
      have hnone : Performed.started? (.setMode mode, .ok .done) = none := if_pos hsleep
      exact ⟨by rw [hnone]; rfl, rfl, rfl, rfl, rfl⟩
    · next hmode =>
      have hsome : Performed.started? (.setMode mode, .ok .done) = some mode := if_neg hmode
      exact ⟨by rw [hsome]; rfl, rfl, rfl, rfl, rfl⟩
  | changed h config => exact .of_change h _ s.driver config .success
  | heated profile => exact ⟨rfl, rfl, rfl, rfl, rfl⟩
  | fetched h count => exact ⟨rfl, rfl, rfl, rfl, rfl⟩
  | unfetched e => exact ⟨rfl, rfl, rfl, rfl, rfl⟩
  | skipped h hread => exact .of_error operation _ s.driver _
  | interrupted h hread e => exact .of_change h _ s.driver _ _
  | failed h e => exact .of_error operation e s.driver _

/-- What is left of the driver by an operation that fails, but for the outcome: a fetch has emptied
the buffer, and a setter has taken note of the configuration if it could be read. -/
def spared (operation : Operation) (s : Session σ) : Driver :=
  match operation with
  | .fetch => { s.driver with buffer := s.driver.buffer.clear }
  | .setOversampling _ _ _ | .setFilter _ | .setStandby _ =>
    { s.driver with config := (readConfig s).1.toOption.getD s.driver.config }
  | _ => s.driver

theorem spared_of_change {operation : Operation} (h : operation.change?.isSome) (s : Session σ) :
    s.spared operation =
      { s.driver with config := (readConfig s).1.toOption.getD s.driver.config } := by
  cases operation with
  | setOversampling temperature pressure humidity => rfl
  | setFilter filter => rfl
  | setStandby standby => rfl
  | _ => cases h

theorem spared_of_plain {operation : Operation} (h : operation.plain = true) (s : Session σ) :
    s.spared operation = s.driver := by
  cases operation with
  | setOversampling temperature pressure humidity => cases h
  | setFilter filter => cases h
  | setStandby standby => cases h
  | fetch => cases h
  | _ => rfl

theorem Leads.spared {s : Session σ} {operation : Operation} {e : SensorError} {driver : Driver}
    (h : Leads s operation (.error e) driver) :
    ∃ outcome, driver = { s.spared operation with outcome } := by
  cases h with
  | unfetched e => exact ⟨.failure e, rfl⟩
  | skipped h hread =>
    have hspared := spared_of_change h s
    cases hr : (readConfig s).1 with
    | ok config => exact (hread config hr).elim
    | error e =>
      rw [hr] at hspared
      rw [hspared]
      exact ⟨_, rfl⟩
  | interrupted h hread e =>
    have hspared := spared_of_change h s
    rw [hread] at hspared
    rw [hspared]
    exact ⟨_, rfl⟩
  | failed h e =>
    rw [spared_of_plain h]
    exact ⟨_, rfl⟩

/-- A driver that has just been connected knows nothing but the chip it is for. -/
theorem connect_driver (s : Session σ) : ∃ variant calibration outcome,
    (connect s).2.driver = { s.driver with variant, calibration, outcome } := by
  have hask (t : Session σ) : ∃ outcome, (uniqueId t).2.driver = t.driver.ended outcome := by
    rcases attempt_cases Link.uniqueId (fun _ driver => driver) t with ⟨_, _, _, h⟩ | ⟨e, _, _, h⟩
    · exact ⟨_, h⟩
    · exact ⟨_, h⟩
  rw [connect, bind_run]
  apply attempt_bind (P := fun driver => ∃ variant calibration outcome,
    driver = { s.driver with variant, calibration, outcome })
  · rintro ⟨variant, calibration⟩ t ht
    obtain ⟨outcome, hasked⟩ := hask t
    refine ⟨variant, calibration, outcome, ?_⟩
    apply hasked.trans
    rw [ht]
    rfl
  · intro e t ht
    refine ⟨s.driver.variant, s.driver.calibration, .failure e, ?_⟩
    apply Eq.trans _ ht
    simp only
    split <;> rfl

variable [Settling σ]

/-- The operations of a run with what came of them, oldest first. -/
def history (operations : List Operation) (s : Session σ) : List Performed :=
  operations.zip (performAll operations s).1

theorem history_cons (operation : Operation) (rest : List Operation) (s : Session σ) :
    history (operation :: rest) s =
      (operation, (perform operation s).1) :: history rest (perform operation s).2 := by
  simp only [history, performAll, List.mapM_cons, bind_run, pure_run, List.zip_cons_cons]

/-- What each operation may put in place of a view of the driver, a run puts there by the last
operation that does. -/
theorem view_of_history {view : Driver → γ} {put : β → γ} {pick : Performed → Option β}
    (hstep : ∀ operation (s : Session σ), view (perform operation s).2.driver =
      ((pick (operation, (perform operation s).1)).map put).getD (view s.driver))
    (operations : List Operation) (s : Session σ) :
    view (performAll operations s).2.driver =
      (((history operations s).filterMap pick).getLast?.map put).getD (view s.driver) := by
  induction operations generalizing s with
  | nil => rfl
  | cons operation rest ih =>
    rw [performAll_cons, ih, hstep, history_cons]
    -- What the rest of the run picks overrules what this operation did.
    cases hpick : pick (operation, (perform operation s).1) with
    | none => rw [List.filterMap_cons_none hpick, Option.map_none, Option.getD_none]
    | some value =>
      rw [List.filterMap_cons_some hpick, List.getLast?_cons]
      cases ((history rest (perform operation s).2).filterMap pick).getLast? <;> rfl

theorem last_of_history {view : Driver → β} {pick : Performed → Option β}
    (hstep : ∀ operation (s : Session σ), view (perform operation s).2.driver =
      (pick (operation, (perform operation s).1)).getD (view s.driver))
    (operations : List Operation) (s : Session σ) :
    view (performAll operations s).2.driver =
      ((history operations s).filterMap pick).getLastD (view s.driver) := by
  have h := @view_of_history σ _ _ _ _ view id pick (by simpa using hstep) operations s
  rwa [Option.map_id_apply, ← List.getLastD_eq_getLast?] at h

theorem lastMode_of_history (operations : List Operation) (s : Session σ) :
    (performAll operations s).2.driver.lastMode =
      ((history operations s).filterMap Performed.started?).getLastD s.driver.lastMode :=
  last_of_history (fun operation s => (perform_leads operation s).remembered.lastMode) operations s

theorem heater_of_history (operations : List Operation) (s : Session σ) :
    (performAll operations s).2.driver.heater =
      (((history operations s).filterMap Performed.programmed?).getLast?.map some).getD
        s.driver.heater :=
  view_of_history (fun operation s => (perform_leads operation s).remembered.heater) operations s

theorem ambient_of_history (operations : List Operation) (s : Session σ) :
    (performAll operations s).2.driver.ambient =
      ((history operations s).filterMap Performed.assumed?).getLastD s.driver.ambient :=
  last_of_history (fun operation s => (perform_leads operation s).remembered.ambient) operations s

theorem identity_of_history (operations : List Operation) (s : Session σ) :
    (performAll operations s).2.driver.calibration = s.driver.calibration ∧
      (performAll operations s).2.driver.variant = s.driver.variant := by
  induction operations generalizing s with
  | nil => exact ⟨rfl, rfl⟩
  | cons operation rest ih =>
    have hstep := (perform_leads operation s).remembered
    rw [performAll_cons]
    exact ⟨(ih _).1.trans hstep.calibration, (ih _).2.trans hstep.variant⟩

/-- The mode last started and the heater profile are those of the last operations that succeeded in
setting them, whatever the others did to the chip, and an operation that fails leaves everything
but the outcome. -/
theorem driver_of_history (link : σ) (operations : List Operation) :
    let s := (connect ({ link } : Session σ)).2
    let past := history operations s
    let after := (performAll operations s).2
    after.driver.lastMode = (past.filterMap Performed.started?).getLastD .sleep ∧
    after.driver.heater = (past.filterMap Performed.programmed?).getLast? ∧
    after.driver.calibration = s.driver.calibration ∧
    after.driver.variant = s.driver.variant ∧
    after.driver.ambient = (past.filterMap Performed.assumed?).getLastD 25 ∧
    ∀ operation e, (perform operation after).1 = .error e →
      ∃ outcome, (perform operation after).2.driver = { after.spared operation with outcome } := by
  intro s past after
  obtain ⟨variant, calibration, outcome, hdriver⟩ := connect_driver ({ link } : Session σ)
  have hs : s.driver = _ := hdriver
  have hmode : s.driver.lastMode = .sleep := congrArg Driver.lastMode hs
  have hheater : s.driver.heater = none := congrArg Driver.heater hs
  have hambient : s.driver.ambient = 25 := congrArg Driver.ambient hs
  obtain ⟨hcalibration, hvariant⟩ := identity_of_history operations s
  refine ⟨?_, ?_, hcalibration, hvariant, ?_, ?_⟩
  · rw [← hmode]
    exact lastMode_of_history operations s
  · have h := heater_of_history operations s
    rw [hheater] at h
    apply h.trans
    cases (past.filterMap Performed.programmed?).getLast? <;> rfl
  · rw [← hambient]
    exact ambient_of_history operations s
  · intro operation e hreply
    have h := perform_leads operation after
    rw [hreply] at h
    exact h.spared

/-- A chip on a bus that fails when a setter is about to resume the mode. -/
def unresumed : Device := Device.supported.schedule (· == 17)

def unresumedAfter (operations : List Operation) : Session Device :=
  (performAll operations (connect { link := unresumed }).2).2

set_option maxRecDepth 100000 in
/-- The chip is left asleep, which is no mode that was started last. -/
theorem driver_of_history_unresumed :
    (perform (.setFilter .size3) (unresumedAfter [.setMode .forced])).1 = .error .commFailure ∧
    (∃ outcome, (perform (.setFilter .size3) (unresumedAfter [.setMode .forced])).2.driver =
      { (unresumedAfter [.setMode .forced]).spared (.setFilter .size3) with outcome }) ∧
    (unresumedAfter [.setMode .forced, .setFilter .size3]).link.modeBits = 0 ∧
    (unresumedAfter [.setMode .forced, .setFilter .size3]).driver.lastMode = .forced := by
  have hfailed : (perform (.setFilter .size3) (unresumedAfter [.setMode .forced])).1 =
      .error .commFailure := by cbv
  have hasleep : (unresumedAfter [.setMode .forced, .setFilter .size3]).link.modeBits = 0 := by cbv
  obtain ⟨_, _, _, _, _, hspared⟩ := driver_of_history unresumed [.setMode .forced]
  obtain ⟨hmode, _⟩ := driver_of_history unresumed [.setMode .forced, .setFilter .size3]
  refine ⟨hfailed, hspared _ _ hfailed, hasleep, hmode.trans ?_⟩
  cbv

end Session

end AirMonitor
