import AirMonitor.Proofs.DriverHistory
import AirMonitor.Proofs.Provenance

namespace AirMonitor

theorem Status.ofCode_iff (code : Int8) :
    (ofCode code = .error ↔ code < 0) ∧ (ofCode code = .warning ↔ 0 < code) ∧
      (ofCode code = .ok ↔ code = 0) := by
  have hneg : code < 0 ↔ code.toInt < 0 := Int8.lt_iff_toInt_lt
  have hpos : 0 < code ↔ 0 < code.toInt := Int8.lt_iff_toInt_lt
  have hzero : code = 0 ↔ code.toInt = 0 := Int8.toInt_inj.symm
  rw [hneg, hpos, hzero]
  by_cases h : code.toInt < 0
  · have he : ofCode code = .error := if_pos (hneg.2 h)
    simp [he]
    omega
  · by_cases h' : 0 < code.toInt
    · have he : ofCode code = .warning := (if_neg (mt hneg.1 h)).trans (if_pos (hpos.2 h'))
      simp [he]
      omega
    · have he : ofCode code = .ok := (if_neg (mt hneg.1 h)).trans (if_neg (mt hpos.1 h'))
      simp [he]
      omega

theorem Performed.ne_sleep_of_started {performed : Performed} {mode : Mode}
    (h : performed.started? = some mode) : mode ≠ .sleep := by
  obtain ⟨operation, reply⟩ := performed
  cases operation with
  | setMode other =>
    cases reply with
    | ok reply =>
      rintro rfl
      simp [started?] at h
    | error e => cases h
  | _ => cases h

namespace Session

variable {σ : Type} [Transport σ]

/-- The code of the outcome after an operation, by its reply and by whether a mode was ever
started. -/
def codeAfter (s : Session σ) (started : Bool) : Operation → Except SensorError Reply → Int8
  | .setAmbient _, _ | .nextField, _ => s.driver.outcome.code
  | _, .error e => e.code
  | .fetch, .ok _ => if started then if s.newFields.isEmpty then 2 else 0 else 1
  | .setHeater (.parallel _ sharedMillis), .ok _ => if sharedMillis = 0 then 3 else 0
  | _, .ok _ => 0

variable {s : Session σ} {started : Bool} {operation : Operation}

theorem codeAfter_of_asks (h : operation.asks = true) (reply : Reply) :
    s.codeAfter started operation (.ok reply) = 0 := by
  cases operation with
  | setAmbient celsius => cases h
  | nextField => cases h
  | setHeater profile => cases h
  | fetch => cases h
  | _ => rfl

theorem codeAfter_of_plain (h : operation.plain = true) (e : SensorError) :
    s.codeAfter started operation (.error e) = e.code := by
  cases operation with
  | setAmbient celsius => cases h
  | nextField => cases h
  | _ => rfl

theorem codeAfter_of_change (h : operation.change?.isSome) (reply : Except SensorError Reply) :
    s.codeAfter started operation reply = (Outcome.ofResult reply).code := by
  cases operation with
  | setOversampling temperature pressure humidity => cases reply <;> rfl
  | setFilter filter => cases reply <;> rfl
  | setStandby standby => cases reply <;> rfl
  | _ => cases h

/-- Nothing but a failure is told by a negative code. -/
theorem codeAfter_neg_iff (hambient : ∀ celsius, operation ≠ .setAmbient celsius)
    (hnext : operation ≠ .nextField) (reply : Except SensorError Reply) :
    s.codeAfter started operation reply < 0 ↔ ∃ e, reply = .error e := by
  cases reply with
  | error e =>
    have hcode : s.codeAfter started operation (.error e) = e.code := by
      cases operation with
      | setAmbient celsius => exact (hambient celsius rfl).elim
      | nextField => exact (hnext rfl).elim
      | _ => rfl
    rw [hcode]
    exact iff_of_true e.code_neg ⟨e, rfl⟩
  | ok reply =>
    have hzero : ¬ (0 : Int8) < 0 := by decide
    refine iff_of_false ?_ (by simp)
    cases operation with
    | setAmbient celsius => exact (hambient celsius rfl).elim
    | nextField => exact (hnext rfl).elim
    | fetch =>
      rw [codeAfter]
      split
      · split <;> decide
      · decide
    | setHeater profile =>
      cases profile with
      | parallel steps sharedMillis =>
        rw [codeAfter]
        split <;> decide
      | _ => exact hzero
    | _ => exact hzero

theorem heated_code (profile : HeaterProfile) (reply : Reply) :
    ((s.driver.ended .success).withHeater profile).outcome.code =
      s.codeAfter started (.setHeater profile) (.ok reply) := by
  cases profile with
  | forced step => rfl
  | sequential steps => rfl
  | parallel steps sharedMillis =>
    change Outcome.code (if decide (sharedMillis = 0) then .warning .noSharedDuration
      else .success) = if sharedMillis = 0 then 3 else 0
    by_cases h : sharedMillis = 0
    · simp only [h, decide_true, ↓reduceIte]
      rfl
    · simp only [h, decide_false, Bool.false_eq_true, ↓reduceIte]
      rfl

theorem fetched_code (hstarted : started = true ↔ s.driver.lastMode ≠ .sleep)
    {blocks : List FieldBlock}
    (h : (Link.readFields s.driver.lastMode s.link).1 = .ok blocks) (reply : Reply) :
    ((s.driver.withoutFields.ended .success).withFields blocks).outcome.code =
      s.codeAfter started .fetch (.ok reply) := by
  have hcount : (s.driver.buffer.clear.store
      (blocks.map (Field.ofBlock s.driver.variant s.driver.calibration))).count =
        s.newFields.length := by
    rw [newFields, h]
    rfl
  change Outcome.code (if s.driver.lastMode = .sleep then .warning .modeNotStarted
    else if (s.driver.buffer.clear.store
      (blocks.map (Field.ofBlock s.driver.variant s.driver.calibration))).count = 0 then
        .warning .noNewData
    else .success) = if started then if s.newFields.isEmpty then 2 else 0 else 1
  rw [hcount]
  by_cases hmode : s.driver.lastMode = .sleep
  · have hnone : started = false := by simpa [hmode] using hstarted
    rw [if_pos hmode, hnone]
    rfl
  · rw [if_neg hmode, if_pos (hstarted.2 hmode)]
    cases s.newFields <;> rfl

theorem Leads.code (hstarted : started = true ↔ s.driver.lastMode ≠ .sleep)
    {reply : Except SensorError Reply} {driver : Driver} (h : Leads s operation reply driver) :
    driver.outcome.code = s.codeAfter started operation reply := by
  cases h with
  | assumed celsius => rfl
  | delivered =>
    rw [Driver.nextField]
    split <;> rfl
  | told h reply => exact (codeAfter_of_asks h reply).symm
  | mirrored config => rfl
  | started mode =>
    rw [Driver.withMode]
    split <;> rfl
  | changed h config => exact (codeAfter_of_change (s := s) h (.ok .done)).symm
  | heated profile => exact heated_code profile _
  | fetched h count => exact fetched_code hstarted h _
  | unfetched e => rfl
  | skipped h hread =>
    exact (codeAfter_of_change (s := s) h (.error .configWriteSkipped)).symm
  | interrupted h hread e => exact (codeAfter_of_change (s := s) h (.error e)).symm
  | failed h e => exact (codeAfter_of_plain h e).symm

variable [Settling σ]

theorem started_of_history (operations : List Operation) (h : s.driver.lastMode = .sleep) :
    (history operations s).any (·.started?.isSome) = true ↔
      (performAll operations s).2.driver.lastMode ≠ .sleep := by
  rw [lastMode_of_history, h, List.any_eq_true]
  constructor
  · rintro ⟨performed, hmem, hsome⟩
    obtain ⟨mode, hmode⟩ := Option.isSome_iff_exists.1 hsome
    have hne := List.ne_nil_of_mem (List.mem_filterMap.2 ⟨performed, hmem, hmode⟩)
    rw [List.getLastD_eq_getLast?, List.getLast?_eq_getLast_of_ne_nil hne, Option.getD_some]
    obtain ⟨last, _, hlast⟩ := List.mem_filterMap.1 (List.getLast_mem hne)
    exact Performed.ne_sleep_of_started hlast
  · -- If no mode was started, the one last started is the sleep that the run began with.
    intro hlast
    by_contra hnone
    apply hlast
    have hnil : (history operations s).filterMap Performed.started? = [] := by
      rw [List.filterMap_eq_nil_iff]
      intro performed hmem
      by_contra hsome
      exact hnone ⟨performed, hmem, Option.isSome_iff_ne_none.2 hsome⟩
    rw [hnil]
    rfl

/-- After every operation the status tells how it ended; it is an error exactly if the operation
failed. -/
theorem status_of_operation (link : σ) (operations : List Operation) (operation : Operation) :
    let connected := (connect ({ link } : Session σ)).2
    let started := (history operations connected).any (·.started?.isSome)
    let before := (performAll operations connected).2
    let after := (perform operation before).2
    after.driver.outcome.code = before.codeAfter started operation (perform operation before).1 ∧
    (after.driver.status = .error ↔ after.driver.outcome.code < 0) ∧
    (after.driver.status = .warning ↔ 0 < after.driver.outcome.code) ∧
    (after.driver.status = .ok ↔ after.driver.outcome.code = 0) ∧
    ((∀ celsius, operation ≠ .setAmbient celsius) → operation ≠ .nextField →
      (after.driver.status = .error ↔ ∃ e, (perform operation before).1 = .error e)) := by
  intro connected started before after
  obtain ⟨variant, calibration, outcome, hdriver⟩ := connect_driver ({ link } : Session σ)
  have hmode : connected.driver.lastMode = .sleep := congrArg Driver.lastMode hdriver
  have hcode : after.driver.outcome.code = _ :=
    (perform_leads operation before).code (started_of_history operations hmode)
  have hstatus := Status.ofCode_iff after.driver.outcome.code
  refine ⟨hcode, hstatus.1, hstatus.2.1, hstatus.2.2, ?_⟩
  intro hambient hnext
  apply hstatus.1.trans
  rw [hcode]
  exact codeAfter_neg_iff hambient hnext _

end Session

end AirMonitor
