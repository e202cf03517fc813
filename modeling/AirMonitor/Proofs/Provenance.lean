import AirMonitor.Proofs.MeasurementOrder
import AirMonitor.Proofs.PendingReaders
import Mathlib

namespace AirMonitor

variable {σ : Type}

/-- Neither the gas bits nor the compensation touch the mark of a new field. -/
theorem Field.isNew_ofBlock (variant : UInt8) (calibration : Calibration) (block : FieldBlock) :
    (Field.ofBlock variant calibration block).isNew =
      FieldStatus.has FieldStatus.newData (block.get 0) := by
  have hbit (status gas : UInt8) : ((status &&& FieldStatus.newData) |||
      (gas &&& (FieldStatus.gasValid ||| FieldStatus.heaterStable))) &&& FieldStatus.newData =
        status &&& FieldStatus.newData := by
    have hapart : (FieldStatus.gasValid.toBitVec ||| FieldStatus.heaterStable.toBitVec) &&&
        FieldStatus.newData.toBitVec = 0#8 := rfl
    apply UInt8.toBitVec_inj.1
    simp only [UInt8.toBitVec_and, UInt8.toBitVec_or, BitVec.and_or_distrib_right,
      BitVec.and_assoc, BitVec.and_self]
    rw [← BitVec.and_or_distrib_right, hapart, BitVec.and_zero, BitVec.or_zero]
  exact congrArg (· != 0) (hbit _ _)

namespace FieldBuffer

theorem first_store (buffer : FieldBuffer) (decoded : List Field) :
    (buffer.store decoded).first =
      (inMeasurementOrder (decoded.filter Field.isNew)).headD buffer.first := by
  rw [List.headD_eq_head?_getD, List.head?_eq_getElem?]
  simp only [first, store, Vector.getElem_ofFn]
  rfl

theorem next_eq_first {buffer : FieldBuffer} (h : buffer.cursor = 0) :
    buffer.next.1.1 = buffer.first := by
  rw [next]
  split <;> simp only [h] <;> rfl

theorem first_next (buffer : FieldBuffer) : buffer.next.2.first = buffer.first := by
  rw [next]
  split <;> rfl

end FieldBuffer

namespace Session

theorem nextField_first {s : Session σ} (h : s.driver.buffer.cursor = 0) :
    (nextField s).1.1 = s.driver.buffer.first ∧
      (nextField s).2.driver.buffer.first = s.driver.buffer.first := by
  have hnext := FieldBuffer.next_eq_first h
  simp only [nextField, Driver.nextField]
  split
  · exact ⟨rfl, rfl⟩
  · exact ⟨hnext, s.driver.buffer.first_next⟩

variable [Transport σ]

/-- The new fields that a fetch finds, in the order they were measured in. -/
def newFields (s : Session σ) : List Field :=
  match (Link.readFields s.driver.lastMode s.link).1 with
  | .ok blocks =>
    inMeasurementOrder
      ((blocks.map (Field.ofBlock s.driver.variant s.driver.calibration)).filter Field.isNew)
  | .error _ => []

theorem newFields_sorted {s : Session σ} {base : UInt8} (h : WithinHalfTurn base s.newFields) :
    s.newFields.Pairwise fun a b => a.offset base ≤ b.offset base := by
  rw [newFields] at h ⊢
  cases hr : (Link.readFields s.driver.lastMode s.link).1 with
  | error e => exact List.Pairwise.nil
  | ok blocks =>
    rw [hr] at h
    apply inMeasurementOrder_sorted
    intro field hfield
    exact h field ((inMeasurementOrder_perm _).mem_iff.2 hfield)

theorem fetch_buffer (s : Session σ) :
    (fetch s).2.driver.buffer.count = s.newFields.length ∧
    (fetch s).2.driver.buffer.cursor = 0 ∧
    (fetch s).2.driver.buffer.first = s.newFields.headD s.driver.buffer.first := by
  have hran : (fetch s).2.driver = s.driver.withoutFields.conclude Driver.withFields
      (Link.readFields s.driver.lastMode s.link).1 := rfl
  rw [hran, newFields]
  cases (Link.readFields s.driver.lastMode s.link).1 with
  | error e => exact ⟨rfl, rfl, rfl⟩
  | ok blocks => exact ⟨rfl, rfl, FieldBuffer.first_store s.driver.buffer.clear _⟩

theorem fetch_reply (s : Session σ) : (fetch s).1 =
    (Link.readFields s.driver.lastMode s.link).1.map fun _ => s.newFields.length := by
  rw [← (fetch_buffer s).1]
  rfl

/-- A fetch has something to yield exactly if it found new fields. -/
theorem fetch_ok_iff (s : Session σ) {count : Nat} (hcount : 0 < count) :
    (fetch s).1 = .ok count ↔ s.newFields.length = count := by
  rw [fetch_reply, newFields]
  cases (Link.readFields s.driver.lastMode s.link).1 with
  | error e =>
    simp [Except.map]
    omega
  | ok blocks => simp [Except.map]

end Session

namespace SharedSensor

theorem grade_run (field : Field) (shared : SharedSensor σ) :
    (grade field shared).1 =
        (shared.estimator.score field.gas field.humidity field.temperature).1 ∧
      (grade field shared).2.estimator =
        (shared.estimator.score field.gas field.humidity field.temperature).2 := by
  rw [grade, bind_run]
  split
  · exact ⟨rfl, rfl⟩
  · exact ⟨rfl, rfl⟩

variable [Transport σ]

theorem collect_of_new {shared : SharedSensor σ} {first : Field} {rest : List Field}
    (h : shared.session.newFields = first :: rest) :
    (collect shared).1 = (first, true) ∧ (collect shared).2.estimator = shared.estimator ∧
      (collect shared).2.session.driver.buffer.first = first := by
  obtain ⟨_, hcursor, hfirst⟩ := Session.fetch_buffer shared.session
  rw [h, List.headD_cons] at hfirst
  have hreply : (Session.fetch shared.session).1 = .ok (rest.length + 1) :=
    (Session.fetch_ok_iff _ (Nat.succ_pos _)).2 (by rw [h, List.length_cons])
  obtain ⟨hnext, hkept⟩ := Session.nextField_first hcursor
  simp only [collect, leave_run, use, bind_run, hreply]
  exact ⟨Prod.ext (hnext.trans hfirst) rfl, rfl, hkept.trans hfirst⟩

theorem collect_of_none {shared : SharedSensor σ} (h : shared.session.newFields = []) :
    (collect shared).1 = (shared.session.driver.buffer.first, false) ∧
      (collect shared).2.estimator = shared.estimator ∧
      (collect shared).2.session.driver.buffer.first = shared.session.driver.buffer.first := by
  obtain ⟨_, _, hfirst⟩ := Session.fetch_buffer shared.session
  have hreply := Session.fetch_reply shared.session
  rw [h] at hfirst hreply
  cases hr : (Link.readFields shared.session.driver.lastMode shared.session.link).1 with
  | error e =>
    rw [hr] at hreply
    simp only [collect, leave_run, use, bind_run, hreply, Except.map]
    exact ⟨Prod.ext hfirst rfl, rfl, hfirst⟩
  | ok blocks =>
    rw [hr] at hreply
    simp only [collect, leave_run, use, bind_run, hreply, Except.map]
    exact ⟨Prod.ext hfirst rfl, rfl, hfirst⟩

theorem complete_of_new {shared : SharedSensor σ} {first : Field} {rest : List Field}
    (h : shared.session.newFields = first :: rest) :
    (complete shared).1 = .ofField first
        (shared.estimator.score first.gas first.humidity first.temperature).1 ∧
      (complete shared).2.estimator =
        (shared.estimator.score first.gas first.humidity first.temperature).2 ∧
      (complete shared).2.session.driver.buffer.first = first := by
  obtain ⟨hreply, hestimator, hfirst⟩ := collect_of_new h
  obtain ⟨hscore, hscored⟩ := grade_run first (collect shared).2
  have hsame := grade_within first (collect shared).2
  have hdriver : (grade first (collect shared).2).2.session.driver =
      (collect shared).2.session.driver := congrArg (fun shown => shown.2.1) hsame
  simp only [complete, bind_run, hreply, ↓reduceIte, pure_run]
  rw [hscore, hscored, hestimator, hdriver]
  exact ⟨rfl, rfl, hfirst⟩

theorem complete_of_none {shared : SharedSensor σ} (h : shared.session.newFields = []) :
    (complete shared).1 = .ofField shared.session.driver.buffer.first Estimator.unavailable ∧
      (complete shared).2.estimator = shared.estimator ∧
      (complete shared).2.session.driver.buffer.first = shared.session.driver.buffer.first := by
  obtain ⟨hreply, hkept⟩ := collect_of_none h
  simp only [complete, bind_run, hreply, Bool.false_eq_true, ↓reduceIte, pure_run]
  exact ⟨trivial, hkept⟩

end SharedSensor

namespace Session

/-- What a reader gets if there is nothing new. -/
def latest (s : Session σ) : Field := s.driver.buffer.first

theorem attempt_latest {program : Link σ α} {learn : α → Driver → Driver}
    (hlearn : ∀ a driver, (learn a driver).buffer = driver.buffer) :
    Within (Same latest) (attempt program learn) := by
  intro s
  have hdriver : (attempt program learn s).2.driver = s.driver.conclude learn (program s.link).1 :=
    rfl
  rw [Same, latest, hdriver]
  cases (program s.link).1 with
  | ok a => exact congrArg FieldBuffer.first (hlearn a _)
  | error e => rfl

theorem log_latest (level : LogLevel) (text : String) :
    Within (Same latest) (log level text : StateM (Session σ) Unit) := fun _ => rfl

variable [Transport σ] [Settling σ]

theorem setMode_latest (mode : Mode) : Within (Same latest) (setMode (σ := σ) mode) := by
  apply attempt_latest
  intro _ driver
  rw [Driver.withMode]
  split <;> rfl

theorem changeConfig_latest (change : Config → Config) :
    Within (Same latest) (changeConfig (σ := σ) change) := by
  refine Within.bind (attempt_latest fun _ _ => rfl) fun result => ?_
  cases result with
  | error e => exact Within.bind (log_latest _ _) fun _ => Within.pure _
  | ok config => exact attempt_latest fun _ _ => rfl

theorem setHeater_latest (profile : HeaterProfile) :
    Within (Same latest) (setHeater (σ := σ) profile) := by
  refine Within.bind Within.get fun s =>
    Within.bind (attempt_latest fun _ _ => rfl) fun result => ?_
  split
  · exact Within.bind (log_latest _ _) fun _ => Within.pure _
  · exact Within.bind (Within.pure _) fun _ => Within.pure _

theorem perform_latest {operation : Operation} (h : operation ≠ .fetch) :
    Within (Same latest) (perform (σ := σ) operation) := by
  have hask {α : Type} (program : Link σ α) : Within (Same latest) (ask program) :=
    attempt_latest fun _ _ => rfl
  have hreply {α : Type} {action : StateM (Session σ) (Except SensorError α)}
      (haction : Within (Same latest) action) (f : α → Reply) :
      Within (Same latest) (do return (← action).map f) :=
    Within.bind haction fun _ => Within.pure _
  have hread : Within (Same latest) (readConfig (σ := σ)) := attempt_latest fun _ _ => rfl
  cases operation with
  | softReset => exact hreply (hask _) _
  | uniqueId => exact hreply (hask _) _
  | readRegisters register length => exact hreply (hask _) _
  | writeRegisters pairs => exact hreply (hask _) _
  | setAmbient celsius => exact Within.bind (fun _ => rfl) fun _ => Within.pure _
  | setMode mode => exact hreply (setMode_latest mode) _
  | readMode => exact hreply (hask _) _
  | readConfig => exact hreply hread _
  | setOversampling temperature pressure humidity => exact hreply (changeConfig_latest _) _
  | setFilter filter => exact hreply (changeConfig_latest _) _
  | setStandby standby => exact hreply (changeConfig_latest _) _
  | setHeater profile => exact hreply (setHeater_latest profile) _
  | fetch => exact (h rfl).elim
  | nextField =>
    refine Within.bind (fun s => ?_) fun _ => Within.pure _
    simp only [Same, latest, nextField, Driver.nextField]
    split
    · rfl
    · exact s.driver.buffer.first_next

end Session

namespace SharedSensor

theorem use_within {view : Session σ → β} {action : StateM (Session σ) α}
    (h : Within (Same view) action) :
    Within (Same fun shared : SharedSensor σ => (shared.estimator, view shared.session))
      (use action) :=
  fun shared => Prod.ext rfl (h shared.session)

variable [Transport σ] [Settling σ]

theorem enter_within : Within
    (Same fun shared : SharedSensor σ => (shared.estimator, shared.session.latest)) enter := by
  refine Within.bind Within.get fun shared => Within.bind (fun _ => rfl) fun _ => ?_
  dsimp only
  split
  · exact Within.bind (fun _ => rfl) fun _ => Within.bind Within.get fun _ => Within.pure _
  · refine Within.bind (use_within (Session.setMode_latest .forced)) fun result => ?_
    split
    · exact Within.bind (fun _ => rfl) fun _ => Within.bind Within.get fun _ => Within.pure _
    · exact Within.bind Within.get fun _ => Within.pure _

end SharedSensor

namespace Estimator

/-- The estimator after it scored a field. -/
def learn (estimator : Estimator) (field : Field) : Estimator :=
  (estimator.score field.gas field.humidity field.temperature).2

theorem isCalibrated_learn (estimator : Estimator) (field : Field) (more : Nat) :
    burnInReadings ≤ (estimator.learn field).burnedIn + more ↔
      burnInReadings ≤ estimator.burnedIn + (more + 1) := by
  simp only [learn, score, absorb]
  split
  · simp only
    omega
  · split
    · simp only
      omega
    · simp only
      omega

theorem isCalibrated_foldl (fields : List Field) (estimator : Estimator) :
    (fields.foldl learn estimator).isCalibrated = true ↔
      burnInReadings ≤ estimator.burnedIn + fields.length := by
  induction fields generalizing estimator with
  | nil => exact decide_eq_true_iff
  | cons field fields ih =>
    rw [List.foldl_cons, ih, isCalibrated_learn, List.length_cons]

end Estimator

/-- What a reader has got when it is through. -/
def Progress.sample? : Progress → Option Sample
  | .sampled sample => some sample
  | .displayed sample => some sample
  | .reported sample _ => some sample
  | _ => none

/-- The sample tells what was measured in the field. -/
structure Sample.Shows (sample : Sample) (field : Field) : Prop where
  temperature : sample.temperature = field.temperature
  humidity : sample.humidity = field.humidity
  pressure : sample.pressure = field.pressure
  gas : sample.gas = field.gas

namespace Node

/-- The event is the last turn of a reader. -/
def completes (event : NodeEvent σ) (node : Node σ) : Bool :=
  match event with
  | .poll id => !node.held && (node.readers.lookup id).any fun reader => reader.phase.isWaiting
  | _ => false

def fetches (event : NodeEvent σ) (node : Node σ) : Bool :=
  match event with
  | .operate .fetch => true
  | event => completes event node

theorem completes_of_waiting {id micros : Nat} {node : Node σ} {reader : Reader}
    (h : node.readers.lookup id = some reader) (hphase : reader.phase = .waiting micros)
    (hfree : node.held = false) : completes (.poll id) node = true := by
  simp [completes, h, hphase, hfree, Phase.isWaiting]

theorem cancel_within (id : Nat) :
    Within (Same fun node : Node σ => (node.sensor.estimator, node.sensor.session.latest))
      (cancel id) := by
  intro node
  have hcancelled := cancel_cancelled id node
  generalize (cancel id node).2 = after at hcancelled ⊢
  cases hcancelled <;> rfl

theorem deliver_latest (sample : Sample) (purpose : Purpose) (node : Node σ) :
    (deliver sample purpose node).2.sensor.session.latest = node.sensor.session.latest :=
  congrArg (fun unlogged => unlogged.1.buffer.first) (deliver_unlogged sample purpose node)

/-- Only the carbon dioxide in a sample may change while it is delivered. -/
theorem deliver_sample (sample : Sample) (purpose : Purpose) (node : Node σ) :
    ∃ co2, (deliver sample purpose node).1.sample? = some { sample with co2 } := by
  cases purpose with
  | sample => exact ⟨sample.co2, rfl⟩
  | display => exact ⟨sample.co2, rfl⟩
  | report source =>
    rw [deliver, bind_run, bind_run]
    exact ⟨(co2 source node).1, rfl⟩

variable [Transport σ]

/-- The first of the new fields that an event collects. -/
def gained (event : NodeEvent σ) (node : Node σ) : Option Field :=
  if fetches event node then node.sensor.session.newFields.head? else none

/-- The field that a reader collects and scores. -/
def scored (event : NodeEvent σ) (node : Node σ) : Option Field :=
  if completes event node then node.sensor.session.newFields.head? else none

variable [Settling σ]

/-- What is picked from the events of a run. -/
def trail (pick : NodeEvent σ → Node σ → Option β) : List (NodeEvent σ) → Node σ → List β
  | [], _ => []
  | event :: events, node => (pick event node).toList ++ trail pick events (step event node).2

/-- What each event does to a view by what is picked from it, a run does by what is picked from
all of its events. -/
theorem view_after (view : Node σ → γ) (learn : γ → β → γ)
    {pick : NodeEvent σ → Node σ → Option β}
    (hstep : ∀ event node, view (step event node).2 =
      (pick event node).elim (view node) (learn (view node)))
    (events : List (NodeEvent σ)) (node : Node σ) :
    view (node.after events) = (trail pick events node).foldl learn (view node) := by
  induction events generalizing node with
  | nil => rfl
  | cons event events ih =>
    rw [after_cons, ih, hstep, trail, List.foldl_append]
    cases pick event node <;> rfl

/-- A reader gets its sample at its last turn, and no other turn changes what it will be. -/
theorem poll_cases (id : Nat) (node : Node σ) :
    (completes (.poll id) node = false ∧ (poll id node).1.sample? = none ∧
      (poll id node).2.sensor.estimator = node.sensor.estimator ∧
      (poll id node).2.sensor.session.latest = node.sensor.session.latest) ∨
    (completes (.poll id) node = true ∧
      (∃ co2, (poll id node).1.sample? =
        some { (SharedSensor.complete node.sensor).1 with co2 }) ∧
      (poll id node).2.sensor.estimator = (SharedSensor.complete node.sensor).2.estimator ∧
      (poll id node).2.sensor.session.latest =
        (SharedSensor.complete node.sensor).2.session.latest) := by
  have hpolled := poll_polled id node
  generalize poll id node = polled at hpolled ⊢
  cases hpolled with
  | absent h => exact .inl ⟨by simp [completes, h], rfl, rfl, rfl⟩
  | blocked h => exact .inl ⟨by simp [completes, h], rfl, rfl, rfl⟩
  | starts h hphase hfree =>
    have hkept := SharedSensor.enter_within node.sensor
    exact .inl ⟨by simp [completes, h, hphase, Phase.isWaiting], rfl, congrArg Prod.fst hkept,
      congrArg Prod.snd hkept⟩
  | completes h hphase hfree =>
    exact .inr ⟨completes_of_waiting h hphase hfree, deliver_sample _ _ _,
      congrArg Prod.snd (deliver_within _ _ _), deliver_latest _ _ _⟩

theorem step_estimator (event : NodeEvent σ) (node : Node σ) :
    (step event node).2.sensor.estimator =
      (scored event node).elim node.sensor.estimator node.sensor.estimator.learn := by
  cases event with
  | arrive id purpose => exact congrArg Prod.fst (cancel_within id node)
  | cancel id => exact congrArg Prod.fst (cancel_within id node)
  | poll id =>
    change (poll id node).2.sensor.estimator = _
    rcases poll_cases id node with ⟨hc, _, hestimator, _⟩ | ⟨hc, _, hestimator, _⟩
    · rw [hestimator, scored, hc]
      rfl
    · rw [hestimator, scored, hc, if_pos rfl]
      cases hnew : node.sensor.session.newFields with
      | nil => exact (SharedSensor.complete_of_none hnew).2.1
      | cons first rest => exact (SharedSensor.complete_of_new hnew).2.1
  | _ => rfl

theorem step_latest (event : NodeEvent σ) (node : Node σ) :
    (step event node).2.sensor.session.latest =
      (gained event node).elim node.sensor.session.latest fun first => first := by
  cases event with
  | arrive id purpose => exact congrArg Prod.snd (cancel_within id node)
  | cancel id => exact congrArg Prod.snd (cancel_within id node)
  | poll id =>
    change (poll id node).2.sensor.session.latest = (scored (.poll id) node).elim _ _
    rcases poll_cases id node with ⟨hc, _, _, hlatest⟩ | ⟨hc, _, _, hlatest⟩
    · rw [hlatest, scored, hc]
      rfl
    · rw [hlatest, scored, hc, if_pos rfl]
      cases hnew : node.sensor.session.newFields with
      | nil => exact (SharedSensor.complete_of_none hnew).2.2
      | cons first rest => exact (SharedSensor.complete_of_new hnew).2.2
  | operate operation =>
    by_cases hfetch : operation = .fetch
    · subst hfetch
      have hfirst := (Session.fetch_buffer node.sensor.session).2.2
      change (Session.fetch node.sensor.session).2.driver.buffer.first =
        node.sensor.session.newFields.head?.elim _ _
      rw [hfirst]
      cases node.sensor.session.newFields <;> rfl
    · have hnone : gained (.operate operation) node = none := by
        rw [gained, fetches]
        · rfl
        · simpa using hfetch
      rw [hnone]
      exact Session.perform_latest hfetch node.sensor.session
  | _ => rfl

theorem latest_after (events : List (NodeEvent σ)) (node : Node σ) :
    (node.after events).sensor.session.latest =
      (trail gained events node).getLastD node.sensor.session.latest := by
  have hlast (fields : List Field) (before : Field) :
      fields.foldl (fun _ first => first) before = fields.getLastD before := by
    induction fields generalizing before with
    | nil => rfl
    | cons field fields ih => rw [List.foldl_cons, ih, List.getLastD_cons]
  rw [← hlast]
  exact view_after (fun node => node.sensor.session.latest) (fun _ first => first) step_latest
    events node

theorem isCalibrated_after (events : List (NodeEvent σ)) (node : Node σ) :
    (node.after events).sensor.estimator.isCalibrated = true ↔ Estimator.burnInReadings ≤
      node.sensor.estimator.burnedIn + (trail scored events node).length := by
  have hestimator : (node.after events).sensor.estimator =
      (trail scored events node).foldl Estimator.learn node.sensor.estimator :=
    view_after (fun node => node.sensor.estimator) Estimator.learn step_estimator events node
  rw [hestimator, Estimator.isCalibrated_foldl]

/-- A sample shows the first new field of its fetch, which is scored once; if there is none, the
first field of the last fetch of the run that found any, which is not scored. So the estimator is
calibrated as soon as 25 readers got a new field. -/
theorem sample_provenance {node : Node σ}
    (hbuffer : node.sensor.session.driver.buffer = .initial)
    (hestimator : node.sensor.estimator = {}) (events : List (NodeEvent σ)) :
    (∀ id sample, (poll id (node.after events)).1.sample? = some sample →
      let before := (node.after events).sensor
      let after := (poll id (node.after events)).2.sensor
      (∀ count, (Session.fetch before.session).1 = .ok count → 0 < count →
        ∃ first rest, before.session.newFields = first :: rest ∧
          (∀ base, WithinHalfTurn base (first :: rest) →
            ∀ other ∈ rest, first.offset base ≤ other.offset base) ∧
          after.session.latest = first ∧ sample.Shows first ∧
          (sample.score, after.estimator) =
            before.estimator.score first.gas first.humidity first.temperature) ∧
      ((∀ count, (Session.fetch before.session).1 = .ok count → count = 0) →
        sample.Shows ((trail gained events node).getLastD {}) ∧
        sample.score = Estimator.unavailable ∧ after.estimator = before.estimator)) ∧
    ((node.after events).sensor.estimator.isCalibrated = true ↔
      25 ≤ (trail scored events node).length) := by
  constructor
  · intro id sample hsample before after
    have hlast : before.session.latest = (trail gained events node).getLastD {} := by
      have hinitial : node.sensor.session.latest = {} := congrArg FieldBuffer.first hbuffer
      rw [← hinitial]
      exact latest_after events node
    rcases poll_cases id (node.after events) with ⟨_, hnone, _⟩ | ⟨_, ⟨co2, hsome⟩, hafter, hlatest⟩
    · rw [hsample] at hnone
      cases hnone
    · obtain rfl := Option.some.inj (hsample.symm.trans hsome)
      constructor
      · intro count hreply hcount
        have hlength := (Session.fetch_ok_iff before.session hcount).1 hreply
        cases hnew : before.session.newFields with
        | nil => simp [hnew] at hlength; omega
        | cons first rest =>
          obtain ⟨hcollected, hestimator, hfirst⟩ := SharedSensor.complete_of_new hnew
          refine ⟨first, rest, rfl, ?_, hlatest.trans hfirst, ?_, ?_⟩
          · intro base hwindow
            exact (List.pairwise_cons.1 (hnew ▸ Session.newFields_sorted (hnew ▸ hwindow))).1
          · rw [hcollected]
            exact ⟨rfl, rfl, rfl, rfl⟩
          · rw [hcollected]
            exact Prod.ext rfl (hafter.trans hestimator)
      · intro hzero
        have hnew : before.session.newFields = [] := by
          cases hnew : before.session.newFields with
          | nil => rfl
          | cons first rest =>
            have hlength : before.session.newFields.length = rest.length + 1 := by
              rw [hnew, List.length_cons]
            cases hzero _ ((Session.fetch_ok_iff _ (Nat.succ_pos _)).2 hlength)
        obtain ⟨hcollected, hestimator, _⟩ := SharedSensor.complete_of_none hnew
        rw [hcollected, ← hlast]
        exact ⟨⟨rfl, rfl, rfl, rfl⟩, rfl, hafter.trans hestimator⟩
  · have h := isCalibrated_after events node
    rw [hestimator, Nat.zero_add] at h
    exact h

/-- A chip that has a new field in its registers. -/
def measured : Device := Device.supported.poke Register.field0 [FieldStatus.newData]

/-- A reader has started a measurement and waits for it. -/
def started : List (NodeEvent (Traced Device)) := [.arrive 0 .sample, .poll 0]

set_option maxRecDepth 100000 in
theorem fetch_started :
    (Session.fetch ((connected measured).after started).sensor.session).1 = .ok 1 := by
  have hblocks : (Link.readFields
      ((connected measured).after started).sensor.session.driver.lastMode
      ((connected measured).after started).sensor.session.link).1.toOption.map
        (·.map (·[0])) = some [FieldStatus.newData] := by cbv
  apply (Session.fetch_ok_iff _ Nat.one_pos).2
  rw [Session.newFields]
  cases hr : (Link.readFields
      ((connected measured).after started).sensor.session.driver.lastMode
      ((connected measured).after started).sensor.session.link).1 with
  | error e =>
    rw [hr] at hblocks
    cases hblocks
  | ok blocks =>
    rw [hr] at hblocks
    obtain ⟨block, rest, rfl, hstatus, hrest⟩ := List.map_eq_cons_iff.1 (Option.some.inj hblocks)
    obtain rfl := List.map_eq_nil_iff.1 hrest
    have hnew (variant : UInt8) (calibration : Calibration) :
        (Field.ofBlock variant calibration block).isNew = true := by
      rw [Field.isNew_ofBlock, show block.get 0 = FieldStatus.newData from hstatus]
      rfl
    simp [inMeasurementOrder, insertNewest, hnew]

theorem sample_provenance_started :
    (connected measured).sensor.session.driver.buffer = .initial ∧
    (connected measured).sensor.estimator = {} ∧
    (Session.fetch ((connected measured).after started).sensor.session).1 = .ok 1 ∧
    ∃ sample first rest, (poll 0 ((connected measured).after started)).1.sample? = some sample ∧
      ((connected measured).after started).sensor.session.newFields = first :: rest ∧
      sample.Shows first := by
  have hcompletes : completes (.poll 0) ((connected measured).after started) = true :=
    completes_of_waiting rfl rfl rfl
  rcases poll_cases 0 ((connected measured).after started) with ⟨hnot, _⟩ | ⟨_, ⟨co2, hsample⟩, _⟩
  · rw [hcompletes] at hnot
    cases hnot
  · obtain ⟨first, rest, hnew, _, _, hshows, _⟩ :=
      ((sample_provenance rfl rfl started).1 0 _ hsample).1 1 fetch_started Nat.one_pos
    exact ⟨rfl, rfl, fetch_started, _, first, rest, hsample, hnew, hshows⟩

end Node

end AirMonitor
