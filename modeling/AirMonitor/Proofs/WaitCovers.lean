import AirMonitor.Proofs.KnownTimes
import AirMonitor.Proofs.Provenance

namespace AirMonitor

variable {s t u : Session (Traced Device)}

theorem Session.Informed.of_unlogged (h : s.Informed t) (hsame : u.unlogged = t.unlogged) :
    s.Informed u := by
  obtain ⟨hdriver, hlink⟩ := Prod.mk.inj hsame
  rw [Session.Informed, Session.registers, Session.registers, hdriver, hlink]
  exact h

namespace SharedSensor

theorem enter_micros {σ : Type} [Transport σ] [Settling σ] (shared : SharedSensor σ) :
    (enter shared).1 = forcedMicros (enter shared).2.session.driver := by
  by_cases h : 0 < shared.waiting
  · simp only [enter, bind_run, get_run, modify_run, h, ↓reduceIte]
    rfl
  · cases hr : (Session.setMode .forced shared.session).1 with
    | error e =>
      simp only [enter, use, bind_run, get_run, modify_run, h, ↓reduceIte, hr]
      rfl
    | ok =>
      simp only [enter, use, bind_run, get_run, modify_run, h, ↓reduceIte, hr]
      rfl

/-- What is collected is fetched, and then asked for if there is anything new. -/
theorem collect_unlogged {σ : Type} [Transport σ] (shared : SharedSensor σ) :
    (collect shared).2.session.unlogged = (Session.fetch shared.session).2.unlogged ∨
    (collect shared).2.session.unlogged =
      (Session.nextField (Session.fetch shared.session).2).2.unlogged := by
  cases h : (Session.fetch shared.session).1 with
  | error e =>
    simp only [collect, leave_run, use, bind_run, h]
    exact .inl rfl
  | ok count =>
    cases count with
    | zero =>
      simp only [collect, leave_run, use, bind_run, h]
      exact .inl rfl
    | succ count =>
      simp only [collect, leave_run, use, bind_run, h]
      exact .inr rfl

theorem enter_informed (shared : SharedSensor (Traced Device)) :
    shared.session.Informed (enter shared).2.session := by
  by_cases h : shared.waiting = 0
  · have hstart : shared.session.Informed (Session.perform (.setMode .forced) shared.session).2 :=
      .of_perform (.setMode .forced) shared.session
    exact hstart.of_unlogged (enter_of_none h).2
  · exact (Session.Informed.refl shared.session).of_unlogged (enter_of_waiting h).2

theorem collect_informed (shared : SharedSensor (Traced Device)) :
    shared.session.Informed (collect shared).2.session := by
  have hfetch : shared.session.Informed (Session.perform .fetch shared.session).2 :=
    .of_perform .fetch shared.session
  have hnext : shared.session.Informed
      (Session.perform .nextField (Session.perform .fetch shared.session).2).2 :=
    hfetch.trans (.of_perform .nextField _)
  rcases collect_unlogged shared with h | h
  · exact hfetch.of_unlogged h
  · exact hnext.of_unlogged h

theorem complete_informed (shared : SharedSensor (Traced Device)) :
    shared.session.Informed (complete shared).2.session := by
  have hcollect := collect_informed shared
  simp only [complete, bind_run]
  split
  · have hsame := grade_within (collect shared).1.1 (collect shared).2
    exact hcollect.of_unlogged (congrArg Prod.snd hsame)
  · exact hcollect

end SharedSensor

/-- The registers are left to the driver. -/
def NodeEvent.Contained : NodeEvent σ → Prop
  | .operate operation => operation.Contained
  | .disturb _ => False
  | _ => True

namespace Node

theorem cancel_session {σ : Type} (id : Nat) (node : Node σ) :
    (cancel id node).2.sensor.session = node.sensor.session := by
  have hcancelled := cancel_cancelled id node
  generalize (cancel id node).2 = after at hcancelled ⊢
  cases hcancelled <;> rfl

theorem poll_waits {σ : Type} [Transport σ] [Settling σ] {id micros : Nat} {node : Node σ}
    (h : (poll id node).1 = .waiting micros) :
    micros = SharedSensor.forcedMicros (poll id node).2.sensor.session.driver := by
  have hpolled := poll_polled id node
  generalize poll id node = polled at hpolled h ⊢
  cases hpolled with
  | absent => cases h
  | blocked => cases h
  | starts =>
    obtain rfl := Progress.waiting.inj h
    exact SharedSensor.enter_micros node.sensor
  | completes =>
    obtain ⟨co2, hsample⟩ := deliver_sample _ _ _
    rw [h] at hsample
    cases hsample

theorem poll_informed (id : Nat) (node : Node (Traced Device)) :
    node.sensor.session.Informed (poll id node).2.sensor.session := by
  have hpolled := poll_polled id node
  generalize poll id node = polled at hpolled ⊢
  cases hpolled with
  | absent => exact .refl _
  | blocked => exact .refl _
  | starts => exact SharedSensor.enter_informed node.sensor
  | completes =>
    exact (SharedSensor.complete_informed node.sensor).of_unlogged (deliver_unlogged _ _ _)

theorem cancel_informed (id : Nat) (node : Node (Traced Device)) :
    node.sensor.session.Informed (cancel id node).2.sensor.session := by
  rw [cancel_session]
  exact .refl _

theorem step_informed {event : NodeEvent (Traced Device)} (h : event.Contained)
    (node : Node (Traced Device)) :
    node.sensor.session.Informed (step event node).2.sensor.session := by
  cases event with
  | arrive id purpose => exact cancel_informed id node
  | poll id => exact poll_informed id node
  | cancel id => exact cancel_informed id node
  | operate operation => exact .of_perform h node.sensor.session
  | disturb change => exact h.elim
  | _ => exact .refl _

theorem after_informed {events : List (NodeEvent (Traced Device))}
    (h : ∀ event ∈ events, event.Contained) (node : Node (Traced Device)) :
    node.sensor.session.Informed (node.after events).sensor.session := by
  induction events generalizing node with
  | nil => exact .refl _
  | cons event events ih =>
    have hstep := step_informed (h event List.mem_cons_self) node
    rw [after_cons]
    exact hstep.trans (ih (fun other hother => h other (List.mem_cons_of_mem _ hother)) _)

/-- A reader that starts to wait under a forced profile waits long enough for all conversions and
the heating that the chip was programmed with. -/
theorem wait_covers {node : Node (Traced Device)}
    (hconfig : node.sensor.session.driver.config = .initial)
    (hheater : node.sensor.session.driver.heater = none)
    (hhumidity : node.sensor.session.registers.get Register.ctrlHum &&& 0x07 = 0)
    (hothers : node.sensor.session.registers.get Register.ctrlMeas &&& 0xFC = 0)
    {events : List (NodeEvent (Traced Device))} (hevents : ∀ event ∈ events, event.Contained)
    {id micros : Nat} (hpoll : (poll id (node.after events)).1 = .waiting micros)
    (hbus : (poll id (node.after events)).2.sensor.session.link.Unfailed) {step : HeaterStep}
    (hforced : (poll id (node.after events)).2.sensor.session.driver.heater = some (.forced step)) :
    let registers := (poll id (node.after events)).2.sensor.session.registers
    micros < 2 ^ 32 ∧ 1963 * registers.config.cycles + 477 * 9 + 1000 +
      1000 * HeatingTime.unpack (registers.get Register.heaterWait0) ≤ micros := by
  intro registers
  have hinformed := (after_informed hevents node).trans (poll_informed id (node.after events))
  have hknows := hinformed.2 hbus (.of_reset hconfig hheater hhumidity hothers)
  rw [poll_waits hpoll]
  exact ⟨Driver.forcedMicros_lt _, hknows.covered hforced⟩

/-- A measurement of seven conversions, after 150 ms of heating. -/
def programmed : List (NodeEvent (Traced Device)) :=
  [.operate (.setOversampling .x2 .x4 .x1), .operate (.setHeater (.forced ⟨320, 150⟩)),
    .arrive 0 .sample]

def ready : Node (Traced Device) := (connected .supported).after programmed

/-- The sensor before its heater is programmed. -/
def sampling : Session (Traced Device) :=
  (Session.perform (.setOversampling .x2 .x4 .x1) (connected .supported).sensor.session).2

def heated (target : HeaterStep → UInt8) : Except SensorError Unit × Traced Device :=
  Link.programHeater sampling.driver.variant target (.forced ⟨320, 150⟩) sampling.link

set_option maxRecDepth 100000 in
/-- Which target the heater is given does not matter. -/
theorem heated_run (target : HeaterStep → UInt8) : (heated target).1 = .ok () ∧
    (Link.changeMode .forced (heated target).2).2.Unfailed := by
  constructor <;> cbv

set_option maxRecDepth 100000 in
theorem poll_ready :
    (poll 0 ready).1 = .waiting 169034 ∧ (poll 0 ready).2.sensor.session.link.Unfailed ∧
    (poll 0 ready).2.sensor.session.driver.heater = some (.forced ⟨320, 150⟩) := by
  obtain ⟨hprogram, hcarried⟩ := heated_run sampling.driver.heaterTarget
  obtain ⟨_, hdriver, hlink⟩ := Session.setHeater_run (.forced ⟨320, 150⟩) sampling
  have hdriver : ready.sensor.session.driver =
      sampling.driver.conclude (fun _ => Driver.withHeater (.forced ⟨320, 150⟩)) (.ok ()) :=
    hdriver.trans (congrArg (sampling.driver.conclude _) hprogram)
  have hlink : ready.sensor.session.link = (heated sampling.driver.heaterTarget).2 := hlink
  obtain ⟨_, hsession⟩ := @SharedSensor.enter_of_none _ _ _ ready.sensor rfl
  obtain ⟨hentered, hstarted⟩ := Prod.mk.inj hsession
  have hreply : (poll 0 ready).1 = .waiting (SharedSensor.enter ready.sensor).1 := rfl
  have hpolled : (poll 0 ready).2.sensor = (SharedSensor.enter ready.sensor).2 := rfl
  have hheater : (SharedSensor.enter ready.sensor).2.session.driver.heater =
      some (.forced ⟨320, 150⟩) := by
    have hkept := (Session.perform_leads (.setMode .forced) ready.sensor.session).remembered.heater
    rw [hentered]
    apply hkept.trans
    rw [hdriver]
    rfl
  have hcycles : (SharedSensor.enter ready.sensor).2.session.driver.config.cycles = 7 := by
    have hkept := Session.setMode_mirrored .forced ready.sensor.session
    have hconfig : (Session.setMode .forced ready.sensor.session).2.driver.config =
        ready.sensor.session.driver.config := congrArg Prod.fst hkept
    rw [hentered, hconfig, hdriver]
    cbv
  refine ⟨?_, ?_, hheater⟩
  · rw [hreply, SharedSensor.enter_micros, SharedSensor.forcedMicros,
      Driver.measurementMicros_forced, hcycles, Driver.heaterMillis, hheater]
    rfl
  · rw [hpolled, hstarted]
    change (Link.changeMode .forced ready.sensor.session.link).2.Unfailed
    rw [hlink]
    exact hcarried

set_option maxRecDepth 100000 in
theorem wait_covers_ready :
    (poll 0 ready).1 = .waiting 169034 ∧ (poll 0 ready).2.sensor.session.link.Unfailed ∧
    (poll 0 ready).2.sensor.session.driver.heater = some (.forced ⟨320, 150⟩) ∧
    let registers := (poll 0 ready).2.sensor.session.registers
    1963 * registers.config.cycles + 477 * 9 + 1000 +
      1000 * HeatingTime.unpack (registers.get Register.heaterWait0) ≤ 169034 := by
  have hevents : ∀ event ∈ programmed, event.Contained := by
    simp only [programmed, List.mem_cons, List.not_mem_nil, or_false, forall_eq_or_imp, forall_eq]
    exact ⟨.setter rfl, .setHeater _, trivial⟩
  obtain ⟨hpoll, hbus, hforced⟩ := poll_ready
  obtain ⟨_, hcovers⟩ := @wait_covers (connected .supported) rfl rfl rfl rfl programmed
    hevents 0 _ hpoll hbus _ hforced
  exact ⟨hpoll, hbus, hforced, hcovers⟩

end Node

end AirMonitor
