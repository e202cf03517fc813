import AirMonitor.Proofs.AppliedSettings
import AirMonitor.Proofs.PendingReaders

/-!
What a node is like once it has been set up, and while only its own tasks use its sensor.
-/

namespace AirMonitor

theorem Device.bits_told (device : Device) (n : Nat) :
    (device.told n).inner.registers.bits .config = device.registers.bits .config :=
  RegisterFile.bits_set (UInt8.and_zero.trans UInt8.and_zero.symm)

theorem CarbonDioxide.Meter.setSelfCalibration_uart (enable : Bool) (meter : Meter) :
    (setSelfCalibration enable meter).2.uart =
      (meter.uart.transmit (Frame.selfCalibrationRequest enable).toList).2 := by
  rw [setSelfCalibration, bind_run]
  split <;> rfl

namespace Node

/-- What setting a node up does not touch. -/
def roster (node : Node σ) : String × List (Nat × Reader) × UInt8 × Bool × Estimator :=
  (node.sensorId, node.readers, node.sensor.waiting, node.held, node.sensor.estimator)

/-- The sensor as it is found when a node is switched on. -/
def sighted (node : Node σ) : Session σ :=
  (log .info "Embassy initialized!" node.sensor.session : Unit × Session σ).2

theorem setUpMeter_run (selfCalibration : Bool) (node : Node σ) :
    (setUpMeter selfCalibration node).2.roster = node.roster ∧
      (setUpMeter selfCalibration node).2.sensor.session.unlogged =
        node.sensor.session.unlogged ∧
      (setUpMeter selfCalibration node).2.uart = (node.uart.transmit
        (CarbonDioxide.Frame.selfCalibrationRequest selfCalibration).toList).2 := by
  have huart := CarbonDioxide.Meter.setSelfCalibration_uart selfCalibration
    ⟨node.uart, Journaled.journal node⟩
  rw [setUpMeter, bind_run]
  cases (useMeter (CarbonDioxide.Meter.setSelfCalibration selfCalibration) node).1 with
  | error e => exact ⟨rfl, rfl, huart⟩
  | ok done => exact ⟨rfl, rfl, huart⟩

variable [Transport σ] [Settling σ]

/-- How setting a node up can end. -/
theorem boot_cases (settings : NodeSettings) (node : Node σ) :
    (boot settings node).2.roster = node.roster ∧
    ((∃ e, (Session.connect node.sighted).1 = .error e ∧ (boot settings node).1 = .error e ∧
      (boot settings node).2.uart = node.uart) ∨
    (Session.connect node.sighted).1 = .ok () ∧ (boot settings node).1 = .ok () ∧
      (boot settings node).2.sensor.session.unlogged =
        (Session.configure settings.sensor (Session.connect node.sighted).2).2.unlogged ∧
      (boot settings node).2.uart = (node.uart.transmit
        (CarbonDioxide.Frame.selfCalibrationRequest settings.selfCalibration).toList).2) := by
  have hfirst : (log .info "Embassy initialized!" node : Unit × Node σ).2 =
      { node with sensor.session := node.sighted } := rfl
  rw [boot, bind_run, hfirst, bind_run]
  cases hr : (Session.connect node.sighted).1 with
  | error e =>
    simp only [useSensor, SharedSensor.use, hr]
    exact ⟨rfl, .inl ⟨e, rfl, rfl, rfl⟩⟩
  | ok done =>
    simp only [useSensor, SharedSensor.use, hr]
    obtain ⟨hroster, hsession, huart⟩ := setUpMeter_run settings.selfCalibration
      { node with sensor.session :=
        (Session.configure settings.sensor (Session.connect node.sighted).2).2 }
    exact ⟨hroster, .inr ⟨trivial, rfl, hsession, huart⟩⟩

/-- Nobody is at the sensor of a node that was set up, or could not be. -/
theorem boot_idle (settings : NodeSettings) (link : σ) (uart : CarbonDioxide.Uart) :
    let node := (boot settings (start settings link uart)).2
    node.sensorId = settings.sensorId ∧ node.readers = [] ∧ node.sensor.waiting = 0 := by
  intro node
  have hroster : node.roster = _ := (boot_cases settings (start settings link uart)).1
  simp only [roster, start, Prod.mk.injEq] at hroster
  exact ⟨hroster.1, hroster.2.1, hroster.2.2.1⟩

theorem connect_sighted {node : Node (Traced Device)} {device : Device}
    (hlink : node.sensor.session.link = ⟨device, []⟩) :
    ((Session.connect node.sighted).1 = .ok () ↔ device.Reaches 6) ∧
      ((Session.connect node.sighted).1 = .ok () →
        (Session.connect node.sighted).2.link = device.told 7) := by
  have hshaken := Link.handshake_shaken device
  have hok := hshaken.ok_iff
  have hlink : node.sighted.link = ⟨device, []⟩ := hlink
  rcases Session.connect_cases node.sighted with
    ⟨e, hr, hreply, -⟩ | ⟨variant, calibration, hr, hreply, hlast, -⟩
  · rw [hlink] at hr
    rw [hr] at hok
    rw [hreply]
    exact ⟨by simpa using hok, fun h => by cases h⟩
  · rw [hlink] at hr hlast
    rw [hr] at hok
    rw [hreply, hlast, (hshaken.of_ok hr).2]
    exact ⟨by simpa using hok, fun _ => (Link.uniqueId_told device).1⟩

/-- A node comes up exactly with a supported chip that is read in full. Then its meter was told of
the setting meant for it, and so was the chip of all others unless the bus failed; and in any case
nobody is at the sensor yet. -/
theorem boot_outcome (settings : NodeSettings) (device : Device) (uart : CarbonDioxide.Uart) :
    let ended := boot settings (start settings (⟨device, []⟩ : Traced Device) uart)
    let session := ended.2.sensor.session
    (ended.1 = .ok () ↔ device.Reaches 6) ∧
    ended.2.sensorId = settings.sensorId ∧ ended.2.readers = [] ∧ ended.2.sensor.waiting = 0 ∧
    (ended.1 = .ok () →
      ended.2.uart = (uart.transmit
        (CarbonDioxide.Frame.selfCalibrationRequest settings.selfCalibration).toList).2 ∧
      (session.link.Unfailed →
        Session.Applied settings.sensor (Session.unconnected device) session)) := by
  intro ended session
  obtain ⟨hid, hreaders, hwaiting⟩ := boot_idle settings (⟨device, []⟩ : Traced Device) uart
  obtain ⟨-, hended⟩ := boot_cases settings (start settings (⟨device, []⟩ : Traced Device) uart)
  obtain ⟨hok, htold⟩ :=
    @connect_sighted (start settings (⟨device, []⟩ : Traced Device) uart) device rfl
  rcases hended with ⟨e, hconnect, hreply, -⟩ | ⟨hconnect, hreply, hsession, huart⟩
  · have hreply : ended.1 = .error e := hreply
    rw [hconnect] at hok
    rw [hreply]
    exact ⟨by simpa using hok, hid, hreaders, hwaiting, fun h => by cases h⟩
  · have hreply : ended.1 = .ok () := hreply
    refine ⟨iff_of_true hreply (hok.1 hconnect), hid, hreaders, hwaiting, fun _ => ⟨huart, ?_⟩⟩
    intro hunfailed
    have hlink : session.link = _ := congrArg Prod.snd hsession
    rw [hlink] at hunfailed
    have hconfig := RegisterFile.config_congr (Device.bits_told device 7)
    rw [← htold hconnect] at hconfig
    exact (Session.configure_unfailed hunfailed).congr hconfig.symm hsession

end Node

/-- What happens to a node with no readers but those of its tasks. -/
def NodeEvent.OfTasks : NodeEvent σ → Prop
  | .arrive id purpose => (id, purpose) ∈ Node.taskReaders
  | _ => True

namespace Node

/-- All readers are those of tasks. -/
def Staffed (node : Node σ) : Prop :=
  node.readers.map Prod.fst ⊆ taskReaders.map Prod.fst

theorem Staffed.registered_le {node : Node σ} (h : node.Staffed)
    (hkeys : (node.readers.map Prod.fst).Nodup) : node.registered ≤ 2 := by
  have hlength := (List.subperm_of_subset hkeys h).length_le
  rw [List.length_map] at hlength
  exact List.countP_le_length.trans hlength

theorem Staffed.cancel {node : Node σ} (h : node.Staffed) (id : Nat) :
    (Node.cancel id node).2.Staffed := by
  rw [Staffed, (cancel_run id node).1]
  exact List.Subset.trans (List.filter_sublist.map Prod.fst).subset h

theorem Staffed.arrive {node : Node σ} (h : node.Staffed) {id : Nat} {purpose : Purpose}
    (htask : (id, purpose) ∈ taskReaders) : (Node.arrive id purpose node).2.Staffed := by
  rw [Staffed, arrive_run]
  exact List.cons_subset.2 ⟨List.mem_map_of_mem htask, h.cancel id⟩

theorem launch_run (settings : NodeSettings) (id : Nat) (purpose : Purpose) (node : Node σ) :
    ∃ journal, (launch settings id purpose node).2 =
      (Node.arrive id purpose (Journaled.withJournal journal node)).2 := by
  cases purpose with
  | sample => exact ⟨Journaled.journal node, rfl⟩
  | display => exact ⟨_, rfl⟩
  | report source => exact ⟨_, rfl⟩

theorem launchAll_cons (settings : NodeSettings) (task : Nat × Purpose)
    (tasks : List (Nat × Purpose)) (node : Node σ) :
    (launchAll settings (task :: tasks) node).2 =
      (launchAll settings tasks (launch settings task.1 task.2 node).2).2 := rfl

variable [Transport σ] [Settling σ]

theorem Staffed.poll {node : Node σ} (h : node.Staffed) (id : Nat) :
    (Node.poll id node).2.Staffed := by
  have hpolled := poll_polled id node
  generalize Node.poll id node = polled at hpolled ⊢
  cases hpolled with
  | absent => exact h
  | blocked => exact h
  | starts => simpa only [Staffed, keys_startWait] using h
  | completes =>
    rw [Staffed, deliver_readers]
    exact List.Subset.trans (List.filter_sublist.map Prod.fst).subset h

theorem Staffed.step {node : Node σ} (h : node.Staffed) {event : NodeEvent σ}
    (htasks : event.OfTasks) : (Node.step event node).2.Staffed := by
  cases event with
  | arrive id purpose => exact h.arrive htasks
  | poll id => exact h.poll id
  | cancel id => exact h.cancel id
  | _ => exact h

theorem Counted.launchAll {node : Node σ} (hc : node.Counted) (hstaffed : node.Staffed)
    (settings : NodeSettings) {tasks : List (Nat × Purpose)} (htasks : tasks ⊆ taskReaders) :
    (Node.launchAll settings tasks node).2.Counted ∧
      (Node.launchAll settings tasks node).2.Staffed := by
  induction tasks generalizing node with
  | nil => exact ⟨hc, hstaffed⟩
  | cons task tasks ih =>
    obtain ⟨htask, htasks⟩ := List.cons_subset.1 htasks
    obtain ⟨journal, hlaunched⟩ := launch_run settings task.1 task.2 node
    let logged : Node σ := Journaled.withJournal journal node
    have hlogged : logged.Counted := ⟨hc.keys, hc.waiting⟩
    have hnext : (Node.arrive task.1 task.2 logged).2.Staffed :=
      @Staffed.arrive _ logged hstaffed _ _ htask
    have hbound := hnext.registered_le (step_keys hlogged.keys (.arrive task.1 task.2))
    have hcounted := hlogged.step (.arrive task.1 task.2) (Nat.le_trans hbound (by decide))
    rw [launchAll_cons, hlaunched]
    exact ih hcounted hnext htasks

/-- The count of a node that serves its tasks alone never sticks. -/
theorem Counted.after_tasks {node : Node σ} (hc : node.Counted) (hstaffed : node.Staffed)
    {events : List (NodeEvent σ)} (htasks : ∀ event ∈ events, event.OfTasks) :
    (node.after events).Counted ∧ (node.after events).registered ≤ 2 := by
  induction events generalizing node with
  | nil => exact ⟨hc, hstaffed.registered_le hc.keys⟩
  | cons event events ih =>
    have hnext := hstaffed.step (htasks event List.mem_cons_self)
    have hbound := hnext.registered_le (step_keys hc.keys event)
    rw [after_cons]
    exact ih (hc.step event (by omega)) hnext fun other hother =>
      htasks other (List.mem_cons_of_mem _ hother)

/-- The readers that wait on a node that was set up are counted, in whichever order its tasks are
launched and whatever happens to it then. -/
theorem boot_counted (settings : NodeSettings) (link : σ) (uart : CarbonDioxide.Uart)
    {tasks : List (Nat × Purpose)} (htasks : tasks ⊆ taskReaders) {events : List (NodeEvent σ)}
    (hevents : ∀ event ∈ events, event.OfTasks) :
    let node := (boot settings (start settings link uart)).2
    let served := (Node.launchAll settings tasks node).2.after events
    served.sensor.waiting.toNat = served.registered ∧ served.registered ≤ 2 := by
  intro node served
  obtain ⟨-, hreaders, hwaiting⟩ := boot_idle settings link uart
  have hstaffed : node.Staffed := by
    rw [Staffed, hreaders]
    exact List.nil_subset _
  obtain ⟨hc, hlaunched⟩ := (Counted.of_idle hreaders hwaiting).launchAll hstaffed settings htasks
  obtain ⟨hserved, hbound⟩ := hc.after_tasks hlaunched hevents
  exact ⟨hserved.waiting, hbound⟩

end Node

end AirMonitor
