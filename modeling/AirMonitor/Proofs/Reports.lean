import AirMonitor.Proofs.Untouched
import Mathlib

namespace AirMonitor

/-- Whether the bus did not carry a transaction. -/
def BusEvent.failed : BusEvent → Bool
  | .write _ succeeded => !succeeded
  | .read _ _ succeeded => !succeeded
  | .delay _ => false

/-- A failure of the bus is reported exactly if there was one. -/
def Traced.Reported (t : Traced σ) (ended : Except SensorError α × Traced σ) : Prop :=
  ∃ events, ended.2.events = t.events ++ events ∧
    (events.any BusEvent.failed = true ↔ ended.1 = .error .commFailure)

theorem Traced.Reported.of_event {t : Traced σ} {event : BusEvent} {result : Except BusError α}
    {inner : σ} (h : event.failed = !result.isOk) :
    t.Reported (result.mapError fun _ => SensorError.commFailure,
      ⟨inner, t.events ++ [event]⟩) := by
  refine ⟨[event], rfl, ?_⟩
  rw [List.any_cons, List.any_nil, Bool.or_false, h]
  cases result with
  | ok a => simp [Except.isOk, Except.toBool, Except.mapError]
  | error e => simp [Except.isOk, Except.toBool, Except.mapError]

/-- Transactions that did not fail may come first. -/
theorem Traced.Reported.after {t u : Traced σ} {past : List BusEvent}
    {ended : Except SensorError α × Traced σ} (hevents : u.events = t.events ++ past)
    (hpast : past.any BusEvent.failed = false) (h : u.Reported ended) : t.Reported ended := by
  obtain ⟨events, hended, hreported⟩ := h
  refine ⟨past ++ events, ?_, ?_⟩
  · rw [hended, hevents, List.append_assoc]
  · rwa [List.any_append, hpast, Bool.false_or]

namespace Link

/-- Wherever a program starts, it reports the failures of the bus. -/
def Reports (program : Link (Traced σ) α) : Prop := ∀ t : Traced σ, t.Reported (program t)

namespace Reports

theorem pure (a : α) : Reports (Pure.pure a : Link (Traced σ) α) :=
  fun t => ⟨[], (List.append_nil _).symm, by simp⟩

theorem bind {first : Link (Traced σ) α} {next : α → Link (Traced σ) β} (hfirst : Reports first)
    (hnext : ∀ a, Reports (next a)) : Reports (first >>= next : Link (Traced σ) β) := by
  intro t
  obtain ⟨past, hpast, hfailed⟩ := hfirst t
  rw [bind_apply]
  cases hr : (first t).1 with
  | ok a =>
    rw [hr] at hfailed
    have hnone : past.any BusEvent.failed = false := by simpa using hfailed
    exact (hnext a (first t).2).after hpast hnone
  | error e =>
    rw [hr] at hfailed
    refine ⟨past, hpast, hfailed.trans ?_⟩
    simp

variable [Transport σ]

theorem read (register : UInt8) (length : Nat) :
    Reports (Link.read (σ := Traced σ) register length) := by
  intro t
  rw [Link.read]
  split
  · exact ⟨[], (List.append_nil _).symm, by simp⟩
  · exact .of_event rfl

theorem write (pairs : List (UInt8 × UInt8)) : Reports (Link.write (σ := Traced σ) pairs) := by
  intro t
  rw [Link.write]
  split
  · exact ⟨[], (List.append_nil _).symm, by simp⟩
  · split
    · exact ⟨[], (List.append_nil _).symm, by simp⟩
    · exact .of_event rfl

theorem readMode : Reports (Link.readMode : Link (Traced σ) Mode) :=
  bind (bind (read _ _) fun _ => pure _) fun _ => pure _

theorem readConfig : Reports (Link.readConfig : Link (Traced σ) Config) :=
  bind (read _ _) fun _ => pure _

theorem readFields (mode : Mode) :
    Reports (Link.readFields mode : Link (Traced σ) (List FieldBlock)) := by
  cases mode with
  | sleep => exact pure _
  | forced => exact bind (read _ _) fun _ => pure _
  | parallel => exact bind (read _ _) fun _ => pure _
  | sequential => exact bind (read _ _) fun _ => pure _

theorem writeProfile (target : HeaterStep → UInt8) (profile : HeaterProfile) :
    Reports (Link.writeProfile target profile : Link (Traced σ) UInt8) := by
  cases profile with
  | forced step => exact bind (write _) fun _ => pure _
  | sequential steps => exact bind (bind (write _) fun _ => write _) fun _ => pure _
  | parallel steps sharedMillis =>
    exact bind (bind (write _) fun _ => write _) fun _ => bind (write _) fun _ => pure _

variable [Settling σ]

theorem sleep : Reports (Link.sleep : Link (Traced σ) UInt8) := by
  have hread (t : Traced σ) {result : Except BusError (Vector UInt8 1)}
      (hr : (Transport.read Register.ctrlMeas 1 t).1 = result) :
      (Transport.read Register.ctrlMeas 1 t).2.events =
        t.events ++ [.read Register.ctrlMeas 1 result.isOk] := hr ▸ rfl
  have hwrite {t u : Traced σ} {frame : WriteFrame} {result : Except BusError Unit}
      (hw : Transport.write frame t = (result, u)) :
      u.events = t.events ++ [.write frame result.isOk] := by
    obtain ⟨rfl, rfl⟩ := Prod.mk.inj hw
    rfl
  intro t
  induction t using Link.sleep_induction with
  | unread t e hr => exact ⟨_, hread t hr, by simp [BusEvent.failed, Except.isOk, Except.toBool]⟩
  | asleep t control hr hm =>
    exact ⟨_, hread t hr, by simp [BusEvent.failed, Except.isOk, Except.toBool]⟩
  | refused t control hr hm u e hw =>
    have h : Traced.Reported (Transport.read Register.ctrlMeas 1 t).2
        (.error .commFailure, u) (α := UInt8) :=
      ⟨_, hwrite hw, by simp [BusEvent.failed, Except.isOk, Except.toBool]⟩
    exact h.after (hread t hr) rfl
  | asked t control hr hm u hw ih =>
    have hpause : (Transport.delay Register.settleMicros u).events =
        u.events ++ [.delay Register.settleMicros] := rfl
    exact ((ih.after hpause rfl).after (hwrite hw) rfl).after (hread t hr) rfl

theorem changeMode (mode : Mode) : Reports (Link.changeMode mode : Link (Traced σ) Unit) := by
  apply bind sleep
  intro control
  split
  · exact write _
  · exact pure _

theorem writeConfig (config : Config) :
    Reports (Link.writeConfig config : Link (Traced σ) Unit) := by
  refine bind readMode fun mode => bind (changeMode .sleep) fun _ => bind (read _ _) fun block =>
    bind (write _) fun _ => ?_
  split
  · exact changeMode mode
  · exact pure _

theorem programHeater (variant : UInt8) (target : HeaterStep → UInt8) (profile : HeaterProfile) :
    Reports (Link.programHeater variant target profile : Link (Traced σ) Unit) :=
  bind (changeMode .sleep) fun _ => bind (writeProfile target profile) fun _ =>
    bind (read _ _) fun _ => write _

end Reports

end Link

end AirMonitor
