import AirMonitor.Proofs.Leads
import AirMonitor.Proofs.Steady

namespace AirMonitor

/-- An obeyed or an ignored request to sleep takes an active chip one step closer to it. -/
theorem Device.resistance_store {device : Device} (h : device.modeBits ≠ 0) {value : UInt8}
    (hvalue : Register.mode.get value = 0) :
    (device.store Register.ctrlMeas value).resistance + 1 = device.resistance := by
  have hmode : Register.mode.get (device.registers.get Register.ctrlMeas) ≠ 0 := h
  have hkept : Register.mode.get (Register.mode.get (device.registers.get Register.ctrlMeas)) =
      Register.mode.get (device.registers.get Register.ctrlMeas) := by
    simp [BitField.get, Register.mode, UInt8.and_assoc]
  rcases Nat.eq_zero_or_pos device.stuck with hstuck | hstuck
  · simp [store, resistance, modeBits, hvalue, hmode, hstuck]
  · simp [store, resistance, modeBits, hvalue, hmode, hstuck, hkept]
    omega

/-- What is asked of a chip before it sleeps, and what it is asked each time. -/
def sleepTrace (control : UInt8) (requests : Nat) : List BusEvent :=
  .read Register.ctrlMeas 1 true ::
    (List.replicate requests [.write (sleepRequest control) true,
      .delay Register.settleMicros, .read Register.ctrlMeas 1 true]).flatten

theorem sleepTrace_succ (control : UInt8) (requests : Nat) :
    sleepTrace control (requests + 1) =
      [.read Register.ctrlMeas 1 true, .write (sleepRequest control) true,
        .delay Register.settleMicros] ++ sleepTrace control requests := by
  rw [sleepTrace, List.replicate_succ, List.flatten_cons]
  rfl

namespace Link

theorem sleepRequest_eq {t u : Traced Device} (h : t.inner.registers.withMode 0 =
    u.inner.registers.withMode 0) : sleepRequest (t.inner.registers.get Register.ctrlMeas) =
      sleepRequest (u.inner.registers.get Register.ctrlMeas) := by
  have hcontrol := congrArg (RegisterFile.get · Register.ctrlMeas) h
  simp only [RegisterFile.get_withMode] at hcontrol
  rw [sleepRequest, sleepRequest, hcontrol]

theorem sleep_trace {t : Traced Device} {control : UInt8} (h : (sleep t).1 = .ok control) :
    (sleep t).2.events = t.events ++
      sleepTrace (t.inner.registers.get Register.ctrlMeas) t.inner.resistance := by
  induction t using sleep_induction_chip with
  | unread t => cases h
  | asleep t hm =>
    have hnone : t.inner.resistance = 0 := if_pos hm
    rw [hnone]
    rfl
  | refused t hm => cases h
  | asked t u hm hu hevents ih =>
    have hsame : u.inner.registers.withMode 0 = t.inner.registers.withMode 0 := by
      rw [hu]
      exact Device.withMode_store t.inner.counted.counted 0
    have hvalue : Register.mode.get
        (Register.mode.set (t.inner.registers.get Register.ctrlMeas) 0) = 0 :=
      Register.mode_get_set _ 0
    have hstep : u.inner.resistance + 1 = t.inner.resistance := by
      rw [hu]
      exact @Device.resistance_store t.inner.counted.counted hm _ hvalue
    rw [ih h, hevents, ← hstep, sleepTrace_succ, sleepTrace, sleepTrace, sleepRequest_eq hsame]
    simp

def startTrace (control : UInt8) (mode : Mode) : List BusEvent :=
  if mode = .sleep then []
  else [.write ⟨Register.ctrlMeas, [Register.mode.set control mode.bits]⟩ true]

theorem changeMode_trace {mode : Mode} {t : Traced Device} (h : (changeMode mode t).1 = .ok ()) :
    (changeMode mode t).2.events = t.events ++
      sleepTrace (t.inner.registers.get Register.ctrlMeas) t.inner.resistance ++
      startTrace (t.inner.registers.get Register.ctrlMeas) mode := by
  have hsettled := (sleep_settles t).withMode_eq mode.bits
  rw [changeMode, bind_apply] at h ⊢
  cases hs : (sleep t).1 with
  | error e => simp [hs] at h
  | ok control =>
    obtain ⟨hcontrol, _⟩ := sleep_ok t control hs
    have hvalue : Register.mode.set control mode.bits =
        Register.mode.set (t.inner.registers.get Register.ctrlMeas) mode.bits := by
      have hvalue := congrArg (RegisterFile.get · Register.ctrlMeas) hsettled
      simp only [RegisterFile.get_withMode] at hvalue
      rwa [hcontrol]
    simp only [hs] at h ⊢
    rw [startTrace, ← sleep_trace hs]
    by_cases hmode : mode = .sleep
    · rw [if_neg (not_not_intro hmode), if_pos hmode, List.append_nil]
      rfl
    · rw [if_pos hmode] at h ⊢
      rw [if_neg hmode]
      rcases write_cases [(Register.ctrlMeas, Register.mode.set control mode.bits)] (sleep t).2
        with ⟨_, hw⟩ | ⟨frame, hframe, hw | hw⟩
      · rw [hw] at h
        cases h
      · rw [hw] at h
        cases h
      · cases hframe
        rw [hw, hvalue]
        rfl

/-- Whatever fails, a change of mode changes the mode, and it arrives only if nothing failed. -/
theorem changeMode_withMode (mode : Mode) (t : Traced Device) :
    ∃ bits, (changeMode mode t).2.inner.registers = t.inner.registers.withMode bits ∧
      ((t.inner.registers.withMode bits).modeBits = t.inner.registers.modeBits ∨
        (t.inner.registers.withMode bits).modeBits = 0 ∨
        (changeMode mode t).1 = .ok () ∧
          (t.inner.registers.withMode bits).modeBits = mode.bits) := by
  rcases changeMode_registers mode t with (h | h) | ⟨hok, h⟩
  · refine ⟨t.inner.registers.modeBits, ?_, .inl ?_⟩
    · rw [h, RegisterFile.withMode_modeBits]
    · rw [RegisterFile.withMode_modeBits]
  · exact ⟨0, h, .inr (.inl (RegisterFile.modeBits_withMode 0 _))⟩
  · exact ⟨mode.bits, h, .inr (.inr ⟨hok, RegisterFile.modeBits_withMode_bits mode _⟩)⟩

end Link

namespace Session

/-- A chip that leaves no mode by itself is asked to sleep once more than it ignores it, and then
started; on a failing bus a mode is changed as a whole or given up for sleep. -/
theorem mode_changed (mode : Mode) (s : Session (Traced Device)) :
    let control := s.registers.get Register.ctrlMeas
    let ended := setMode mode s
    (s.link.inner.Steady →
      ended.1 = .ok () ∧
      ended.2.link.events = s.link.events ++ .read Register.ctrlMeas 1 true ::
        (List.replicate (if s.registers.modeBits = 0 then 0 else s.link.inner.stuck + 1)
          [.write ⟨Register.ctrlMeas, [Register.mode.set control 0]⟩ true, .delay 10000,
            .read Register.ctrlMeas 1 true]).flatten ++
        (if mode = .sleep then []
          else [.write ⟨Register.ctrlMeas, [Register.mode.set control mode.bits]⟩ true]) ∧
      ended.2.registers.modeBits = mode.bits) ∧
    (ended.1 = .ok () ∨ ended.1 = .error .commFailure) ∧
    (ended.2.registers.modeBits = s.registers.modeBits ∨ ended.2.registers.modeBits = 0 ∨
      ended.1 = .ok () ∧ ended.2.registers.modeBits = mode.bits) ∧
    ended.2.registers.get Register.ctrlMeas &&& 0xFC = control &&& 0xFC ∧
    (∀ address, address ≠ Register.ctrlMeas →
      ended.2.registers.get address = s.registers.get address) ∧
    ended.2.driver.lastMode =
      if ended.1.isOk ∧ mode ≠ .sleep then mode else s.driver.lastMode := by
  intro control ended
  have hreply : ended.1 = (Link.changeMode mode s.link).1 := rfl
  have hlink : ended.2.link = (Link.changeMode mode s.link).2 := rfl
  have hregisters : ended.2.registers = (Link.changeMode mode s.link).2.inner.registers := rfl
  obtain ⟨bits, hbits, hmode⟩ := Link.changeMode_withMode mode s.link
  refine ⟨?_, ?_, ?_, ?_, ?_, ?_⟩
  · intro hs
    obtain ⟨hok, -, hfile⟩ := Link.Yields.changeMode mode s.link hs rfl
    refine ⟨hok, Link.changeMode_trace hok, ?_⟩
    rw [hregisters, hfile]
    exact RegisterFile.modeBits_withMode_bits mode _
  · rw [hreply]
    cases hr : (Link.changeMode mode s.link).1 with
    | ok done => exact .inl rfl
    | error e => exact .inr (congrArg Except.error (Link.OnlyComm.changeMode mode s.link e hr))
  · rw [hregisters, hbits, hreply]
    exact hmode
  · rw [hregisters, hbits]
    exact RegisterFile.upper_withMode bits _
  · intro address haddress
    rw [hregisters, hbits]
    exact RegisterFile.get_withMode_of_ne haddress bits _
  · rcases attempt_cases (Link.changeMode mode) (fun _ => Driver.withMode mode) s with
      ⟨_, _, hreply, hdriver⟩ | ⟨e, _, hreply, hdriver⟩
    · have hreply : ended.1 = .ok _ := hreply
      have hdriver : ended.2.driver = (s.driver.ended .success).withMode mode := hdriver
      rw [hreply, hdriver, Driver.withMode]
      by_cases hsleep : mode = .sleep
      · rw [if_pos hsleep, if_neg fun h => h.2 hsleep]
        rfl
      · rw [if_neg hsleep, if_pos ⟨rfl, hsleep⟩]
    · have hreply : ended.1 = .error e := hreply
      have hdriver : ended.2.driver = s.driver.ended (.failure e) := hdriver
      rw [hreply, hdriver, if_neg fun h => Bool.false_ne_true h.1]
      rfl

/-- A chip in sequential mode that ignores two requests to sleep. -/
def restless : Session (Traced Device) where
  link := ⟨{ registers := RegisterFile.zero.set Register.ctrlMeas 0x57, stuck := 2 }, []⟩

theorem mode_changed_restless :
    restless.link.inner.Steady ∧ (setMode .forced restless).1 = .ok () ∧
    (setMode .forced restless).2.link.events.countP
      (· = .write ⟨Register.ctrlMeas, [0x54]⟩ true) = 3 ∧
    (setMode .forced restless).2.link.events.getLast? =
      some (.write ⟨Register.ctrlMeas, [0x55]⟩ true) ∧
    (setMode .forced restless).2.registers.modeBits = 1 := by
  have hs : restless.link.inner.Steady := ⟨fun _ => rfl, rfl, rfl, rfl⟩
  obtain ⟨hok, hevents, hmode⟩ := (mode_changed .forced restless).1 hs
  rw [hevents]
  exact ⟨hs, hok, by decide +kernel, by decide +kernel, hmode⟩

end Session

end AirMonitor
