import AirMonitor.Proofs.Steady
import AirMonitor.Sensor.Operation
import Mathlib

namespace AirMonitor

/-- The registers of the heater and of the configuration, but for the one with the mode in it. -/
def Register.Programmed (address : UInt8) : Prop :=
  (heaterTarget0 ≤ address ∧ address ≤ heaterShared) ∨ (ctrlGas0 ≤ address ∧ address ≤ 0x73) ∨
    address = config

instance (address : UInt8) : Decidable (Register.Programmed address) :=
  inferInstanceAs (Decidable (_ ∨ _ ∨ _))

/-- The frame writes to the heater or to the configuration. -/
def WriteFrame.Programs (frame : WriteFrame) : Prop :=
  ∃ pair ∈ frame.pairs, Register.Programmed pair.1

/-- The frame asks for a mode other than sleep. -/
def WriteFrame.Starts (frame : WriteFrame) : Prop :=
  ∃ pair ∈ frame.pairs, pair.1 = Register.ctrlMeas ∧ Register.mode.get pair.2 ≠ 0

namespace Device

/-- The chip after a transaction: one that failed changes no register. -/
def follow (device : Device) : BusEvent → Device
  | .write frame true => device.counted.storeAll frame.pairs
  | .write _ false => device.counted
  | .read _ _ _ => device.counted
  | .delay _ => device

def replay (device : Device) (events : List BusEvent) : Device := events.foldl follow device

theorem replay_concat (device : Device) (past : List BusEvent) (event : BusEvent) :
    device.replay (past ++ [event]) = (device.replay past).follow event := by
  rw [replay, List.foldl_append]
  rfl

end Device

/-- What may be sent to a chip whenever it is awake or asleep. -/
def Device.Permits (device : Device) : BusEvent → Prop
  | .write frame _ => ¬ frame.Starts ∧ (frame.Programs → device.modeBits = 0)
  | _ => True

/-- From one state to the other the chip is only programmed while it is asleep, and a mode is only
started right after the chip was seen asleep. -/
inductive Traced.Careful (start : Traced Device) : Traced Device → Prop where
  | refl : Careful start start
  | step {t : Traced Device} (h : Careful start t) (event : BusEvent)
    (hevent : t.inner.Permits event) : Careful start ⟨t.inner.follow event, t.events ++ [event]⟩
  | starts {t : Traced Device} (h : Careful start t) (hasleep : t.inner.modeBits = 0)
    (frame : WriteFrame) (succeeded : Bool) :
    Careful start ⟨t.inner.counted.follow (.write frame succeeded),
      t.events ++ [.read Register.ctrlMeas 1 true] ++ [.write frame succeeded]⟩

namespace Traced

theorem Careful.trans {t u v : Traced Device} (h : t.Careful u) (h' : u.Careful v) :
    t.Careful v := by
  induction h' with
  | refl => exact h
  | step _ event hevent ih => exact .step ih event hevent
  | starts _ hasleep frame succeeded ih => exact .starts ih hasleep frame succeeded

instance : IsPreorder (Traced Device) Careful where
  refl _ := .refl
  trans _ _ _ := .trans

/-- A frame that programs the chip or starts a mode is sent to a chip that is asleep, and one that
starts a mode comes right after the read that showed it. -/
def SentAsleep (start : Device) (past : List BusEvent) (frame : WriteFrame) : Prop :=
  (frame.Programs → (start.replay past).modeBits = 0) ∧
  (frame.Starts → (start.replay past).modeBits = 0 ∧
    ∃ before, past = before ++ [.read Register.ctrlMeas 1 true] ∧
      (start.replay before).modeBits = 0)

theorem eq_concat_cons {past rest events : List BusEvent} {event last : BusEvent}
    (h : events ++ [last] = past ++ event :: rest) :
    (events = past ∧ last = event) ∨ ∃ rest', events = past ++ event :: rest' := by
  rcases rest.eq_nil_or_concat with rfl | ⟨rest', last', rfl⟩
  · obtain ⟨hpast, hlast⟩ := List.append_inj' h rfl
    exact .inl ⟨hpast, List.singleton_inj.1 hlast⟩
  · rw [List.concat_eq_append, ← List.cons_append, ← List.append_assoc] at h
    exact .inr ⟨rest', (List.append_inj' h rfl).1⟩

theorem Careful.events {start t : Traced Device} (h : start.Careful t) :
    ∃ events, t.events = start.events ++ events ∧ t.inner = start.inner.replay events ∧
      ∀ past frame succeeded rest, events = past ++ .write frame succeeded :: rest →
        SentAsleep start.inner past frame := by
  induction h with
  | refl => exact ⟨[], (List.append_nil _).symm, rfl, by simp⟩
  | @step t _ event hevent ih =>
    obtain ⟨events, hevents, hinner, hsent⟩ := ih
    refine ⟨events ++ [event], ?_, ?_, ?_⟩
    · rw [hevents, List.append_assoc]
    · rw [Device.replay_concat, hinner]
    · intro past frame succeeded rest h
      rcases eq_concat_cons h with ⟨rfl, rfl⟩ | ⟨rest', h⟩
      · obtain ⟨hstarts, hprograms⟩ := hevent
        exact ⟨fun hp => hinner ▸ hprograms hp, fun hs => (hstarts hs).elim⟩
      · exact hsent past frame succeeded rest' h
  | @starts t _ hasleep frame succeeded ih =>
    obtain ⟨events, hevents, hinner, hsent⟩ := ih
    rw [hinner] at hasleep
    refine ⟨events ++ [.read Register.ctrlMeas 1 true] ++ [.write frame succeeded], ?_, ?_, ?_⟩
    · rw [hevents, List.append_assoc, List.append_assoc, List.append_assoc]
    · rw [Device.replay_concat, Device.replay_concat, hinner]
      rfl
    · intro past other succeeded' rest h
      rcases eq_concat_cons h with ⟨rfl, hother⟩ | ⟨rest', h⟩
      · obtain ⟨rfl, rfl⟩ := BusEvent.write.inj hother
        have hread : (start.inner.replay (events ++ [.read Register.ctrlMeas 1 true])).modeBits =
            0 := by
          rw [Device.replay_concat]
          exact hasleep
        exact ⟨fun _ => hread, fun _ => ⟨hread, events, rfl, hasleep⟩⟩
      · rcases eq_concat_cons h with ⟨_, hread⟩ | ⟨rest', h⟩
        · cases hread
        · exact hsent past other succeeded' rest' h

/-- The chip sleeps on and is only programmed in the meantime. -/
def SleepsOn (t u : Traced Device) : Prop :=
  t.inner.modeBits = 0 → t.Careful u ∧ u.inner.modeBits = 0

instance : IsPreorder (Traced Device) SleepsOn where
  refl _ h := ⟨.refl, h⟩
  trans t u v h h' hasleep := by
    obtain ⟨hfirst, hslept⟩ := h hasleep
    obtain ⟨hsecond, hlast⟩ := h' hslept
    exact ⟨hfirst.trans hsecond, hlast⟩

end Traced

namespace Link

theorem read_careful (register : UInt8) (length : Nat) (t : Traced Device) :
    t.Careful (read register length t).2 := by
  rcases read_cases register length t with ⟨_, h⟩ | h | h
  · rw [h]
    exact .refl
  · rw [h]
    exact .step .refl (.read register length false) trivial
  · rw [h]
    exact .step .refl (.read register length true) trivial

theorem read_sleepsOn (register : UInt8) (length : Nat) :
    Within Traced.SleepsOn (read (σ := Traced Device) register length) := by
  intro t hasleep
  apply And.intro (read_careful register length t)
  rw [Device.modeBits, read_registers]
  exact hasleep

theorem write_careful {pairs : List (UInt8 × UInt8)} {t : Traced Device}
    (hstarts : ∀ pair ∈ pairs, pair.1 = Register.ctrlMeas → Register.mode.get pair.2 = 0)
    (hprograms : ∀ pair ∈ pairs, Register.Programmed pair.1 → t.inner.modeBits = 0) :
    t.Careful (write pairs t).2 := by
  have hpermits {frame : WriteFrame} (hf : WriteFrame.ofPairs? pairs = some frame)
      (succeeded : Bool) : t.inner.Permits (.write frame succeeded) := by
    have hpairs := WriteFrame.pairs_of_ofPairs? hf
    constructor
    · rintro ⟨pair, hpair, hmode, hbits⟩
      exact hbits (hstarts pair (hpairs ▸ hpair) hmode)
    · rintro ⟨pair, hpair, hprogrammed⟩
      exact hprograms pair (hpairs ▸ hpair) hprogrammed
  rcases write_cases pairs t with ⟨_, h⟩ | ⟨frame, hf, h | h⟩
  · rw [h]
    exact .refl
  · rw [h]
    exact .step .refl (.write frame false) (hpermits hf false)
  · rw [h, ← WriteFrame.pairs_of_ofPairs? hf]
    exact .step .refl (.write frame true) (hpermits hf true)

theorem write_sleepsOn {pairs : List (UInt8 × UInt8)} {t : Traced Device}
    (h : ∀ pair ∈ pairs, pair.1 = Register.ctrlMeas → Register.mode.get pair.2 = 0) :
    Traced.SleepsOn t (write pairs t).2 := by
  intro hasleep
  apply And.intro (write_careful h fun _ _ _ => hasleep)
  rcases write_cases pairs t with ⟨_, hw⟩ | ⟨frame, hf, hw | hw⟩
  · rw [hw]
    exact hasleep
  · rw [hw]
    exact hasleep
  · rw [hw]
    exact @Device.modeBits_storeAll t.inner.counted pairs h hasleep

theorem write_apart_sleepsOn {pairs : List (UInt8 × UInt8)}
    (h : ∀ pair ∈ pairs, pair.1 ≠ Register.ctrlMeas) :
    Within Traced.SleepsOn (write (σ := Traced Device) pairs) :=
  fun _ => write_sleepsOn fun pair hpair he => (h pair hpair he).elim

/-- The chip was seen asleep when it was read last. -/
theorem sleep_careful (t : Traced Device) : t.Careful (sleep t).2 ∧
    ∀ control, (sleep t).1 = .ok control → ∃ u, t.Careful u ∧ u.inner.modeBits = 0 ∧
      (sleep t).2 = ⟨u.inner.counted, u.events ++ [.read Register.ctrlMeas 1 true]⟩ := by
  have hread {t : Traced Device} (succeeded : Bool) : t.Careful
      ⟨t.inner.counted, t.events ++ [.read Register.ctrlMeas 1 succeeded]⟩ :=
    .step .refl (.read Register.ctrlMeas 1 succeeded) trivial
  have hrequest (device : Device) (control : UInt8) (succeeded : Bool) :
      device.Permits (.write (sleepRequest control) succeeded) := by
    constructor
    · rintro ⟨pair, hpair, hmode, hbits⟩
      obtain rfl := List.mem_singleton.1 hpair
      exact hbits (Register.mode_get_set control 0)
    · rintro ⟨pair, hpair, hprogrammed⟩
      obtain rfl := List.mem_singleton.1 hpair
      exact absurd hprogrammed (by decide : ¬ Register.Programmed Register.ctrlMeas)
  induction t using sleep_induction_chip with
  | unread t => exact ⟨hread false, fun _ h => nomatch h⟩
  | asleep t hm => exact ⟨hread true, fun _ _ => ⟨t, .refl, hm, rfl⟩⟩
  | refused t hm =>
    exact ⟨.step (hread true) (.write _ false) (hrequest _ _ false), fun _ h => nomatch h⟩
  | asked t u hm hinner hevents ih =>
    have hu : t.Careful u := by
      obtain ⟨inner, events⟩ := u
      subst hinner
      subst hevents
      exact .step (.step (hread true) (.write _ true) (hrequest _ _ true)) (.delay _) trivial
    refine ⟨hu.trans ih.1, fun control h => ?_⟩
    obtain ⟨v, hv, hasleep, hended⟩ := ih.2 control h
    exact ⟨v, hu.trans hv, hasleep, hended⟩

theorem changeMode_careful (mode : Mode) :
    Within Traced.Careful (changeMode mode : Link (Traced Device) Unit) := by
  intro t
  obtain ⟨hsleep, hslept⟩ := sleep_careful t
  rw [changeMode, bind_apply]
  cases hs : (sleep t).1 with
  | error e => exact hsleep
  | ok control =>
    obtain ⟨u, hu, hasleep, hended⟩ := hslept control hs
    simp only
    split
    · rcases write_cases [(Register.ctrlMeas, Register.mode.set control mode.bits)] (sleep t).2
        with ⟨_, hw⟩ | ⟨frame, hf, hw | hw⟩
      · rw [hw]
        exact hsleep
      · rw [hw, hended]
        exact .starts hu hasleep frame false
      · rw [hw, hended, ← WriteFrame.pairs_of_ofPairs? hf]
        exact .starts hu hasleep frame true
    · exact hsleep

/-- What is done to a chip that was put to sleep. -/
theorem asleep_bind {next : Unit → Link (Traced Device) α}
    (hnext : ∀ t : Traced Device, t.inner.modeBits = 0 → t.Careful (next () t).2) :
    Within Traced.Careful (changeMode .sleep >>= next : Link (Traced Device) α) := by
  intro t
  have hsleep := changeMode_careful .sleep t
  rw [bind_apply]
  cases hs : (changeMode .sleep t).1 with
  | error e => exact hsleep
  | ok _ => exact hsleep.trans (hnext _ (changeMode_sleep_ok hs))

theorem resume_careful (mode : Mode) : Within Traced.Careful
    (if mode ≠ .sleep then changeMode mode else pure () : Link (Traced Device) Unit) := by
  split
  · exact changeMode_careful mode
  · exact within_pure _

theorem readMode_careful : Within Traced.Careful (readMode : Link (Traced Device) Mode) :=
  within_bind (within_bind (read_careful _ _) fun _ => within_pure _) fun _ => within_pure _

theorem readConfig_careful : Within Traced.Careful (readConfig : Link (Traced Device) Config) :=
  within_bind (read_careful _ _) fun _ => within_pure _

/-- The block that goes out holds the mode bits of the block that came in, which are those of a
chip that is asleep. -/
theorem writeConfig_careful (config : Config) :
    Within Traced.Careful (writeConfig config : Link (Traced Device) Unit) := by
  refine within_bind readMode_careful fun mode => asleep_bind fun t hasleep => ?_
  have hread := read_sleepsOn Register.ctrlGas1 5 t hasleep
  have hregisters := read_registers Register.ctrlGas1 5 t
  rw [bind_apply]
  cases hr : (read Register.ctrlGas1 5 t).1 with
  | error e => exact hread.1
  | ok block =>
    rw [read_ok hr, ← hregisters]
    generalize (read Register.ctrlGas1 5 t).2 = u at hread ⊢
    have hwrite : Traced.SleepsOn u (write (consecutive Register.ctrlGas1
        (config.patch (u.inner.registers.block Register.ctrlGas1 5)).toList) u).2 :=
      write_sleepsOn fun pair hpair he =>
        (RegisterFile.mode_of_patch config _ hpair he).trans hread.2
    have hrest := within_rest (fun _ => resume_careful mode) (write (consecutive Register.ctrlGas1
      (config.patch (u.inner.registers.block Register.ctrlGas1 5)).toList)) u
    exact (hread.1.trans (hwrite hread.2).1).trans hrest

theorem writeSteps_sleepsOn (target wait : HeaterStep → UInt8) (steps : HeaterSteps) :
    Within Traced.SleepsOn (writeSteps target wait steps.1 : Link (Traced Device) Unit) :=
  within_bind
    (write_apart_sleepsOn (heater_ne (heater_range (.inl rfl) steps target) (by decide)))
    fun _ => write_apart_sleepsOn (heater_ne (heater_range (.inr rfl) steps wait) (by decide))

theorem writeProfile_sleepsOn (target : HeaterStep → UInt8) (profile : HeaterProfile) :
    Within Traced.SleepsOn (writeProfile target profile : Link (Traced Device) UInt8) := by
  cases profile with
  | forced step =>
    refine within_bind (write_apart_sleepsOn ?_) fun _ => within_pure _
    simp only [List.mem_cons, List.not_mem_nil, or_false, forall_eq_or_imp, forall_eq]
    decide
  | sequential steps =>
    exact within_bind (writeSteps_sleepsOn _ _ steps) fun _ => within_pure _
  | parallel steps sharedMillis =>
    refine within_bind (writeSteps_sleepsOn _ _ steps) fun _ =>
      within_bind (write_apart_sleepsOn ?_) fun _ => within_pure _
    simp only [List.mem_singleton, forall_eq]
    decide

theorem programHeater_careful (variant : UInt8) (target : HeaterStep → UInt8)
    (profile : HeaterProfile) :
    Within Traced.Careful (programHeater variant target profile : Link (Traced Device) Unit) := by
  refine asleep_bind fun t hasleep => And.left (within_bind (writeProfile_sleepsOn target profile)
    (fun steps => within_bind (read_sleepsOn Register.ctrlGas0 2) fun control =>
      write_apart_sleepsOn ?_) t hasleep)
  simp only [List.mem_cons, List.not_mem_nil, or_false, forall_eq_or_imp, forall_eq]
  decide

theorem reset_careful : Within Traced.Careful (reset : Link (Traced Device) Unit) := by
  refine within_bind (fun t => write_careful ?_ ?_) fun _ t => ?_
  · simp only [List.mem_singleton, forall_eq]
    decide
  · simp only [List.mem_singleton, forall_eq]
    exact fun hprogrammed => absurd hprogrammed (by decide)
  · exact .step .refl (.delay Register.settleMicros) trivial

theorem uniqueId_careful : Within Traced.Careful (uniqueId : Link (Traced Device) UInt32) :=
  within_bind (read_careful _ _) fun _ => within_pure _

theorem handshake_careful :
    Within Traced.Careful (handshake : Link (Traced Device) (UInt8 × Calibration)) := by
  have hdump : Within Traced.Careful (readDump : Link (Traced Device) CoefficientDump) :=
    within_bind (read_careful _ _) fun _ => within_bind (read_careful _ _) fun _ =>
      within_bind (read_careful _ _) fun _ => within_pure _
  have hbyte (register : UInt8) :
      Within Traced.Careful (readByte register : Link (Traced Device) UInt8) :=
    within_bind (read_careful _ _) fun _ => within_pure _
  refine within_bind reset_careful fun _ => within_bind (hbyte _) fun chip => ?_
  split
  · exact within_bind (fun _ => .refl) fun _ => within_bind (hbyte _) fun _ =>
      within_bind hdump fun _ => within_pure _
  · exact within_bind (hbyte _) fun _ => within_bind hdump fun _ => within_pure _

theorem readFields_careful (mode : Mode) :
    Within Traced.Careful (readFields mode : Link (Traced Device) (List FieldBlock)) := by
  have hblocks (count : Nat) : Within Traced.Careful
      (readBlocks count : Link (Traced Device) (List FieldBlock)) :=
    within_bind (read_careful _ _) fun _ => within_pure _
  cases mode with
  | sleep => exact within_pure _
  | forced => exact hblocks 1
  | parallel => exact hblocks 3
  | sequential => exact hblocks 3

end Link

namespace Session

/-- What happens to the chip in between, whatever happens to the driver. -/
def Careful (s t : Session (Traced Device)) : Prop := s.link.Careful t.link

instance : IsPreorder (Session (Traced Device)) Careful where
  refl _ := .refl
  trans _ _ _ := Traced.Careful.trans

theorem attempt_careful {program : Link (Traced Device) α} (h : Within Traced.Careful program)
    (learn : α → Driver → Driver) : Within Careful (attempt program learn) :=
  fun s => h s.link

theorem ask_careful {program : Link (Traced Device) α} (h : Within Traced.Careful program) :
    Within Careful (ask program) :=
  attempt_careful h _

theorem log_careful (level : LogLevel) (text : String) :
    Within Careful (log level text : StateM (Session (Traced Device)) Unit) :=
  fun _ => .refl

theorem connect_careful : Within Careful (connect (σ := Traced Device)) := by
  refine Within.bind (log_careful _ _) fun _ =>
    Within.bind (attempt_careful Link.handshake_careful _) fun result => ?_
  cases result with
  | error e =>
    cases e with
    | deviceNotFound chip => exact Within.bind (log_careful _ _) fun _ => Within.pure _
    | _ => exact Within.bind (Within.pure _) fun _ => Within.pure _
  | ok known =>
    exact Within.bind (ask_careful Link.uniqueId_careful) fun _ =>
      Within.bind (log_careful _ _) fun _ => Within.pure _

theorem changeConfig_careful (change : Config → Config) :
    Within Careful (changeConfig (σ := Traced Device) change) := by
  refine Within.bind (attempt_careful Link.readConfig_careful _) fun result => ?_
  cases result with
  | error e => exact Within.bind (log_careful _ _) fun _ => Within.pure _
  | ok config => exact attempt_careful (Link.writeConfig_careful _) _

theorem setHeater_careful (profile : HeaterProfile) :
    Within Careful (setHeater (σ := Traced Device) profile) := by
  refine Within.bind Within.get fun s =>
    Within.bind (attempt_careful (Link.programHeater_careful _ _ _) _) fun result => ?_
  split
  · exact Within.bind (log_careful _ _) fun _ => Within.pure _
  · exact Within.bind (Within.pure _) fun _ => Within.pure _

theorem fetch_careful : Within Careful (fetch (σ := Traced Device)) :=
  Within.bind (fun _ => .refl) fun _ => Within.bind Within.get fun _ =>
    Within.bind (attempt_careful (Link.readFields_careful _) _) fun _ =>
      Within.bind Within.get fun _ => Within.pure _

theorem perform_careful {operation : Operation} (h : ∀ pairs, operation ≠ .writeRegisters pairs) :
    Within Careful (perform (σ := Traced Device) operation) := by
  have hreply {α : Type} {action : StateM (Session (Traced Device)) (Except SensorError α)}
      (haction : Within Careful action) (f : α → Reply) :
      Within Careful (do return (← action).map f) :=
    Within.bind haction fun _ => Within.pure _
  cases operation with
  | softReset => exact hreply (ask_careful Link.reset_careful) _
  | uniqueId => exact hreply (ask_careful Link.uniqueId_careful) _
  | readRegisters register length => exact hreply (ask_careful (Link.read_careful _ _)) _
  | writeRegisters pairs => exact (h pairs rfl).elim
  | setAmbient celsius => exact Within.bind (fun _ => .refl) fun _ => Within.pure _
  | setMode mode => exact hreply (attempt_careful (Link.changeMode_careful mode) _) _
  | readMode => exact hreply (ask_careful Link.readMode_careful) _
  | readConfig => exact hreply (attempt_careful Link.readConfig_careful _) _
  | setOversampling temperature pressure humidity => exact hreply (changeConfig_careful _) _
  | setFilter filter => exact hreply (changeConfig_careful _) _
  | setStandby standby => exact hreply (changeConfig_careful _) _
  | setHeater profile => exact hreply (setHeater_careful profile) _
  | fetch => exact hreply fetch_careful _
  | nextField => exact Within.bind (fun _ => .refl) fun _ => Within.pure _

theorem performAll_careful {operations : List Operation}
    (h : ∀ pairs, .writeRegisters pairs ∉ operations) :
    Within Careful (performAll (σ := Traced Device) operations) := by
  induction operations with
  | nil => exact Within.pure _
  | cons operation rest ih =>
    have hfirst : ∀ pairs, operation ≠ .writeRegisters pairs := by
      rintro pairs rfl
      exact h pairs List.mem_cons_self
    have hrest : ∀ pairs, .writeRegisters pairs ∉ rest := fun pairs hmem =>
      h pairs (List.mem_cons_of_mem _ hmem)
    rw [performAll, List.mapM_cons]
    exact Within.bind (perform_careful hfirst) fun _ => Within.bind (ih hrest) fun _ =>
      Within.pure _

/-- Whatever fails in a run of the driver from its connection on, a write that programs the chip or
starts a mode finds it asleep, and between two starts it was seen asleep. -/
theorem programmed_asleep {operations : List Operation}
    (h : ∀ pairs, .writeRegisters pairs ∉ operations) (s : Session (Traced Device)) :
    ∃ events, (performAll operations (connect s).2).2.link.events = s.link.events ++ events ∧
      (performAll operations (connect s).2).2.link.inner = s.link.inner.replay events ∧
      (∀ past frame succeeded rest, events = past ++ .write frame succeeded :: rest →
        frame.Programs ∨ frame.Starts → (s.link.inner.replay past).modeBits = 0) ∧
      ∀ past frame succeeded between frame' succeeded' rest,
        events = past ++ .write frame succeeded :: between ++ .write frame' succeeded' :: rest →
        frame.Starts → frame'.Starts →
        ∃ before, between = before ++ [.read Register.ctrlMeas 1 true] ∧
          (s.link.inner.replay (past ++ .write frame succeeded :: before)).modeBits = 0 := by
  have hcareful : s.link.Careful (performAll operations (connect s).2).2.link :=
    (connect_careful s).trans (performAll_careful h _)
  obtain ⟨events, hevents, hinner, hsent⟩ := hcareful.events
  refine ⟨events, hevents, hinner, ?_, ?_⟩
  · intro past frame succeeded rest hsplit hframe
    obtain ⟨hprograms, hstarts⟩ := hsent past frame succeeded rest hsplit
    exact hframe.elim hprograms fun hs => (hstarts hs).1
  · intro past frame succeeded between frame' succeeded' rest hsplit _ hstarts
    obtain ⟨_, before, hbefore, hasleep⟩ := (hsent _ _ _ _ hsplit).2 hstarts
    rcases Traced.eq_concat_cons hbefore.symm with ⟨_, hread⟩ | ⟨seen, rfl⟩
    · cases hread
    · rw [List.append_assoc, List.cons_append] at hbefore
      have hbetween := List.append_cancel_left hbefore
      exact ⟨seen, (List.cons.inj hbetween).2, hasleep⟩

/-- An active chip of the right kind, which ignores one request to sleep. -/
def wakeful : Session (Traced Device) where
  link := ⟨{ Device.supported.poke Register.ctrlMeas [3] with stuck := 1 }, []⟩

set_option maxRecDepth 100000 in
theorem programmed_asleep_wakeful :
    (∀ pairs, .writeRegisters pairs ∉ [Operation.setFilter .size3, .setMode .forced]) ∧
    ∃ past, (performAll [.setFilter .size3, .setMode .forced] (connect wakeful).2).2.link.events =
        past ++ [.write ⟨Register.ctrlMeas, [1]⟩ true] ∧
      (wakeful.link.inner.replay past).modeBits = 0 := by
  have hoperations : ∀ pairs,
      .writeRegisters pairs ∉ [Operation.setFilter .size3, .setMode .forced] := by simp
  have hlast : (performAll [.setFilter .size3, .setMode .forced]
      (connect wakeful).2).2.link.events.getLast? =
        some (.write ⟨Register.ctrlMeas, [1]⟩ true) := by cbv
  have hstarts : WriteFrame.Starts ⟨Register.ctrlMeas, [1]⟩ :=
    ⟨(Register.ctrlMeas, 1), List.mem_singleton_self _, rfl, by decide⟩
  obtain ⟨events, hevents, _, hasleep, _⟩ := programmed_asleep hoperations wakeful
  obtain ⟨past, hpast⟩ := List.getLast?_eq_some_iff.1 hlast
  exact ⟨hoperations, past, hpast,
    hasleep past _ true [] (hevents.symm.trans hpast) (.inr hstarts)⟩

end Session

end AirMonitor
