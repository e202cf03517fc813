import AirMonitor.Proofs.Stores
import AirMonitor.Proofs.Traffic

namespace AirMonitor

/-- How many configurations the bus has carried to the chip. -/
def Traced.configWrites (t : Traced σ) : Nat :=
  t.events.countP fun
    | .write frame true => frame.register = Register.ctrlGas1
    | _ => false

/-- The chosen bits of the chip, and how many configurations it was sent. -/
def Traced.shown (chosen : RegisterBits) (t : Traced Device) : RegisterBits × Nat :=
  (t.inner.registers.bits chosen, t.configWrites)

theorem Traced.same_counted (chosen : RegisterBits) (t : Traced Device) {event : BusEvent}
    (h : ∀ frame, event ≠ .write frame true) :
    Same (Traced.shown chosen) t ⟨t.inner.counted, t.events ++ [event]⟩ := by
  have hevent : [event].countP (fun
      | .write frame true => decide (frame.register = Register.ctrlGas1)
      | _ => false) = 0 := by
    rw [List.countP_singleton]
    cases event with
    | write frame succeeded =>
      cases succeeded with
      | true => exact absurd rfl (h frame)
      | false => rfl
    | read register length succeeded => rfl
    | delay micros => rfl
  simp only [Same, shown, configWrites, List.countP_append]
  rw [hevent]
  rfl

@[simp] theorem onlyByte_block (file : RegisterFile) (register : UInt8) :
    onlyByte (file.block register 1) = file.get register := by
  simp [onlyByte, RegisterFile.block]

namespace Link

theorem read_cases (register : UInt8) (length : Nat) (t : Traced Device) :
    ((length = 0 ∨ Register.maxReadLength < length) ∧
      read register length t = (.error .invalidLength, t)) ∨
    read register length t =
      (.error .commFailure, ⟨t.inner.counted, t.events ++ [.read register length false]⟩) ∨
    read register length t = (.ok (t.inner.registers.block register length),
      ⟨t.inner.counted, t.events ++ [.read register length true]⟩) := by
  rw [read]
  split
  · next h => exact .inl ⟨h, rfl⟩
  · apply Or.inr
    simp only [Transport.read]
    split
    · exact .inl rfl
    · exact .inr rfl

theorem write_traced {pairs : List (UInt8 × UInt8)} {frame : WriteFrame}
    (h : WriteFrame.ofPairs? pairs = some frame) (hfits : pairs.length ≤ Register.maxWritePairs)
    (t : Traced Device) : write pairs t =
      if t.inner.failWrites || t.inner.failAt t.inner.transactions then
        (.error .commFailure, ⟨t.inner.counted, t.events ++ [.write frame false]⟩)
      else (.ok (), ⟨t.inner.counted.storeAll pairs, t.events ++ [.write frame true]⟩) := by
  rw [write_sent h hfits]
  simp only [Transport.write, WriteFrame.pairs_of_ofPairs? h]
  split <;> rfl

theorem write_cases (pairs : List (UInt8 × UInt8)) (t : Traced Device) :
    ((pairs = [] ∨ Register.maxWritePairs < pairs.length) ∧
      write pairs t = (.error .invalidLength, t)) ∨
    ∃ frame, WriteFrame.ofPairs? pairs = some frame ∧
      (write pairs t =
        (.error .commFailure, ⟨t.inner.counted, t.events ++ [.write frame false]⟩) ∨
      write pairs t =
        (.ok (), ⟨t.inner.counted.storeAll pairs, t.events ++ [.write frame true]⟩)) := by
  by_cases hrefused : pairs = [] ∨ Register.maxWritePairs < pairs.length
  · exact .inl ⟨hrefused, write_refused hrefused t⟩
  · obtain ⟨hsome, hfits⟩ := not_or.1 hrefused
    obtain ⟨pair, pairs, rfl⟩ := List.exists_cons_of_ne_nil hsome
    refine .inr ⟨_, rfl, ?_⟩
    rw [write_traced rfl (Nat.not_lt.1 hfits)]
    split
    · exact .inl rfl
    · exact .inr rfl

variable {chosen : RegisterBits}

theorem read_keeps (register : UInt8) (length : Nat) :
    Within (Same (Traced.shown chosen)) (read (σ := Traced Device) register length) := by
  intro t
  rcases read_cases register length t with ⟨_, h⟩ | h | h
  · rw [h]
    rfl
  · rw [h]
    exact Traced.same_counted chosen t (by simp)
  · rw [h]
    exact Traced.same_counted chosen t (by simp)

/-- What follows a read may count on the chip as it was read. -/
theorem read_bind_keeps {register : UInt8} {length : Nat}
    {next : Vector UInt8 length → Link (Traced Device) α}
    (h : ∀ t : Traced Device, Same (Traced.shown chosen) t
      (next (t.inner.registers.block register length) t).2) :
    Within (Same (Traced.shown chosen))
      (read register length >>= next : Link (Traced Device) α) := by
  intro t
  have hread := @read_keeps chosen register length t
  rw [bind_apply]
  rcases read_cases register length t with ⟨_, hr⟩ | hr | hr
  · rw [hr] at hread ⊢
    exact hread
  · rw [hr] at hread ⊢
    exact hread
  · rw [hr] at hread ⊢
    exact (h _).trans hread

theorem write_keeps (hmode : RegisterBits.mode.Apart chosen) {pairs : List (UInt8 × UInt8)}
    {t : Traced Device} (hfirst : ∀ pair ∈ pairs.head?, pair.1 ≠ Register.ctrlGas1)
    (h : ∀ pair ∈ pairs,
      pair.2 &&& chosen pair.1 = t.inner.registers.get pair.1 &&& chosen pair.1) :
    Same (Traced.shown chosen) t (write pairs t).2 := by
  rcases write_cases pairs t with ⟨_, hw⟩ | ⟨frame, hf, hw | hw⟩
  · rw [hw]
    rfl
  · rw [hw]
    exact Traced.same_counted chosen t (by simp)
  · have hframe : frame.register ≠ Register.ctrlGas1 := by
      intro he
      cases pairs with
      | nil => simp [WriteFrame.ofPairs?] at hf
      | cons pair pairs =>
        simp only [WriteFrame.ofPairs?, Option.some.injEq] at hf
        subst hf
        exact hfirst pair rfl he
    have hbits := (Device.storeAll_bits hmode t.inner.counted pairs).trans
      (RegisterFile.bits_setPairs h)
    rw [hw]
    simp only [Same, Traced.shown, Traced.configWrites, hbits]
    simp [hframe]
    rfl

theorem write_one_keeps (hmode : RegisterBits.mode.Apart chosen) {register value : UInt8}
    {t : Traced Device} (hfirst : register ≠ Register.ctrlGas1)
    (h : value &&& chosen register = t.inner.registers.get register &&& chosen register) :
    Same (Traced.shown chosen) t (write [(register, value)] t).2 := by
  apply write_keeps hmode (by rintro _ ⟨⟩; exact hfirst)
  intro pair hpair
  rw [List.mem_singleton.1 hpair]
  exact h

theorem read_ctrlMeas {t : Traced Device} {control : Vector UInt8 1}
    (h : (Transport.read Register.ctrlMeas 1 t).1 = .ok control) :
    onlyByte control = t.inner.registers.get Register.ctrlMeas := by
  have h : (Transport.read Register.ctrlMeas 1 t.inner).1 = .ok control := h
  rw [Device.read_ok h, onlyByte_block]

theorem sleep_keeps (hmode : RegisterBits.mode.Apart chosen) :
    Within (Same (Traced.shown chosen)) (sleep : Link (Traced Device) UInt8) := by
  have hread (t : Traced Device) :
      Same (Traced.shown chosen) t (Transport.read Register.ctrlMeas 1 t).2 :=
    read_keeps Register.ctrlMeas 1 t
  apply within_sleep hread
  · intro t control hr
    have hrequest : Same (Traced.shown chosen) (Transport.read Register.ctrlMeas 1 t).2
        (write [(Register.ctrlMeas, Register.mode.set (onlyByte control) 0)]
          (Transport.read Register.ctrlMeas 1 t).2).2 := by
      apply write_one_keeps hmode (by decide)
      rw [BitField.set_and_of_apart (hmode Register.ctrlMeas), read_ctrlMeas hr]
      exact (congrFun (congrArg Prod.fst (hread t)) Register.ctrlMeas).symm
    exact hrequest.trans (hread t)
  · intro t
    simp [Same, Traced.shown, Traced.configWrites, Transport.delay]

/-- A chip that was put to sleep is asleep, and its mode register is known. -/
theorem sleep_ok (t : Traced Device) : ∀ control, (sleep t).1 = .ok control →
    control = (sleep t).2.inner.registers.get Register.ctrlMeas ∧
      Register.mode.get control = 0 := by
  induction t using sleep_induction with
  | unread t e hr => simp
  | asleep t control hr hm =>
    intro control' h
    cases h
    have hstate := Device.read_state t.inner Register.ctrlMeas 1
    constructor
    · rw [read_ctrlMeas hr]
      exact congrArg (·.registers.get Register.ctrlMeas) hstate.symm
    · exact hm
  | refused t control hr hm u e hw => simp
  | asked t control hr hm u hw ih => exact ih

theorem changeMode_keeps (hmode : RegisterBits.mode.Apart chosen) (mode : Mode) :
    Within (Same (Traced.shown chosen)) (changeMode mode : Link (Traced Device) Unit) := by
  intro t
  have hsleep := sleep_keeps hmode t
  rw [changeMode, bind_apply]
  cases hs : (sleep t).1 with
  | error e => exact hsleep
  | ok control =>
    obtain ⟨hcontrol, _⟩ := sleep_ok t control hs
    simp only
    split
    · apply Eq.trans _ hsleep
      apply write_one_keeps hmode (by decide)
      rw [BitField.set_and_of_apart (hmode Register.ctrlMeas), hcontrol]
    · exact hsleep

/-- The registers of the heater come before all others that are written. -/
theorem heater_ne {pairs : List (UInt8 × UInt8)} (h : ∀ pair ∈ pairs,
    Register.heaterTarget0 ≤ pair.1 ∧ pair.1 ≤ Register.heaterShared) {address : UInt8}
    (haddress : ¬ address ≤ Register.heaterShared) : ∀ pair ∈ pairs, pair.1 ≠ address := by
  intro pair hpair he
  have hrange := h pair hpair
  rw [he] at hrange
  exact haddress hrange.2

theorem write_heater_keeps (hmode : RegisterBits.mode.Apart chosen)
    (hheater : RegisterBits.heater.Apart chosen) {pairs : List (UInt8 × UInt8)}
    (h : ∀ pair ∈ pairs,
      Register.heaterTarget0 ≤ pair.1 ∧ pair.1 ≤ Register.heaterShared) :
    Within (Same (Traced.shown chosen)) (write (σ := Traced Device) pairs) := by
  intro t
  apply write_keeps hmode
  · intro pair hpair he
    exact absurd he (heater_ne h (by decide) pair (List.mem_of_mem_head? hpair))
  · intro pair hpair
    obtain ⟨hlow, hhigh⟩ := h pair hpair
    rw [hheater.of_range hlow hhigh, UInt8.and_zero, UInt8.and_zero]

theorem heater_range {first : UInt8} (hfirst : first = Register.heaterTarget0 ∨
    first = Register.heaterWait0) (steps : HeaterSteps) (code : HeaterStep → UInt8) :
    ∀ pair ∈ consecutive first (steps.1.map code),
      Register.heaterTarget0 ≤ pair.1 ∧ pair.1 ≤ Register.heaterShared := by
  intro pair hpair
  obtain ⟨i, hi, rfl⟩ := mem_consecutive hpair
  have hfit : i < 10 := Nat.lt_of_lt_of_le (by simpa using hi) steps.2
  have hlast : Register.heaterShared.toNat = 110 := rfl
  rw [UInt8.le_iff_toNat_le, UInt8.le_iff_toNat_le, UInt8.toNat_add, UInt8.toNat_ofNat']
  rcases hfirst with rfl | rfl
  · have hbase : Register.heaterTarget0.toNat = 90 := rfl
    omega
  · have hbase : Register.heaterTarget0.toNat = 90 := rfl
    have hwait : Register.heaterWait0.toNat = 100 := rfl
    omega

/-- The codes of steps, if there are any, fit one write. -/
theorem heater_fits {steps : HeaterSteps} (h : steps.1 ≠ []) (register : UInt8)
    (code : HeaterStep → UInt8) : consecutive register (steps.1.map code) ≠ [] ∧
      (consecutive register (steps.1.map code)).length ≤ Register.maxWritePairs := by
  have hlength : (consecutive register (steps.1.map code)).length = steps.1.length := by simp
  constructor
  · intro hnil
    rw [hnil] at hlength
    exact h (List.eq_nil_of_length_eq_zero hlength.symm)
  · exact hlength ▸ steps.2

theorem writeSteps_keeps (hmode : RegisterBits.mode.Apart chosen)
    (hheater : RegisterBits.heater.Apart chosen) (target wait : HeaterStep → UInt8)
    (steps : HeaterSteps) :
    Within (Same (Traced.shown chosen))
      (writeSteps target wait steps.1 : Link (Traced Device) Unit) :=
  within_bind (write_heater_keeps hmode hheater (heater_range (.inl rfl) steps target))
    fun _ => write_heater_keeps hmode hheater (heater_range (.inr rfl) steps wait)

theorem writeProfile_keeps (hmode : RegisterBits.mode.Apart chosen)
    (hheater : RegisterBits.heater.Apart chosen) (target : HeaterStep → UInt8)
    (profile : HeaterProfile) :
    Within (Same (Traced.shown chosen))
      (writeProfile target profile : Link (Traced Device) UInt8) := by
  cases profile with
  | forced step =>
    refine within_bind (write_heater_keeps hmode hheater ?_) fun _ => within_pure _
    simp only [List.mem_cons, List.not_mem_nil, or_false, forall_eq_or_imp, forall_eq]
    decide
  | sequential steps =>
    exact within_bind (writeSteps_keeps hmode hheater _ _ steps) fun _ => within_pure _
  | parallel steps sharedMillis =>
    refine within_bind (writeSteps_keeps hmode hheater _ _ steps) fun _ =>
      within_bind (write_heater_keeps hmode hheater ?_) fun _ => within_pure _
    simp only [List.mem_singleton, forall_eq]
    decide

theorem programHeater_keeps (hmode : RegisterBits.mode.Apart chosen)
    (hheater : RegisterBits.heater.Apart chosen) (variant : UInt8)
    (target : HeaterStep → UInt8) (profile : HeaterProfile) :
    Within (Same (Traced.shown chosen))
      (programHeater variant target profile : Link (Traced Device) Unit) := by
  refine within_bind (changeMode_keeps hmode .sleep) fun _ =>
    within_bind (writeProfile_keeps hmode hheater target profile) fun steps =>
      read_bind_keeps fun t => ?_
  have hfirst : Register.ctrlGas0 ≠ Register.ctrlGas1 := by decide
  have hoff : Register.heaterOff.mask &&& chosen Register.ctrlGas0 = 0 := hheater.of_and rfl
  have hsteps : Register.heaterSteps.mask &&& chosen Register.ctrlGas1 = 0 := hheater.of_and rfl
  have hrun : Register.runGas.mask &&& chosen Register.ctrlGas1 = 0 := hheater.of_and rfl
  apply write_keeps hmode (by rintro _ ⟨⟩; exact hfirst)
  intro pair hpair
  simp only [List.mem_cons, List.not_mem_nil, or_false] at hpair
  rcases hpair with rfl | rfl
  · rw [BitField.set_and_of_apart hoff]
    simp [RegisterFile.block]
  · rw [BitField.set_and_of_apart hrun, BitField.set_and_of_apart hsteps]
    simp [RegisterFile.block, Register.ctrlGas0, Register.ctrlGas1]

theorem readFields_keeps (mode : Mode) : Within (Same (Traced.shown chosen))
    (readFields mode : Link (Traced Device) (List FieldBlock)) := by
  cases mode with
  | sleep => exact within_pure _
  | forced => exact within_bind (read_keeps _ _) fun _ => within_pure _
  | parallel => exact within_bind (read_keeps _ _) fun _ => within_pure _
  | sequential => exact within_bind (read_keeps _ _) fun _ => within_pure _

end Link

end AirMonitor
