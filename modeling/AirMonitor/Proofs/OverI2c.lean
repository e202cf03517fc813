import AirMonitor.Proofs.Simulation

/-!
A chip behind an I²C bus is driven exactly as one at hand: what is asked of the transport goes over
the bus as it is, one transaction for one.
-/

namespace AirMonitor

variable {σ : Type}

/-- What a transaction is on the bus. -/
inductive BusEvent.Sent (address : UInt8) : BusEvent → I2cEvent → Prop where
  | write {register : UInt8} {data : List UInt8} (succeeded : Bool)
    (hlow : 2 ≤ (register :: data).length) (hhigh : (register :: data).length ≤ 20) :
    Sent address (.write ⟨register, data⟩ succeeded) (.write address (register :: data) succeeded)
  | read (register : UInt8) {length : Nat} (succeeded : Bool) (hlow : 1 ≤ length)
    (hhigh : length ≤ 51) :
    Sent address (.read register length succeeded) (.writeRead address [register] length succeeded)
  | delay (micros now : UInt32) : Sent address (.delay micros) (.wait micros now)

/-- No frame was too long for the buffer it is built in. -/
theorem BusEvent.Sent.fits {address : UInt8} {events : List BusEvent} {sent : List I2cEvent}
    (h : List.Forall₂ (Sent address) events sent) {frame : WriteFrame} {succeeded : Bool}
    (hmem : .write frame succeeded ∈ events) : frame.data.length < I2c.bufferSize := by
  induction h with
  | nil => cases hmem
  | cons hsent _ ih =>
    rcases List.mem_cons.mp hmem with rfl | hmem
    · cases hsent with
      | write _ hlow hhigh => exact Nat.lt_of_lt_of_le hhigh (by decide)
    · exact ih hmem

/-- The bus has brought the peripheral into the state that it would be in at hand. -/
structure I2c.Carries (bus : I2c σ) (t : Traced (I2c σ)) (s : σ) : Prop where
  peripheral : t.inner.peripheral = s
  address : t.inner.address = bus.address
  sent : ∃ events, t.inner.events = bus.events ++ events ∧
    List.Forall₂ (BusEvent.Sent bus.address) t.events events

theorem I2c.Carries.grow {bus : I2c σ} {t : Traced (I2c σ)} {s s' : σ} (h : bus.Carries t s)
    {inner : I2c σ} {event : BusEvent} {sent : I2cEvent} (hperipheral : inner.peripheral = s')
    (haddress : inner.address = t.inner.address) (hevents : inner.events = t.inner.events ++ [sent])
    (hsent : event.Sent bus.address sent) : bus.Carries ⟨inner, t.events ++ [event]⟩ s' := by
  obtain ⟨events, hbefore, hall⟩ := h.sent
  refine ⟨hperipheral, haddress.trans h.address, events ++ [sent], ?_, ?_⟩
  · rw [hevents, hbefore, List.append_assoc]
  · exact List.rel_append hall (.cons hsent .nil)

variable [Transport σ]

theorem I2c.simulation (hdelay : ∀ micros (s : σ), Transport.delay micros s = s) (bus : I2c σ) :
    Simulation bus.Carries where
  read := by
    intro t s h register length hlow hhigh
    obtain rfl := h.peripheral
    exact ⟨rfl, h.grow rfl rfl rfl
      (h.address ▸ .read register _ (Nat.one_le_iff_ne_zero.mpr hlow) hhigh)⟩
  write := by
    intro t s h frame hlow hhigh
    obtain rfl := h.peripheral
    have hroom : ¬bufferSize ≤ frame.data.length :=
      Nat.not_le_of_lt (Nat.lt_trans hhigh (by decide))
    have hsent : Transport.write frame t.inner = t.inner.write (frame.register :: frame.data) :=
      if_neg hroom
    have hlow' := List.length_pos_of_ne_nil hlow
    change (Transport.write frame t.inner).1 = _ ∧ bus.Carries
      ⟨(Transport.write frame t.inner).2,
        t.events ++ [.write frame (Transport.write frame t.inner).1.isOk]⟩ _
    rw [hsent]
    exact ⟨rfl, h.grow rfl rfl rfl
      (h.address ▸ .write _ (Nat.succ_le_succ hlow') (Nat.succ_le_of_lt hhigh))⟩
  delay := by
    intro t s h micros
    rw [hdelay]
    exact h.grow h.peripheral rfl rfl (.delay micros _)

namespace Session

def operate [Settling σ] (operations : List Operation) :
    StateM (Session σ) (Except SensorError Unit × List (Except SensorError Reply)) := do
  let connected ← connect
  return (connected, ← performAll operations)

variable [Settling σ]

theorem refused_read {length : Nat} (h : length = 0 ∨ 51 < length) (register : UInt8)
    (s : Session σ) : (perform (.readRegisters register length) s).1 = .error .invalidLength ∧
      (perform (.readRegisters register length) s).2.link = s.link := by
  have hread : Link.read register length s.link = (.error .invalidLength, s.link) := if_pos h
  simp only [perform, readRegisters, ask, attempt, bind_run, hread]
  exact ⟨rfl, rfl⟩

theorem refused_write {pairs : List (UInt8 × UInt8)} (h : pairs = [] ∨ 10 < pairs.length)
    (s : Session σ) : (perform (.writeRegisters pairs) s).1 = .error .invalidLength ∧
      (perform (.writeRegisters pairs) s).2.link = s.link := by
  simp only [perform, writeRegisters, ask, attempt, bind_run, Link.write_refused h]
  exact ⟨rfl, rfl⟩

/-- Over the bus the driver comes to the results, the driver state and the registers that it comes
to at hand. Each transaction is one of proper length on the bus, to the one address, and what no
transaction can carry is refused beforehand. -/
theorem carried_as_at_hand (hdelay : ∀ micros (s : σ), Transport.delay micros s = s)
    (bus : I2c σ) (operations : List Operation) :
    let direct := operate operations { link := bus.peripheral }
    let carried := operate operations { link := (⟨bus, []⟩ : Traced (I2c σ)) }
    (carried.1 = direct.1 ∧ carried.2.driver = direct.2.driver ∧
      carried.2.journal = direct.2.journal ∧
      carried.2.link.inner.peripheral = direct.2.link) ∧
    carried.2.link.inner.address = bus.address ∧
    (∃ events, carried.2.link.inner.events = bus.events ++ events ∧
      List.Forall₂ (BusEvent.Sent bus.address) carried.2.link.events events) ∧
    (∀ frame succeeded, .write frame succeeded ∈ carried.2.link.events →
      frame.data.length < I2c.bufferSize) ∧
    (∀ length, length = 0 ∨ 51 < length → ∀ register (s : Session (Traced (I2c σ))),
      (perform (.readRegisters register length) s).1 = .error .invalidLength ∧
        (perform (.readRegisters register length) s).2.link = s.link) ∧
    (∀ pairs, pairs = [] ∨ 10 < pairs.length → ∀ s : Session (Traced (I2c σ)),
      (perform (.writeRegisters pairs) s).1 = .error .invalidLength ∧
        (perform (.writeRegisters pairs) s).2.link = s.link) := by
  intro direct carried
  have hsim := I2c.simulation hdelay bus
  have hstart : Alike bus.Carries ({ link := ⟨bus, []⟩ } : Session (Traced (I2c σ)))
      { link := bus.peripheral } :=
    ⟨rfl, rfl, rfl, rfl, [], (List.append_nil _).symm, .nil⟩
  have hrun : Agree (Alike bus.Carries) (operate (σ := Traced (I2c σ)) operations)
      (operate (σ := σ) operations) :=
    .bind (agree_connect hsim) fun _ => .bind (agree_performAll hsim operations) fun _ => .pure _
  obtain ⟨hresults, hdriver, hjournal, hlink⟩ := hrun _ _ hstart
  obtain ⟨events, hevents, hsent⟩ := hlink.sent
  exact ⟨⟨hresults, hdriver, hjournal, hlink.peripheral⟩, hlink.address, ⟨events, hevents, hsent⟩,
    fun _ _ hmem => BusEvent.Sent.fits hsent hmem, fun _ h register s => refused_read h register s,
    fun _ h s => refused_write h s⟩

/-- A chip on a bus that fails once. -/
def flaky : I2c Device where
  peripheral := { registers := .zero, failAt := fun n => n = 3 }
  address := 0x77
  clock := { now := 0, advance := fun _ => 1 }

theorem carried_as_at_hand_flaky :
    (∀ micros (s : Device), Transport.delay micros s = s) ∧
    (operate [.setMode .forced, .fetch] { link := (⟨flaky, []⟩ : Traced (I2c Device)) }).1 =
      (operate [.setMode .forced, .fetch] { link := flaky.peripheral }).1 ∧
    (operate [.setMode .forced, .fetch]
        { link := (⟨flaky, []⟩ : Traced (I2c Device)) }).2.link.inner.peripheral =
      (operate [.setMode .forced, .fetch] { link := flaky.peripheral }).2.link := by
  have hdelay : ∀ micros (s : Device), Transport.delay micros s = s := fun _ _ => rfl
  obtain ⟨⟨hresults, -, -, hperipheral⟩, -⟩ :=
    carried_as_at_hand hdelay flaky [.setMode .forced, .fetch]
  exact ⟨hdelay, hresults, hperipheral⟩

end Session

end AirMonitor
