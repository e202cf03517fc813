import AirMonitor.Proofs.Leads

/-!
How connecting to a chip ends, by the transactions that fail.
-/

namespace AirMonitor

/-- The coefficients as a chip holds them. -/
def RegisterFile.coefficients (file : RegisterFile) : CoefficientDump where
  first := file.block Register.coefficients1 23
  second := file.block Register.coefficients2 14
  third := file.block Register.coefficients3 5

theorem RegisterFile.block_set {register address : UInt8} {length : Nat}
    (h : ∀ i < length, address ≠ register + UInt8.ofNat i) (file : RegisterFile) (value : UInt8) :
    (file.set address value).block register length = file.block register length := by
  apply Vector.ext
  intro i hi
  rw [block, block, Vector.getElem_ofFn, Vector.getElem_ofFn, get_set_of_ne _ _ (h i hi)]

namespace Device

/-- Whether a transaction fails, counted from the next one, which is the only write among them. -/
def failsAt (device : Device) (n : Nat) : Bool :=
  (if n = 0 then device.failWrites else device.failReads) ||
    device.failAt (device.transactions + n)

/-- All that connecting to the chip takes on the bus. -/
def connection (device : Device) : List BusEvent :=
  [.write ⟨Register.softReset, [Register.resetCommand]⟩ (!device.failsAt 0),
    .delay Register.settleMicros, .read Register.chipId 1 (!device.failsAt 1),
    .read Register.variant 1 (!device.failsAt 2),
    .read Register.coefficients1 23 (!device.failsAt 3),
    .read Register.coefficients2 14 (!device.failsAt 4),
    .read Register.coefficients3 5 (!device.failsAt 5),
    .read Register.uniqueId 4 (!device.failsAt 6)]

/-- The chip comes to that transaction: none before it fails, and from the third one on it is a
supported chip. -/
structure Reaches (device : Device) (n : Nat) : Prop where
  carried : ∀ k < n, device.failsAt k = false
  known : 1 < n → device.registers.get Register.chipId = Register.expectedChipId

theorem Reaches.next {device : Device} {n : Nat} (h : device.Reaches n)
    (hcarried : device.failsAt n = false)
    (hknown : device.registers.get Register.chipId = Register.expectedChipId) :
    device.Reaches (n + 1) where
  carried k hk := by
    rcases Nat.lt_succ_iff_lt_or_eq.1 hk with hk | rfl
    · exact h.carried k hk
    · exact hcarried
  known _ := hknown

/-- No transaction is reached once one before it has failed. -/
theorem Reaches.le_of_failed {device : Device} {m n : Nat} (h : device.Reaches n)
    (hfailed : device.failsAt m = true) : n ≤ m := by
  apply Nat.not_lt.1
  intro hlt
  exact Bool.false_ne_true ((h.carried m hlt).symm.trans hfailed)

/-- The chip after the reset and some of the reads. -/
def told (device : Device) (n : Nat) : Traced Device where
  inner :=
    { device with
      registers := device.registers.set Register.softReset Register.resetCommand
      transactions := device.transactions + n }
  events := device.connection.take (n + 1)

end Device

namespace Link

variable {device : Device}

theorem reset_failed (h : device.failsAt 0 = true) :
    reset (⟨device, []⟩ : Traced Device) =
      (.error .commFailure, ⟨device.counted, device.connection.take 1⟩) := by
  have hsent : (device.failWrites || device.failAt device.transactions) = true := h
  rw [Device.connection, h]
  simp only [reset, bind_apply, write, WriteFrame.ofPairs?, Transport.write, hsent, ↓reduceIte]
  rfl

theorem reset_unfailed (h : device.failsAt 0 = false) :
    reset (⟨device, []⟩ : Traced Device) = (.ok (), device.told 1) := by
  have hsent : (device.failWrites || device.failAt device.transactions) = false := h
  rw [Device.told, Device.connection, h]
  simp only [reset, bind_apply, write, WriteFrame.ofPairs?, Transport.write, hsent,
    Bool.false_eq_true, ↓reduceIte]
  rfl

theorem read_told {n : Nat} {register : UInt8} {length : Nat} (hn : n ≠ 0) (hlow : length ≠ 0)
    (hhigh : length ≤ Register.maxReadLength)
    (hnext : device.connection[n + 1]? = some (.read register length (!device.failsAt n))) :
    read register length (device.told n) =
      (if device.failsAt n then .error .commFailure
        else .ok ((device.told n).inner.registers.block register length), device.told (n + 1)) := by
  have hfails : (device.failReads || device.failAt (device.transactions + n)) =
      device.failsAt n := by rw [Device.failsAt, if_neg hn]
  have hevents : device.connection.take (n + 2) =
      device.connection.take (n + 1) ++ [.read register length (!device.failsAt n)] := by
    rw [List.take_add_one, hnext]
    rfl
  rw [read, if_neg (by omega)]
  simp only [Transport.read, Device.told, hfails, hevents]
  cases device.failsAt n <;> rfl

/-- How the handshake ends, and where it leaves the chip. -/
inductive Shaken (device : Device) :
    Except SensorError (UInt8 × Calibration) × Traced Device → Prop where
  | unreset (h : device.failsAt 0 = true) :
    Shaken device (.error .commFailure, ⟨device.counted, device.connection.take 1⟩)
  | unread {n : Nat} (hreads : 0 < n) (hn : n < 6) (hreached : device.Reaches n)
    (h : device.failsAt n = true) : Shaken device (.error .commFailure, device.told (n + 1))
  | foreign (hreached : device.Reaches 1) (hcarried : device.failsAt 1 = false)
    (h : device.registers.get Register.chipId ≠ Register.expectedChipId) :
    Shaken device
      (.error (.deviceNotFound (device.registers.get Register.chipId)), device.told 2)
  | done (hreached : device.Reaches 6) :
    Shaken device (.ok (device.registers.get Register.variant,
      .ofDump device.registers.coefficients), device.told 6)

theorem shaken_read {n : Nat} {register : UInt8} {length : Nat}
    {next : Vector UInt8 length → Link (Traced Device) (UInt8 × Calibration)}
    (hreached : device.Reaches n) (hreads : 0 < n) (hn : n < 6) (hlow : length ≠ 0)
    (hhigh : length ≤ Register.maxReadLength)
    (hnext : device.connection[n + 1]? = some (.read register length (!device.failsAt n)))
    (hapart : ∀ i < length, Register.softReset ≠ register + UInt8.ofNat i)
    (h : device.failsAt n = false →
      Shaken device (next (device.registers.block register length) (device.told (n + 1)))) :
    Shaken device ((read register length >>= next : Link (Traced Device) _) (device.told n)) := by
  rw [bind_apply, read_told (Nat.ne_of_gt hreads) hlow hhigh hnext]
  cases hfails : device.failsAt n with
  | true => exact .unread hreads hn hreached hfails
  | false =>
    have hblock := device.registers.block_set hapart Register.resetCommand
    have hrest := h hfails
    rw [← hblock] at hrest
    exact hrest

theorem handshake_shaken (device : Device) :
    Shaken device (handshake (⟨device, []⟩ : Traced Device)) := by
  have hone (register : UInt8) : onlyByte (device.registers.block register 1) =
    device.registers.get register := onlyByte_block _ _
  simp only [handshake, readByte, readDump, bind_assoc, pure_bind]
  rw [bind_apply]
  cases hreset : device.failsAt 0 with
  | true =>
    rw [reset_failed hreset]
    exact .unreset hreset
  | false =>
    have hfirst : device.Reaches 1 := by
      refine ⟨?_, fun h => (Nat.lt_irrefl 1 h).elim⟩
      intro k hk
      obtain rfl : k = 0 := by omega
      exact hreset
    rw [reset_unfailed hreset]
    apply shaken_read hfirst (by decide) (by decide) (by decide) (by decide) rfl (by decide)
    intro hcarried
    rw [hone]
    split
    · next hforeign => exact .foreign hfirst hcarried hforeign
    · next hchip =>
      have hknown := Decidable.not_not.1 hchip
      have hsecond := hfirst.next hcarried hknown
      apply shaken_read hsecond (by decide) (by decide) (by decide) (by decide) rfl (by decide)
      intro hvariant
      rw [hone]
      have hthird := hsecond.next hvariant hknown
      apply shaken_read hthird (by decide) (by decide) (by decide) (by decide) rfl (by decide)
      intro hcoefficients1
      have hfourth := hthird.next hcoefficients1 hknown
      apply shaken_read hfourth (by decide) (by decide) (by decide) (by decide) rfl (by decide)
      intro hcoefficients2
      have hfifth := hfourth.next hcoefficients2 hknown
      apply shaken_read hfifth (by decide) (by decide) (by decide) (by decide) rfl (by decide)
      intro hcoefficients3
      exact .done (hfifth.next hcoefficients3 hknown)

namespace Shaken

variable {ended : Except SensorError (UInt8 × Calibration) × Traced Device}

theorem commFailure_iff (h : Shaken device ended) : ended.1 = .error .commFailure ↔
    ∃ n < 6, device.Reaches n ∧ device.failsAt n = true := by
  cases h with
  | unreset h =>
    have hreached : device.Reaches 0 :=
      ⟨fun k hk => (Nat.not_lt_zero k hk).elim, fun h => (Nat.not_lt_zero 1 h).elim⟩
    exact ⟨fun _ => ⟨0, by decide, hreached, h⟩, fun _ => rfl⟩
  | unread hreads hn hreached h => exact ⟨fun _ => ⟨_, hn, hreached, h⟩, fun _ => rfl⟩
  | foreign hreached hcarried h =>
    refine ⟨fun he => by simp at he, ?_⟩
    rintro ⟨n, -, hn, hfails⟩
    have hlow := hreached.le_of_failed hfails
    rcases Nat.eq_or_lt_of_le hlow with rfl | hlow
    · exact (Bool.false_ne_true (hcarried.symm.trans hfails)).elim
    · exact (h (hn.known hlow)).elim
  | done hreached =>
    refine ⟨fun he => by simp at he, ?_⟩
    rintro ⟨n, hlt, -, hfails⟩
    exact (Nat.not_lt.2 (hreached.le_of_failed hfails) hlt).elim

theorem deviceNotFound_iff (h : Shaken device ended) :
    (∃ id, ended.1 = .error (.deviceNotFound id)) ↔
      device.failsAt 0 = false ∧ device.failsAt 1 = false ∧
        device.registers.get Register.chipId ≠ Register.expectedChipId := by
  cases h with
  | unreset h =>
    refine ⟨fun he => by simp at he, ?_⟩
    rintro ⟨hreset, -⟩
    exact (Bool.false_ne_true (hreset.symm.trans h)).elim
  | @unread n hreads hn hreached h =>
    refine ⟨fun he => by simp at he, ?_⟩
    rintro ⟨-, hfirst, hforeign⟩
    rcases Nat.eq_or_lt_of_le (Nat.succ_le_of_lt hreads) with rfl | hlow
    · exact (Bool.false_ne_true (hfirst.symm.trans h)).elim
    · exact (hforeign (hreached.known hlow)).elim
  | foreign hreached hcarried h =>
    exact ⟨fun _ => ⟨hreached.carried 0 (by decide), hcarried, h⟩, fun _ => ⟨_, rfl⟩⟩
  | done hreached =>
    refine ⟨fun he => by simp at he, ?_⟩
    rintro ⟨-, -, hforeign⟩
    exact (hforeign (hreached.known (by decide))).elim

theorem ok_iff (h : Shaken device ended) :
    (∃ found, ended.1 = .ok found) ↔ device.Reaches 6 := by
  cases h with
  | unreset h =>
    exact ⟨fun he => by simp at he, fun hreached => absurd (hreached.le_of_failed h) (by decide)⟩
  | unread hreads hn hreached h =>
    refine ⟨fun he => by simp at he, fun hall => ?_⟩
    exact absurd (hall.le_of_failed h) (Nat.not_le.2 hn)
  | foreign hreached hcarried h =>
    exact ⟨fun he => by simp at he, fun hall => absurd (hall.known (by decide)) h⟩
  | done hreached => exact ⟨fun _ => hreached, fun _ => ⟨_, rfl⟩⟩

theorem of_ok {found : UInt8 × Calibration} (h : Shaken device ended) (hr : ended.1 = .ok found) :
    found = (device.registers.get Register.variant, .ofDump device.registers.coefficients) ∧
      ended.2 = device.told 6 := by
  cases h with
  | unreset h => cases hr
  | unread hreads hn hreached h => cases hr
  | foreign hreached hcarried h => cases hr
  | done hreached => exact ⟨(Except.ok.inj hr).symm, rfl⟩

theorem events_of_deviceNotFound {id : UInt8} (h : Shaken device ended)
    (hr : ended.1 = .error (.deviceNotFound id)) : ended.2.events = device.connection.take 3 := by
  cases h with
  | unreset h => cases hr
  | unread hreads hn hreached h => cases hr
  | foreign hreached hcarried h => rfl
  | done hreached => cases hr

theorem events (h : Shaken device ended) : ended.2.events <+: device.connection := by
  cases h with
  | unreset h => exact List.take_prefix _ _
  | unread hreads hn hreached h => exact List.take_prefix _ _
  | foreign hreached hcarried h => exact List.take_prefix _ _
  | done hreached => exact List.take_prefix _ _

theorem registers (h : Shaken device ended) {address : UInt8} (ha : address ≠ Register.softReset) :
    ended.2.inner.registers.get address = device.registers.get address := by
  have htold : (device.registers.set Register.softReset Register.resetCommand).get address =
    device.registers.get address := RegisterFile.get_set_of_ne _ _ ha.symm
  cases h with
  | unreset h => rfl
  | unread hreads hn hreached h => exact htold
  | foreign hreached hcarried h => exact htold
  | done hreached => exact htold

end Shaken

theorem uniqueId_told (device : Device) :
    (uniqueId (device.told 6)).2 = device.told 7 ∧
      Outcome.ofResult (uniqueId (device.told 6)).1 =
        if device.failsAt 6 then .failure .commFailure else .success := by
  rw [uniqueId, bind_apply, read_told (by decide) (by decide) (by decide) rfl]
  cases device.failsAt 6 <;> exact ⟨rfl, rfl⟩

end Link

namespace Session

variable {σ : Type} [Transport σ]

theorem uniqueId_driver (s : Session σ) :
    (uniqueId s).2.driver = s.driver.ended (.ofResult (Link.uniqueId s.link).1) := by
  rcases attempt_cases Link.uniqueId (fun _ driver => driver) s with
    ⟨id, hid, -, hdriver⟩ | ⟨e, he, -, hdriver⟩
  · rw [hid]
    exact hdriver
  · rw [he]
    exact hdriver

theorem connect_cases (s : Session σ) :
    (∃ e, (Link.handshake s.link).1 = .error e ∧ (connect s).1 = .error e ∧
      (connect s).2.link = (Link.handshake s.link).2) ∨
    ∃ variant calibration, (Link.handshake s.link).1 = .ok (variant, calibration) ∧
      (connect s).1 = .ok () ∧
      (connect s).2.link = (Link.uniqueId (Link.handshake s.link).2).2 ∧
      (connect s).2.driver = { s.driver with
        variant, calibration
        outcome := .ofResult (Link.uniqueId (Link.handshake s.link).2).1 } := by
  have hlogged : ∃ t, ((log .info "Initializing BME68x" : StateM (Session σ) Unit) s).2 = t ∧
      t.link = s.link ∧ t.driver = s.driver := ⟨_, rfl, rfl, rfl⟩
  obtain ⟨t, ht, hlink, hdriver⟩ := hlogged
  rw [connect, bind_run, ht, bind_run, ← hlink, ← hdriver]
  cases hr : (Link.handshake t.link).1 with
  | error e =>
    refine .inl ⟨e, rfl, ?_⟩
    simp only [attempt, hr]
    cases e <;> exact ⟨rfl, rfl⟩
  | ok found =>
    refine .inr ⟨found.1, found.2, rfl, ?_⟩
    simp only [attempt, hr]
    exact ⟨rfl, rfl, uniqueId_driver _⟩

theorem connect_error_iff {s : Session σ} {e : SensorError} :
    (connect s).1 = .error e ↔ (Link.handshake s.link).1 = .error e := by
  rcases connect_cases s with ⟨e', hr, hreply, -⟩ | ⟨variant, calibration, hr, hreply, -⟩
  · rw [hr, hreply]
    simp
  · rw [hr, hreply]
    simp

/-- A driver that knows nothing of its chip yet. -/
def unconnected (device : Device) : Session (Traced Device) where
  link := ⟨device, []⟩

theorem unconnected_shaken (device : Device) :
    Link.Shaken device (Link.handshake (unconnected device).link) :=
  Link.handshake_shaken device

variable {device : Device}

theorem connect_ok_iff :
    (connect (unconnected device)).1 = .ok () ↔ device.Reaches 6 := by
  have hok := (unconnected_shaken device).ok_iff
  rcases connect_cases (unconnected device) with
    ⟨e, hr, hreply, -⟩ | ⟨variant, calibration, hr, hreply, -⟩
  · rw [hr] at hok
    rw [hreply]
    simpa using hok
  · rw [hr] at hok
    rw [hreply]
    simpa using hok

theorem connected (h : (connect (unconnected device)).1 = .ok ()) :
    (connect (unconnected device)).2.link = device.told 7 ∧
    (connect (unconnected device)).2.driver =
      { variant := device.registers.get Register.variant
        calibration := .ofDump device.registers.coefficients
        outcome := if device.failsAt 6 then .failure .commFailure else .success } := by
  rcases connect_cases (unconnected device) with
    ⟨e, hr, hreply, -⟩ | ⟨variant, calibration, hr, hreply, hlink, hdriver⟩
  · cases hreply.symm.trans h
  · obtain ⟨hfound, htold⟩ := (unconnected_shaken device).of_ok hr
    obtain ⟨hnext, houtcome⟩ := Link.uniqueId_told device
    obtain ⟨rfl, rfl⟩ := Prod.mk.inj hfound
    rw [htold] at hlink hdriver
    rw [houtcome] at hdriver
    exact ⟨hlink.trans hnext, hdriver⟩

/-- Where the chip is left: after the handshake that failed, or after its id was read as well. -/
theorem connect_link (device : Device) :
    ((connect (unconnected device)).1 ≠ .ok () ∧
      (connect (unconnected device)).2.link =
        (Link.handshake (unconnected device).link).2) ∨
    (connect (unconnected device)).1 = .ok () ∧
      (connect (unconnected device)).2.link = device.told 7 := by
  rcases connect_cases (unconnected device) with
    ⟨e, -, hreply, hlink⟩ | ⟨variant, calibration, -, hreply, -⟩
  · exact .inl ⟨by simp [hreply], hlink⟩
  · exact .inr ⟨hreply, (connected hreply).1⟩

/-- Whatever the chip holds and whatever fails: connecting fails with the bus if a transaction of
the handshake does that it reaches, and with the chip if that is another one, which is found out
before anything else is read. Otherwise there is a driver, for this chip and without a past; but if
the id that is only read for the log could not be read, its status is an error. No register is
written but the one that resets the chip. -/
theorem connect_outcome (device : Device) :
    let ended := connect (unconnected device)
    let chip := device.registers.get Register.chipId
    (ended.1 = .error .commFailure ↔ ∃ n < 6, device.Reaches n ∧ device.failsAt n = true) ∧
    ((∃ id, ended.1 = .error (.deviceNotFound id)) ↔
      device.failsAt 0 = false ∧ device.failsAt 1 = false ∧ chip ≠ 0x61) ∧
    (∀ id, ended.1 = .error (.deviceNotFound id) →
      ended.2.link.events = device.connection.take 3) ∧
    (ended.1 = .ok () ↔ device.Reaches 6) ∧
    (ended.1 = .ok () →
      ended.2.driver.calibration = .ofDump device.registers.coefficients ∧
      ended.2.driver.variant = device.registers.get Register.variant ∧
      ended.2.driver.lastMode = .sleep ∧ ended.2.driver.buffer.count = 0 ∧
      ended.2.driver.heater = none ∧
      ended.2.driver.status = if device.failsAt 6 then .error else .ok) ∧
    ended.2.link.events <+: device.connection ∧
    (∀ frame succeeded, .write frame succeeded ∈ ended.2.link.events →
      frame = ⟨Register.softReset, [Register.resetCommand]⟩) ∧
    (∀ address, address ≠ Register.softReset →
      ended.2.link.inner.registers.get address = device.registers.get address) := by
  intro ended chip
  have hshaken := unconnected_shaken device
  have hcomm := hshaken.commFailure_iff
  have hforeign : _ ↔ device.failsAt 0 = false ∧ device.failsAt 1 = false ∧ chip ≠ 0x61 :=
    hshaken.deviceNotFound_iff
  have hevents : ended.2.link.events <+: device.connection := by
    rcases connect_link device with ⟨-, hlink⟩ | ⟨-, hlink⟩
    · exact hlink ▸ hshaken.events
    · exact hlink ▸ List.take_prefix _ _
  refine ⟨?_, ?_, ?_, connect_ok_iff, ?_, hevents, ?_, ?_⟩
  · exact connect_error_iff.trans hcomm
  · exact (exists_congr fun id => connect_error_iff).trans hforeign
  · intro id he
    rcases connect_link device with ⟨-, hlink⟩ | ⟨hok, -⟩
    · have hlink : ended.2.link = _ := hlink
      rw [hlink]
      exact hshaken.events_of_deviceNotFound (connect_error_iff.1 he)
    · cases hok.symm.trans he
  · intro hok
    have hdriver : ended.2.driver = _ := (connected hok).2
    rw [hdriver]
    refine ⟨rfl, rfl, rfl, rfl, rfl, ?_⟩
    cases device.failsAt 6 <;> rfl
  · intro frame succeeded hmem
    have hplanned := hevents.subset hmem
    simp only [Device.connection, List.mem_cons, BusEvent.write.injEq, reduceCtorEq,
      List.not_mem_nil, or_false] at hplanned
    exact hplanned.1
  · intro address ha
    rcases connect_link device with ⟨-, hlink⟩ | ⟨-, hlink⟩
    · exact hlink ▸ hshaken.registers ha
    · exact hlink ▸ RegisterFile.get_set_of_ne _ _ ha.symm

theorem connect_supported : (connect (unconnected .supported)).1 = .ok () := by
  apply connect_ok_iff.2
  exact ⟨by decide, fun _ => rfl⟩

/-- A supported chip whose id cannot be read. -/
def anonymous : Device := Device.supported.schedule fun n => n = 6

theorem connect_outcome_anonymous :
    anonymous.Reaches 6 ∧ (connect (unconnected anonymous)).1 = .ok () ∧
    (connect (unconnected anonymous)).2.driver.calibration =
      .ofDump anonymous.registers.coefficients ∧
    (connect (unconnected anonymous)).2.driver.status = .error := by
  have hreached : anonymous.Reaches 6 := ⟨by decide, fun _ => rfl⟩
  obtain ⟨-, -, -, hok, hdriver, -⟩ := connect_outcome anonymous
  obtain ⟨hcalibration, -, -, -, -, hstatus⟩ := hdriver (hok.2 hreached)
  exact ⟨hreached, hok.2 hreached, hcalibration, hstatus⟩

/-- A connection that succeeds may leave the status of a failure behind. -/
theorem connect_status_anonymous :
    (connect (unconnected anonymous)).1 = .ok () ∧
      (connect (unconnected anonymous)).2.driver.status ≠ .ok := by
  have hstatus : (connect (unconnected anonymous)).2.driver.status = .error :=
    rfl
  exact ⟨rfl, by rw [hstatus]; decide⟩

end Session

end AirMonitor
