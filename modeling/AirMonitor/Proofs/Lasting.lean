import AirMonitor.Proofs.Simulation
import AirMonitor.Proofs.Steady

/-!
A chip may leave a forced measurement by itself. A program that starts none runs as on a chip that
leaves no mode by itself, so what it yields there it yields on every chip.
-/

namespace AirMonitor

/-- A chip on a bus without failures. -/
structure Device.Reliable (device : Device) : Prop where
  scheduled : ∀ n, device.failAt n = false
  reads : device.failReads = false
  writes : device.failWrites = false

namespace Device

/-- The same chip, if it left no mode by itself. -/
def lasting (device : Device) : Device := { device with autoSleep := false }

variable {device : Device}

theorem Reliable.lasting (h : device.Reliable) : device.lasting.Steady :=
  ⟨h.scheduled, h.reads, h.writes, rfl⟩

/-- A chip leaves a mode by itself only after it has started a forced measurement. -/
theorem store_lasting {address value : UInt8}
    (h : address = Register.ctrlMeas → Register.mode.get value ≠ 1) :
    device.lasting.store address value = (device.store address value).lasting := by
  by_cases he : address = Register.ctrlMeas
  · have hforced := h he
    rw [store, store, if_pos he, if_pos he]
    change ite (Register.mode.get value = 0 ∧ device.modeBits ≠ 0 ∧ 0 < device.stuck) _ _ = _
    split
    · rfl
    · simp [hforced, lasting]
  · rw [store, store, if_neg he, if_neg he]
    rfl

theorem storeAll_lasting {pairs : List (UInt8 × UInt8)}
    (h : ∀ pair ∈ pairs, pair.1 = Register.ctrlMeas → Register.mode.get pair.2 ≠ 1) :
    device.lasting.storeAll pairs = (device.storeAll pairs).lasting := by
  induction pairs generalizing device with
  | nil => rfl
  | cons pair pairs ih =>
    apply (congrArg (·.storeAll pairs) (store_lasting (h pair List.mem_cons_self))).trans
    exact ih fun other hother => h other (List.mem_cons_of_mem _ hother)

theorem read_lasting (register : UInt8) (length : Nat) :
    Transport.read register length device.lasting =
      ((Transport.read register length device).1,
        (Transport.read register length device).2.lasting) := by
  simp only [Transport.read]
  change ite (device.failReads || device.failAt device.transactions) _ _ = _
  split <;> rfl

theorem write_lasting {frame : WriteFrame}
    (h : ∀ pair ∈ frame.pairs, pair.1 = Register.ctrlMeas → Register.mode.get pair.2 ≠ 1) :
    Transport.write frame device.lasting =
      ((Transport.write frame device).1, (Transport.write frame device).2.lasting) := by
  simp only [Transport.write]
  change ite (device.failWrites || device.failAt device.transactions) _ _ = _
  split
  · rfl
  · exact congrArg _ (@storeAll_lasting device.counted _ h)

end Device

namespace Traced

def lasting (t : Traced Device) : Traced Device := ⟨t.inner.lasting, t.events⟩

theorem read_lasting (t : Traced Device) (register : UInt8) (length : Nat) :
    Transport.read register length t.lasting =
      ((Transport.read register length t).1, (Transport.read register length t).2.lasting) :=
  congrArg (fun ran => (ran.1, (⟨ran.2, t.events ++ [.read register length ran.1.isOk]⟩ :
    Traced Device))) (@Device.read_lasting t.inner register length)

theorem write_lasting (t : Traced Device) {frame : WriteFrame}
    (h : ∀ pair ∈ frame.pairs, pair.1 = Register.ctrlMeas → Register.mode.get pair.2 ≠ 1) :
    Transport.write frame t.lasting =
      ((Transport.write frame t).1, (Transport.write frame t).2.lasting) :=
  congrArg (fun ran => (ran.1, (⟨ran.2, t.events ++ [.write frame ran.1.isOk]⟩ :
    Traced Device))) (@Device.write_lasting t.inner frame h)

end Traced

namespace Link

/-- It makes no difference to the program whether the chip leaves a mode by itself. -/
def Indifferent (program : Link (Traced Device) α) : Prop :=
  Agree (fun t u => u = t.lasting) program program

namespace Indifferent

theorem pure (a : α) : Indifferent (Pure.pure a) := agree_pure a

theorem bind {first : Link (Traced Device) α} {next : α → Link (Traced Device) β}
    (hfirst : Indifferent first) (hnext : ∀ a, Indifferent (next a)) :
    Indifferent (first >>= next) :=
  agree_bind hfirst hnext

theorem read (register : UInt8) (length : Nat) : Indifferent (Link.read register length) := by
  rintro t _ rfl
  rw [Link.read, Link.read]
  split
  · exact ⟨rfl, rfl⟩
  · rw [t.read_lasting]
    exact ⟨rfl, rfl⟩

theorem write {pairs : List (UInt8 × UInt8)}
    (h : ∀ pair ∈ pairs, pair.1 = Register.ctrlMeas → Register.mode.get pair.2 ≠ 1) :
    Indifferent (Link.write pairs) := by
  rintro t _ rfl
  rw [Link.write, Link.write]
  cases hframe : WriteFrame.ofPairs? pairs with
  | none => exact ⟨rfl, rfl⟩
  | some frame =>
    rw [← WriteFrame.pairs_of_ofPairs? hframe] at h
    simp only
    split
    · exact ⟨rfl, rfl⟩
    · rw [t.write_lasting h]
      exact ⟨rfl, rfl⟩

theorem sleep : Indifferent Link.sleep := by
  intro t
  have hrequest (t : Traced Device) (control : UInt8) :=
    @Traced.write_lasting t (sleepRequest control) fun pair hpair _ => by
      obtain rfl := List.mem_singleton.1 hpair
      rw [Register.mode_get_set]
      decide
  induction t using Link.sleep_induction with
  | unread t e hr =>
    rintro _ rfl
    rw [sleep_eq t.lasting, t.read_lasting, hr]
    exact ⟨rfl, rfl⟩
  | asleep t control hr hm =>
    rintro _ rfl
    rw [sleep_eq t.lasting, t.read_lasting, hr]
    simp only [hm, ↓reduceIte]
    exact ⟨trivial, trivial⟩
  | refused t control hr hm u e hw =>
    rintro _ rfl
    rw [sleep_eq t.lasting, t.read_lasting, hr]
    simp only [hm, ↓reduceIte, hrequest, hw]
    exact ⟨trivial, trivial⟩
  | asked t control hr hm u hw ih =>
    rintro _ rfl
    rw [sleep_eq t.lasting, t.read_lasting, hr]
    simp only [hm, ↓reduceIte, hrequest, hw]
    exact ih _ rfl

theorem changeMode_sleep : Indifferent (Link.changeMode .sleep) := bind sleep fun _ => pure ()

theorem write_apart {pairs : List (UInt8 × UInt8)}
    (h : ∀ pair ∈ pairs, pair.1 ≠ Register.ctrlMeas) : Indifferent (Link.write pairs) :=
  write fun pair hpair he => absurd he (h pair hpair)

theorem writeSteps (target wait : HeaterStep → UInt8) (steps : HeaterSteps) :
    Indifferent (Link.writeSteps target wait steps.1) :=
  bind (write_apart (heater_ne (heater_range (.inl rfl) steps target) (by decide))) fun _ =>
    write_apart (heater_ne (heater_range (.inr rfl) steps wait) (by decide))

theorem writeProfile (target : HeaterStep → UInt8) (profile : HeaterProfile) :
    Indifferent (Link.writeProfile target profile) := by
  cases profile with
  | forced step =>
    refine bind (write_apart ?_) fun _ => pure _
    simp only [List.mem_cons, List.not_mem_nil, or_false, forall_eq_or_imp, forall_eq]
    decide
  | sequential steps => exact bind (writeSteps _ _ _) fun _ => pure _
  | parallel steps sharedMillis =>
    refine bind (writeSteps _ _ _) fun _ => bind (write_apart ?_) fun _ => pure _
    simp only [List.mem_singleton, forall_eq]
    decide

theorem programHeater (variant : UInt8) (target : HeaterStep → UInt8) (profile : HeaterProfile) :
    Indifferent (Link.programHeater variant target profile) := by
  refine bind changeMode_sleep fun _ => bind (writeProfile _ _) fun _ => bind (read _ _) fun _ => ?_
  apply write_apart
  simp only [List.mem_cons, List.not_mem_nil, or_false, forall_eq_or_imp, forall_eq]
  decide

end Indifferent

/-- What a program yields on a chip that leaves no mode by itself, it yields on every chip if it
cannot tell them apart. -/
theorem Yields.reliable {program : Link (Traced Device) α} {a : α} {t : Traced Device}
    {file : RegisterFile} (h : Yields program t.inner.registers a file)
    (hprogram : Indifferent program) (ht : t.inner.Reliable) :
    (program t).1 = .ok a ∧ (program t).2.inner.registers = file := by
  obtain ⟨hresult, hstate⟩ := hprogram t _ rfl
  obtain ⟨hok, _, hfile⟩ := h t.lasting ht.lasting rfl
  rw [hstate] at hfile
  exact ⟨hresult.trans hok, hfile⟩

end Link

end AirMonitor
