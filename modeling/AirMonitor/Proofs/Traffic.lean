import AirMonitor.Proofs.Frame

namespace AirMonitor

section

variable {σ α β : Type} {R : σ → σ → Prop} [IsPreorder σ R]

theorem Link.within_pure (a : α) : Within R (pure a : Link σ α) := fun s => Std.Refl.refl s

/-- What follows the first program starts where that one ended. -/
theorem Link.within_rest {next : α → Link σ β} (hnext : ∀ a, Within R (next a))
    (first : Link σ α) (s : σ) : R (first s).2 ((first >>= next : Link σ β) s).2 := by
  rw [Link.bind_apply]
  cases hr : (first s).1 with
  | ok a => exact hnext a _
  | error e => exact Std.Refl.refl _

theorem Link.within_bind {first : Link σ α} {next : α → Link σ β} (hfirst : Within R first)
    (hnext : ∀ a, Within R (next a)) : Within R (first >>= next : Link σ β) :=
  fun s => IsTrans.trans _ _ _ (hfirst s) (within_rest hnext first s)

variable [Transport σ]

theorem Link.within_write {pairs : List (UInt8 × UInt8)}
    (h : ∀ frame, WriteFrame.ofPairs? pairs = some frame →
      ∀ s, R s (Transport.write frame s).2) :
    Within R (Link.write (σ := σ) pairs) := by
  intro s
  rw [Link.write]
  split
  · exact Std.Refl.refl s
  · next frame hf =>
    split
    · exact Std.Refl.refl s
    · exact h frame hf s

/-- What holds of every ending of the sleep loop, by its transactions: it ends with a read or a
request that fails or with a read that finds the chip asleep, and else goes on after a pause. -/
theorem Link.sleep_induction [Settling σ] {P : σ → Except SensorError UInt8 × σ → Prop}
    (unread : ∀ s e, (Transport.read Register.ctrlMeas 1 s).1 = .error e →
      P s (.error .commFailure, (Transport.read Register.ctrlMeas 1 s).2))
    (asleep : ∀ s control, (Transport.read Register.ctrlMeas 1 s).1 = .ok control →
      Register.mode.get (onlyByte control) = 0 →
      P s (.ok (onlyByte control), (Transport.read Register.ctrlMeas 1 s).2))
    (refused : ∀ s control, (Transport.read Register.ctrlMeas 1 s).1 = .ok control →
      Register.mode.get (onlyByte control) ≠ 0 →
      ∀ t e, Transport.write (sleepRequest (onlyByte control))
        (Transport.read Register.ctrlMeas 1 s).2 = (.error e, t) →
      P s (.error .commFailure, t))
    (asked : ∀ s control, (Transport.read Register.ctrlMeas 1 s).1 = .ok control →
      Register.mode.get (onlyByte control) ≠ 0 →
      ∀ t, Transport.write (sleepRequest (onlyByte control))
        (Transport.read Register.ctrlMeas 1 s).2 = (.ok (), t) →
      P (Transport.delay Register.settleMicros t)
        (Link.sleep (Transport.delay Register.settleMicros t)) →
      P s (Link.sleep (Transport.delay Register.settleMicros t)))
    (s : σ) : P s (Link.sleep s) := by
  induction s using Link.sleep.induct with
  | case1 s seen e hr =>
    rw [sleep_eq, hr]
    exact unread s e hr
  | case2 s seen control hr hm =>
    rw [sleep_eq, hr]
    simp only [hm, ↓reduceIte]
    exact asleep s control hr hm
  | case3 s seen control hr hm asking e hw =>
    have hw : (Transport.write (sleepRequest (onlyByte control))
      (Transport.read Register.ctrlMeas 1 s).2).1 = .error e := hw
    rw [sleep_eq, hr]
    simp only [hm, ↓reduceIte, hw]
    exact refused s control hr hm _ e (Prod.ext hw rfl)
  | case4 s seen control hr hm asking hw _ ih =>
    have hw : (Transport.write (sleepRequest (onlyByte control))
      (Transport.read Register.ctrlMeas 1 s).2).1 = .ok () := hw
    rw [sleep_eq, hr]
    simp only [hm, ↓reduceIte, hw]
    exact asked s control hr hm _ (Prod.ext hw rfl) ih

/-- A request to sleep is only compared with the state that was read for it, since it keeps the
bits it was given. -/
theorem Link.within_sleep [Settling σ]
    (hread : ∀ s, R s (Transport.read Register.ctrlMeas 1 s).2)
    (hrequest : ∀ s control, (Transport.read Register.ctrlMeas 1 s).1 = .ok control →
      R s (Transport.write (sleepRequest (onlyByte control))
        (Transport.read Register.ctrlMeas 1 s).2).2)
    (hdelay : ∀ s, R s (Transport.delay Register.settleMicros s)) :
    Within R (Link.sleep : Link σ UInt8) := by
  intro s
  induction s using Link.sleep_induction with
  | unread s e hr => exact hread s
  | asleep s control hr hm => exact hread s
  | refused s control hr hm t e hw =>
    have h := hrequest s control hr
    rw [hw] at h
    exact h
  | asked s control hr hm t hw ih =>
    have h := hrequest s control hr
    rw [hw] at h
    exact IsTrans.trans _ _ _ h (IsTrans.trans _ _ _ (hdelay t) ih)

end

/-- The program fails only when the bus does not carry a transaction. -/
def Link.OnlyComm (program : Link σ α) : Prop :=
  ∀ s e, (program s).1 = .error e → e = .commFailure

namespace Link.OnlyComm

theorem pure (a : α) : OnlyComm (Pure.pure a : Link σ α) := by
  intro s e h
  simp at h

theorem bind {first : Link σ α} {next : α → Link σ β} (hfirst : OnlyComm first)
    (hnext : ∀ a, OnlyComm (next a)) : OnlyComm (first >>= next) := by
  intro s e h
  rw [Link.bind_apply] at h
  cases hr : (first s).1 with
  | ok a =>
    rw [hr] at h
    exact hnext a _ e h
  | error e' =>
    rw [hr] at h
    cases h
    exact hfirst s e hr

theorem of_mapError {result : Except BusError α} {e : SensorError}
    (h : result.mapError (fun _ => SensorError.commFailure) = .error e) : e = .commFailure := by
  cases result with
  | ok a => cases h
  | error e' =>
    cases h
    rfl

variable [Transport σ]

theorem read (register : UInt8) {length : Nat} (hlow : length ≠ 0)
    (hhigh : length ≤ Register.maxReadLength) :
    OnlyComm (Link.read (σ := σ) register length) := by
  intro s e h
  rw [Link.read, if_neg (by omega)] at h
  exact of_mapError h

theorem write {pairs : List (UInt8 × UInt8)} (hlow : pairs ≠ [])
    (hhigh : pairs.length ≤ Register.maxWritePairs) :
    OnlyComm (Link.write (σ := σ) pairs) := by
  intro s e h
  obtain ⟨pair, pairs, rfl⟩ := List.exists_cons_of_ne_nil hlow
  rw [Link.write_sent rfl hhigh] at h
  exact of_mapError h

theorem sleep [Settling σ] : OnlyComm (Link.sleep : Link σ UInt8) := by
  intro s e
  induction s using Link.sleep_induction with
  | unread s e' hr =>
    intro h
    cases h
    rfl
  | asleep s control hr hm => simp
  | refused s control hr hm t e' hw =>
    intro h
    cases h
    rfl
  | asked s control hr hm t hw ih => exact ih

theorem changeMode [Settling σ] (mode : Mode) :
    OnlyComm (Link.changeMode mode : Link σ Unit) := by
  apply bind sleep
  intro control
  split
  · exact write (by simp) (by simp [Register.maxWritePairs])
  · exact pure _

theorem readMode : OnlyComm (Link.readMode : Link σ Mode) :=
  bind (bind (read _ (by decide) (by decide)) fun _ => pure _) fun _ => pure _

end Link.OnlyComm

/-- What was recorded stays, and more may follow it. -/
def Traced.Grown (s t : Traced σ) : Prop := s.events <+: t.events

instance : IsPreorder (Traced σ) Traced.Grown where
  refl s := List.prefix_refl s.events
  trans _ _ _ h h' := h.trans h'

namespace Traced

variable {σ : Type} [Transport σ]

theorem grown_read (register : UInt8) (length : Nat) (t : Traced σ) :
    t.Grown (Transport.read register length t).2 := List.prefix_append _ _

theorem grown_write (frame : WriteFrame) (t : Traced σ) :
    t.Grown (Transport.write frame t).2 := List.prefix_append _ _

theorem grown_delay (micros : UInt32) (t : Traced σ) :
    t.Grown (Transport.delay micros t) := List.prefix_append _ _

end Traced

namespace Link

variable {σ : Type} [Transport σ]

/-- Whatever becomes of a change of mode, the mode register is read first. -/
theorem changeMode_events [Settling σ] (mode : Mode) (t : Traced σ) :
    ∃ succeeded rest, (changeMode mode t).2.events =
      t.events ++ .read Register.ctrlMeas 1 succeeded :: rest := by
  have hsleep : (Transport.read Register.ctrlMeas 1 t).2.Grown (sleep t).2 := by
    induction t using sleep_induction with
    | unread s e hr => exact Std.Refl.refl _
    | asleep s control hr hm => exact Std.Refl.refl _
    | refused s control hr hm t e hw =>
      have h := Traced.grown_write (sleepRequest (onlyByte control))
        (Transport.read Register.ctrlMeas 1 s).2
      rw [hw] at h
      exact h
    | asked s control hr hm t hw ih =>
      have h := Traced.grown_write (sleepRequest (onlyByte control))
        (Transport.read Register.ctrlMeas 1 s).2
      rw [hw] at h
      have hd := Traced.grown_delay Register.settleMicros t
      exact h.trans (hd.trans ((Traced.grown_read _ _ _).trans ih))
  have hstart (control : UInt8) : Within Traced.Grown (if mode ≠ .sleep then
      write [(Register.ctrlMeas, Register.mode.set control mode.bits)]
      else pure () : Link (Traced σ) Unit) := by
    split
    · exact within_write fun frame _ => Traced.grown_write frame
    · exact within_pure _
  obtain ⟨rest, h⟩ := hsleep.trans (within_rest hstart sleep t)
  have hassoc := List.append_assoc t.events
    [.read Register.ctrlMeas 1 (Transport.read Register.ctrlMeas 1 t.inner).1.isOk] rest
  exact ⟨(Transport.read Register.ctrlMeas 1 t.inner).1.isOk, rest, h.symm.trans hassoc⟩

theorem readBlocks_events (count : Nat) (t : Traced σ) :
    (readBlocks count t).2.events = t.events ∨ ∃ length succeeded,
      (readBlocks count t).2.events = t.events ++ [.read Register.field0 length succeeded] := by
  have h : (readBlocks count t).2 = (read Register.field0 (17 * count) t).2 := by
    rw [readBlocks, bind_apply]
    split <;> rfl
  rw [h, read]
  split
  · exact .inl rfl
  · exact .inr ⟨_, _, rfl⟩

theorem readFields_events (mode : Mode) (t : Traced σ) :
    (readFields mode t).2.events = t.events ∨ ∃ length succeeded,
      (readFields mode t).2.events = t.events ++ [.read Register.field0 length succeeded] := by
  cases mode with
  | sleep => exact .inl rfl
  | forced => exact readBlocks_events 1 t
  | parallel => exact readBlocks_events 3 t
  | sequential => exact readBlocks_events 3 t

/-- Collecting fields can be told from a change of mode by what goes over the bus. -/
theorem readFields_ne_changeMode [Settling σ] (fields mode : Mode) (t : Traced σ) :
    (readFields fields t).2 ≠ (changeMode mode t).2 := by
  intro h
  obtain ⟨succeeded, rest, hchange⟩ := changeMode_events mode t
  rw [← h] at hchange
  rcases readFields_events fields t with he | ⟨length, read, he⟩
  · rw [he] at hchange
    simp at hchange
  · rw [he] at hchange
    have hc := List.append_cancel_left hchange
    simp [Register.field0, Register.ctrlMeas] at hc

theorem ne_changeMode [Settling σ] (mode : Mode) (t : Traced σ) : t ≠ (changeMode mode t).2 := by
  intro h
  obtain ⟨succeeded, rest, hchange⟩ := changeMode_events mode t
  rw [← h] at hchange
  simp at hchange

end Link

end AirMonitor
