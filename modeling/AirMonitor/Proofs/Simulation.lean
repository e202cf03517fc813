import AirMonitor.Proofs.ConfigMirror

/-!
Two transports that a driver cannot tell apart. Frames and reads are only compared as far as a
driver can ask for them.
-/

namespace AirMonitor

/-- The states of the transports stay related, and every transaction ends the same way on both. -/
structure Simulation {τ σ : Type} [Transport τ] [Transport σ] (R : τ → σ → Prop) : Prop where
  read {t : τ} {s : σ} (h : R t s) (register : UInt8) {length : Nat} (hlow : length ≠ 0)
    (hhigh : length ≤ Register.maxReadLength) :
    (Transport.read register length t).1 = (Transport.read register length s).1 ∧
      R (Transport.read register length t).2 (Transport.read register length s).2
  write {t : τ} {s : σ} (h : R t s) (frame : WriteFrame) (hlow : frame.data ≠ [])
    (hhigh : frame.data.length < 2 * Register.maxWritePairs) :
    (Transport.write frame t).1 = (Transport.write frame s).1 ∧
      R (Transport.write frame t).2 (Transport.write frame s).2
  delay {t : τ} {s : σ} (h : R t s) (micros : UInt32) :
    R (Transport.delay micros t) (Transport.delay micros s)

/-- From related states the actions come to the same result and to related states. -/
def Agree {τ σ : Type} (R : τ → σ → Prop) (action : StateM τ α) (other : StateM σ α) : Prop :=
  ∀ t s, R t s → (action t).1 = (other s).1 ∧ R (action t).2 (other s).2

section

variable {τ σ α β : Type} {R : τ → σ → Prop}

protected theorem Agree.pure (a : α) : Agree R (Pure.pure a) (Pure.pure a) :=
  fun _ _ h => ⟨rfl, h⟩

protected theorem Agree.bind {first : StateM τ α} {first' : StateM σ α} {next : α → StateM τ β}
    {next' : α → StateM σ β} (hfirst : Agree R first first')
    (hnext : ∀ a, Agree R (next a) (next' a)) : Agree R (first >>= next) (first' >>= next') := by
  intro t s h
  obtain ⟨hresult, hstate⟩ := hfirst t s h
  rw [bind_run, bind_run, hresult]
  exact hnext _ _ _ hstate

/-- What follows may depend on the state it starts in. -/
protected theorem Agree.get {next : τ → StateM τ α} {next' : σ → StateM σ α}
    (h : ∀ t s, R t s → (next t t).1 = (next' s s).1 ∧ R (next t t).2 (next' s s).2) :
    Agree R (MonadState.get >>= next) (MonadState.get >>= next') := h

end

namespace Link

variable {τ σ α β : Type} {R : τ → σ → Prop}

theorem agree_pure (a : α) : Agree R (pure a : Link τ α) (pure a : Link σ α) :=
  fun _ _ h => ⟨rfl, h⟩

theorem agree_throw (e : SensorError) : Agree R (throw e : Link τ α) (throw e : Link σ α) :=
  fun _ _ h => ⟨rfl, h⟩

theorem agree_bind {first : Link τ α} {first' : Link σ α} {next : α → Link τ β}
    {next' : α → Link σ β} (hfirst : Agree R first first')
    (hnext : ∀ a, Agree R (next a) (next' a)) :
    Agree R (first >>= next : Link τ β) (first' >>= next' : Link σ β) := by
  intro t s h
  obtain ⟨hresult, hstate⟩ := hfirst t s h
  rw [bind_apply, bind_apply, hresult]
  cases (first' s).1 with
  | ok a => exact hnext a _ _ hstate
  | error e => exact ⟨rfl, hstate⟩

variable [Transport τ] [Transport σ]

theorem agree_read (hsim : Simulation R) (register : UInt8) (length : Nat) :
    Agree R (read (σ := τ) register length) (read (σ := σ) register length) := by
  intro t s h
  rw [read, read]
  split
  · exact ⟨rfl, h⟩
  · next hlength =>
    obtain ⟨hlow, hhigh⟩ := not_or.mp hlength
    obtain ⟨hresult, hstate⟩ := hsim.read h register hlow (Nat.le_of_not_lt hhigh)
    exact ⟨congrArg (Except.mapError fun _ => SensorError.commFailure) hresult, hstate⟩

theorem agree_write (hsim : Simulation R) (pairs : List (UInt8 × UInt8)) :
    Agree R (write (σ := τ) pairs) (write (σ := σ) pairs) := by
  intro t s h
  cases pairs with
  | nil => exact ⟨rfl, h⟩
  | cons pair pairs =>
    rw [write, write]
    simp only [WriteFrame.ofPairs?]
    split
    · exact ⟨rfl, h⟩
    · next hlength =>
      have hhigh : (pair.2 :: interleave pairs).length < 2 * Register.maxWritePairs := by
        rw [List.length_cons] at hlength ⊢
        rw [length_interleave]
        omega
      obtain ⟨hresult, hstate⟩ := hsim.write h ⟨pair.1, pair.2 :: interleave pairs⟩
        (List.cons_ne_nil _ _) hhigh
      exact ⟨congrArg (Except.mapError fun _ => SensorError.commFailure) hresult, hstate⟩

theorem agree_delay (hsim : Simulation R) (micros : UInt32) :
    Agree R (delay (σ := τ) micros) (delay (σ := σ) micros) :=
  fun _ _ h => ⟨rfl, hsim.delay h micros⟩

theorem agree_readByte (hsim : Simulation R) (register : UInt8) :
    Agree R (readByte register : Link τ UInt8) (readByte register : Link σ UInt8) :=
  agree_bind (agree_read hsim register 1) fun _ => agree_pure _

theorem agree_reset (hsim : Simulation R) :
    Agree R (reset : Link τ Unit) (reset : Link σ Unit) :=
  agree_bind (agree_write hsim _) fun _ => agree_delay hsim _

theorem agree_uniqueId (hsim : Simulation R) :
    Agree R (uniqueId : Link τ UInt32) (uniqueId : Link σ UInt32) :=
  agree_bind (agree_read hsim _ 4) fun _ => agree_pure _

theorem agree_readDump (hsim : Simulation R) :
    Agree R (readDump : Link τ CoefficientDump) (readDump : Link σ CoefficientDump) :=
  agree_bind (agree_read hsim _ _) fun _ => agree_bind (agree_read hsim _ _) fun _ =>
    agree_bind (agree_read hsim _ _) fun _ => agree_pure _

theorem agree_handshake (hsim : Simulation R) : Agree R
    (handshake : Link τ (UInt8 × Calibration)) (handshake : Link σ (UInt8 × Calibration)) := by
  refine agree_bind (agree_reset hsim) fun _ => agree_bind (agree_readByte hsim _) fun chip => ?_
  split
  · exact agree_bind (agree_throw _) fun _ => agree_bind (agree_readByte hsim _) fun _ =>
      agree_bind (agree_readDump hsim) fun _ => agree_pure _
  · exact agree_bind (agree_readByte hsim _) fun _ => agree_bind (agree_readDump hsim) fun _ =>
      agree_pure _

theorem agree_readMode (hsim : Simulation R) :
    Agree R (readMode : Link τ Mode) (readMode : Link σ Mode) :=
  agree_bind (agree_readByte hsim _) fun _ => agree_pure _

theorem agree_readConfig (hsim : Simulation R) :
    Agree R (readConfig : Link τ Config) (readConfig : Link σ Config) :=
  agree_bind (agree_read hsim _ 5) fun _ => agree_pure _

theorem agree_writeSteps (hsim : Simulation R) (target wait : HeaterStep → UInt8)
    (steps : List HeaterStep) :
    Agree R (writeSteps target wait steps : Link τ Unit)
      (writeSteps target wait steps : Link σ Unit) :=
  agree_bind (agree_write hsim _) fun _ => agree_write hsim _

theorem agree_writeProfile (hsim : Simulation R) (target : HeaterStep → UInt8)
    (profile : HeaterProfile) :
    Agree R (writeProfile target profile : Link τ UInt8)
      (writeProfile target profile : Link σ UInt8) := by
  cases profile with
  | forced step => exact agree_bind (agree_write hsim _) fun _ => agree_pure _
  | sequential steps => exact agree_bind (agree_writeSteps hsim _ _ _) fun _ => agree_pure _
  | parallel steps sharedMillis =>
    exact agree_bind (agree_writeSteps hsim _ _ _) fun _ => agree_bind (agree_write hsim _) fun _ =>
      agree_pure _

theorem agree_readFields (hsim : Simulation R) (mode : Mode) :
    Agree R (readFields mode : Link τ (List FieldBlock))
      (readFields mode : Link σ (List FieldBlock)) := by
  have hblocks (count : Nat) : Agree R (readBlocks count : Link τ (List FieldBlock))
      (readBlocks count : Link σ (List FieldBlock)) :=
    agree_bind (agree_read hsim _ _) fun _ => agree_pure _
  cases mode with
  | sleep => exact agree_pure _
  | forced => exact hblocks 1
  | parallel => exact hblocks 3
  | sequential => exact hblocks 3

variable [Settling τ] [Settling σ]

theorem agree_sleep (hsim : Simulation R) :
    Agree R (sleep : Link τ UInt8) (sleep : Link σ UInt8) := by
  have hread {t : τ} {s : σ} (h : R t s) := hsim.read h Register.ctrlMeas Nat.one_ne_zero
    (show 1 ≤ Register.maxReadLength by decide)
  have hrequest {t : τ} {s : σ} (h : R t s) (control : UInt8) :=
    hsim.write h (sleepRequest control) (List.cons_ne_nil _ _) (show 1 < 20 by decide)
  intro t
  induction t using Link.sleep_induction with
  | unread t e hr =>
    intro s h
    obtain ⟨hresult, hstate⟩ := hread h
    rw [sleep_eq s, ← hresult, hr]
    exact ⟨rfl, hstate⟩
  | asleep t control hr hm =>
    intro s h
    obtain ⟨hresult, hstate⟩ := hread h
    rw [sleep_eq s, ← hresult, hr]
    simp only [hm, ↓reduceIte]
    exact ⟨trivial, hstate⟩
  | refused t control hr hm u e hw =>
    intro s h
    obtain ⟨hresult, hstate⟩ := hread h
    obtain ⟨hasked, hstate'⟩ := hrequest hstate (onlyByte control)
    rw [hw] at hasked hstate'
    rw [sleep_eq s, ← hresult, hr]
    simp only [hm, ↓reduceIte, ← hasked]
    exact ⟨trivial, hstate'⟩
  | asked t control hr hm u hw ih =>
    intro s h
    obtain ⟨hresult, hstate⟩ := hread h
    obtain ⟨hasked, hstate'⟩ := hrequest hstate (onlyByte control)
    rw [hw] at hasked hstate'
    rw [sleep_eq s, ← hresult, hr]
    simp only [hm, ↓reduceIte, ← hasked]
    exact ih _ (hsim.delay hstate' Register.settleMicros)

theorem agree_changeMode (hsim : Simulation R) (mode : Mode) :
    Agree R (changeMode mode : Link τ Unit) (changeMode mode : Link σ Unit) := by
  refine agree_bind (agree_sleep hsim) fun control => ?_
  split
  · exact agree_write hsim _
  · exact agree_pure _

theorem agree_writeConfig (hsim : Simulation R) (config : Config) :
    Agree R (writeConfig config : Link τ Unit) (writeConfig config : Link σ Unit) := by
  refine agree_bind (agree_readMode hsim) fun mode =>
    agree_bind (agree_changeMode hsim .sleep) fun _ => agree_bind (agree_read hsim _ 5) fun block =>
    agree_bind (agree_write hsim _) fun _ => ?_
  split
  · exact agree_changeMode hsim mode
  · exact agree_pure _

theorem agree_programHeater (hsim : Simulation R) (variant : UInt8) (target : HeaterStep → UInt8)
    (profile : HeaterProfile) :
    Agree R (programHeater variant target profile : Link τ Unit)
      (programHeater variant target profile : Link σ Unit) :=
  agree_bind (agree_changeMode hsim .sleep) fun _ =>
    agree_bind (agree_writeProfile hsim target profile) fun _ =>
    agree_bind (agree_read hsim _ 2) fun _ => agree_write hsim _

end Link

namespace Session

variable {τ σ α : Type} {R : τ → σ → Prop}

/-- The sessions differ in their links only. -/
structure Alike (R : τ → σ → Prop) (t : Session τ) (s : Session σ) : Prop where
  driver : t.driver = s.driver
  journal : t.journal = s.journal
  link : R t.link s.link

theorem agree_log (level : LogLevel) (text : String) :
    Agree (Alike R) (log level text) (log level text) := by
  intro t s h
  exact ⟨rfl, h.driver, congrArg (fun journal => journal ++ [LogLine.mk level text]) h.journal,
    h.link⟩

theorem agree_attempt {program : Link τ α} {program' : Link σ α} (h : Agree R program program')
    (learn : α → Driver → Driver) :
    Agree (Alike R) (attempt program learn) (attempt program' learn) := by
  intro t s hlike
  obtain ⟨hresult, hlink⟩ := h t.link s.link hlike.link
  refine ⟨hresult, ?_, hlike.journal, hlink⟩
  change t.driver.conclude learn _ = s.driver.conclude learn _
  rw [hlike.driver, hresult]

theorem agree_update (f : Driver → Driver) :
    Agree (Alike R) (update f) (update f) :=
  fun _ _ h => ⟨rfl, congrArg f h.driver, h.journal, h.link⟩

theorem agree_ask {program : Link τ α} {program' : Link σ α} (h : Agree R program program') :
    Agree (Alike R) (ask program) (ask program') :=
  agree_attempt h _

theorem agree_nextField : Agree (Alike R) nextField nextField := by
  intro t s h
  have hnext : t.driver.nextField = s.driver.nextField := congrArg Driver.nextField h.driver
  exact ⟨congrArg Prod.fst hnext, congrArg Prod.snd hnext, h.journal, h.link⟩

variable [Transport τ] [Transport σ]

theorem agree_connect (hsim : Simulation R) : Agree (Alike R)
    (connect : StateM (Session τ) (Except SensorError Unit))
    (connect : StateM (Session σ) (Except SensorError Unit)) := by
  refine .bind (agree_log _ _) fun _ => .bind (agree_attempt (Link.agree_handshake hsim) _)
    fun result => ?_
  cases result with
  | error e =>
    cases e with
    | deviceNotFound chip => exact .bind (agree_log _ _) fun _ => .pure _
    | _ => exact .pure _
  | ok found =>
    exact .bind (agree_ask (Link.agree_uniqueId hsim)) fun _ => .bind (agree_log _ _) fun _ =>
      .pure _

theorem agree_fetch (hsim : Simulation R) : Agree (Alike R)
    (fetch : StateM (Session τ) (Except SensorError Nat))
    (fetch : StateM (Session σ) (Except SensorError Nat)) := by
  refine .bind (agree_update _) fun _ => .get fun t s h => ?_
  rw [h.driver]
  refine Agree.bind (agree_attempt (Link.agree_readFields hsim _) _)
    (fun result => .get fun t s h => ?_) t s h
  rw [h.driver]
  exact ⟨rfl, h⟩

variable [Settling τ] [Settling σ]

theorem agree_setMode (hsim : Simulation R) (mode : Mode) :
    Agree (Alike R) (setMode (σ := τ) mode) (setMode (σ := σ) mode) :=
  agree_attempt (Link.agree_changeMode hsim mode) _

theorem agree_changeConfig (hsim : Simulation R) (change : Config → Config) :
    Agree (Alike R) (changeConfig (σ := τ) change) (changeConfig (σ := σ) change) := by
  refine .bind (agree_attempt (Link.agree_readConfig hsim) _) fun result => ?_
  cases result with
  | error e => exact .bind (agree_log _ _) fun _ => .pure _
  | ok config => exact agree_attempt (Link.agree_writeConfig hsim _) _

theorem agree_setHeater (hsim : Simulation R) (profile : HeaterProfile) :
    Agree (Alike R) (setHeater (σ := τ) profile) (setHeater (σ := σ) profile) := by
  refine .get fun t s h => ?_
  rw [h.driver]
  refine Agree.bind (agree_attempt (Link.agree_programHeater hsim _ _ _) _) (fun result => ?_) t s h
  split
  · exact .bind (agree_log _ _) fun _ => .pure _
  · exact .bind (.pure _) fun _ => .pure _

theorem agree_perform (hsim : Simulation R) (operation : Operation) :
    Agree (Alike R) (perform (σ := τ) operation) (perform (σ := σ) operation) := by
  cases operation with
  | softReset => exact .bind (agree_ask (Link.agree_reset hsim)) fun _ => .pure _
  | uniqueId => exact .bind (agree_ask (Link.agree_uniqueId hsim)) fun _ => .pure _
  | readRegisters register length =>
    exact .bind (agree_ask (Link.agree_read hsim _ _)) fun _ => .pure _
  | writeRegisters pairs => exact .bind (agree_ask (Link.agree_write hsim _)) fun _ => .pure _
  | setAmbient celsius => exact .bind (agree_update _) fun _ => .pure _
  | setMode mode => exact .bind (agree_setMode hsim _) fun _ => .pure _
  | readMode => exact .bind (agree_ask (Link.agree_readMode hsim)) fun _ => .pure _
  | readConfig => exact .bind (agree_attempt (Link.agree_readConfig hsim) _) fun _ => .pure _
  | setOversampling temperature pressure humidity =>
    exact .bind (agree_changeConfig hsim _) fun _ => .pure _
  | setFilter filter => exact .bind (agree_changeConfig hsim _) fun _ => .pure _
  | setStandby standby => exact .bind (agree_changeConfig hsim _) fun _ => .pure _
  | setHeater profile => exact .bind (agree_setHeater hsim _) fun _ => .pure _
  | fetch => exact .bind (agree_fetch hsim) fun _ => .pure _
  | nextField => exact .bind agree_nextField fun _ => .pure _

theorem agree_performAll (hsim : Simulation R) (operations : List Operation) :
    Agree (Alike R) (performAll (σ := τ) operations) (performAll (σ := σ) operations) := by
  induction operations with
  | nil => exact .pure _
  | cons operation operations ih =>
    rw [performAll, performAll, List.mapM_cons, List.mapM_cons]
    exact .bind (agree_perform hsim operation) fun _ => .bind ih fun _ => .pure _

end Session
end AirMonitor
