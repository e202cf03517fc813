import AirMonitor.Checked.SharedSensor
import AirMonitor.Proofs.CheckedLink
import AirMonitor.Sensor.Limited

namespace AirMonitor

namespace Checked

/-- From a state of the first kind the checked action does what the action does, and ends in a
state of the second kind. -/
def Safe {τ α : Type} (I J : τ → Prop) (checked : StateT τ Option α) (action : StateM τ α) : Prop :=
  ∀ s, I s → checked s = some (action s) ∧ J (action s).2

section

variable {τ α β : Type} {I J K : τ → Prop}

protected theorem Safe.pure (a : α) : Safe I I (Pure.pure a) (Pure.pure a) :=
  fun _ h => ⟨rfl, h⟩

theorem Safe.act {action : StateM τ α} (h : ∀ s, I s → J (action s).2) :
    Safe I J (act action) action :=
  fun s hs => ⟨rfl, h s hs⟩

protected theorem Safe.bind {checked : StateT τ Option α} {action : StateM τ α}
    {next? : α → StateT τ Option β} {next : α → StateM τ β} (hfirst : Safe I J checked action)
    (hnext : ∀ a, Safe J K (next? a) (next a)) :
    Safe I K (checked >>= next?) (action >>= next) := by
  intro s h
  obtain ⟨hfirst, hstate⟩ := hfirst s h
  have hrest := hnext (action s).1 _ hstate
  rw [bind_run]
  refine ⟨?_, hrest.2⟩
  change (checked s).bind _ = _
  rw [hfirst]
  exact hrest.1

/-- What follows may depend on the state it starts in. -/
protected theorem Safe.get {next? : τ → StateT τ Option α} {next : τ → StateM τ α}
    (h : ∀ s, I s → next? s s = some (next s s) ∧ J (next s s).2) :
    Safe I J (MonadState.get >>= next?) (MonadState.get >>= next) := h

end

section

variable {σ α β : Type}

/-- The buffer of the driver is of some kind. -/
def Buffered (P : FieldBuffer → Prop) (s : Session σ) : Prop := P s.driver.buffer

variable {P : FieldBuffer → Prop}

theorem safe_log (level : LogLevel) (text : String) :
    Safe (Buffered (σ := σ) P) (Buffered P) (act (log level text)) (log level text) :=
  .act fun _ h => h

/-- A program whose result is only seen through `view`, learned from without a stop. -/
theorem attempt?_eq (program : Link σ α) (view : α → β) (learn? : β → Driver → Option Driver)
    (learn : α → Driver → Driver) (s : Session σ)
    (hlearn : ∀ a, (program s.link).1 = .ok a →
      learn? (view a) { s.driver with outcome := .success } =
        some (learn a { s.driver with outcome := .success })) :
    attempt? (carry (do let a ← program; return view a)) learn? s =
      some ((Session.attempt program learn s).1.map view, (Session.attempt program learn s).2) := by
  have hran : (do let a ← program; return view a : Link σ β) s.link =
      ((program s.link).1.map view, (program s.link).2) := by
    rw [Link.bind_apply]
    cases (program s.link).1 <;> rfl
  rw [attempt?, carry, hran, Session.attempt]
  change (conclude? s.driver learn? ((program s.link).1.map view)).bind _ = _
  cases hresult : (program s.link).1 with
  | error e => rfl
  | ok a =>
    change (learn? (view a) _).bind _ = _
    rw [hlearn a hresult]
    rfl

theorem safe_attempt {checked : CheckedLink σ α} {program : Link σ α} (h : checked = carry program)
    {learn : α → Driver → Driver} (hlearn : ∀ a driver, (learn a driver).buffer = driver.buffer) :
    Safe (Buffered P) (Buffered P) (attempt? checked fun a driver => some (learn a driver))
      (Session.attempt program learn) := by
  intro s hs
  have hrun := attempt?_eq program id (fun a driver => some (learn a driver)) learn s
    fun _ _ => rfl
  have hid {ε γ : Type} (result : Except ε γ) : result.map id = result := by cases result <;> rfl
  rw [hid] at hrun
  simp only [id, bind_pure] at hrun
  refine ⟨h ▸ hrun, ?_⟩
  rw [Buffered, Session.attempt]
  cases (program s.link).1 with
  | error e => exact hs
  | ok a =>
    change P (learn a _).buffer
    rw [hlearn]
    exact hs

theorem safe_ask {checked : CheckedLink σ α} {program : Link σ α} (h : checked = carry program) :
    Safe (Buffered P) (Buffered P) (ask? checked) (Session.ask program) :=
  safe_attempt h fun _ _ => rfl

theorem safe_deliver : Safe (Buffered (σ := σ) FieldBuffer.Bounded) (Buffered FieldBuffer.Bounded)
    deliver? Session.nextField := by
  intro s hs
  refine ⟨?_, nextField_bounded hs⟩
  rw [deliver?, nextField?_eq hs]
  rfl

variable [Transport σ]

theorem safe_connect : Safe (Buffered (σ := σ) P) (Buffered P) connect? Session.connect := by
  refine .bind (safe_log _ _) fun _ => .bind (safe_attempt handshake?_eq fun _ _ => rfl)
    fun result => ?_
  cases result with
  | error e =>
    cases e with
    | deviceNotFound chip => exact .bind (safe_log _ _) fun _ => .pure _
    | _ => exact .pure _
  | ok found =>
    exact .bind (safe_ask readId?_eq) fun _ => .bind (safe_log _ _) fun _ => .pure _

/-- The blocks that are read fit the slots, and the cursor is back at the first slot by then. -/
theorem safe_fetch : Safe (Buffered (σ := σ) FieldBuffer.Bounded) (Buffered FieldBuffer.Bounded)
    fetch? Session.fetch := by
  refine .bind (J := Buffered fun buffer => buffer.count = 0 ∧ buffer.cursor = 0)
    (.act fun _ _ => ⟨rfl, rfl⟩) fun _ => .get fun s hs => ?_
  have hrun := attempt?_eq (Link.readFields s.driver.lastMode) (List.map Vector.toList)
    withFields? Driver.withFields s
    fun blocks hread => withFields?_eq _ (Link.readFields_length hread)
  have hbounded : ((Session.attempt (Link.readFields s.driver.lastMode) Driver.withFields s).2
      ).driver.buffer.Bounded := by
    rw [Session.attempt]
    cases hread : (Link.readFields s.driver.lastMode s.link).1 with
    | error e =>
      have hfirst : s.driver.buffer.cursor.val = 0 := congrArg Fin.val hs.2
      exact ⟨hs.1 ▸ Nat.zero_le 3, hfirst ▸ Nat.zero_le _⟩
    | ok blocks => exact withFields_bounded hs.2 (Link.readFields_length hread)
  rw [← readFields?_eq] at hrun
  refine ⟨?_, hbounded⟩
  change (attempt? (readFields? s.driver.lastMode) withFields? s).bind _ = _
  rw [hrun, bind_run]
  cases (Session.attempt (Link.readFields s.driver.lastMode) Driver.withFields s).1 <;> rfl

variable [Settling σ]

theorem safe_changeConfig (change : Config → Config) :
    Safe (Buffered (σ := σ) P) (Buffered P) (changeConfig? change)
      (Session.changeConfig change) := by
  refine .bind (safe_attempt readConfig?_eq fun _ _ => rfl) fun result => ?_
  cases result with
  | error e => exact .bind (safe_log _ _) fun _ => .pure _
  | ok config => exact safe_attempt (writeConfig?_eq _) fun _ _ => rfl

theorem safe_setMode (mode : Mode) :
    Safe (Buffered (σ := σ) P) (Buffered P) (setMode? mode) (Session.setMode mode) := by
  refine safe_attempt (changeMode?_eq mode) fun _ driver => ?_
  rw [Driver.withMode]
  split <;> rfl

theorem safe_setHeater (profile : HeaterProfile) :
    Safe (Buffered (σ := σ) P) (Buffered P) (setHeater? profile) (Session.setHeater profile) := by
  refine .get fun s hs => ?_
  have hprogram : Safe (Buffered (σ := σ) P) (Buffered P)
      (attempt? (programHeater? s.driver.variant s.driver.heaterTarget profile) fun _ driver =>
        some (driver.withHeater profile))
      (Session.attempt (Link.programHeater s.driver.variant s.driver.heaterTarget profile)
        fun _ => Driver.withHeater profile) :=
    safe_attempt (programHeater?_eq s.driver.variant s.driver.heaterTarget profile) fun _ _ => rfl
  refine Safe.bind hprogram (fun result => ?_) s hs
  split
  · exact .bind (safe_log _ _) fun _ => .pure _
  · exact .pure _

theorem safe_perform (operation : Operation) :
    Safe (Buffered (σ := σ) FieldBuffer.Bounded) (Buffered FieldBuffer.Bounded)
      (perform? operation) (Session.perform operation) := by
  cases operation with
  | softReset => exact .bind (safe_ask reset?_eq) fun _ => .pure _
  | uniqueId => exact .bind (safe_ask readId?_eq) fun _ => .pure _
  | readRegisters register length => exact .bind (safe_ask rfl) fun _ => .pure _
  | writeRegisters pairs => exact .bind (safe_ask (write?_eq pairs)) fun _ => .pure _
  | setAmbient celsius => exact .bind (.act fun _ h => h) fun _ => .pure _
  | setMode mode => exact .bind (safe_setMode mode) fun _ => .pure _
  | readMode => exact .bind (safe_ask rfl) fun _ => .pure _
  | readConfig => exact .bind (safe_attempt readConfig?_eq fun _ _ => rfl) fun _ => .pure _
  | setOversampling temperature pressure humidity =>
    exact .bind (safe_changeConfig _) fun _ => .pure _
  | setFilter filter => exact .bind (safe_changeConfig _) fun _ => .pure _
  | setStandby standby => exact .bind (safe_changeConfig _) fun _ => .pure _
  | setHeater profile => exact .bind (safe_setHeater profile) fun _ => .pure _
  | fetch => exact .bind safe_fetch fun _ => .pure _
  | nextField => exact .bind safe_deliver fun _ => .pure _

end

end Checked

/-- The bytes that count the fields of the last fetch, the one delivered next and the readings of
the burn-in stay in their bounds. -/
structure SharedSensor.Sound {σ : Type} (shared : SharedSensor σ) : Prop where
  buffer : shared.session.driver.buffer.Bounded
  burnedIn_le : shared.estimator.burnedIn ≤ 25

namespace Checked

open SharedSensor

variable {σ α : Type}

theorem safe_use {checked : StateT (Session σ) Option α} {action : StateM (Session σ) α}
    (h : Safe (Buffered FieldBuffer.Bounded) (Buffered FieldBuffer.Bounded) checked action) :
    Safe Sound Sound (use? checked) (use action) := by
  intro shared hshared
  obtain ⟨hrun, hbuffer⟩ := h shared.session hshared.buffer
  refine ⟨?_, hbuffer, hshared.burnedIn_le⟩
  rw [use?, hrun]
  rfl

theorem safe_note (level : LogLevel) (text : String) :
    Safe (Sound (σ := σ)) Sound (act (log level text)) (log level text) :=
  .act fun _ h => ⟨h.buffer, h.burnedIn_le⟩

theorem safe_leave : Safe (Sound (σ := σ)) Sound (act leave) leave :=
  .act fun _ h => ⟨h.buffer, h.burnedIn_le⟩

theorem burnedIn_absorb {estimator : Estimator} (h : estimator.burnedIn ≤ 25) (dry : Float32) :
    (estimator.absorb dry).2.burnedIn ≤ 25 := by
  rw [Estimator.absorb]
  split
  · next hburning => exact Nat.succ_le_of_lt hburning
  · split <;> exact h

theorem safe_grade (field : Field) : Safe (Sound (σ := σ)) Sound (grade? field) (grade field) := by
  refine .get fun shared hshared => ?_
  have hscored : Safe (Sound (σ := σ)) Sound
      (do
        let graded ← score? field.gas field.humidity field.temperature shared.estimator
        modify fun shared => { shared with estimator := graded.2 }
        return graded.1)
      (do
        let graded := shared.estimator.score field.gas field.humidity field.temperature
        modify fun shared => { shared with estimator := graded.2 }
        return graded.1) := by
    intro s hs
    rw [score?_eq]
    exact ⟨rfl, hs.buffer, burnedIn_absorb hshared.burnedIn_le _⟩
  split
  · exact Safe.bind (safe_note _ _) (fun _ => hscored) shared hshared
  · exact hscored shared hshared

variable [Transport σ]

theorem safe_collect : Safe (Sound (σ := σ)) Sound collect? collect := by
  refine .bind safe_leave fun _ => .bind (safe_use safe_fetch) fun result => ?_
  cases result with
  | error e => exact .bind (safe_note _ _) fun _ => .get fun _ h => ⟨rfl, h⟩
  | ok count =>
    cases count with
    | zero => exact .bind (safe_note _ _) fun _ => .get fun _ h => ⟨rfl, h⟩
    | succ count => exact .bind (safe_use safe_deliver) fun _ => .pure _

theorem safe_complete : Safe (Sound (σ := σ)) Sound complete? complete := by
  refine .bind safe_collect fun collected => ?_
  obtain ⟨field, fresh⟩ := collected
  cases fresh with
  | false => exact .bind (.pure _) fun _ => .pure _
  | true => exact .bind (safe_grade field) fun _ => .pure _

variable [Settling σ]

theorem safe_enter : Safe (Sound (σ := σ)) Sound enter? enter := by
  refine .get fun shared hshared => ?_
  have hwait : Safe (Sound (σ := σ)) Sound (do forcedMicros? (← get).session.driver)
      (do return forcedMicros (← get).session.driver) := by
    refine .get fun s hs => ⟨?_, hs⟩
    rw [forcedMicros?_eq]
    rfl
  have hcount : Safe (Sound (σ := σ)) Sound
      (modify fun s => { s with
        waiting := if shared.waiting = 255 then 255 else shared.waiting + 1 })
      (modify fun s => { s with
        waiting := if shared.waiting = 255 then 255 else shared.waiting + 1 }) :=
    fun s hs => ⟨rfl, hs.buffer, hs.burnedIn_le⟩
  refine Safe.bind hcount (fun _ => ?_) shared hshared
  split
  · exact .bind (safe_note _ _) fun _ => hwait
  · refine .bind (safe_use (safe_setMode _)) fun result => ?_
    cases result with
    | error e => exact .bind (safe_note _ _) fun _ => hwait
    | ok => exact hwait

theorem safe_serve (request : SensorUse σ) : Safe Sound Sound (serve? request) (serve request) := by
  cases request with
  | operate operation => exact .bind (safe_use (safe_perform operation)) fun _ => .pure _
  | enter => exact .bind safe_enter fun _ => .pure _
  | collect => exact .bind safe_collect fun _ => .pure _
  | complete => exact .bind safe_complete fun _ => .pure _
  | leave => exact safe_leave
  | grade field => exact .bind (safe_grade field) fun _ => .pure _
  | disturb change => exact fun shared h => ⟨rfl, h.buffer, h.burnedIn_le⟩

theorem safe_serveAll (uses : List (SensorUse σ)) {shared : SharedSensor σ} (h : shared.Sound) :
    serveAll? uses shared = some (shared.serveAll uses) ∧ (shared.serveAll uses).Sound := by
  induction uses generalizing shared with
  | nil => exact ⟨rfl, h⟩
  | cons request uses ih =>
    obtain ⟨hrun, hsound⟩ := safe_serve request shared h
    obtain ⟨hrest, hend⟩ := ih hsound
    refine ⟨?_, hend⟩
    rw [serveAll?, List.foldlM_cons, hrun]
    exact hrest

/-- The sensor that a link gives, once it is connected. -/
def connected {σ : Type} [Transport σ] (link : σ) : SharedSensor σ :=
  { session := (Session.connect { link }).2 }

/-- Neither connecting nor any use after it stops, and the times that the driver then works out are
in their words. -/
structure Unstopped {σ : Type} [Transport σ] [Settling σ] (link : σ) (uses : List (SensorUse σ)) :
    Prop where
  connects : connect? { link } = some (Session.connect { link })
  serves : serveAll? uses (connected link) = some ((connected link).serveAll uses)
  sound : ((connected link).serveAll uses).Sound
  measures (mode : Mode) :
    measurementMicros? ((connected link).serveAll uses).session.driver mode =
      some (((connected link).serveAll uses).session.driver.measurementMicros mode)
  waits : forcedMicros ((connected link).serveAll uses).session.driver < 2 ^ 32

theorem unstopped {σ : Type} [Transport σ] [Settling σ] (link : σ) (uses : List (SensorUse σ)) :
    Unstopped link uses := by
  obtain ⟨hconnects, hbuffer⟩ := safe_connect (P := FieldBuffer.Bounded) { link }
    (clear_bounded .initial)
  have hstart : (connected link).Sound := ⟨hbuffer, Nat.zero_le 25⟩
  obtain ⟨hserves, hsound⟩ := safe_serveAll uses hstart
  exact ⟨hconnects, hserves, hsound, measurementMicros?_eq _, Driver.forcedMicros_lt _⟩

/-- Nothing stops: not with a chip that falls asleep when it is asked to, and not with any chip at
all up to any number of transactions. -/
theorem never_stops {σ : Type} [Transport σ] :
    (∀ [Settling σ] (link : σ) (uses : List (SensorUse σ)), Unstopped link uses) ∧
    (∀ (link : Limited σ) (uses : List (SensorUse (Limited σ))), Unstopped link uses) ∧
    (∀ frame : WriteFrame, busBytes? frame =
      some (if I2c.bufferSize ≤ frame.data.length then .error .overflow
        else .ok (frame.register :: frame.data))) ∧
    (∀ millis : UInt16, encode? millis = some (HeatingTime.encode millis) ∧
      encodeShared? millis = some (HeatingTime.encodeShared millis)) ∧
    (∀ (variant : UInt8) (block : FieldBlock), (RawField.ofBlock variant block).gasRange < 16) ∧
    ∀ frame : CarbonDioxide.Frame, checksum? frame = some frame.checksum := by
  have hrange (variant : UInt8) (block : FieldBlock) :
      (RawField.ofBlock variant block).gasRange < 16 :=
    UInt8.lt_iff_toNat_lt.2 (range_lt _)
  exact ⟨unstopped, unstopped, busBytes?_eq,
    fun millis => ⟨encode?_eq millis, encodeShared?_eq millis⟩, hrange, checksum?_eq⟩

end Checked

end AirMonitor
