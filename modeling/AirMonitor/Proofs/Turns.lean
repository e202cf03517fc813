import AirMonitor.Node.Event
import AirMonitor.Proofs.Frame

namespace AirMonitor

variable {σ : Type}

/-- All of a session but its journal. -/
def Session.unlogged (s : Session σ) : Driver × σ := (s.driver, s.link)

namespace SharedSensor

/-- The count after one reader more has had its first turn; it sticks at 255. -/
def countUp (waiting : UInt8) : UInt8 := if waiting = 255 then 255 else waiting + 1

/-- The count after a reader has left. -/
def countDown (waiting : UInt8) : UInt8 := if waiting = 0 then 0 else waiting - 1

theorem toNat_countUp {waiting : UInt8} (h : waiting.toNat < 255) :
    (countUp waiting).toNat = waiting.toNat + 1 := by
  have hne : waiting ≠ 255 := by
    intro he
    simp [he] at h
  rw [countUp, if_neg hne, UInt8.toNat_add]
  exact Nat.mod_eq_of_lt (Nat.add_lt_add_right h 1)

theorem toNat_countUp_le (waiting : UInt8) : (countUp waiting).toNat ≤ waiting.toNat + 1 := by
  by_cases h : waiting.toNat < 255
  · exact Nat.le_of_eq (toNat_countUp h)
  · have hbelow := (countUp waiting).toNat_lt
    omega

theorem toNat_countDown (waiting : UInt8) : (countDown waiting).toNat = waiting.toNat - 1 := by
  by_cases h : waiting = 0
  · rw [countDown, if_pos h, h]
    rfl
  · have hle : 1 ≤ waiting := by
      rw [UInt8.le_iff_toNat_le]
      exact Nat.pos_of_ne_zero fun he => h (UInt8.toNat_inj.1 he)
    rw [countDown, if_neg h, UInt8.toNat_sub_of_le _ _ hle]
    rfl

theorem leave_run (shared : SharedSensor σ) :
    leave shared = ((), { shared with waiting := countDown shared.waiting }) := rfl

theorem grade_within (field : Field) :
    Within (Same fun shared : SharedSensor σ => (shared.waiting, shared.session.unlogged))
      (grade field) := by
  refine .bind .get fun _ => ?_
  dsimp only
  split
  · exact fun _ => rfl
  · exact fun _ => rfl

variable [Transport σ]

theorem collect_run (shared : SharedSensor σ) :
    (collect shared).2.waiting = countDown shared.waiting ∧
      (collect shared).2.session.link =
        (Link.readFields shared.session.driver.lastMode shared.session.link).2 := by
  cases h : (Session.fetch shared.session).1 with
  | error e =>
    simp only [collect, leave_run, use, bind_run, h]
    exact ⟨rfl, rfl⟩
  | ok count =>
    cases count with
    | zero =>
      simp only [collect, leave_run, use, bind_run, h]
      exact ⟨rfl, rfl⟩
    | succ count =>
      simp only [collect, leave_run, use, bind_run, h]
      exact ⟨rfl, rfl⟩

theorem complete_run (shared : SharedSensor σ) :
    (complete shared).2.waiting = countDown shared.waiting ∧
      (complete shared).2.session.link =
        (Link.readFields shared.session.driver.lastMode shared.session.link).2 := by
  have hc := collect_run shared
  simp only [complete, bind_run]
  by_cases h : (collect shared).1.2 = true
  · have hg := grade_within (collect shared).1.1 (collect shared).2
    simp only [Same, Session.unlogged, Prod.mk.injEq] at hg
    simp only [h, ↓reduceIte, bind_run]
    exact ⟨hg.1.trans hc.1, hg.2.2.trans hc.2⟩
  · simp only [h]
    exact hc

variable [Settling σ]

theorem enter_of_none {shared : SharedSensor σ} (h : shared.waiting = 0) :
    (enter shared).2.waiting = countUp shared.waiting ∧
      (enter shared).2.session.unlogged = (Session.setMode .forced shared.session).2.unlogged := by
  have hn : ¬ 0 < shared.waiting := by simp only [h, UInt8.lt_irrefl, not_false_eq_true]
  cases hr : (Session.setMode .forced shared.session).1 with
  | error e =>
    simp only [enter, use, bind_run, get_run, modify_run, hn, ↓reduceIte, hr]
    exact ⟨rfl, rfl⟩
  | ok =>
    simp only [enter, use, bind_run, get_run, modify_run, hn, ↓reduceIte, hr]
    exact ⟨rfl, rfl⟩

theorem enter_of_waiting {shared : SharedSensor σ} (h : shared.waiting ≠ 0) :
    (enter shared).2.waiting = countUp shared.waiting ∧
      (enter shared).2.session.unlogged = shared.session.unlogged := by
  have hp : 0 < shared.waiting := UInt8.pos_iff_ne_zero.2 h
  simp only [enter, bind_run, get_run, modify_run, hp, ↓reduceIte]
  exact ⟨rfl, rfl⟩

theorem enter_waiting (shared : SharedSensor σ) :
    (enter shared).2.waiting = countUp shared.waiting := by
  by_cases h : shared.waiting = 0
  · exact (enter_of_none h).1
  · exact (enter_of_waiting h).1

end SharedSensor

namespace Node

/-- What the turns of readers depend on. -/
def turns (node : Node σ) : UInt8 × (Driver × σ) × List (Nat × Reader) × Bool :=
  (node.sensor.waiting, node.sensor.session.unlogged, node.readers, node.held)

/-- What stays as it is while a sample is delivered. -/
def kept (node : Node σ) : (UInt8 × (Driver × σ) × List (Nat × Reader) × Bool) × Estimator :=
  (node.turns, node.sensor.estimator)

theorem log_within (level : LogLevel) (text : String) :
    Within (Same kept) (log level text : StateM (Node σ) Unit) := fun _ => rfl

theorem display_within (sample : Sample) :
    Within (Same kept) (display sample : StateM (Node σ) Unit) := by
  rw [display]
  dsimp only
  split
  · refine .bind (fun _ => rfl) fun _ => .bind (log_within _ _) fun _ => .bind .get fun _ => ?_
    split <;> exact log_within _ _
  · refine .bind (log_within _ _) fun _ => .bind .get fun _ => ?_
    split <;> exact log_within _ _

/-- A report changes only what the log and the sink do. -/
theorem within_ship {R : Node σ → Node σ → Prop} [IsPreorder (Node σ) R]
    (hlog : ∀ level text, Within R (log level text)) (hoffer : ∀ text, Within R (offer text))
    (sample : Sample) : Within R (ship sample) := by
  refine .bind .get fun node => ?_
  split
  · exact .bind (hlog _ _) fun _ => .pure _
  · refine .bind (hoffer _) fun taken => ?_
    split
    · exact .bind (hlog _ _) fun _ => .pure _
    · exact .bind (hlog _ _) fun _ => .pure _

theorem ship_within (sample : Sample) :
    Within (Same kept) (ship sample : StateM (Node σ) (Except ReportError Unit)) :=
  within_ship log_within (fun _ _ => rfl) sample

theorem co2_within (source : Co2Source) :
    Within (Same kept) (co2 source : StateM (Node σ) Int32) := by
  cases source with
  | fixed ppm => exact .pure _
  | meter => exact fun _ => rfl

theorem deliver_within (sample : Sample) (purpose : Purpose) :
    Within (Same kept) (deliver sample purpose : StateM (Node σ) Progress) := by
  cases purpose with
  | sample => exact .pure _
  | display => exact .bind (display_within sample) fun _ => .pure _
  | report source =>
    exact .bind (co2_within source) fun _ => .bind (ship_within _) fun _ => .pure _

theorem deliver_turns (sample : Sample) (purpose : Purpose) (node : Node σ) :
    turns (deliver sample purpose node).2 = turns node :=
  congrArg Prod.fst (deliver_within sample purpose node)

theorem deliver_unlogged (sample : Sample) (purpose : Purpose) (node : Node σ) :
    (deliver sample purpose node).2.sensor.session.unlogged = node.sensor.session.unlogged :=
  congrArg (fun turns => turns.2.1) (deliver_turns sample purpose node)

theorem deliver_readers (sample : Sample) (purpose : Purpose) (node : Node σ) :
    (deliver sample purpose node).2.readers = node.readers :=
  congrArg (fun turns => turns.2.2.1) (deliver_turns sample purpose node)

def without (id : Nat) (node : Node σ) : Node σ :=
  { node with readers := node.readers.filter (·.1 != id) }

/-- What is left of a node when a reader is given up. -/
inductive Cancelled (id : Nat) (node : Node σ) : Node σ → Prop
  | absent (h : node.readers.lookup id = none) : Cancelled id node node
  | arriving {reader : Reader} (h : node.readers.lookup id = some reader)
      (hphase : reader.phase = .arriving) : Cancelled id node (node.without id)
  | waiting {reader : Reader} {micros : Nat} (h : node.readers.lookup id = some reader)
      (hphase : reader.phase = .waiting micros) :
      Cancelled id node { node.without id with sensor := (SharedSensor.leave node.sensor).2 }

theorem cancel_cancelled (id : Nat) (node : Node σ) : Cancelled id node (cancel id node).2 := by
  cases h : node.readers.lookup id with
  | none =>
    have hran : (cancel id node).2 = node := by
      simp only [cancel, bind_run, get_run, h]
      rfl
    rw [hran]
    exact .absent h
  | some reader =>
    cases hphase : reader.phase with
    | arriving =>
      have hran : (cancel id node).2 = node.without id := by
        simp only [cancel, bind_run, get_run, h, hphase]
        rfl
      rw [hran]
      exact .arriving h hphase
    | waiting micros =>
      have hran : (cancel id node).2 =
          { node.without id with sensor := (SharedSensor.leave node.sensor).2 } := by
        simp only [cancel, bind_run, get_run, h, hphase]
        rfl
      rw [hran]
      exact .waiting h hphase

theorem cancel_run (id : Nat) (node : Node σ) :
    (cancel id node).2.readers = node.readers.filter (·.1 != id) ∧
      (cancel id node).2.held = node.held := by
  have hcancelled := cancel_cancelled id node
  generalize (cancel id node).2 = after at hcancelled ⊢
  cases hcancelled with
  | absent h =>
    have hothers : ∀ entry ∈ node.readers, (entry.1 != id) = true := by
      intro entry hentry
      simpa only [bne_comm] using List.lookup_eq_none_iff.1 h entry hentry
    exact ⟨(List.filter_eq_self.2 hothers).symm, rfl⟩
  | arriving => exact ⟨rfl, rfl⟩
  | waiting => exact ⟨rfl, rfl⟩

theorem arrive_run (id : Nat) (purpose : Purpose) (node : Node σ) :
    (arrive id purpose node).2 = { (cancel id node).2 with
      readers := (id, { purpose }) :: (cancel id node).2.readers } := rfl

variable [Transport σ] [Settling σ]

/-- Replaces the entry of a reader by the same reader at its wait. -/
def startWait (id micros : Nat) (reader : Reader) (entry : Nat × Reader) : Nat × Reader :=
  if entry.1 = id then (id, { reader with phase := .waiting micros }) else entry

theorem poll_of_arriving {id : Nat} {node : Node σ} {reader : Reader}
    (h : node.readers.lookup id = some reader) (hphase : reader.phase = .arriving)
    (hfree : node.held = false) :
    poll id node = (.waiting (SharedSensor.enter node.sensor).1, { node with
      sensor := (SharedSensor.enter node.sensor).2
      readers := node.readers.map (startWait id (SharedSensor.enter node.sensor).1 reader) }) := by
  simp only [poll, useSensor, bind_run, get_run, modify_run, pure_run, h, hphase, hfree,
    Bool.false_eq_true, ↓reduceIte]
  rfl

theorem poll_of_waiting {id micros : Nat} {node : Node σ} {reader : Reader}
    (h : node.readers.lookup id = some reader) (hphase : reader.phase = .waiting micros)
    (hfree : node.held = false) :
    poll id node = deliver (SharedSensor.complete node.sensor).1 reader.purpose
      { node.without id with sensor := (SharedSensor.complete node.sensor).2 } := by
  simp only [poll, bind_run, get_run, h, hphase, hfree]
  rfl

/-- What a poll comes to: nothing at all, the first turn of a reader, which ends in its wait, or
its last one, in which it gets its sample. -/
inductive Polled (id : Nat) (node : Node σ) : Progress × Node σ → Prop
  | absent (h : node.readers.lookup id = none) : Polled id node (.absent, node)
  | blocked (h : node.held = true) : Polled id node (.blocked, node)
  | starts {reader : Reader} (h : node.readers.lookup id = some reader)
      (hphase : reader.phase = .arriving) (hfree : node.held = false) :
      Polled id node (.waiting (SharedSensor.enter node.sensor).1, { node with
        sensor := (SharedSensor.enter node.sensor).2
        readers := node.readers.map (startWait id (SharedSensor.enter node.sensor).1 reader) })
  | completes {reader : Reader} {micros : Nat} (h : node.readers.lookup id = some reader)
      (hphase : reader.phase = .waiting micros) (hfree : node.held = false) :
      Polled id node (deliver (SharedSensor.complete node.sensor).1 reader.purpose
        { node.without id with sensor := (SharedSensor.complete node.sensor).2 })

theorem poll_polled (id : Nat) (node : Node σ) : Polled id node (poll id node) := by
  cases h : node.readers.lookup id with
  | none =>
    have hran : poll id node = (.absent, node) := by
      simp only [poll, bind_run, get_run, h]
      rfl
    rw [hran]
    exact .absent h
  | some reader =>
    cases hheld : node.held with
    | true =>
      have hran : poll id node = (.blocked, node) := by
        simp only [poll, bind_run, get_run, h, hheld]
        rfl
      rw [hran]
      exact .blocked hheld
    | false =>
      cases hphase : reader.phase with
      | arriving =>
        rw [poll_of_arriving h hphase hheld]
        exact .starts h hphase hheld
      | waiting micros =>
        rw [poll_of_waiting h hphase hheld]
        exact .completes h hphase hheld

def after (events : List (NodeEvent σ)) (node : Node σ) : Node σ := (run events node).2

theorem after_cons (event : NodeEvent σ) (events : List (NodeEvent σ)) (node : Node σ) :
    after (event :: events) node = after events (step event node).2 := by
  simp only [after, run, List.mapM_cons, bind_run, pure_run]

theorem after_append (first second : List (NodeEvent σ)) (node : Node σ) :
    after (first ++ second) node = after second (after first node) := by
  induction first generalizing node with
  | nil => rfl
  | cons event events ih => rw [List.cons_append, after_cons, after_cons, ih]

end Node

end AirMonitor
