import AirMonitor.Proofs.PendingReaders

namespace AirMonitor

/-- A turn of a reader, as it shows on the bus and in the count. -/
inductive Turn where
  | starts
  | joins
  /-- With so many readers left waiting. -/
  | collects (left : Nat)
  deriving DecidableEq

/-- The turns after the last one that started a measurement, newest first. -/
def sinceStart (turns : List Turn) : List Turn := turns.reverse.takeWhile (· ≠ .starts)

/-- The measurement started last has been collected by no reader. -/
def InFlight (turns : List Turn) : Prop :=
  .starts ∈ turns ∧ ∀ left, .collects left ∉ sinceStart turns

theorem sinceStart_starts (turns : List Turn) : sinceStart (turns ++ [.starts]) = [] := by
  simp [sinceStart]

theorem sinceStart_append {turn : Turn} (h : turn ≠ .starts) (turns : List Turn) :
    sinceStart (turns ++ [turn]) = turn :: sinceStart turns := by
  simp [sinceStart, h]

namespace Node

variable {σ : Type}

/-- While a reader waits, a measurement has been started, and whoever collected it since left
another one waiting. -/
structure Pending (turns : List Turn) (node : Node σ) : Prop where
  undercounted : node.Undercounted
  started : node.registered ≠ 0 → .starts ∈ turns
  shared : node.registered ≠ 0 → .collects 0 ∉ sinceStart turns

theorem Pending.mono {turns : List Turn} {node other : Node σ} (h : Pending turns node)
    (hu : other.Undercounted) (hle : other.registered ≤ node.registered) : Pending turns other :=
  ⟨hu, fun hne => h.started (by omega), fun hne => h.shared (by omega)⟩

variable [Transport σ] [Settling σ]

/-- The turn that a reader has in an event. A first turn without traffic on the bus is that of a
reader who joins. -/
def turn? (event : NodeEvent (Traced σ)) (node : Node (Traced σ)) : Option Turn :=
  match event with
  | .poll id =>
    if node.held then none
    else (node.readers.lookup id).map fun reader =>
      match reader.phase with
      | .arriving =>
        if (poll id node).2.sensor.session.link.events.length =
            node.sensor.session.link.events.length then .joins else .starts
      | .waiting _ => .collects (poll id node).2.registered
  | _ => none

/-- The turns of a run, oldest first. -/
def history : List (NodeEvent (Traced σ)) → Node (Traced σ) → List Turn
  | [], _ => []
  | event :: events, node => (turn? event node).toList ++ history events (step event node).2

theorem history_concat (events : List (NodeEvent (Traced σ))) (event : NodeEvent (Traced σ))
    (node : Node (Traced σ)) : history (events ++ [event]) node =
      history events node ++ (turn? event (node.after events)).toList := by
  induction events generalizing node with
  | nil => exact List.append_nil _
  | cons first events ih =>
    rw [List.cons_append, history, ih, history, after_cons, List.append_assoc]

theorem turn?_of_none {node : Node (Traced σ)} {id : Nat} (h : node.Enters id)
    (hwaiting : node.sensor.waiting = 0) : turn? (.poll id) node = some .starts := by
  obtain ⟨hfree, reader, hr, hphase⟩ := h
  have hlink : (poll id node).2.sensor.session.link =
      (Link.changeMode .forced node.sensor.session.link).2 := by
    rw [poll_of_arriving hr hphase hfree]
    exact congrArg Prod.snd (SharedSensor.enter_of_none hwaiting).2
  obtain ⟨succeeded, rest, hevents⟩ := Link.changeMode_events .forced node.sensor.session.link
  simp [turn?, hfree, hr, hphase, hlink, hevents]

theorem turn?_of_counted {node : Node (Traced σ)} {id : Nat} (h : node.Enters id)
    (hwaiting : node.sensor.waiting ≠ 0) : turn? (.poll id) node = some .joins := by
  obtain ⟨hfree, reader, hr, hphase⟩ := h
  have hlink : (poll id node).2.sensor.session.link = node.sensor.session.link := by
    rw [poll_of_arriving hr hphase hfree]
    exact congrArg Prod.snd (SharedSensor.enter_of_waiting hwaiting).2
  simp [turn?, hfree, hr, hphase, hlink]

theorem turn?_of_waiting {node : Node (Traced σ)} {id micros : Nat} {reader : Reader}
    (hfree : node.held = false) (h : node.readers.lookup id = some reader)
    (hphase : reader.phase = .waiting micros) :
    turn? (.poll id) node = some (.collects (poll id node).2.registered) := by
  simp [turn?, hfree, h, hphase]

theorem Pending.poll {turns : List Turn} {node : Node (Traced σ)} (h : Pending turns node)
    (id : Nat) : Pending (turns ++ (turn? (.poll id) node).toList) (Node.poll id node).2 := by
  have hu : (Node.poll id node).2.Undercounted := h.undercounted.step (.poll id)
  have hpolled := poll_polled id node
  generalize hran : Node.poll id node = polled at hpolled hu ⊢
  cases hpolled with
  | absent hr =>
    have ht : turn? (.poll id) node = none := by simp [turn?, hr]
    rw [ht, Option.toList_none, List.append_nil]
    exact h
  | blocked hheld =>
    have ht : turn? (.poll id) node = none := by simp [turn?, hheld]
    rw [ht, Option.toList_none, List.append_nil]
    exact h
  | starts hr hphase hfree =>
    have henters : node.Enters id := ⟨hfree, _, hr, hphase⟩
    by_cases hwaiting : node.sensor.waiting = 0
    · rw [turn?_of_none henters hwaiting]
      constructor
      case undercounted => exact hu
      case started =>
        intro _
        exact List.mem_append_right _ (List.mem_singleton.2 rfl)
      case shared =>
        intro _
        rw [Option.toList_some, sinceStart_starts]
        exact List.not_mem_nil
    · rw [turn?_of_counted henters hwaiting]
      have hsome := h.undercounted.registered_ne_zero hwaiting
      constructor
      case undercounted => exact hu
      case started =>
        intro _
        exact List.mem_append_left _ (h.started hsome)
      case shared =>
        intro _
        rw [Option.toList_some, sinceStart_append (by decide)]
        simpa using h.shared hsome
  | completes hr hphase hfree =>
    rw [turn?_of_waiting hfree hr hphase, hran]
    have hleft := registered_of_waiting h.undercounted.keys hr hphase
    constructor
    case undercounted => exact hu
    case started =>
      intro hne
      exact List.mem_append_left _ (h.started (by omega))
    case shared =>
      intro hne
      rw [Option.toList_some, sinceStart_append (by simp)]
      simpa [Ne.symm hne] using h.shared (by omega)

theorem registered_step_le {event : NodeEvent (Traced σ)} (h : ∀ id, event ≠ .poll id)
    (node : Node (Traced σ)) : (step event node).2.registered ≤ node.registered := by
  cases event with
  | arrive id purpose => exact registered_arrive_le id purpose node
  | cancel id => exact registered_cancel_le id node
  | poll id => exact (h id rfl).elim
  | _ => exact Nat.le_refl _

theorem Pending.step {turns : List Turn} {node : Node (Traced σ)} (h : Pending turns node)
    (event : NodeEvent (Traced σ)) :
    Pending (turns ++ (turn? event node).toList) (Node.step event node).2 := by
  have hu := h.undercounted.step event
  cases event with
  | poll id => exact h.poll id
  | _ =>
    simp only [turn?, Option.toList_none, List.append_nil]
    exact h.mono hu (registered_step_le (by simp) node)

theorem waiting_of_joins {node : Node (Traced σ)} {event : NodeEvent (Traced σ)}
    (h : turn? event node = some .joins) : node.sensor.waiting ≠ 0 := by
  cases event with
  | poll id =>
    have hpolled := poll_polled id node
    generalize Node.poll id node = polled at hpolled
    cases hpolled with
    | absent hr => simp [turn?, hr] at h
    | blocked hheld => simp [turn?, hheld] at h
    | starts hr hphase hfree =>
      intro hnone
      rw [turn?_of_none ⟨hfree, _, hr, hphase⟩ hnone] at h
      cases h
    | completes hr hphase hfree => simp [turn?_of_waiting hfree hr hphase] at h
  | _ => simp [turn?] at h

theorem Pending.history {turns past rest : List Turn} {node : Node (Traced σ)}
    (hp : Pending turns node) {events : List (NodeEvent (Traced σ))}
    (h : Node.history events node = past ++ .joins :: rest) :
    .starts ∈ turns ++ past ∧ .collects 0 ∉ sinceStart (turns ++ past) := by
  induction events generalizing turns past node with
  | nil => simp [Node.history] at h
  | cons event events ih =>
    have hstep := hp.step event
    rw [Node.history] at h
    cases ht : turn? event node with
    | none =>
      rw [ht, Option.toList_none, List.nil_append] at h
      rw [ht, Option.toList_none, List.append_nil] at hstep
      exact ih hstep h
    | some turn =>
      rw [ht, Option.toList_some] at h hstep
      cases past with
      | nil =>
        simp only [List.singleton_append, List.nil_append, List.cons.injEq] at h
        have hjoins : turn? event node = some .joins := ht.trans (congrArg some h.1)
        have hne := hp.undercounted.registered_ne_zero (waiting_of_joins hjoins)
        rw [List.append_nil]
        exact ⟨hp.started hne, hp.shared hne⟩
      | cons first past =>
        simp only [List.cons_append, List.nil_append, List.cons.injEq] at h
        obtain ⟨rfl, h⟩ := h
        have hjoin := ih hstep h
        rwa [List.append_assoc, List.singleton_append] at hjoin

/-- A reader that joins finds a measurement that was started and, unless a reader has collected
it and left another one waiting, is still in flight. -/
theorem joins_inFlight_iff {node : Node (Traced σ)} (hreaders : node.readers = [])
    (hwaiting : node.sensor.waiting = 0) {events : List (NodeEvent (Traced σ))}
    {past rest : List Turn} (h : history events node = past ++ .joins :: rest) :
    .starts ∈ past ∧ (InFlight past ↔ ∀ left, .collects (left + 1) ∉ sinceStart past) := by
  have hnone : node.registered = 0 := registered_of_idle hreaders
  have hu : node.Undercounted := (Counted.of_idle hreaders hwaiting).undercounted
  have hp : Pending [] node :=
    ⟨hu, fun hne => (hne hnone).elim, fun hne => (hne hnone).elim⟩
  obtain ⟨hstart, hzero⟩ := hp.history h
  rw [List.nil_append] at hstart hzero
  apply And.intro hstart
  constructor
  · intro hflight left
    exact hflight.2 (left + 1)
  · intro hshared
    apply And.intro hstart
    intro left
    cases left with
    | zero => exact hzero
    | succ left => exact hshared left

/-- The second reader joins the measurement of the first one and is still waiting for it when the
third one comes, after the first one has collected it. -/
def staggered : List (NodeEvent (Traced Device)) :=
  [.arrive 0 .sample, .poll 0, .arrive 1 .sample, .poll 1, .poll 0, .arrive 2 .sample, .poll 2]

theorem history_staggered {node : Node (Traced Device)} (hreaders : node.readers = [])
    (hwaiting : node.sensor.waiting = 0) (hfree : node.held = false) :
    history staggered node = [.starts, .joins, .collects 1, .joins] := by
  obtain ⟨⟨session, waiting, estimator⟩, sensorId, uart, sink, shown, held, readers⟩ := node
  obtain rfl : readers = [] := hreaders
  obtain rfl : waiting = 0 := hwaiting
  obtain rfl : held = false := hfree
  let node : Node (Traced Device) :=
    ⟨⟨session, 0, estimator⟩, sensorId, uart, sink, shown, false, []⟩
  have hcounted (events : List (NodeEvent (Traced Device))) (hlength : events.length ≤ 255)
      (hsome : (node.after events).registered ≠ 0) : (node.after events).sensor.waiting ≠ 0 := by
    have hc : (node.after events).Counted :=
      .after (.of_idle rfl rfl) (registered_after_le_length rfl hlength)
    rwa [ne_eq, hc.waiting_eq_zero_iff]
  have first : history (staggered.take 2) node = [.starts] := by
    have h := history_concat (staggered.take 1) (.poll 0) node
    rw [turn?_of_none ⟨rfl, _, rfl, rfl⟩ rfl] at h
    exact h
  have arrived : history (staggered.take 3) node = [.starts] := by
    have h := history_concat (staggered.take 2) (.arrive 1 .sample) node
    rw [first] at h
    exact h
  have second : history (staggered.take 4) node = [.starts, .joins] := by
    have h := history_concat (staggered.take 3) (.poll 1) node
    have hjoins := hcounted (staggered.take 3) (by decide) Nat.one_ne_zero
    rw [turn?_of_counted ⟨rfl, _, rfl, rfl⟩ hjoins, arrived] at h
    exact h
  have third : history (staggered.take 5) node = [.starts, .joins, .collects 1] := by
    have h := history_concat (staggered.take 4) (.poll 0) node
    rw [second, turn?_of_waiting rfl rfl rfl] at h
    exact h
  have rearrived : history (staggered.take 6) node = [.starts, .joins, .collects 1] := by
    have h := history_concat (staggered.take 5) (.arrive 2 .sample) node
    rw [third] at h
    exact h
  have h := history_concat (staggered.take 6) (.poll 2) node
  have hjoins := hcounted (staggered.take 6) (by decide) Nat.one_ne_zero
  rw [turn?_of_counted ⟨rfl, _, rfl, rfl⟩ hjoins, rearrived] at h
  exact h

theorem joins_inFlight_iff_staggered :
    (connected .supported).readers = [] ∧ (connected .supported).sensor.waiting = 0 ∧
    history staggered (connected .supported) = [.starts, .joins, .collects 1] ++ .joins :: [] ∧
    Turn.starts ∈ [.starts, .joins, .collects 1] ∧
    (InFlight [.starts, .joins, .collects 1] ↔
      ∀ left, .collects (left + 1) ∉ sinceStart [.starts, .joins, .collects 1]) := by
  have h : history staggered (connected .supported) =
      [.starts, .joins, .collects 1] ++ .joins :: [] := history_staggered rfl rfl rfl
  obtain ⟨hstart, hiff⟩ := joins_inFlight_iff rfl rfl h
  exact ⟨rfl, rfl, h, hstart, hiff⟩

/-- A reader joins a measurement that has been collected, on a node whose sensor was connected. -/
theorem joins_collected :
    (Session.connect (Session.unconnected .supported)).1 = .ok () ∧
    history staggered (connected .supported) = [.starts, .joins, .collects 1] ++ .joins :: [] ∧
    ¬ InFlight [.starts, .joins, .collects 1] :=
  ⟨Session.connect_supported, history_staggered rfl rfl rfl, fun h => h.2 1 (by decide)⟩

end Node

end AirMonitor
