import AirMonitor.Proofs.Connection
import AirMonitor.Proofs.Traffic
import AirMonitor.Proofs.Turns

namespace AirMonitor

def Phase.isWaiting : Phase → Bool
  | .arriving => false
  | .waiting _ => true

namespace Node

variable {σ : Type}

/-- How many readers have had their first turn and neither their second one nor been given up. -/
def registered (node : Node σ) : Nat := node.readers.countP fun entry => entry.2.phase.isWaiting

theorem countP_of_lookup {readers : List (Nat × Reader)} {id : Nat} {reader : Reader}
    (hkeys : (readers.map Prod.fst).Nodup) (h : readers.lookup id = some reader)
    (p : Nat × Reader → Bool) :
    readers.countP p =
      (readers.filter (·.1 != id)).countP p + if p (id, reader) then 1 else 0 := by
  induction readers with
  | nil => simp at h
  | cons entry readers ih =>
    obtain ⟨key, other⟩ := entry
    rw [List.map_cons, List.nodup_cons] at hkeys
    by_cases he : id = key
    · subst he
      simp only [List.lookup_cons, BEq.rfl, Option.some.injEq] at h
      subst h
      have hrest : readers.filter (·.1 != id) = readers := by
        rw [List.filter_eq_self]
        intro entry hentry
        have hne : entry.1 ≠ id := fun heq =>
          hkeys.1 (List.mem_map.2 ⟨entry, hentry, heq⟩)
        simpa only [bne_iff_ne] using hne
      simp only [List.filter_cons, bne_self_eq_false, Bool.false_eq_true, ↓reduceIte, hrest,
        List.countP_cons]
    · have hne : (id == key) = false := by simpa only [beq_eq_false_iff_ne] using he
      have hkeep : (key != id) = true := by simpa only [bne_iff_ne] using Ne.symm he
      rw [List.lookup_cons, hne] at h
      simp only [List.filter_cons, hkeep, ↓reduceIte, List.countP_cons, ih hkeys.2 h]
      omega

theorem keys_startWait (id micros : Nat) (reader : Reader) (readers : List (Nat × Reader)) :
    (readers.map (startWait id micros reader)).map Prod.fst = readers.map Prod.fst := by
  rw [List.map_map]
  apply List.map_congr_left
  intro entry _
  simp only [Function.comp_apply, startWait]
  split
  · next h => exact h.symm
  · rfl

theorem filter_startWait (id micros : Nat) (reader : Reader) (readers : List (Nat × Reader)) :
    (readers.map (startWait id micros reader)).filter (·.1 != id) =
      readers.filter (·.1 != id) := by
  induction readers with
  | nil => rfl
  | cons entry readers ih =>
    rw [List.map_cons, List.filter_cons, List.filter_cons, ih]
    by_cases he : entry.1 = id
    · simp [startWait, he]
    · simp [startWait, he]

theorem lookup_startWait {id : Nat} {reader : Reader} {readers : List (Nat × Reader)}
    (h : readers.lookup id = some reader) (micros : Nat) :
    (readers.map (startWait id micros reader)).lookup id =
      some { reader with phase := .waiting micros } := by
  induction readers with
  | nil => simp at h
  | cons entry readers ih =>
    rw [List.map_cons, List.lookup_cons]
    by_cases he : entry.1 = id
    · simp [startWait, he]
    · have hne : (id == entry.1) = false := by simpa only [beq_eq_false_iff_ne] using Ne.symm he
      rw [List.lookup_cons, hne] at h
      simpa [startWait, he, hne] using ih h

/-- The readers have numbers of their own, and those that wait are counted. -/
structure Counted (node : Node σ) : Prop where
  keys : (node.readers.map Prod.fst).Nodup
  waiting : node.sensor.waiting.toNat = node.registered

/-- The count may fall behind the readers once it has stuck. -/
structure Undercounted (node : Node σ) : Prop where
  keys : (node.readers.map Prod.fst).Nodup
  waiting : node.sensor.waiting.toNat ≤ node.registered

theorem registered_of_idle {node : Node σ} (hreaders : node.readers = []) :
    node.registered = 0 := by
  rw [registered, hreaders]
  rfl

theorem Counted.of_idle {node : Node σ} (hreaders : node.readers = [])
    (hwaiting : node.sensor.waiting = 0) : node.Counted := by
  constructor
  · rw [hreaders]
    exact List.nodup_nil
  · rw [hwaiting, registered_of_idle hreaders]
    rfl

theorem Counted.waiting_eq_zero_iff {node : Node σ} (hc : node.Counted) :
    node.sensor.waiting = 0 ↔ node.registered = 0 := by
  rw [← hc.waiting]
  exact UInt8.toNat_inj.symm

theorem Counted.undercounted {node : Node σ} (hc : node.Counted) : node.Undercounted :=
  ⟨hc.keys, Nat.le_of_eq hc.waiting⟩

/-- Whoever is counted is there. -/
theorem Undercounted.registered_ne_zero {node : Node σ} (hu : node.Undercounted)
    (h : node.sensor.waiting ≠ 0) : node.registered ≠ 0 := by
  intro hnone
  have hle := hu.waiting
  rw [hnone] at hle
  exact h (UInt8.toNat_inj.1 (Nat.le_zero.1 hle))

theorem registered_of_arriving {node : Node σ} (hkeys : (node.readers.map Prod.fst).Nodup)
    {id : Nat} {reader : Reader} (h : node.readers.lookup id = some reader)
    (hphase : reader.phase = .arriving) : node.registered = (node.without id).registered := by
  have hc := countP_of_lookup hkeys h fun entry => entry.2.phase.isWaiting
  simp only [hphase, Phase.isWaiting, Bool.false_eq_true, ↓reduceIte, Nat.add_zero] at hc
  exact hc

theorem registered_of_waiting {node : Node σ} (hkeys : (node.readers.map Prod.fst).Nodup)
    {id micros : Nat} {reader : Reader} (h : node.readers.lookup id = some reader)
    (hphase : reader.phase = .waiting micros) :
    node.registered = (node.without id).registered + 1 := by
  have hc := countP_of_lookup hkeys h fun entry => entry.2.phase.isWaiting
  simp only [hphase, Phase.isWaiting, ↓reduceIte] at hc
  exact hc

theorem keys_without {node : Node σ} (hkeys : (node.readers.map Prod.fst).Nodup) (id : Nat) :
    ((node.without id).readers.map Prod.fst).Nodup :=
  hkeys.sublist (List.filter_sublist.map Prod.fst)

theorem keys_cancelled {node : Node σ} (hkeys : (node.readers.map Prod.fst).Nodup) (id : Nat) :
    ((cancel id node).2.readers.map Prod.fst).Nodup := by
  rw [(cancel_run id node).1]
  exact keys_without hkeys id

/-- What an event does to the count of the sensor and to the readers that there are to count. -/
inductive Recounted (node after : Node σ) : Prop
  | same (hwaiting : after.sensor.waiting = node.sensor.waiting)
      (hregistered : after.registered = node.registered)
  | joined (hwaiting : after.sensor.waiting = SharedSensor.countUp node.sensor.waiting)
      (hregistered : after.registered = node.registered + 1)
  | left (hwaiting : after.sensor.waiting = SharedSensor.countDown node.sensor.waiting)
      (hregistered : node.registered = after.registered + 1)

theorem Recounted.congr {node after other : Node σ} (h : Recounted node after)
    (hwaiting : other.sensor.waiting = after.sensor.waiting)
    (hregistered : other.registered = after.registered) : Recounted node other := by
  cases h with
  | same hw hr => exact .same (hwaiting.trans hw) (hregistered.trans hr)
  | joined hw hr => exact .joined (hwaiting.trans hw) (hregistered.trans hr)
  | left hw hr => exact .left (hwaiting.trans hw) (hregistered ▸ hr)

theorem cancel_recounted {node : Node σ} (hkeys : (node.readers.map Prod.fst).Nodup) (id : Nat) :
    Recounted node (cancel id node).2 := by
  have hcancelled := cancel_cancelled id node
  generalize (cancel id node).2 = after at hcancelled ⊢
  cases hcancelled with
  | absent => exact .same rfl rfl
  | arriving h hphase => exact .same rfl (registered_of_arriving hkeys h hphase).symm
  | waiting h hphase => exact .left rfl (registered_of_waiting hkeys h hphase)

theorem cancel_keys (id : Nat) (node : Node σ) :
    id ∉ (Node.cancel id node).2.readers.map Prod.fst := by
  rw [(cancel_run id node).1]
  intro hmem
  obtain ⟨entry, hentry, rfl⟩ := List.mem_map.1 hmem
  have hne := (List.mem_filter.1 hentry).2
  simp only [bne_self_eq_false, Bool.false_eq_true] at hne

theorem arrive_recounted {node : Node σ} (hkeys : (node.readers.map Prod.fst).Nodup) (id : Nat)
    (purpose : Purpose) : Recounted node (arrive id purpose node).2 := by
  apply (cancel_recounted hkeys id).congr
  · rw [arrive_run]
  · rw [arrive_run]
    simp only [registered, List.countP_cons, Phase.isWaiting, Bool.false_eq_true, ↓reduceIte,
      Nat.add_zero]

theorem registered_cancel_le (id : Nat) (node : Node σ) :
    (Node.cancel id node).2.registered ≤ node.registered := by
  rw [registered, (cancel_run id node).1]
  exact List.filter_sublist.countP_le

theorem registered_arrive_le (id : Nat) (purpose : Purpose) (node : Node σ) :
    (Node.arrive id purpose node).2.registered ≤ node.registered := by
  rw [arrive_run, registered, List.countP_cons]
  exact registered_cancel_le id node

variable [Transport σ] [Settling σ]

/-- A reader whose first turn it is. -/
def Enters (node : Node σ) (id : Nat) : Prop :=
  node.held = false ∧ ∃ reader, node.readers.lookup id = some reader ∧ reader.phase = .arriving

/-- The turn of the reader is that of someone who starts a forced measurement. -/
def Starts (node : Node σ) (id : Nat) : Prop :=
  (poll id node).2.sensor.session.unlogged =
    (Session.setMode .forced node.sensor.session).2.unlogged

theorem registered_entered {node : Node σ} (hkeys : (node.readers.map Prod.fst).Nodup) {id : Nat}
    {reader : Reader} (h : node.readers.lookup id = some reader) (hphase : reader.phase = .arriving)
    (hfree : node.held = false) : (poll id node).2.registered = node.registered + 1 := by
  have hkeys' := (keys_startWait id (SharedSensor.enter node.sensor).1 reader node.readers).symm
  rw [poll_of_arriving h hphase hfree, registered_of_arriving hkeys h hphase]
  rw [hkeys'] at hkeys
  have hc := @registered_of_waiting σ { node with
      sensor := (SharedSensor.enter node.sensor).2
      readers := node.readers.map (startWait id (SharedSensor.enter node.sensor).1 reader) }
    hkeys id _ _ (lookup_startWait h _) rfl
  rw [hc]
  simp only [registered, without, filter_startWait]

theorem poll_recounted {node : Node σ} (hkeys : (node.readers.map Prod.fst).Nodup) (id : Nat) :
    Recounted node (poll id node).2 := by
  have hpolled := poll_polled id node
  generalize hran : poll id node = polled at hpolled ⊢
  cases hpolled with
  | absent => exact .same rfl rfl
  | blocked => exact .same rfl rfl
  | starts h hphase hfree =>
    have hr := registered_entered hkeys h hphase hfree
    rw [hran] at hr
    exact .joined (SharedSensor.enter_waiting node.sensor) hr
  | completes h hphase =>
    have hcollected : Recounted node
        { node.without id with sensor := (SharedSensor.complete node.sensor).2 } :=
      .left (SharedSensor.complete_run node.sensor).1 (registered_of_waiting hkeys h hphase)
    apply hcollected.congr
    · exact congrArg Prod.fst (deliver_turns _ _ _)
    · rw [registered, deliver_readers]
      rfl

theorem step_recounted {node : Node σ} (hkeys : (node.readers.map Prod.fst).Nodup)
    (event : NodeEvent σ) : Recounted node (step event node).2 := by
  cases event with
  | arrive id purpose => exact arrive_recounted hkeys id purpose
  | poll id => exact poll_recounted hkeys id
  | cancel id => exact cancel_recounted hkeys id
  | _ => exact .same rfl rfl

theorem poll_keys {node : Node σ} (hkeys : (node.readers.map Prod.fst).Nodup) (id : Nat) :
    ((poll id node).2.readers.map Prod.fst).Nodup := by
  have hpolled := poll_polled id node
  generalize poll id node = polled at hpolled ⊢
  cases hpolled with
  | absent => exact hkeys
  | blocked => exact hkeys
  | starts => simpa only [keys_startWait] using hkeys
  | completes =>
    rw [deliver_readers]
    exact keys_without hkeys id

theorem step_keys {node : Node σ} (hkeys : (node.readers.map Prod.fst).Nodup)
    (event : NodeEvent σ) : ((step event node).2.readers.map Prod.fst).Nodup := by
  cases event with
  | arrive id purpose => exact List.nodup_cons.2 ⟨cancel_keys id node, keys_cancelled hkeys id⟩
  | poll id => exact poll_keys hkeys id
  | cancel id => exact keys_cancelled hkeys id
  | _ => exact hkeys

theorem Counted.step {node : Node σ} (hc : node.Counted) (event : NodeEvent σ)
    (hbound : (Node.step event node).2.registered ≤ 255) : (Node.step event node).2.Counted := by
  have hw := hc.waiting
  apply Counted.mk (step_keys hc.keys event)
  cases step_recounted hc.keys event with
  | same hwaiting hregistered => rw [hwaiting, hregistered, hw]
  | joined hwaiting hregistered =>
    rw [hwaiting, hregistered, SharedSensor.toNat_countUp (by omega), hw]
  | left hwaiting hregistered =>
    rw [hwaiting, SharedSensor.toNat_countDown]
    omega

theorem Undercounted.step {node : Node σ} (hu : node.Undercounted) (event : NodeEvent σ) :
    (Node.step event node).2.Undercounted := by
  have hw := hu.waiting
  apply Undercounted.mk (step_keys hu.keys event)
  cases step_recounted hu.keys event with
  | same hwaiting hregistered => rwa [hwaiting, hregistered]
  | joined hwaiting hregistered =>
    have hup := SharedSensor.toNat_countUp_le node.sensor.waiting
    rw [hwaiting, hregistered]
    omega
  | left hwaiting hregistered =>
    rw [hwaiting, SharedSensor.toNat_countDown]
    omega

theorem Counted.after {node : Node σ} (hc : node.Counted) {events : List (NodeEvent σ)}
    (hbound : ∀ past, past <+: events → (node.after past).registered ≤ 255) :
    (node.after events).Counted := by
  induction events generalizing node with
  | nil => exact hc
  | cons event events ih =>
    have hstep := hbound [event] (List.prefix_append [event] events)
    rw [after_cons]
    apply ih (hc.step event hstep)
    intro past hpast
    have h := hbound (event :: past) (List.cons_prefix_cons.2 ⟨rfl, hpast⟩)
    rwa [after_cons] at h

end Node

namespace Node

variable {σ : Type} [Transport σ] [Settling σ]

theorem not_starts {node : Node (Traced σ)} {id : Nat}
    (h : (poll id node).2.sensor.session.unlogged = node.sensor.session.unlogged) :
    ¬ node.Starts id := by
  intro hs
  rw [Starts, h] at hs
  have hlink : node.sensor.session.link = (Link.changeMode .forced node.sensor.session.link).2 :=
    congrArg Prod.snd hs
  exact Link.ne_changeMode _ _ hlink

/-- Of all turns only that of a reader that finds no other one counted starts a measurement. -/
theorem starts_iff (node : Node (Traced σ)) (id : Nat) :
    node.Starts id ↔ node.Enters id ∧ node.sensor.waiting = 0 := by
  constructor
  · intro hs
    have hpolled := poll_polled id node
    generalize hran : poll id node = polled at hpolled
    cases hpolled with
    | absent => exact (not_starts (by rw [hran]) hs).elim
    | blocked => exact (not_starts (by rw [hran]) hs).elim
    | starts h hphase hfree =>
      apply And.intro ⟨hfree, _, h, hphase⟩
      apply Decidable.byContradiction
      intro hwaiting
      have hjoins : (poll id node).2.sensor.session.unlogged = node.sensor.session.unlogged := by
        rw [hran]
        exact (SharedSensor.enter_of_waiting hwaiting).2
      exact not_starts hjoins hs
    | completes =>
      have hcollect : (poll id node).2.sensor.session.link =
          (Link.readFields node.sensor.session.driver.lastMode node.sensor.session.link).2 := by
        rw [hran]
        exact (congrArg Prod.snd (deliver_unlogged _ _ _)).trans
          (SharedSensor.complete_run node.sensor).2
      have hstart : (poll id node).2.sensor.session.link =
          (Link.changeMode .forced node.sensor.session.link).2 := congrArg Prod.snd hs
      exact (Link.readFields_ne_changeMode _ _ _ (hcollect.symm.trans hstart)).elim
  · rintro ⟨⟨hfree, reader, h, hphase⟩, hwaiting⟩
    rw [Starts, poll_of_arriving h hphase hfree]
    exact (SharedSensor.enter_of_none hwaiting).2

theorem readers_step_le (event : NodeEvent σ) (node : Node σ) :
    (step event node).2.readers.length ≤ node.readers.length + 1 := by
  have hcancel (id : Nat) : (cancel id node).2.readers.length ≤ node.readers.length := by
    rw [(cancel_run id node).1]
    exact List.length_filter_le _ _
  cases event with
  | arrive id purpose => exact Nat.succ_le_succ (hcancel id)
  | cancel id => exact Nat.le_succ_of_le (hcancel id)
  | poll id =>
    change (poll id node).2.readers.length ≤ _
    have hpolled := poll_polled id node
    generalize poll id node = polled at hpolled ⊢
    cases hpolled with
    | absent => exact Nat.le_succ _
    | blocked => exact Nat.le_succ _
    | starts =>
      rw [List.length_map]
      exact Nat.le_succ _
    | completes =>
      rw [deliver_readers]
      exact Nat.le_succ_of_le (List.length_filter_le _ _)
  | hold => exact Nat.le_succ _
  | release => exact Nat.le_succ _
  | operate operation => exact Nat.le_succ _
  | disturb change => exact Nat.le_succ _
  | listen change => exact Nat.le_succ _
  | setOffline offline => exact Nat.le_succ _

theorem registered_after_le (events : List (NodeEvent σ)) (node : Node σ) :
    (node.after events).registered ≤ node.readers.length + events.length := by
  have hreaders : (node.after events).readers.length ≤ node.readers.length + events.length := by
    induction events generalizing node with
    | nil => exact Nat.le_refl _
    | cons event events ih =>
      have hstep := readers_step_le event node
      have hrest := ih (step event node).2
      rw [after_cons, List.length_cons]
      omega
  exact Nat.le_trans List.countP_le_length hreaders

/-- Readers share the sensor by the count of those that wait. Whatever happens to the node, the
count is right, a measurement is started by exactly those readers that find nobody waiting, and so
by the next one to come once all have left. -/
theorem pending_readers_share {node : Node (Traced σ)} (hreaders : node.readers = [])
    (hwaiting : node.sensor.waiting = 0) {events : List (NodeEvent (Traced σ))}
    (hbound : ∀ past, past <+: events → (node.after past).registered ≤ 255) :
    (node.after events).sensor.waiting.toNat = (node.after events).registered ∧
    (∀ id, (node.after events).Starts id ↔
      (node.after events).Enters id ∧ (node.after events).registered = 0) ∧
    ((node.after events).registered = 0 →
      (node.after events).sensor.waiting = 0 ∧
      ((node.after events).held = false → ∀ id purpose,
        (node.after (events ++ [.arrive id purpose])).Starts id)) := by
  have hc := (Counted.of_idle hreaders hwaiting).after hbound
  refine ⟨hc.waiting, ?_, ?_⟩
  · intro id
    rw [starts_iff, hc.waiting_eq_zero_iff]
  · intro hnone
    apply And.intro (hc.waiting_eq_zero_iff.2 hnone)
    intro hfree id purpose
    rw [after_append]
    have hidle : (Node.arrive id purpose (node.after events)).2.registered = 0 :=
      Nat.le_zero.1 (hnone ▸ registered_arrive_le id purpose _)
    have henters : (Node.arrive id purpose (node.after events)).2.Enters id :=
      ⟨(cancel_run id _).2.trans hfree, { purpose }, List.lookup_cons_self, rfl⟩
    have harrived := hc.step (.arrive id purpose) (hidle ▸ Nat.zero_le 255)
    exact (starts_iff _ id).2 ⟨henters, harrived.waiting_eq_zero_iff.2 hidle⟩

/-- A node that has just been connected to its sensor. -/
def connected (device : Device) : Node (Traced Device) :=
  { sensor := { session := (Session.connect (Session.unconnected device)).2 }, sensorId := "lab" }

theorem registered_after_le_length {node : Node σ} (hreaders : node.readers = [])
    {events : List (NodeEvent σ)} (hlength : events.length ≤ 255) :
    ∀ past, past <+: events → (node.after past).registered ≤ 255 := by
  intro past hpast
  have h := registered_after_le past node
  have hle := hpast.length_le
  rw [hreaders, List.length_nil] at h
  omega

/-- The reader that started the measurement is given up while someone else keeps the sensor, and
the one that joined it goes on waiting. -/
def givenUp : List (NodeEvent (Traced Device)) :=
  [.arrive 0 .sample, .poll 0, .arrive 1 .display, .poll 1, .hold, .poll 0, .cancel 0, .release]

theorem registered_givenUp {node : Node (Traced Device)} (hreaders : node.readers = [])
    (hfree : node.held = false) : (node.after givenUp).registered = 1 ∧
      (node.after (givenUp ++ [.arrive 2 .sample])).registered = 1 := by
  obtain ⟨sensor, sensorId, uart, sink, shown, held, readers⟩ := node
  obtain rfl : readers = [] := hreaders
  obtain rfl : held = false := hfree
  exact ⟨rfl, rfl⟩

theorem pending_readers_share_given_up :
    let node := connected .supported
    (node.readers = [] ∧ node.sensor.waiting = 0 ∧
      ∀ past, past <+: givenUp → (node.after past).registered ≤ 255) ∧
    (node.after givenUp).registered = 1 ∧ (node.after givenUp).sensor.waiting.toNat = 1 ∧
    ¬ (node.after (givenUp ++ [.arrive 2 .sample])).Starts 2 := by
  intro node
  have hbound : ∀ past, past <+: givenUp → (node.after past).registered ≤ 255 :=
    registered_after_le_length rfl (by decide)
  have hlater : ∀ past, past <+: givenUp ++ [.arrive 2 .sample] →
      (node.after past).registered ≤ 255 := registered_after_le_length rfl (by decide)
  obtain ⟨hone, hstill⟩ := registered_givenUp (rfl : node.readers = []) rfl
  have hcount := (pending_readers_share rfl rfl hbound).1
  have hnext := (pending_readers_share rfl rfl hlater).2.1 2
  have hjoins : ¬ (node.after (givenUp ++ [.arrive 2 .sample])).Starts 2 := by
    intro hs
    have hnone := (hnext.1 hs).2
    omega
  exact ⟨⟨rfl, rfl, hbound⟩, hone, hcount.trans hone, hjoins⟩

end Node

end AirMonitor
