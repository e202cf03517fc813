import AirMonitor.Proofs.HonestReports
import AirMonitor.Proofs.RollingWindow

/-!
What the display averages. Its window takes in a score at the end of each refresh that has one, and
nothing that happens in between touches it.
-/

namespace AirMonitor

/-- The sample of a refresh of the display that is through. -/
def Progress.displayed? : Progress → Option Sample
  | .displayed sample => some sample
  | _ => none

/-- The scores of those samples that have one. -/
def scores (samples : List Sample) : List Float32 :=
  (samples.map Sample.score).filter (0 ≤ ·)

theorem scores_append (samples more : List Sample) :
    scores (samples ++ more) = scores samples ++ scores more := by
  rw [scores, List.map_append, List.filter_append]
  rfl

theorem not_nonneg_unavailable : ¬0 ≤ Estimator.unavailable := by decide +kernel

theorem unavailable_notMem_scores (samples : List Sample) :
    Estimator.unavailable ∉ scores samples := fun hmem =>
  not_nonneg_unavailable (of_decide_eq_true (List.mem_filter.1 hmem).2)

theorem scores_of_nonneg {sample : Sample} (h : 0 ≤ sample.score) :
    scores [sample] = [sample.score] := by
  simp [scores, h]

theorem scores_of_not_nonneg {sample : Sample} (h : ¬0 ≤ sample.score) : scores [sample] = [] := by
  simp [scores, h]

namespace Node

variable {σ : Type}

theorem log_shown (level : LogLevel) (text : String) :
    Within (Same shown) (log level text : StateM (Node σ) Unit) := fun _ => rfl

theorem co2_shown (source : Co2Source) :
    Within (Same shown) (co2 source : StateM (Node σ) Int32) := by
  cases source with
  | fixed ppm => exact .pure _
  | meter => exact fun _ => rfl

theorem ship_shown (sample : Sample) :
    Within (Same shown) (ship sample : StateM (Node σ) (Except ReportError Unit)) :=
  within_ship log_shown (fun _ _ => rfl) sample

theorem cancel_shown (id : Nat) : Within (Same shown) (cancel id : StateM (Node σ) Unit) := by
  intro node
  have hcancelled := cancel_cancelled id node
  generalize (cancel id node).2 = after at hcancelled ⊢
  cases hcancelled <;> rfl

theorem display_shown (sample : Sample) (node : Node σ) :
    (display sample node).2.shown = (scores [sample]).foldl RollingAverage.push node.shown := by
  rw [display]
  dsimp only
  split
  · next hscore =>
    rw [scores_of_nonneg hscore, bind_run, modify_run]
    refine Within.bind (log_shown _ _) (fun _ => .bind .get fun _ => ?_) _
    split <;> exact log_shown _ _
  · next hscore =>
    rw [scores_of_not_nonneg hscore]
    refine Within.bind (R := Same shown) (log_shown _ _) (fun _ => .bind .get fun _ => ?_) node
    split <;> exact log_shown _ _

/-- A delivery shows the sample if the reader is a refresh of the display. -/
theorem deliver_shown (sample : Sample) (purpose : Purpose) (node : Node σ) :
    (deliver sample purpose node).2.shown =
      (scores (deliver sample purpose node).1.displayed?.toList).foldl RollingAverage.push
        node.shown := by
  cases purpose with
  | sample => rfl
  | display => exact display_shown sample node
  | report source =>
    have hreport : Within (Same shown) (deliver sample (.report source) : StateM (Node σ) _) :=
      .bind (co2_shown source) fun _ => .bind (ship_shown _) fun _ => .pure _
    exact hreport node

variable [Transport σ] [Settling σ]

theorem poll_shown (id : Nat) (node : Node σ) :
    (poll id node).2.shown =
      (scores (poll id node).1.displayed?.toList).foldl RollingAverage.push node.shown := by
  have hpolled := poll_polled id node
  generalize poll id node = polled at hpolled ⊢
  cases hpolled with
  | absent => rfl
  | blocked => rfl
  | starts => rfl
  | completes => exact deliver_shown _ _ _

/-- The sample that a step lets a refresh of the display end with. -/
def refreshed : ReportStep σ → Node σ → Option Sample
  | .event (.poll id), node => (poll id node).1.displayed?
  | _, _ => none

/-- The samples of all refreshes that end in a run. -/
def refreshes : List (ReportStep σ) → Node σ → List Sample
  | [], _ => []
  | step :: steps, node =>
    (refreshed step node).toList ++ refreshes steps (takeStep step node).2

theorem takeStep_shown (step : ReportStep σ) (node : Node σ) :
    (takeStep step node).2.shown =
      (scores (refreshed step node).toList).foldl RollingAverage.push node.shown := by
  cases step with
  | event event =>
    cases event with
    | arrive id purpose => exact cancel_shown id node
    | cancel id => exact cancel_shown id node
    | poll id => exact poll_shown id node
    | _ => rfl
  | grade field => rfl
  | measure source => exact co2_shown source node
  | ship sample => exact ship_shown sample node

theorem onward_shown (steps : List (ReportStep σ)) (node : Node σ) :
    (node.onward steps).shown =
      (scores (refreshes steps node)).foldl RollingAverage.push node.shown := by
  induction steps generalizing node with
  | nil => rfl
  | cons step steps ih =>
    change ((takeStep step node).2.onward steps).shown = _
    rw [ih, takeStep_shown, refreshes, scores_append, List.foldl_append]

/-- The display remembers the score of a refresh, unless the refresh finds no new field or spends it
on the burn-in. -/
theorem refresh_shown {id : Nat} {node : Node σ} {sample : Sample}
    (h : (poll id node).1 = .displayed sample) :
    let unscored := (∀ count, (Session.fetch node.sensor.session).1 = .ok count → count = 0) ∨
      node.sensor.estimator.burnedIn < Estimator.burnInReadings
    (unscored → sample.score = Estimator.unavailable ∧ (poll id node).2.shown = node.shown) ∧
    (¬unscored → 0 ≤ sample.score ∧
      (poll id node).2.shown = node.shown.push sample.score) := by
  have hshown := poll_shown id node
  rw [h] at hshown
  have hscore : sample.score = (SharedSensor.complete node.sensor).1.score := by
    rcases poll_cases id node with ⟨-, hnone, -⟩ | ⟨-, ⟨co2, hsome⟩, -⟩
    · rw [h] at hnone
      cases hnone
    · rw [h] at hsome
      obtain rfl := Option.some.inj hsome
      rfl
  rw [hshown, hscore]
  rcases SharedSensor.complete_score node.sensor with ⟨hunscored, hnone⟩ | ⟨hscored, hsome⟩
  · refine ⟨fun _ => ⟨hnone, ?_⟩, fun hnot => absurd hunscored hnot⟩
    exact congrArg (List.foldl RollingAverage.push node.shown)
      (scores_of_not_nonneg (hscore.trans hnone ▸ not_nonneg_unavailable))
  · refine ⟨fun hunscored => absurd hunscored hscored, fun _ => ⟨hsome, ?_⟩⟩
    rw [← hscore] at hsome ⊢
    exact congrArg (List.foldl RollingAverage.push node.shown) (scores_of_nonneg hsome)

/-- A series is a queue of its last values. The one of the display is of the scores of its own
refreshes, whatever others do in between, and what it shows is their mean. -/
theorem display_averages_own_scores {node : Node σ} (hshown : node.shown = {})
    (steps : List (ReportStep σ)) {capacity : Nat} (hcapacity : 0 < capacity)
    (edits : List RollingAverage.Edit) :
    let average := RollingAverage.edited edits ({} : RollingAverage capacity)
    let reached := node.onward steps
    let shown := scores (refreshes steps node)
    (RollingAverage.pushed edits =
        RollingAverage.leavers edits ({} : RollingAverage capacity) ++ average.window ∧
      average.window.length ≤ capacity ∧ average.popOldest.1 = average.window.head? ∧
      ∀ values : List Float32, capacity ≤ values.length →
        (values.foldl RollingAverage.push average).window = values.rtake capacity) ∧
    (reached.shown.window = shown.rtake 5 ∧ Estimator.unavailable ∉ reached.shown.window ∧
      (shown = [] → reached.shown.mean = 0) ∧
      (shown ≠ [] → ∃ first rest, reached.shown.window = first :: rest ∧
        reached.shown.mean =
          rest.foldl (· + ·) first / Float32.ofNat (rest.length + 1))) ∧
    ∀ id sample, (poll id reached).1 = .displayed sample →
      let unscored := (∀ count, (Session.fetch reached.sensor.session).1 = .ok count → count = 0) ∨
        reached.sensor.estimator.burnedIn < 25
      (unscored → sample.score = Estimator.unavailable ∧
        (poll id reached).2.shown = reached.shown) ∧
      (¬unscored → 0 ≤ sample.score ∧
        (poll id reached).2.shown = reached.shown.push sample.score) := by
  intro average reached shown
  have hwindow : reached.shown.window = shown.rtake 5 := by
    have hpushes := RollingAverage.window_pushes shown node.shown
    rw [← onward_shown steps node, hshown] at hpushes
    exact hpushes
  refine ⟨⟨RollingAverage.window_edited hcapacity edits {}, average.length_le,
    average.popOldest_fst, fun values hvalues => RollingAverage.window_pushes_of_le hvalues _⟩,
    ⟨hwindow, ?_, ?_, ?_⟩, fun id sample => refresh_shown⟩
  · rw [hwindow]
    exact fun hmem => unavailable_notMem_scores _ (List.mem_of_mem_drop hmem)
  · intro hnone
    rw [hnone, List.rtake_nil] at hwindow
    rw [RollingAverage.mean, hwindow]
    rfl
  · intro hsome
    have hlength := List.length_pos_of_ne_nil hsome
    have hne : reached.shown.window ≠ [] := by
      rw [hwindow, List.rtake, ne_eq, List.drop_eq_nil_iff]
      omega
    obtain ⟨first, rest, hcons⟩ := List.exists_cons_of_ne_nil hne
    exact ⟨first, rest, hcons, RollingAverage.mean_of_cons hcons⟩

/-- A display waits for a measurement that is there, and the estimator is past its burn-in. -/
def watched : Node (Traced Device) :=
  let waiting := (connected measured).after started
  { waiting with
    sensor := { waiting.sensor with estimator := { burnedIn := 25 } }
    readers := [(0, ⟨.display, .waiting 0⟩)] }

/-- One value falls out of two and one is popped. -/
def turnover : List RollingAverage.Edit := [.push 1, .push 2, .push 3, .popOldest]

theorem display_averages_own_scores_watched :
    watched.shown = {} ∧ 0 < 2 ∧
    RollingAverage.pushed turnover =
      [1, 2] ++ (RollingAverage.edited turnover ({} : RollingAverage 2)).window ∧
    ∃ sample, refreshes [.event (.poll 0)] watched = [sample] ∧ 0 ≤ sample.score ∧
      (watched.onward [.event (.poll 0)]).shown.mean = sample.score / Float32.ofNat 1 := by
  have hshown : watched.shown = {} := rfl
  have hcapacity : 0 < 2 := Nat.two_pos
  obtain ⟨⟨hqueue, -⟩, -, hrefresh⟩ :=
    display_averages_own_scores hshown [] hcapacity turnover
  obtain ⟨-, ⟨hwindow, -, -, hmean⟩, -⟩ :=
    display_averages_own_scores hshown [.event (.poll 0)] hcapacity turnover
  have hpoll : (poll 0 watched).1 = .displayed (SharedSensor.complete watched.sensor).1 := by
    have hwaiting : watched.readers.lookup 0 = some ⟨.display, .waiting 0⟩ := rfl
    rw [poll_of_waiting hwaiting rfl rfl]
    rfl
  have hrefreshes : refreshes [.event (.poll 0)] watched =
      [(SharedSensor.complete watched.sensor).1] := by
    rw [refreshes, refreshed, hpoll]
    rfl
  have hscored : ¬((∀ count, (Session.fetch watched.sensor.session).1 = .ok count → count = 0) ∨
      watched.sensor.estimator.burnedIn < 25) := by
    rintro (hnone | hburning)
    · cases hnone 1 fetch_started
    · exact Nat.lt_irrefl 25 hburning
  obtain ⟨hscore, -⟩ := (hrefresh 0 _ hpoll).2 hscored
  refine ⟨hshown, hcapacity, hqueue, _, hrefreshes, hscore, ?_⟩
  rw [hrefreshes, scores_of_nonneg hscore] at hwindow hmean
  obtain ⟨first, rest, hcons, hmean⟩ := hmean (List.cons_ne_nil _ _)
  obtain ⟨rfl, rfl⟩ := List.cons.inj (hcons.symm.trans hwindow)
  exact hmean

end Node

end AirMonitor
