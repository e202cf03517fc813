import AirMonitor.Node.Reporting
import AirMonitor.Proofs.AnswerStream
import AirMonitor.Proofs.ConcurrentScores
import AirMonitor.Proofs.FaithfulPayload
import AirMonitor.Proofs.Provenance

/-!
What a report says of a sample, and what becomes of it. A quantity that is not available is
reported as a number that no available one is reported as.
-/

namespace AirMonitor

open CarbonDioxide

namespace Payload

theorem positional_ne_minus {n : Nat} {text : String} (h : text.toList.head? = some '-') :
    positional n 2 ≠ text := by
  rintro rfl
  have hne : Nat.toDigits 10 (n / 10 ^ 2) ≠ [] := Nat.toDigits_ne_nil
  obtain ⟨c, cs, hdigits⟩ := List.exists_cons_of_ne_nil hne
  rw [Json.toList_positional (by decide), hdigits] at h
  obtain rfl := Option.some.inj h
  have hminus : Char.isDigit '-' = true := Json.isDigit_toDigits '-' (hdigits ▸ List.mem_cons_self)
  exact absurd hminus (by decide)

theorem fixedPlaces_unavailable : fixedPlaces 2 Estimator.unavailable = "-1.00" := by
  decide +kernel

/-- The number that stands for an unavailable score is not the text of any score. -/
theorem fixedPlaces_ne_unavailable {x : Float32} (h : 0 ≤ x) : fixedPlaces 2 x ≠ "-1.00" := by
  rcases Single.partsOf_of_nonneg h with hsign | hzero
  · rcases Single.partsOf_cases x with hparts | hparts | ⟨mantissa, exponent, hparts⟩
    · rw [fixedPlaces, hparts]
      decide
    · rw [fixedPlaces, hparts, hsign]
      decide
    · rw [fixedPlaces, hparts, hsign]
      change signText false ++ positional _ 2 ≠ _
      rw [signText, if_neg Bool.false_ne_true, String.empty_append]
      exact positional_ne_minus rfl
  · rw [fixedPlaces, hzero]
    decide +kernel

theorem lookup_score (sensorId : String) (sample : Sample) :
    (members sensorId sample).lookup "tvoc" = some (fixedPlaces 2 sample.score) := rfl

theorem lookup_co2 (sensorId : String) (sample : Sample) :
    (members sensorId sample).lookup "co2" = some (toString sample.co2.toInt) := rfl

end Payload

namespace CarbonDioxide.Meter

/-- No concentration is taken for one that is not available. -/
theorem concentration_eq_iff (meter : Meter) :
    toString (concentration meter).1.toInt = "-1" ↔ ∃ e, (read meter).1 = .error e := by
  have hunavailable : toString (-1 : Int) = "-1" := rfl
  rw [← hunavailable]
  cases hread : (read meter).1 with
  | error e =>
    rw [concentration_of_error hread]
    exact iff_of_true rfl ⟨e, rfl⟩
  | ok ppm =>
    rw [concentration_of_ok hread]
    refine iff_of_false (fun h => ?_) (by rintro ⟨e, ⟨⟩⟩)
    have heq := Json.toString_int_inj h
    omega

end CarbonDioxide.Meter

namespace Estimator

theorem score_of_burnIn {estimator : Estimator} (h : estimator.burnedIn < burnInReadings)
    (gas humidity temperature : Float32) :
    (estimator.score gas humidity temperature).1 = unavailable := by
  rw [score, absorb_of_burnIn h]
  rfl

theorem score_of_calibrated {estimator : Estimator} (h : ¬estimator.burnedIn < burnInReadings)
    (gas humidity temperature : Float32) :
    0 ≤ (estimator.score gas humidity temperature).1 := by
  rw [score, absorb_of_calibrated h]
  exact (grade_bounds Single.mul_self_nonneg _ _).1

end Estimator

theorem Session.fetch_none_iff {σ : Type} [Transport σ] {s : Session σ} :
    (∀ count, (fetch s).1 = .ok count → count = 0) ↔ s.newFields = [] := by
  constructor
  · intro hzero
    by_contra hnew
    have hcount := List.length_pos_of_ne_nil hnew
    have hfetched := hzero _ ((fetch_ok_iff s hcount).2 rfl)
    omega
  · intro hnew count hfetch
    by_contra hcount
    have hlength := (fetch_ok_iff s (Nat.pos_of_ne_zero hcount)).1 hfetch
    rw [hnew] at hlength
    exact hcount hlength.symm

namespace SharedSensor

/-- A field gets no score if it is not new or is spent on the burn-in, and else one that is not
below 0. -/
theorem complete_score {σ : Type} [Transport σ] (shared : SharedSensor σ) :
    let unscored := (∀ count, (Session.fetch shared.session).1 = .ok count → count = 0) ∨
      shared.estimator.burnedIn < Estimator.burnInReadings
    unscored ∧ (complete shared).1.score = Estimator.unavailable ∨
      ¬unscored ∧ 0 ≤ (complete shared).1.score := by
  intro unscored
  cases hnew : shared.session.newFields with
  | nil =>
    exact .inl ⟨.inl (Session.fetch_none_iff.2 hnew),
      congrArg Sample.score (complete_of_none hnew).1⟩
  | cons first rest =>
    have hfetched : ¬∀ count, (Session.fetch shared.session).1 = .ok count → count = 0 := by
      rw [Session.fetch_none_iff, hnew]
      exact List.cons_ne_nil first rest
    have hscore : (complete shared).1.score =
        (shared.estimator.score first.gas first.humidity first.temperature).1 :=
      congrArg Sample.score (complete_of_new hnew).1
    rw [hscore]
    by_cases hburning : shared.estimator.burnedIn < Estimator.burnInReadings
    · exact .inl ⟨.inr hburning, Estimator.score_of_burnIn hburning _ _ _⟩
    · exact .inr ⟨not_or.2 ⟨hfetched, hburning⟩, Estimator.score_of_calibrated hburning _ _ _⟩

/-- A sample shows no score exactly if its field is not new or was spent on the burn-in. -/
theorem unavailable_iff {σ : Type} [Transport σ] (shared : SharedSensor σ) :
    fixedPlaces 2 (complete shared).1.score = "-1.00" ↔
      (∀ count, (Session.fetch shared.session).1 = .ok count → count = 0) ∨
        shared.estimator.burnedIn < Estimator.burnInReadings := by
  rcases complete_score shared with ⟨hunscored, hscore⟩ | ⟨hscored, hscore⟩
  · rw [hscore]
    exact iff_of_true Payload.fixedPlaces_unavailable hunscored
  · exact iff_of_false (Payload.fixedPlaces_ne_unavailable hscore) hscored

end SharedSensor

namespace Node

variable {σ : Type}

theorem ship_of_fits {sample : Sample} {node : Node σ}
    (h : (Payload.text node.sensorId sample).utf8ByteSize ≤ 192) :
    (ship sample node).1 = (if node.sink.offline then .error .send else .ok ()) ∧
    (ship sample node).2.sink.offers =
      node.sink.offers ++ [(Payload.text node.sensorId sample, !node.sink.offline)] := by
  have hformat : Payload.format? node.sensorId sample =
      some (Payload.text node.sensorId sample) := by rw [Payload.format?_eq]; exact if_pos h
  cases hoffline : node.sink.offline with
  | true =>
    simp only [ship, bind_run, get_run, hformat, offer, hoffline]
    exact ⟨rfl, rfl⟩
  | false =>
    simp only [ship, bind_run, get_run, hformat, offer, hoffline]
    exact ⟨rfl, rfl⟩

theorem ship_of_long {sample : Sample} {node : Node σ}
    (h : ¬(Payload.text node.sensorId sample).utf8ByteSize ≤ 192) :
    (ship sample node).1 = .error .format ∧
    (ship sample node).2.sink.offers = node.sink.offers := by
  have hformat : Payload.format? node.sensorId sample = none := by
    rw [Payload.format?_eq]
    exact if_neg h
  simp only [ship, bind_run, get_run, hformat]
  exact ⟨rfl, rfl⟩

variable [Transport σ]

/-- The field that a step of others gets scored. -/
def graded : ReportStep σ → Node σ → Option Field
  | .event event, node => scored event node
  | .grade field, _ => some field
  | _, _ => none

variable [Settling σ]

/-- How many fields others get scored. -/
def gradings : List (ReportStep σ) → Node σ → Nat
  | [], _ => 0
  | step :: steps, node =>
    (graded step node).toList.length + gradings steps (takeStep step node).2

theorem takeStep_estimator (step : ReportStep σ) (node : Node σ) :
    (takeStep step node).2.sensor.estimator =
      (graded step node).elim node.sensor.estimator node.sensor.estimator.learn := by
  cases step with
  | event event => exact step_estimator event node
  | grade field => exact (SharedSensor.grade_run field node.sensor).2
  | measure source => exact congrArg Prod.snd (co2_within source node)
  | ship sample => exact congrArg Prod.snd (ship_within sample node)

/-- The burn-in lasts for the first readings, whoever has them scored. -/
theorem burnedIn_onward (steps : List (ReportStep σ)) (node : Node σ) (more : Nat) :
    Estimator.burnInReadings ≤ (node.onward steps).sensor.estimator.burnedIn + more ↔
      Estimator.burnInReadings ≤ node.sensor.estimator.burnedIn + gradings steps node + more := by
  induction steps generalizing node with
  | nil => exact Iff.rfl
  | cons step steps ih =>
    have hstep := takeStep_estimator step node
    change Estimator.burnInReadings ≤
      ((takeStep step node).2.onward steps).sensor.estimator.burnedIn + more ↔ _
    rw [ih, gradings]
    cases hgraded : graded step node with
    | none =>
      rw [hgraded] at hstep
      rw [hstep]
      simp
    | some field =>
      rw [hgraded] at hstep
      rw [hstep, Option.elim_some, Nat.add_assoc, Estimator.isCalibrated_learn, Option.toList_some,
        List.length_singleton]
      omega

/-- Whether the burn-in goes on when a report collects its field. -/
theorem burningIn_turned {node : Node σ} (hestimator : node.sensor.estimator = {})
    (before waiting : List (ReportStep σ)) :
    ((useSensor SharedSensor.enter (node.onward before)).2.onward waiting).sensor.estimator.burnedIn
        < Estimator.burnInReadings ↔
      gradings before node +
        gradings waiting (useSensor SharedSensor.enter (node.onward before)).2 < 25 := by
  have hentered : (useSensor SharedSensor.enter (node.onward before)).2.sensor.estimator =
      (node.onward before).sensor.estimator :=
    congrArg Prod.fst (SharedSensor.enter_within (node.onward before).sensor)
  have hwaiting := burnedIn_onward waiting (useSensor SharedSensor.enter (node.onward before)).2 0
  have hbefore := burnedIn_onward before node
    (gradings waiting (useSensor SharedSensor.enter (node.onward before)).2)
  rw [hestimator, Nat.zero_add] at hbefore
  rw [hentered, Nat.add_zero, Nat.add_zero, hbefore] at hwaiting
  exact not_le.symm.trans (not_congr hwaiting |>.trans not_le)

/-- A reader that reports does just that in its two turns if nobody gets in between. -/
theorem poll_poll_report {id : Nat} {node : Node σ} {source : Co2Source}
    (h : node.readers.lookup id = some ⟨.report source, .arriving⟩) (hfree : node.held = false) :
    poll id (poll id node).2 = report source [] [] [] (node.without id) := by
  have hentered := congrArg Prod.snd (poll_of_arriving h rfl hfree)
  have hwaiting := lookup_startWait h (SharedSensor.enter node.sensor).1
  have hothers := filter_startWait id (SharedSensor.enter node.sensor).1
    ⟨.report source, .arriving⟩ node.readers
  rw [hentered]
  simp only [poll, without, bind_run, get_run, hwaiting, hfree, Bool.false_eq_true, ↓reduceIte,
    modify_run, hothers]
  rfl

/-- In each cycle the sink is called once if the report fits and else not at all, the result says
which, and what the sink is called with marks a quantity as unavailable exactly if it was. -/
theorem reports_honest {node : Node σ} (hestimator : node.sensor.estimator = {})
    (before waiting meanwhile later : List (ReportStep σ)) :
    let entered := useSensor SharedSensor.enter (node.onward before)
    let turned := entered.2.onward waiting
    let collected := useSensor SharedSensor.complete turned
    let measuring := collected.2.onward meanwhile
    let measured := co2 .meter measuring
    let shipping := measured.2.onward later
    let sample := { collected.1 with co2 := measured.1 }
    let text := Payload.text shipping.sensorId sample
    let reported := report .meter waiting meanwhile later (node.onward before)
    (entered.2.sink = (node.onward before).sink ∧ collected.2.sink = turned.sink ∧
      measured.2.sink = measuring.sink) ∧
    (∃ result, reported.1 = .reported sample result ∧
      (192 < text.utf8ByteSize ∧ reported.2.sink.offers = shipping.sink.offers ∧
          result = .error .format ∨
        text.utf8ByteSize ≤ 192 ∧
          reported.2.sink.offers = shipping.sink.offers ++ [(text, !shipping.sink.offline)] ∧
          result = if shipping.sink.offline then .error .send else .ok ())) ∧
    ((Payload.members shipping.sensorId sample).lookup "co2" = some "-1" ↔
      ∃ e, (Meter.read ⟨measuring.uart, Journaled.journal measuring⟩).1 = .error e) ∧
    ((Payload.members shipping.sensorId sample).lookup "tvoc" = some "-1.00" ↔
      (∀ count, (Session.fetch turned.sensor.session).1 = .ok count → count = 0) ∨
        gradings before node + gradings waiting entered.2 < 25) := by
  intro entered turned collected measuring measured shipping sample text reported
  refine ⟨⟨rfl, rfl, rfl⟩, ⟨(ship sample shipping).1, rfl, ?_⟩, ?_, ?_⟩
  · by_cases hfits : text.utf8ByteSize ≤ 192
    · exact .inr ⟨hfits, (ship_of_fits hfits).2, (ship_of_fits hfits).1⟩
    · exact .inl ⟨Nat.lt_of_not_le hfits, (ship_of_long hfits).2, (ship_of_long hfits).1⟩
  · rw [Payload.lookup_co2, Option.some.injEq]
    exact Meter.concentration_eq_iff _
  · rw [Payload.lookup_score, Option.some.injEq]
    exact (SharedSensor.unavailable_iff turned.sensor).trans
      (or_congr_right (burningIn_turned hestimator before waiting))

/-- A node whose meter cannot be asked. -/
def unmetered : Node (Traced Device) := { connected measured with uart := { failWrite := true } }

theorem reports_honest_unmetered :
    unmetered.sensor.estimator = {} ∧
    ∃ sample result, (report .meter [] [] [] unmetered).1 = .reported sample result ∧
      (Payload.members "lab" sample).lookup "co2" = some "-1" ∧
      (Payload.members "lab" sample).lookup "tvoc" = some "-1.00" := by
  obtain ⟨-, ⟨result, hreported, -⟩, hco2, hscore⟩ :=
    @reports_honest _ _ _ unmetered rfl [] [] [] []
  exact ⟨rfl, _, result, hreported, hco2.2 ⟨.write, rfl⟩, hscore.2 (.inr (by decide))⟩

end Node

end AirMonitor
