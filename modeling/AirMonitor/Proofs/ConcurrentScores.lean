import AirMonitor.Estimator.Crowd
import AirMonitor.Proofs.SingleProducts

namespace AirMonitor

/-- The greatest of 0 and the numbers among the values. -/
structure Greatest (values : List Float32) (top : Float32) : Prop where
  upper : ∀ value ∈ values, value.isNaN = false → value ≤ top
  attained : top = 0 ∨ 0 < top ∧ top ∈ values

namespace Greatest

variable {values : List Float32} {top : Float32}

theorem nil : Greatest [] 0 := ⟨fun _ h => (List.not_mem_nil h).elim, .inl rfl⟩

theorem nonneg (h : Greatest values top) : 0 ≤ top := by
  rcases h.attained with rfl | ⟨hpos, -⟩
  · exact Single.le_refl rfl
  · exact Single.le_of_lt hpos

theorem number (h : Greatest values top) : top.isNaN = false :=
  ((Single.le_iff _ _).mp h.nonneg).2.1

theorem eq_zero (h : Greatest [] top) : top = 0 := by
  rcases h.attained with hzero | ⟨-, hmem⟩
  · exact hzero
  · exact (List.not_mem_nil hmem).elim

theorem congr {values' : List Float32} (h : Greatest values top)
    (hmem : ∀ value, value ∈ values' ↔ value ∈ values) : Greatest values' top where
  upper value hvalue := h.upper value ((hmem value).mp hvalue)
  attained := h.attained.imp id fun ⟨hpos, htop⟩ => ⟨hpos, (hmem top).mpr htop⟩

theorem le_of_mem {values' : List Float32} {top' : Float32} (h : Greatest values top)
    (h' : Greatest values' top') (hmem : ∀ value ∈ values, value ∈ values') : top ≤ top' := by
  rcases h.attained with rfl | ⟨-, htop⟩
  · exact h'.nonneg
  · exact h'.upper top (hmem top htop) h.number

theorem unique {top' : Float32} (h : Greatest values top) (h' : Greatest values top') :
    top = top' := by
  have hle := h.le_of_mem h' fun _ hvalue => hvalue
  have hge := h'.le_of_mem h fun _ hvalue => hvalue
  rcases h.attained with rfl | ⟨hpos, -⟩
  · rcases h'.attained with rfl | ⟨hpos', -⟩
    · rfl
    · exact (Single.le_antisymm hge hle hpos').symm
  · exact Single.le_antisymm hle hge hpos

/-- A value that is not greater leaves the top where it is, and so does a NaN. -/
theorem cons (h : Greatest values top) (value : Float32) :
    Greatest (value :: values) (if top < value then value else top) := by
  split
  case isTrue hlt =>
    have hpos := Single.lt_of_le_of_lt h.nonneg hlt
    refine ⟨fun other hother hnumber => ?_, .inr ⟨hpos, List.mem_cons_self⟩⟩
    rcases List.mem_cons.mp hother with rfl | hother
    · exact Single.le_refl hnumber
    · exact Single.le_trans (h.upper other hother hnumber) (Single.le_of_lt hlt)
  case isFalse hlt =>
    refine ⟨fun other hother hnumber => ?_,
      h.attained.imp id fun ⟨hpos, htop⟩ => ⟨hpos, List.mem_cons_of_mem value htop⟩⟩
    rcases List.mem_cons.mp hother with rfl | hother
    · exact Single.le_of_not_lt h.number hnumber hlt
    · exact h.upper other hother hnumber

end Greatest

namespace Estimator

theorem grade_bounds {square : Float32 → Float32}
    (hsquare : ∀ share, (square share).isNaN = true ∨ 0 ≤ square share) (dry ceiling : Float32) :
    0 ≤ grade square dry ceiling ∧ grade square dry ceiling ≤ 100 := by
  rw [grade]
  split
  · decide +kernel
  · dsimp only
    split
    case isTrue hlt =>
      have hnumber := ((Single.lt_iff _ _).mp hlt).1
      rcases hsquare (dry / ceiling) with hnan | hnonneg
      · exact absurd (hnan.symm.trans hnumber) (by decide)
      · exact Single.mul_hundred hnonneg (Single.le_of_lt hlt)
    case isFalse => decide +kernel

theorem absorb_of_burnIn {estimator : Estimator} (h : estimator.burnedIn < burnInReadings)
    (dry : Float32) :
    estimator.absorb dry = (true, { estimator with burnedIn := estimator.burnedIn + 1 }) := by
  rw [absorb, if_pos h]

theorem absorb_of_calibrated {estimator : Estimator} (h : ¬estimator.burnedIn < burnInReadings)
    (dry : Float32) :
    estimator.absorb dry = (false, { estimator with
      ceiling := if estimator.ceiling < dry then dry else estimator.ceiling }) := by
  rw [absorb, if_neg h]
  split <;> rfl

end Estimator

namespace Call

variable {square : Float32 → Float32} {reading : Reading} {estimator : Estimator}

theorem advance_spent (h : estimator.burnedIn < Estimator.burnInReadings) :
    advance square ⟨reading, .due⟩ estimator =
      (⟨reading, .spent⟩, { estimator with burnedIn := estimator.burnedIn + 1 }) := by
  simp only [advance, Estimator.absorb_of_burnIn h]
  rfl

theorem advance_absorbed (h : ¬estimator.burnedIn < Estimator.burnInReadings) :
    advance square ⟨reading, .due⟩ estimator =
      (⟨reading, .absorbed⟩, { estimator with
        ceiling :=
          if estimator.ceiling < reading.dry then reading.dry else estimator.ceiling }) := by
  simp only [advance, Estimator.absorb_of_calibrated h]
  rfl

theorem advance_graded : advance square ⟨reading, .absorbed⟩ estimator =
    (⟨reading, .graded (Estimator.grade square reading.dry estimator.ceiling)⟩, estimator) := rfl

/-- A call that nobody comes between scores its reading. -/
theorem advance_advance (reading : Reading) (estimator : Estimator) :
    let first := advance Estimator.square { reading } estimator
    let last := first.1.advance Estimator.square first.2
    (last.1.result?, last.2) =
      (some (estimator.score reading.gas reading.humidity reading.temperature).1,
        (estimator.score reading.gas reading.humidity reading.temperature).2) := by
  by_cases h : estimator.burnedIn < Estimator.burnInReadings
  · simp only [advance_spent h, Estimator.score, Estimator.absorb_of_burnIn h]
    rfl
  · simp only [advance_absorbed h, Estimator.score, Estimator.absorb_of_calibrated h]
    rfl

end Call

namespace Crowd

open Estimator (burnInReadings)

variable {square : Float32 → Float32} {crowd : Crowd}

theorem step_of_call {i : Nat} {call : Call} (h : crowd.calls[i]? = some call) :
    crowd.step square i =
      ⟨(call.advance square crowd.estimator).2,
        crowd.calls.set i (call.advance square crowd.estimator).1⟩ := by
  rw [step, h]

theorem getElem_step {i : Nat} {call : Call} (h : crowd.calls[i]? = some call) :
    (crowd.step square i).calls[i]? = some (call.advance square crowd.estimator).1 := by
  rw [step_of_call h]
  exact List.getElem?_set_self (List.getElem?_eq_some_iff.mp h).1

/-- Only the call that uses the estimator goes on. -/
theorem step_split {i : Nat} {call : Call} (h : crowd.calls[i]? = some call) :
    ∃ earlier later, crowd.calls = earlier ++ call :: later ∧
      (crowd.step square i).calls =
        earlier ++ (call.advance square crowd.estimator).1 :: later := by
  obtain ⟨hi, hcall⟩ := List.getElem?_eq_some_iff.mp h
  refine ⟨crowd.calls.take i, crowd.calls.drop (i + 1), ?_, ?_⟩
  · rw [← hcall, List.cons_getElem_drop_succ, List.take_append_drop]
  · rw [step_of_call h, List.set_eq_take_append_cons_drop, if_pos hi]

theorem started_eq {earlier later : List Call} {call : Call}
    (h : crowd.calls = earlier ++ call :: later) :
    crowd.started =
      earlier.countP Call.started + (later.countP Call.started + call.started.toNat) := by
  rw [started, h, List.countP_append, List.countP_cons]
  cases call.started <;> rfl

theorem taught_eq {earlier later : List Call} {call : Call}
    (h : crowd.calls = earlier ++ call :: later) :
    crowd.taught =
      earlier.filterMap Call.taught? ++ (call.taught?.toList ++ later.filterMap Call.taught?) := by
  rw [taught, h, List.filterMap_append, List.filterMap_cons]
  cases call.taught? <;> rfl

/-- What a use of the estimator can do. -/
inductive Turn (crowd next : Crowd) : Prop
  | still (hstarted : next.started = crowd.started) (htaught : next.taught = crowd.taught)
      (hestimator : next.estimator = crowd.estimator)
  | spend (hstarted : next.started = crowd.started + 1) (htaught : next.taught = crowd.taught)
      (hburn : crowd.estimator.burnedIn < burnInReadings)
      (hestimator : next.estimator =
        { crowd.estimator with burnedIn := crowd.estimator.burnedIn + 1 })
  | learn (hstarted : next.started = crowd.started + 1) (dry : Float32)
      (htaught : next.taught.Perm (dry :: crowd.taught))
      (hburn : ¬crowd.estimator.burnedIn < burnInReadings)
      (hestimator : next.estimator =
        { crowd.estimator with
          ceiling := if crowd.estimator.ceiling < dry then dry else crowd.estimator.ceiling })

theorem turn_of_still {i : Nat} {call next : Call} (h : crowd.calls[i]? = some call)
    (hadvance : call.advance square crowd.estimator = (next, crowd.estimator))
    (hstarted : next.started = call.started) (htaught : next.taught? = call.taught?) :
    Turn crowd (crowd.step square i) := by
  obtain ⟨earlier, later, hcalls, hnext⟩ := @step_split square crowd i _ h
  rw [hadvance] at hnext
  refine .still ?_ ?_ ?_
  · rw [started_eq hnext, started_eq hcalls, hstarted]
  · rw [taught_eq hnext, taught_eq hcalls, htaught]
  · rw [step_of_call h, hadvance]

theorem turn_step (square : Float32 → Float32) (crowd : Crowd) (i : Nat) :
    Turn crowd (crowd.step square i) := by
  cases h : crowd.calls[i]? with
  | none =>
    rw [step, h]
    exact .still rfl rfl rfl
  | some call =>
    obtain ⟨reading, stage⟩ := call
    cases stage with
    | due =>
      obtain ⟨earlier, later, hcalls, hnext⟩ := @step_split square crowd i _ h
      have hestimator := congrArg Crowd.estimator (@step_of_call square crowd i _ h)
      by_cases hburn : crowd.estimator.burnedIn < burnInReadings
      · rw [Call.advance_spent hburn] at hnext hestimator
        refine .spend ?_ ?_ hburn hestimator
        · rw [started_eq hnext, started_eq hcalls]
          rfl
        · rw [taught_eq hnext, taught_eq hcalls]
          rfl
      · rw [Call.advance_absorbed hburn] at hnext hestimator
        refine .learn ?_ reading.dry ?_ hburn hestimator
        · rw [started_eq hnext, started_eq hcalls]
          rfl
        · rw [taught_eq hnext, taught_eq hcalls]
          exact List.perm_middle
    | spent => exact turn_of_still h rfl rfl rfl
    | absorbed => exact turn_of_still h Call.advance_graded rfl rfl
    | graded score => exact turn_of_still h rfl rfl rfl

/-- What the burn-in has had, and what the ceiling is then. -/
structure Sound (crowd : Crowd) : Prop where
  burnedIn : crowd.estimator.burnedIn = min burnInReadings crowd.started
  taught : min burnInReadings crowd.started + crowd.taught.length = crowd.started
  ceiling : Greatest crowd.taught crowd.estimator.ceiling

theorem Sound.turn {next : Crowd} (h : Sound crowd) (hturn : Turn crowd next) : Sound next := by
  obtain ⟨hburned, hlength, hceiling⟩ := h
  cases hturn with
  | still hstarted htaught hestimator =>
    refine ⟨?_, ?_, ?_⟩
    · rw [hestimator, hstarted, hburned]
    · rw [htaught, hstarted, hlength]
    · rw [htaught, hestimator]
      exact hceiling
  | spend hstarted htaught hburn hestimator =>
    refine ⟨?_, ?_, ?_⟩
    · rw [hestimator, hstarted]
      dsimp only
      omega
    · rw [htaught, hstarted]
      omega
    · rw [htaught, hestimator]
      exact hceiling
  | learn hstarted dry htaught hburn hestimator =>
    refine ⟨?_, ?_, ?_⟩
    · rw [hestimator, hstarted]
      dsimp only
      omega
    · rw [htaught.length_eq, hstarted, List.length_cons]
      omega
    · rw [hestimator]
      exact (hceiling.cons dry).congr fun _ => htaught.mem_iff

theorem Sound.ofReadings (readings : List Reading) : Sound (ofReadings readings) := by
  have hstarted : (Crowd.ofReadings readings).started = 0 := by
    rw [started, List.countP_eq_zero]
    intro call hcall
    obtain ⟨reading, -, rfl⟩ := List.mem_map.mp hcall
    exact Bool.false_ne_true
  have htaught : (Crowd.ofReadings readings).taught = [] := by
    rw [Crowd.taught, List.filterMap_eq_nil_iff]
    intro call hcall
    obtain ⟨reading, -, rfl⟩ := List.mem_map.mp hcall
    rfl
  refine ⟨?_, ?_, ?_⟩
  · rw [hstarted]
    rfl
  · rw [hstarted, htaught]
    rfl
  · rw [htaught]
    exact .nil

theorem Sound.after (schedule : List Nat) (h : Sound crowd) :
    Sound (crowd.after square schedule) := by
  induction schedule generalizing crowd with
  | nil => exact h
  | cons i schedule ih => exact ih (h.turn (turn_step square crowd i))

theorem Turn.taught_subset {next : Crowd} (h : Turn crowd next) :
    ∀ value ∈ crowd.taught, value ∈ next.taught := by
  intro value hvalue
  cases h with
  | still _ htaught _ => exact htaught ▸ hvalue
  | spend _ htaught _ _ => exact htaught ▸ hvalue
  | learn _ dry htaught _ _ => exact htaught.mem_iff.mpr (List.mem_cons_of_mem dry hvalue)

/-- What the estimator is like at some time, and what any of the calls gets from it next. -/
structure Orderly (square : Float32 → Float32) (crowd : Crowd) : Prop where
  /-- The first 25 calls to start get no score, and the ceiling stays where it began. -/
  spent : ∀ i reading, crowd.calls[i]? = some ⟨reading, .due⟩ → crowd.started < burnInReadings →
    (crowd.step square i).calls[i]?.bind Call.result? = some Estimator.unavailable ∧
      (crowd.step square i).estimator.ceiling = 0
  /-- All later ones are still to get theirs when they have started. -/
  absorbed : ∀ i reading, crowd.calls[i]? = some ⟨reading, .due⟩ → burnInReadings ≤ crowd.started →
    (crowd.step square i).calls[i]? = some ⟨reading, .absorbed⟩
  greatest : Greatest crowd.taught crowd.estimator.ceiling
  number : crowd.estimator.ceiling.isNaN = false
  rising : ∀ i, crowd.estimator.ceiling ≤ (crowd.step square i).estimator.ceiling
  graded : ∀ i reading, crowd.calls[i]? = some ⟨reading, .absorbed⟩ →
    (reading.dry.isNaN = false → reading.dry ≤ crowd.estimator.ceiling) ∧
    ∃ score, (crowd.step square i).calls[i]?.bind Call.result? = some score ∧
      score = Estimator.grade square reading.dry crowd.estimator.ceiling ∧
      0 ≤ score ∧ score ≤ 100

theorem Sound.burning_iff (h : Sound crowd) :
    crowd.estimator.burnedIn < burnInReadings ↔ crowd.started < burnInReadings := by
  rw [h.burnedIn]
  omega

theorem Sound.ceiling_eq_zero (h : Sound crowd) (hburn : crowd.started ≤ burnInReadings) :
    crowd.estimator.ceiling = 0 := by
  have hlength := h.taught
  have htaught : crowd.taught = [] := List.eq_nil_of_length_eq_zero (by omega)
  exact (htaught ▸ h.ceiling).eq_zero

theorem Sound.orderly (h : Sound crowd)
    (hsquare : ∀ share, (square share).isNaN = true ∨ 0 ≤ square share) :
    Orderly square crowd where
  spent i reading hcall hburn := by
    have hadvance := @Call.advance_spent square reading _ (h.burning_iff.mpr hburn)
    rw [getElem_step hcall, step_of_call hcall, hadvance]
    exact ⟨rfl, h.ceiling_eq_zero (Nat.le_of_lt hburn)⟩
  absorbed i reading hcall hburn := by
    have hcount := h.burning_iff.not.mpr (Nat.not_lt.mpr hburn)
    rw [getElem_step hcall, Call.advance_absorbed hcount]
  greatest := h.ceiling
  number := h.ceiling.number
  rising i := by
    have hturn := turn_step square crowd i
    exact h.ceiling.le_of_mem (h.turn hturn).ceiling hturn.taught_subset
  graded i reading hcall := by
    have hmem : reading.dry ∈ crowd.taught :=
      List.mem_filterMap.mpr ⟨_, List.mem_of_getElem? hcall, rfl⟩
    refine ⟨h.ceiling.upper _ hmem, _, ?_, rfl, Estimator.grade_bounds hsquare _ _⟩
    rw [getElem_step hcall, Call.advance_graded]
    rfl

/-- However the calls get in each other's way, the burn-in has the first 25 of them, and the
ceiling is the greatest value of the others, no matter in which order they came. -/
theorem scores_in_any_order {square : Float32 → Float32}
    (hsquare : ∀ share, (square share).isNaN = true ∨ 0 ≤ square share)
    (readings : List Reading) (schedule : List Nat) :
    Orderly square ((ofReadings readings).after square schedule) ∧
    ∀ readings' schedule',
      (∀ value, value ∈ ((ofReadings readings').after square schedule').taught ↔
        value ∈ ((ofReadings readings).after square schedule).taught) →
      ((ofReadings readings').after square schedule').estimator.ceiling =
        ((ofReadings readings).after square schedule).estimator.ceiling := by
  have hsound (readings : List Reading) (schedule : List Nat) :
      Sound ((ofReadings readings).after square schedule) :=
    (Sound.ofReadings readings).after schedule
  refine ⟨(hsound readings schedule).orderly hsquare, fun readings' schedule' hsame => ?_⟩
  exact (hsound readings' schedule').ceiling.unique
    ((hsound readings schedule).ceiling.congr hsame)

/-- A reading of clean air in a room. -/
def fresh : Reading := ⟨100000, 40, 22⟩

/-- One of 26 calls is yet to start. -/
def burntIn : Crowd :=
  (ofReadings (List.replicate 26 fresh)).after Estimator.square (List.range 25)

theorem scores_in_any_order_burntIn :
    (∀ share, (Estimator.square share).isNaN = true ∨ 0 ≤ Estimator.square share) ∧
    burntIn.calls[25]? = some ⟨fresh, .due⟩ ∧ burntIn.started = 25 ∧
    Orderly Estimator.square burntIn ∧
    (burntIn.step Estimator.square 25).calls[25]? = some ⟨fresh, .absorbed⟩ := by
  have horderly : Orderly Estimator.square burntIn :=
    (scores_in_any_order Single.mul_self_nonneg (List.replicate 26 fresh) (List.range 25)).1
  have hcall : burntIn.calls[25]? = some ⟨fresh, .due⟩ := rfl
  have hstarted : burntIn.started = 25 := by decide +kernel
  exact ⟨Single.mul_self_nonneg, hcall, hstarted, horderly,
    horderly.absorbed 25 fresh hcall (Nat.le_of_eq hstarted.symm)⟩

end Crowd

end AirMonitor
