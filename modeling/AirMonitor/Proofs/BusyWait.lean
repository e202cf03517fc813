import AirMonitor.Bus.Clock
import Mathlib

/-!
A busy wait only sees time modulo the range of the counter. It is compared with the time that truly
passes, which is the plain sum of the advances.
-/

namespace AirMonitor.Clock

def after (clock : Clock) : Nat → Clock
  | 0 => clock
  | n + 1 => (clock.after n).read.2

/-- The time that truly passes from the next reading of the clock to the one so many later. -/
def elapsed (clock : Clock) : Nat → Nat
  | 0 => 0
  | n + 1 => clock.elapsed n + (clock.advance (clock.reads + n)).toNat

/-- A wait is over at the first reading at which its period has truly passed. -/
structure Due (clock : Clock) (period : UInt32) (stop : Nat) : Prop where
  reached : period.toNat ≤ clock.elapsed stop
  first : ∀ n < stop, clock.elapsed n < period.toNat

def waitAll? (periods : List UInt32) (clock : Clock) : Option Clock :=
  periods.foldlM (fun clock period => clock.wait? period) clock

theorem waitAll?_cons (clock : Clock) (period : UInt32) (periods : List UInt32) :
    clock.waitAll? (period :: periods) =
      (clock.wait? period).bind fun ended => ended.waitAll? periods :=
  List.foldlM_cons

theorem waitAll?_append (clock : Clock) (earlier later : List UInt32) :
    clock.waitAll? (earlier ++ later) =
      (clock.waitAll? earlier).bind fun ended => ended.waitAll? later :=
  List.foldlM_append

theorem after_eq (clock : Clock) (n : Nat) : clock.after n =
    { clock with now := clock.now + UInt32.ofNat (clock.elapsed n), reads := clock.reads + n } := by
  induction n with
  | zero => simp [after, elapsed]
  | succ n ih =>
    rw [after, ih, read, elapsed, UInt32.ofNat_add, UInt32.ofNat_toNat, UInt32.add_assoc]
    rfl

/-- The clock shows no more of its jumps than there was. -/
theorem elapsed_le_sum {clock : Clock} {jumps : Nat → Nat}
    (h : ∀ n, clock.advance n = UInt32.ofNat (jumps n)) (n : Nat) :
    clock.elapsed n ≤ ((List.range n).map fun k => jumps (clock.reads + k)).sum := by
  induction n with
  | zero => exact Nat.le_refl 0
  | succ n ih =>
    rw [elapsed, List.range_succ, List.map_append, List.sum_append, List.map_singleton,
      List.sum_singleton, h, UInt32.toNat_ofNat']
    exact Nat.add_le_add ih (Nat.mod_le _ _)

theorem after_after (clock : Clock) (m n : Nat) :
    (clock.after m).after n = clock.after (m + n) := by
  induction n with
  | zero => rfl
  | succ n ih => rw [after, ih, ← Nat.add_assoc, after]

theorem exists_due {clock : Clock} {period : UInt32} {n : Nat}
    (h : period.toNat ≤ clock.elapsed n) : ∃ stop ≤ n, clock.Due period stop := by
  have hreached : ∃ n, period.toNat ≤ clock.elapsed n := ⟨n, h⟩
  refine ⟨Nat.find hreached, Nat.find_min' hreached h, Nat.find_spec hreached, ?_⟩
  intro m hm
  exact Nat.not_le.1 (Nat.find_min hreached hm)

variable {clock : Clock} {period : UInt32}

/-- The counter shows the time that has passed since an earlier reading modulo its range. -/
theorem read_after_sub (clock : Clock) (n : Nat) :
    (clock.after n).read.1 - clock.now = UInt32.ofNat (clock.elapsed n) := by
  rw [read, after_eq, UInt32.add_comm, UInt32.add_sub_cancel]

theorem awaitSince_after (n : Nat) : awaitSince clock.now period (clock.after n) =
    if UInt32.ofNat (clock.elapsed n) < period then
      awaitSince clock.now period (clock.after (n + 1))
    else some (clock.after (n + 1)) := by
  rw [awaitSince, read_after_sub]
  rfl

theorem not_due_zero (hperiod : 0 < period) (h : clock.Due period 0) : False := by
  have hreached := h.reached
  have hpos : 0 < period.toNat := hperiod
  rw [elapsed] at hreached
  omega

/-- The jump over the end of the period does not lead once around the counter. -/
theorem elapsed_lt_of_due {stop : Nat} (hperiod : 0 < period) (hdue : clock.Due period stop)
    (hadvance : ∀ n < stop, (clock.advance (clock.reads + n)).toNat ≤ 2 ^ 32 - period.toNat) :
    clock.elapsed stop < 2 ^ 32 := by
  cases stop with
  | zero => exact (not_due_zero hperiod hdue).elim
  | succ stop =>
    have hbefore := hdue.first stop (Nat.lt_succ_self stop)
    have hjump := hadvance stop (Nat.lt_succ_self stop)
    have hlt := period.toNat_lt
    rw [elapsed]
    omega

theorem awaitSince_of_due {stop n : Nat} (hdue : clock.Due period stop)
    (hlt : clock.elapsed stop < 2 ^ 32) (hn : n ≤ stop) :
    awaitSince clock.now period (clock.after n) = some (clock.after (stop + 1)) := by
  -- On the readings that are left: before `stop` the difference is the time itself, which is short.
  induction h : stop - n generalizing n with
  | zero =>
    obtain rfl : n = stop := by omega
    rw [awaitSince_after, if_neg]
    rw [UInt32.not_lt, UInt32.le_iff_toNat_le, UInt32.toNat_ofNat_of_lt' hlt]
    exact hdue.reached
  | succ left ih =>
    have hbefore := hdue.first n (by omega)
    rw [awaitSince_after, if_pos]
    · exact ih (by omega) (by omega)
    · have hfit : clock.elapsed n < UInt32.size := Nat.lt_trans hbefore period.toNat_lt
      rwa [UInt32.lt_iff_toNat_lt, UInt32.toNat_ofNat_of_lt' hfit]

theorem awaitSince_reached {n : Nat} {ended : Clock}
    (h : awaitSince clock.now period (clock.after n) = some ended) :
    ∃ stop, ended = clock.after (stop + 1) ∧ period.toNat ≤ clock.elapsed stop := by
  -- By induction on what the wait computes: from any later reading it ends at a late enough one.
  refine awaitSince.partial_correctness clock.now period
    (fun start ended => ∀ n, start = clock.after n →
      ∃ stop, ended = clock.after (stop + 1) ∧ period.toNat ≤ clock.elapsed stop)
    ?_ _ _ h n rfl
  rintro await ih _ ended h n rfl
  simp only [read_after_sub] at h
  split at h
  · exact ih _ _ h (n + 1) rfl
  · next hle =>
    refine ⟨n, (Option.some.inj h).symm, ?_⟩
    rw [UInt32.not_lt, UInt32.le_iff_toNat_le, UInt32.toNat_ofNat'] at hle
    exact Nat.le_trans hle (Nat.mod_le _ _)

theorem wait?_of_due {stop : Nat} (hperiod : 0 < period) (hdue : clock.Due period stop)
    (hadvance : ∀ n < stop, (clock.advance (clock.reads + n)).toNat ≤ 2 ^ 32 - period.toNat) :
    clock.wait? period = some (clock.after (stop + 1)) := by
  have hlt := elapsed_lt_of_due hperiod hdue hadvance
  have hstop : 1 ≤ stop := by
    cases stop with
    | zero => exact (not_due_zero hperiod hdue).elim
    | succ stop => exact Nat.le_add_left 1 stop
  rw [wait?, if_neg (UInt32.pos_iff_ne_zero.1 hperiod)]
  exact awaitSince_of_due hdue hlt hstop

theorem wait?_reached {ended : Clock} (hperiod : 0 < period) (h : clock.wait? period = some ended) :
    ∃ stop, ended = clock.after (stop + 1) ∧ period.toNat ≤ clock.elapsed stop := by
  rw [wait?, if_neg (UInt32.pos_iff_ne_zero.1 hperiod)] at h
  exact @awaitSince_reached clock period 1 ended h

/-- Waits only ever read the clock. -/
theorem waitAll?_after {periods : List UInt32} {ended : Clock}
    (h : clock.waitAll? periods = some ended) : ∃ n, ended = clock.after n := by
  induction periods generalizing clock with
  | nil => exact ⟨0, (Option.some.inj h).symm⟩
  | cons period periods ih =>
    rw [waitAll?_cons] at h
    obtain ⟨next, hnext, hrest⟩ := Option.bind_eq_some_iff.1 h
    obtain ⟨n, rfl⟩ := ih hrest
    by_cases hperiod : period = 0
    · rw [wait?, if_pos hperiod] at hnext
      exact ⟨n, by rw [Option.some.inj hnext]⟩
    · obtain ⟨stop, rfl, -⟩ := wait?_reached (UInt32.pos_iff_ne_zero.2 hperiod) hnext
      exact ⟨stop + 1 + n, after_after clock (stop + 1) n⟩

/-- Each of a list of waits, wherever the counter stands when its turn comes: one for nothing reads
no clock; any other is over at the reading at which its period has truly passed since its own first
reading, if the time comes and the clock does not jump too far on the way; and none is ever over
before, however far the clock jumps, be it more than once around its range. -/
theorem waits_on_time {before : Clock} {earlier : List UInt32}
    (h : clock.waitAll? earlier = some before) (period : UInt32) (later : List UInt32) :
    clock.waitAll? (earlier ++ period :: later) =
      ((before.wait? period).bind fun ended => ended.waitAll? later) ∧
    (∃ n, before = clock.after n) ∧
    (period = 0 → before.wait? period = some before) ∧
    (0 < period →
      (∀ n, period.toNat ≤ before.elapsed n →
        (∀ m < n, (before.advance (before.reads + m)).toNat ≤ 2 ^ 32 - period.toNat) →
        ∃ stop ≤ n, before.Due period stop ∧
          before.wait? period = some (before.after (stop + 1))) ∧
      ∀ ended, before.wait? period = some ended →
        ∃ stop, ended = before.after (stop + 1) ∧ period.toNat ≤ before.elapsed stop ∧
          ∀ jumps : Nat → Nat, (∀ n, clock.advance n = UInt32.ofNat (jumps n)) →
            period.toNat ≤ ((List.range stop).map fun n => jumps (before.reads + n)).sum) := by
  refine ⟨?_, waitAll?_after h, fun hzero => if_pos hzero, fun hperiod => ⟨?_, ?_⟩⟩
  · rw [waitAll?_append, h, Option.bind_some, waitAll?_cons]
  · intro n hreached hadvance
    obtain ⟨stop, hstop, hdue⟩ := exists_due hreached
    refine ⟨stop, hstop, hdue, wait?_of_due hperiod hdue ?_⟩
    exact fun m hm => hadvance m (Nat.lt_of_lt_of_le hm hstop)
  · intro ended hended
    obtain ⟨stop, hstop, hreached⟩ := wait?_reached hperiod hended
    refine ⟨stop, hstop, hreached, fun jumps hjumps => Nat.le_trans hreached ?_⟩
    obtain ⟨n, rfl⟩ := waitAll?_after h
    apply elapsed_le_sum
    rw [after_eq]
    exact hjumps

/-- A clock that jumps by almost half its range, close to its end. -/
def leaping : Clock where
  now := 0xFFFFFFF0
  advance _ := 0x7FFFFFFF

/-- The longest period that this clock is steady enough for. -/
theorem waits_on_time_leaping :
    leaping.waitAll? [0, 20] = some (leaping.after 2) ∧
    (leaping.after 2).Due 0x80000001 2 ∧
    (leaping.after 2).wait? 0x80000001 = some (leaping.after 5) ∧
    (leaping.after 2).now < leaping.now := by
  have htwenty : leaping.wait? 20 = some (leaping.after 2) :=
    wait?_of_due (by decide) ⟨by decide, by decide⟩ (by decide)
  have hpast : leaping.waitAll? [0, 20] = some (leaping.after 2) := by
    rw [waitAll?_cons, wait?, if_pos rfl, Option.bind_some, waitAll?_cons, htwenty]
    rfl
  have hshort : ∀ n < 2, (leaping.after 2).elapsed n < (0x80000001 : UInt32).toNat := by decide
  obtain ⟨-, -, -, hwait⟩ := waits_on_time hpast 0x80000001 []
  obtain ⟨stop, hstop, hdue, hran⟩ := (hwait (by decide)).1 2 (by decide) (by decide)
  obtain rfl : stop = 2 := by
    apply Nat.le_antisymm hstop
    exact Nat.not_lt.1 fun hlt => Nat.not_le.2 (hshort stop hlt) hdue.reached
  exact ⟨hpast, hdue, hran, by decide⟩

end AirMonitor.Clock
