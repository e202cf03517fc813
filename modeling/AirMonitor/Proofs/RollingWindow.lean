import AirMonitor.Proofs.SingleSums
import AirMonitor.RollingAverage
import Mathlib

namespace AirMonitor.RollingAverage

inductive Edit where
  | push (value : Float32)
  | popOldest

namespace Edit

def pushed? : Edit → Option Float32
  | .push value => some value
  | .popOldest => none

variable {capacity : Nat}

def apply : Edit → RollingAverage capacity → RollingAverage capacity
  | .push value, average => average.push value
  | .popOldest, average => average.popOldest.2

/-- The value that leaves the window: the one that is popped, or the oldest one if the window is
full when another one is pushed. -/
def leaver : Edit → RollingAverage capacity → Option Float32
  | .push _, average => if average.window.length = capacity then average.window.head? else none
  | .popOldest, average => average.popOldest.1

end Edit

variable {capacity : Nat}

def pushed (edits : List Edit) : List Float32 := edits.filterMap Edit.pushed?

def edited (edits : List Edit) (average : RollingAverage capacity) : RollingAverage capacity :=
  edits.foldl (fun average edit => edit.apply average) average

def leavers : List Edit → RollingAverage capacity → List Float32
  | [], _ => []
  | edit :: edits, average => (edit.leaver average).toList ++ leavers edits (edit.apply average)

/-- An edit takes a value in behind the others and lets one out before them. -/
theorem window_apply (hcapacity : 0 < capacity) (edit : Edit) (average : RollingAverage capacity) :
    average.window ++ edit.pushed?.toList =
      (edit.leaver average).toList ++ (edit.apply average).window := by
  cases edit with
  | push value =>
    change average.window ++ [value] = _ ++ (average.push value).window
    by_cases hfull : average.window.length = capacity
    · obtain ⟨oldest, rest, hwindow⟩ := List.exists_cons_of_length_pos (hfull ▸ hcapacity)
      rw [Edit.leaver, if_pos hfull, window_push_of_full _ _ hfull, hwindow]
      rfl
    · rw [Edit.leaver, if_neg hfull,
        window_push_of_lt _ _ (Nat.lt_of_le_of_ne average.length_le hfull)]
      rfl
  | popOldest =>
    change average.window ++ [] = average.popOldest.1.toList ++ average.popOldest.2.window
    rw [popOldest_fst, window_popOldest]
    cases average.window with
    | nil => rfl
    | cons oldest rest => exact List.append_nil _

/-- What was pushed has left in the same order or is still there. -/
theorem window_edited (hcapacity : 0 < capacity) (edits : List Edit)
    (average : RollingAverage capacity) :
    average.window ++ pushed edits = leavers edits average ++ (average.edited edits).window := by
  induction edits generalizing average with
  | nil => exact List.append_nil _
  | cons edit edits ih =>
    have hpushed : pushed (edit :: edits) = edit.pushed?.toList ++ pushed edits := by
      rw [pushed, List.filterMap_cons]
      cases edit.pushed? <;> rfl
    calc average.window ++ pushed (edit :: edits)
      _ = (edit.leaver average).toList ++ ((edit.apply average).window ++ pushed edits) := by
        rw [hpushed, ← List.append_assoc, window_apply hcapacity, List.append_assoc]
      _ = leavers (edit :: edits) average ++ (average.edited (edit :: edits)).window := by
        rw [ih, leavers, List.append_assoc]
        rfl

/-- What was not among the last values is not among them once more have come. -/
theorem rtake_append_rtake (n : Nat) (values more : List Float32) :
    (values.rtake n ++ more).rtake n = (values ++ more).rtake n := by
  simp only [List.rtake_eq_reverse_take_reverse, List.reverse_append, List.reverse_reverse,
    List.take_append, List.take_take, Nat.min_eq_left (Nat.sub_le _ _)]

theorem window_push (average : RollingAverage capacity) (value : Float32) :
    (average.push value).window = (average.window ++ [value]).rtake capacity := by
  rw [push, List.rtake, List.length_append, List.length_singleton]

theorem window_pushes (values : List Float32) (average : RollingAverage capacity) :
    (values.foldl push average).window = (average.window ++ values).rtake capacity := by
  induction values generalizing average with
  | nil =>
    have hle := average.length_le
    rw [List.foldl_nil, List.append_nil, List.rtake, Nat.sub_eq_zero_of_le hle, List.drop_zero]
  | cons value values ih =>
    rw [List.foldl_cons, ih, window_push, rtake_append_rtake, List.append_assoc,
      List.singleton_append]

theorem window_pushes_of_le {values : List Float32} (h : capacity ≤ values.length)
    (average : RollingAverage capacity) :
    (values.foldl push average).window = values.rtake capacity := by
  rw [window_pushes, List.rtake_eq_reverse_take_reverse, List.rtake_eq_reverse_take_reverse,
    List.reverse_append, List.take_append_of_le_length (by rwa [List.length_reverse])]

/-- The sum may as well start from the first value. -/
theorem mean_of_cons {average : RollingAverage capacity} {first : Float32} {rest : List Float32}
    (h : average.window = first :: rest) :
    average.mean = rest.foldl (· + ·) first / Float32.ofNat (rest.length + 1) := by
  rw [mean, h, List.foldl_cons, Single.neg_zero_add]
  rfl

end AirMonitor.RollingAverage
