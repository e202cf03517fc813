namespace AirMonitor

/-- The last values of a series, oldest first. -/
structure RollingAverage (capacity : Nat) where
  window : List Float32 := []
  length_le : window.length ≤ capacity := by simp

namespace RollingAverage

variable {capacity : Nat}

def empty : RollingAverage capacity := {}

def push (average : RollingAverage capacity) (value : Float32) : RollingAverage capacity where
  window := (average.window ++ [value]).drop (average.window.length + 1 - capacity)
  length_le := by
    rw [List.length_drop, List.length_append, List.length_singleton]
    omega

theorem window_push_of_lt (average : RollingAverage capacity) (value : Float32)
    (h : average.window.length < capacity) :
    (average.push value).window = average.window ++ [value] := by
  have h : average.window.length + 1 - capacity = 0 := by omega
  simp only [push, h, List.drop_zero]

theorem window_push_of_full (average : RollingAverage capacity) (value : Float32)
    (h : average.window.length = capacity) :
    (average.push value).window = (average.window ++ [value]).drop 1 := by
  have h : average.window.length + 1 - capacity = 1 := by omega
  simp only [push, h]

def popOldest (average : RollingAverage capacity) : Option Float32 × RollingAverage capacity :=
  match h : average.window with
  | [] => (none, average)
  | oldest :: rest =>
    (some oldest, ⟨rest, by
      have := average.length_le
      simp only [h, List.length_cons] at this
      omega⟩)

theorem window_popOldest (average : RollingAverage capacity) :
    average.popOldest.2.window = average.window.tail := by
  obtain ⟨window, h⟩ := average
  cases window <;> rfl

theorem popOldest_fst (average : RollingAverage capacity) :
    average.popOldest.1 = average.window.head? := by
  obtain ⟨window, h⟩ := average
  cases window <;> rfl

/-- The mean, 0 for an empty window. The sum starts from `-0.0`, the neutral element of addition. -/
def mean (average : RollingAverage capacity) : Float32 :=
  if average.window.isEmpty then 0
  else average.window.foldl (· + ·) (-0.0) / Float32.ofNat average.window.length

end RollingAverage

end AirMonitor
