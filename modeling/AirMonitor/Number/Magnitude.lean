namespace AirMonitor

structure Magnitude where
  num : Nat
  den : Nat
  den_pos : 0 < den

namespace Magnitude

def ofNat (n : Nat) : Magnitude := ⟨n, 1, Nat.one_pos⟩

theorem shiftLeft_one_pos (n : Nat) : 0 < 1 <<< n := by
  rw [Nat.shiftLeft_eq, Nat.one_mul]
  exact Nat.two_pow_pos n

def scaled (n : Nat) (exponent : Int) : Magnitude where
  num := n <<< exponent.toNat
  den := 1 <<< (-exponent).toNat
  den_pos := shiftLeft_one_pos _

theorem ten_pow_pos (n : Nat) : 0 < Nat.pow 10 n := Nat.pow_pos (by decide)

/-- Moves the decimal point to the right, or to the left if `places` is negative. -/
def shift (x : Magnitude) (places : Int) : Magnitude where
  num := x.num * Nat.pow 10 places.toNat
  den := x.den * Nat.pow 10 (-places).toNat
  den_pos := Nat.mul_pos x.den_pos (ten_pow_pos _)

def floor (x : Magnitude) : Nat := x.num / x.den

def doubledRest (x : Magnitude) : Nat := 2 * (x.num % x.den)

/-- The nearest natural number; of two that are equally near, the even one. -/
def round (x : Magnitude) : Nat :=
  if x.doubledRest < x.den ∨ (x.doubledRest = x.den ∧ x.floor % 2 = 0) then x.floor
  else x.floor + 1

theorem floor_le_round (x : Magnitude) : x.floor ≤ x.round := by
  simp only [round]
  split <;> omega

theorem round_le_floor_succ (x : Magnitude) : x.round ≤ x.floor + 1 := by
  simp only [round]
  split <;> omega

/-- The power of ten below a positive magnitude that is at least `10 ^ -60`. -/
def decimalExponent (x : Magnitude) : Int := (toString (x.shift 60).floor).length - 61

end Magnitude

end AirMonitor
