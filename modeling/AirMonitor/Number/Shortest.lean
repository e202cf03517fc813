import AirMonitor.Number.Text

namespace AirMonitor

structure Interval where
  low : Magnitude
  high : Magnitude
  closed : Bool

namespace Interval

/-- The magnitudes that read back as one number: half a step to either side, where the step below a
power of two is half as long. The ends go to the even mantissa. -/
def around (mantissa : Nat) (exponent : Int) : Interval where
  low :=
    let isPower := mantissa = Parts.smallestNormal ∧ Parts.lowestExponent < exponent
    .scaled (4 * mantissa - if isPower then 1 else 2) (exponent - 2)
  high := .scaled (4 * mantissa + 2) (exponent - 2)
  closed := mantissa % 2 = 0

def contains (interval : Interval) (x : Magnitude) : Bool :=
  let low := interval.low
  let high := interval.high
  if interval.closed then
    low.num * x.den ≤ x.num * low.den && x.num * high.den ≤ high.num * x.den
  else low.num * x.den < x.num * low.den && x.num * high.den < high.num * x.den

/-- The multiple of `10 ^ -places` in the interval that is nearest to `x`, if one is there; of two
that are equally near, the larger one. -/
def nearestMultiple? (interval : Interval) (x : Magnitude) (places : Int) : Option Nat :=
  let scaled := x.shift places
  let down := scaled.floor
  let hits (n : Nat) : Bool := interval.contains ((Magnitude.ofNat n).shift (-places))
  if hits down && (scaled.doubledRest < scaled.den || !hits (down + 1)) then some down
  else if hits (down + 1) then some (down + 1)
  else none

end Interval

/-- The fewest digits that read back as the same number, with the number of places after the
point. Nine digits are always enough. -/
def shortestDigits (mantissa : Nat) (exponent : Int) : Nat × Int :=
  let value := Magnitude.scaled mantissa exponent
  let interval := Interval.around mantissa exponent
  let e := value.decimalExponent
  let hit? := (List.range 9).findSome? fun (k : Nat) =>
    (interval.nearestMultiple? value (k - e)).map fun n => (n, (k : Int) - e)
  hit?.getD (value.floor, 0)

def trimFraction (text : String) : String :=
  match text.toList.reverse.dropWhile (· = '0') with
  | '.' :: whole => String.ofList whole.reverse
  | kept => String.ofList kept.reverse

def shortest (x : Float32) : String :=
  match partsOf x with
  | .finite negative 0 _ => signText negative ++ "0"
  | .finite negative mantissa exponent =>
    let (n, places) := shortestDigits mantissa exponent
    signText negative ++
      if places ≤ 0 then toString (n * Nat.pow 10 (-places).toNat)
      else trimFraction (positional n places.toNat)
  | other => notFiniteText other

end AirMonitor
