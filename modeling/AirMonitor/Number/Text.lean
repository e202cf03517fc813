import AirMonitor.Number.Magnitude
import AirMonitor.Number.Single

namespace AirMonitor

def positional (n places : Nat) : String :=
  if places = 0 then toString n
  else
    let unit := Nat.pow 10 places
    let fraction := toString (n % unit)
    toString (n / unit) ++ "." ++
      String.ofList (List.replicate (places - fraction.length) '0') ++ fraction

def signText (negative : Bool) : String := if negative then "-" else ""

def notFiniteText : Parts → String
  | .infinite negative => signText negative ++ "inf"
  | _ => "NaN"

/-- A fixed number of decimal places, ties to even. -/
def fixedPlaces (places : Nat) (x : Float32) : String :=
  match partsOf x with
  | .finite negative mantissa exponent =>
    signText negative ++ positional ((Magnitude.scaled mantissa exponent).shift places).round places
  | other => notFiniteText other

/-- One digit before the point and a fixed number of places after it, times a power of ten; ties
to even. -/
def scientific (places : Nat) (x : Float32) : String :=
  match partsOf x with
  | .finite negative 0 _ => signText negative ++ positional 0 places ++ "e0"
  | .finite negative mantissa exponent =>
    let value := Magnitude.scaled mantissa exponent
    let e := value.decimalExponent
    let n := (value.shift (places - e)).round
    let (n, e) := if n = Nat.pow 10 (places + 1) then (Nat.pow 10 places, e + 1) else (n, e)
    signText negative ++ positional n places ++ "e" ++ toString e
  | other => notFiniteText other

end AirMonitor
