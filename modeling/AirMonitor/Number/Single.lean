namespace AirMonitor

/-- A single-precision number taken apart; a finite one is `mantissa * 2 ^ exponent`. -/
inductive Parts where
  | nan
  | infinite (negative : Bool)
  | finite (negative : Bool) (mantissa : Nat) (exponent : Int)
  deriving DecidableEq

def Parts.smallestNormal : Nat := 0x800000

def Parts.lowestExponent : Int := -149

def partsOf (x : Float32) : Parts :=
  let bits := x.toBits
  let negative := bits >>> 31 != 0
  let biased := ((bits >>> 23) &&& 0xFF).toNat
  let fraction := (bits &&& 0x7FFFFF).toNat
  if biased = 255 then if fraction = 0 then .infinite negative else .nan
  else if biased = 0 then .finite negative fraction Parts.lowestExponent
  else .finite negative (Parts.smallestNormal + fraction) (Parts.lowestExponent + biased - 1)

end AirMonitor
