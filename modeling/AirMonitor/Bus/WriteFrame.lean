namespace AirMonitor

structure WriteFrame where
  register : UInt8
  data : List UInt8
  deriving DecidableEq, Repr

def interleave : List (UInt8 × UInt8) → List UInt8
  | [] => []
  | (register, value) :: pairs => register :: value :: interleave pairs

/-- Takes bytes two by two; an odd byte left over is dropped. -/
def pairUp : List UInt8 → List (UInt8 × UInt8)
  | register :: value :: rest => (register, value) :: pairUp rest
  | _ => []

@[simp] theorem pairUp_interleave (pairs : List (UInt8 × UInt8)) :
    pairUp (interleave pairs) = pairs := by
  induction pairs with
  | nil => rfl
  | cons pair pairs ih => simp [interleave, pairUp, ih]

@[simp] theorem length_interleave (pairs : List (UInt8 × UInt8)) :
    (interleave pairs).length = 2 * pairs.length := by
  induction pairs with
  | nil => rfl
  | cons pair pairs ih => simp [interleave, ih]; omega

def WriteFrame.ofPairs? : List (UInt8 × UInt8) → Option WriteFrame
  | [] => none
  | (register, value) :: pairs => some ⟨register, value :: interleave pairs⟩

/-- The writes a peripheral takes from a frame: the first byte goes to the first register, and
the rest is (register, value) pairs. -/
def WriteFrame.pairs (frame : WriteFrame) : List (UInt8 × UInt8) :=
  match frame.data with
  | [] => []
  | value :: rest => (frame.register, value) :: pairUp rest

theorem WriteFrame.pairs_of_ofPairs? {pairs : List (UInt8 × UInt8)} {frame : WriteFrame}
    (h : ofPairs? pairs = some frame) : frame.pairs = pairs := by
  cases pairs with
  | nil => simp [ofPairs?] at h
  | cons pair rest =>
    simp only [ofPairs?, Option.some.injEq] at h
    subst h
    simp [WriteFrame.pairs]

end AirMonitor
