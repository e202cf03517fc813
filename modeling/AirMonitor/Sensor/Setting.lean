namespace AirMonitor

/-- How many conversions a channel averages; `skip` leaves the channel out. -/
inductive Oversampling where
  | skip
  | x1
  | x2
  | x4
  | x8
  | x16
  deriving DecidableEq, Repr

def Oversampling.bits : Oversampling → UInt8
  | .skip => 0
  | .x1 => 1
  | .x2 => 2
  | .x4 => 3
  | .x8 => 4
  | .x16 => 5

/-- Codes 6 and 7 are further spellings of `x16`; a code wider than the field is `skip`. -/
def Oversampling.ofBits : UInt8 → Oversampling
  | 1 => .x1
  | 2 => .x2
  | 3 => .x4
  | 4 => .x8
  | 5 => .x16
  | 6 => .x16
  | 7 => .x16
  | _ => .skip

@[simp] theorem Oversampling.ofBits_bits (o : Oversampling) : ofBits o.bits = o := by
  cases o <;> rfl

def Oversampling.cycles : Oversampling → Nat
  | .skip => 0
  | .x1 => 1
  | .x2 => 2
  | .x4 => 4
  | .x8 => 8
  | .x16 => 16

theorem Oversampling.cycles_le (o : Oversampling) : o.cycles ≤ 16 := by
  cases o <;> decide

inductive Filter where
  | off
  | size1
  | size3
  | size7
  | size15
  | size31
  | size63
  | size127
  deriving DecidableEq, Repr

def Filter.bits : Filter → UInt8
  | .off => 0
  | .size1 => 1
  | .size3 => 2
  | .size7 => 3
  | .size15 => 4
  | .size31 => 5
  | .size63 => 6
  | .size127 => 7

def Filter.ofBits (code : UInt8) : Filter :=
  match code &&& 0x07 with
  | 1 => .size1
  | 2 => .size3
  | 3 => .size7
  | 4 => .size15
  | 5 => .size31
  | 6 => .size63
  | 7 => .size127
  | _ => .off

@[simp] theorem Filter.ofBits_bits (f : Filter) : ofBits f.bits = f := by
  cases f <;> rfl

/-- Standby time between the cycles of sequential mode; `none` runs them back to back. -/
inductive Standby where
  | ms0_59
  | ms62_5
  | ms125
  | ms250
  | ms500
  | ms1000
  | ms10
  | ms20
  | none
  deriving DecidableEq, Repr

def Standby.bits : Standby → UInt8
  | .ms0_59 => 0
  | .ms62_5 => 1
  | .ms125 => 2
  | .ms250 => 3
  | .ms500 => 4
  | .ms1000 => 5
  | .ms10 => 6
  | .ms20 => 7
  | .none => 8

def Standby.ofBits : UInt8 → Standby
  | 0 => .ms0_59
  | 1 => .ms62_5
  | 2 => .ms125
  | 3 => .ms250
  | 4 => .ms500
  | 5 => .ms1000
  | 6 => .ms10
  | 7 => .ms20
  | _ => .none

@[simp] theorem Standby.ofBits_bits (s : Standby) : ofBits s.bits = s := by
  cases s <;> rfl

inductive Mode where
  | sleep
  | forced
  | parallel
  | sequential
  deriving DecidableEq, Repr

def Mode.bits : Mode → UInt8
  | .sleep => 0
  | .forced => 1
  | .parallel => 2
  | .sequential => 3

def Mode.ofBits (code : UInt8) : Mode :=
  match code &&& 0x03 with
  | 1 => .forced
  | 2 => .parallel
  | 3 => .sequential
  | _ => .sleep

@[simp] theorem Mode.ofBits_bits (m : Mode) : ofBits m.bits = m := by
  cases m <;> rfl

end AirMonitor
