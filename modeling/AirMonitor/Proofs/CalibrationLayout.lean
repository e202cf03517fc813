import AirMonitor.Proofs.ByteParts
import AirMonitor.Proofs.Connection
import AirMonitor.Proofs.Lasting

/-!
Where a chip keeps its coefficients. Whatever record is stored there, a driver knows it once it has
connected, and nothing else on the chip makes a difference to what it knows.
-/

namespace AirMonitor

namespace Register

/-- In register 0x02. -/
def heatRange : BitField := ⟨0x30, 4⟩

/-- In register 0x04. -/
def rangeError : BitField := ⟨0xF0, 4⟩

theorem heatRange_get_set (byte : UInt8) {value : UInt8} (h : value ≤ 3) :
    heatRange.get (heatRange.set byte value) = value := by
  have hall : ∀ value : UInt8, value ≤ 3 → ((value <<< 4) &&& 0x30) >>> 4 = value :=
    forall_byte (by decide +kernel)
  rw [BitField.get_set]
  exact hall value h

theorem heatRange_get_le : ∀ byte, heatRange.get byte ≤ 3 := forall_byte (by decide +kernel)

theorem rangeError_set (byte : UInt8) {value : Int8} (hlow : -8 ≤ value) (hhigh : value ≤ 7) :
    (rangeError.set byte value.toUInt8 &&& 0xF0).toInt8 / 16 = value := by
  have hall : ∀ code : UInt8, -8 ≤ code.toInt8 → code.toInt8 ≤ 7 →
      ((code <<< 4) &&& 0xF0).toInt8 / 16 = code.toInt8 := forall_byte (by decide +kernel)
  change (rangeError.set byte value.toUInt8 &&& rangeError.mask).toInt8 / 16 = value
  rw [BitField.set_inside]
  exact hall value.toUInt8 hlow hhigh

theorem signedHalf_range : ∀ byte : UInt8,
    -8 ≤ (byte &&& 0xF0).toInt8 / 16 ∧ (byte &&& 0xF0).toInt8 / 16 ≤ 7 :=
  forall_byte (by decide +kernel)

end Register

namespace Calibration

/-- Every byte of a record at its address. Around the heat range and the range error there are bits
that mean nothing, which stay as they are. -/
def pairs (c : Calibration) (file : RegisterFile) : List (UInt8 × UInt8) :=
  [(0x8A, lowByte c.t2.toUInt16), (0x8B, highByte c.t2.toUInt16), (0x8C, c.t3.toUInt8),
    (0x8E, lowByte c.p1), (0x8F, highByte c.p1),
    (0x90, lowByte c.p2.toUInt16), (0x91, highByte c.p2.toUInt16), (0x92, c.p3.toUInt8),
    (0x94, lowByte c.p4.toUInt16), (0x95, highByte c.p4.toUInt16),
    (0x96, lowByte c.p5.toUInt16), (0x97, highByte c.p5.toUInt16),
    (0x98, c.p7.toUInt8), (0x99, c.p6.toUInt8),
    (0x9C, lowByte c.p8.toUInt16), (0x9D, highByte c.p8.toUInt16),
    (0x9E, lowByte c.p9.toUInt16), (0x9F, highByte c.p9.toUInt16), (0xA0, c.p10),
    (0xE1, topByte c.h2), (0xE2, halves (lowByte c.h2) (lowByte c.h1)), (0xE3, topByte c.h1),
    (0xE4, c.h3.toUInt8), (0xE5, c.h4.toUInt8), (0xE6, c.h5.toUInt8), (0xE7, c.h6),
    (0xE8, c.h7.toUInt8), (0xE9, lowByte c.t1), (0xEA, highByte c.t1),
    (0xEB, lowByte c.gh2.toUInt16), (0xEC, highByte c.gh2.toUInt16),
    (0xED, c.gh1.toUInt8), (0xEE, c.gh3.toUInt8),
    (0x00, c.heatValue.toUInt8),
    (0x02, Register.heatRange.set (file.get 0x02) c.heatRange),
    (0x04, Register.rangeError.set (file.get 0x04) c.rangeError.toUInt8)]

def addresses : List UInt8 := (pairs {} .zero).map Prod.fst

def storedIn (c : Calibration) (file : RegisterFile) : RegisterFile :=
  file.setPairs (c.pairs file)

/-- What the registers have room for. -/
structure InRange (c : Calibration) : Prop where
  h1 : c.h1 < 4096
  h2 : c.h2 < 4096
  heatRange : c.heatRange ≤ 3
  rangeErrorLow : -8 ≤ c.rangeError
  rangeErrorHigh : c.rangeError ≤ 7

theorem ofDump_inRange (dump : CoefficientDump) : (ofDump dump).InRange where
  h1 := join_lt (by rw [toNat_lowHalf]; omega)
  h2 := join_lt (by rw [toNat_highHalf]; have := (dump.at 0xE2).toNat_lt; omega)
  heatRange := Register.heatRange_get_le _
  rangeErrorLow := (Register.signedHalf_range _).1
  rangeErrorHigh := (Register.signedHalf_range _).2

end Calibration

/-- The bits that coefficients are stored in. -/
def RegisterBits.calibration : RegisterBits := fun address =>
  if address = 0x02 then Register.heatRange.mask
  else if address = 0x04 then Register.rangeError.mask
  else if address ∈ Calibration.addresses then 0xFF
  else 0

namespace RegisterFile

def calibration (file : RegisterFile) : Calibration := .ofDump file.coefficients

theorem block_getD (file : RegisterFile) (register address : UInt8) (length : Nat) (d : UInt8) :
    (file.block register length)[(address - register).toNat]?.getD d =
      if (address - register).toNat < length then file.get address else d := by
  split
  · next h =>
    rw [Vector.getElem?_eq_getElem h, Option.getD_some, block, Vector.getElem_ofFn,
      UInt8.ofNat_toNat, UInt8.add_comm, UInt8.sub_add_cancel]
  · next h => rw [Vector.getElem?_eq_none (Nat.not_lt.1 h), Option.getD_none]

/-- The registers of the three blocks. -/
def InCoefficients (address : UInt8) : Prop :=
  (address - Register.coefficients1).toNat < 23 ∨ (address - Register.coefficients2).toNat < 14 ∨
    (address - Register.coefficients3).toNat < 5

instance (address : UInt8) : Decidable (InCoefficients address) :=
  inferInstanceAs (Decidable (_ ∨ _ ∨ _))

theorem coefficients_at (file : RegisterFile) {address : UInt8} (h : InCoefficients address) :
    file.coefficients.at address = file.get address := by
  rw [CoefficientDump.at, coefficients, block_getD, block_getD, block_getD]
  split
  · rfl
  · next hfirst =>
    split
    · rfl
    · next hsecond => exact if_pos ((h.resolve_left hfirst).resolve_left hsecond)

theorem get_storedIn {c : Calibration} {file : RegisterFile} :
    ∀ pair ∈ c.pairs file, (c.storedIn file).get pair.1 = pair.2 := by
  have hdistinct : ((c.pairs file).map Prod.fst).Nodup := by
    change Calibration.addresses.Nodup
    decide
  intro pair hpair
  exact get_setPairs_inside hdistinct hpair file

theorem calibration_storedIn {c : Calibration} (h : c.InRange) (file : RegisterFile) :
    (c.storedIn file).calibration = c := by
  have hstored := @get_storedIn c file
  have hheatRange : (Register.heatRange.set (file.get 0x02) c.heatRange &&& 0x30) >>> 4 =
    c.heatRange := Register.heatRange_get_set _ h.heatRange
  have hrangeError := Register.rangeError_set (file.get 0x04) h.rangeErrorLow h.rangeErrorHigh
  -- One equation for each address, by which the decoded coefficients become the stored ones.
  simp only [Calibration.pairs, List.forall_mem_cons] at hstored
  simp (disch := decide) only [calibration, Calibration.ofDump, coefficients_at, hstored,
    wordOf_bytes, halves_low, halves_high, join_topByte h.h1, join_topByte h.h2,
    Int8.toInt8_toUInt8, Int16.toInt16_toUInt16, hheatRange, hrangeError]

/-- Storing a record keeps every bit that is none of its own. -/
theorem storedIn_outside (c : Calibration) (file : RegisterFile) :
    (c.storedIn file).bits (~~~RegisterBits.calibration ·) =
      file.bits (~~~RegisterBits.calibration ·) := by
  have hstored := @get_storedIn c file
  simp only [Calibration.pairs, List.forall_mem_cons] at hstored
  have hheatRange : (c.storedIn file).get 0x02 =
      Register.heatRange.set (file.get 0x02) c.heatRange := by simp only [hstored]
  have hrangeError : (c.storedIn file).get 0x04 =
      Register.rangeError.set (file.get 0x04) c.rangeError.toUInt8 := by simp only [hstored]
  funext address
  simp only [bits, RegisterBits.calibration]
  -- Two registers are shared with other bits; the others are either filled or not touched.
  split
  · next he => rw [he, hheatRange, BitField.set_outside]
  · split
    · next he => rw [he, hrangeError, BitField.set_outside]
    · split
      · exact UInt8.and_zero.trans UInt8.and_zero.symm
      · next hother =>
        have hkept : (c.storedIn file).get address = file.get address := by
          apply get_setPairs_outside
          rintro pair hpair rfl
          exact hother (List.mem_map_of_mem hpair : pair.1 ∈ (c.pairs file).map Prod.fst)
        rw [hkept]

theorem calibration_congr {file other : RegisterFile}
    (h : file.bits .calibration = other.bits .calibration) :
    file.calibration = other.calibration := by
  have hfull {address : UInt8} (hmask : RegisterBits.calibration address = 0xFF) :
      file.get address = other.get address := by
    have hall := congrFun h address
    rw [bits, bits, hmask, and_full, and_full] at hall
    exact hall
  have hheatRange : file.get 0x02 &&& 0x30 = other.get 0x02 &&& 0x30 := and_of_bits h rfl
  have hrangeError : file.get 0x04 &&& 0xF0 = other.get 0x04 &&& 0xF0 := and_of_bits h rfl
  simp (disch := decide) only [calibration, Calibration.ofDump, coefficients_at, hfull,
    hheatRange, hrangeError]

end RegisterFile

/-- A supported chip on a bus without failures is known completely. -/
theorem Device.Reliable.reaches {device : Device} (h : device.Reliable)
    (hchip : device.registers.get Register.chipId = Register.expectedChipId) :
    device.Reaches 6 where
  carried n _ := by
    rw [failsAt, h.writes, h.reads, h.scheduled, ite_self]
    rfl
  known _ := hchip

namespace Session

theorem connected_calibration {device : Device} (h : (connect (unconnected device)).1 = .ok ()) :
    (connect (unconnected device)).2.driver.calibration = device.registers.calibration := by
  rw [(connected h).2]
  rfl

/-- Any record that there is room for is known to a driver after it has connected to a chip that it
is stored on, whatever the other bits are. And whatever chip a driver has connected to, it knows a
record that there is room for, and none but the bits that a record is stored in matter to it. -/
theorem connect_calibration (device : Device) :
    (device.Reliable → device.registers.get Register.chipId = 0x61 →
      ∀ c : Calibration, c.InRange →
        let file := c.storedIn device.registers
        let ended := connect (unconnected { device with registers := file })
        ended.1 = .ok () ∧ ended.2.driver.calibration = c ∧
          file.bits (~~~RegisterBits.calibration ·) =
            device.registers.bits (~~~RegisterBits.calibration ·)) ∧
    ((connect (unconnected device)).1 = .ok () →
      (connect (unconnected device)).2.driver.calibration.InRange ∧
      ∀ other : Device, (connect (unconnected other)).1 = .ok () →
        other.registers.bits .calibration = device.registers.bits .calibration →
        (connect (unconnected other)).2.driver.calibration =
          (connect (unconnected device)).2.driver.calibration) := by
  constructor
  · intro hreliable hchip c hc file ended
    have hkept := RegisterFile.storedIn_outside c device.registers
    have hstored : file.get Register.chipId = Register.expectedChipId := by
      have hsame : file.get Register.chipId &&& 0xFF =
          device.registers.get Register.chipId &&& 0xFF := congrFun hkept Register.chipId
      rw [and_full, and_full] at hsame
      exact hsame.trans hchip
    have hheld : Device.Reliable { device with registers := file } :=
      ⟨hreliable.scheduled, hreliable.reads, hreliable.writes⟩
    have hok : ended.1 = .ok () := connect_ok_iff.2 (hheld.reaches hstored)
    refine ⟨hok, ?_, hkept⟩
    exact (connected_calibration hok).trans (RegisterFile.calibration_storedIn hc _)
  · intro hok
    rw [connected_calibration hok]
    refine ⟨Calibration.ofDump_inRange _, ?_⟩
    intro other hother hbits
    rw [connected_calibration hother]
    exact RegisterFile.calibration_congr hbits

/-- A supported chip with nothing but ones in its other registers. -/
def unwritten : Device where
  registers := (⟨.replicate 256 0xFF⟩ : RegisterFile).set Register.chipId Register.expectedChipId

/-- A record with coefficients at the ends of their ranges. -/
def widest : Calibration where
  h1 := 0xFFF
  h2 := 1
  gh2 := -32768
  t1 := 0xFFFF
  p6 := -128
  p7 := 127
  heatRange := 2
  rangeError := -8

theorem connect_calibration_unwritten :
    let file := widest.storedIn unwritten.registers
    unwritten.Reliable ∧ widest.InRange ∧
    (connect (unconnected { unwritten with registers := file })).2.driver.calibration = widest ∧
    (connect (unconnected { unwritten with registers := file.set 0x8D 0 })).2.driver.calibration =
      widest := by
  intro file
  have hreliable : unwritten.Reliable := ⟨fun _ => rfl, rfl, rfl⟩
  have hrange : widest.InRange := by constructor <;> decide
  obtain ⟨hok, hstored, -⟩ := (connect_calibration unwritten).1 hreliable rfl widest hrange
  let changed : Device := { unwritten with registers := file.set 0x8D 0 }
  have hchanged : changed.Reliable := ⟨fun _ => rfl, rfl, rfl⟩
  have hother : (connect (unconnected changed)).1 = .ok () :=
    connect_ok_iff.2 (hchanged.reaches (by decide +kernel))
  have hunused : (file.set 0x8D 0).bits .calibration = file.bits .calibration :=
    RegisterFile.bits_set (UInt8.zero_and.trans UInt8.and_zero.symm)
  have hsame := ((connect_calibration { unwritten with registers := file }).2 hok).2 changed hother
    hunused
  exact ⟨hreliable, hrange, hstored, hsame.trans hstored⟩

end Session

end AirMonitor
