import AirMonitor.Proofs.ByteParts
import AirMonitor.Proofs.RegisterBits
import AirMonitor.Sensor.Field

/-!
The format of a block of field registers. A measurement is packed into slots that share no bit, so
that it is found in them again, and decoding a block looks at nothing but the slots.
-/

namespace AirMonitor

structure Slot where
  place : Fin 17
  bits : BitField
  deriving DecidableEq, Repr

/-- Two slots that share no bit. -/
def Slot.Apart (slot other : Slot) : Prop :=
  slot.place = other.place → slot.bits.mask &&& other.bits.mask = 0

instance (slot other : Slot) : Decidable (slot.Apart other) :=
  inferInstanceAs (Decidable (_ → _))

namespace FieldBlock

/-- Whether the chip marked the block as one that was not read yet. -/
def isNew (block : FieldBlock) : Bool := FieldStatus.has FieldStatus.newData (block.get 0)

def held (block : FieldBlock) (slot : Slot) : UInt8 := block.get slot.place &&& slot.bits.mask

def fill (block : FieldBlock) (slot : Slot) (value : UInt8) : FieldBlock :=
  block.set slot.place.val (slot.bits.set (block.get slot.place) value) slot.place.isLt

def fillAll (block : FieldBlock) (parts : List (Slot × UInt8)) : FieldBlock :=
  parts.foldl (fun block part => fill block part.1 part.2) block

variable {parts : List (Slot × UInt8)}

theorem get_fill (block : FieldBlock) (slot : Slot) (value : UInt8) (place : Fin 17) :
    (fill block slot value).get place =
      if slot.place = place then slot.bits.set (block.get place) value else block.get place := by
  have hset : (fill block slot value)[place.val] =
      if slot.place.val = place.val then slot.bits.set (block.get slot.place) value
      else block[place.val] := Vector.getElem_set _ _
  apply hset.trans
  by_cases h : slot.place = place
  · rw [if_pos h, if_pos (congrArg Fin.val h), h]
  · rw [if_neg h, if_neg (Fin.val_ne_of_ne h)]
    rfl

theorem fillAll_outside {place : Fin 17} {kept : UInt8}
    (h : ∀ part ∈ parts, part.1.place = place → part.1.bits.mask &&& kept = 0)
    (block : FieldBlock) : (fillAll block parts).get place &&& kept = block.get place &&& kept := by
  induction parts generalizing block with
  | nil => rfl
  | cons part parts ih =>
    apply (ih (fun other hother => h other (List.mem_cons_of_mem _ hother)) _).trans
    rw [get_fill]
    split
    · next hplace => exact BitField.set_and_of_apart (h part List.mem_cons_self hplace) _ _
    · rfl

/-- Slots that share no bit are all filled in the end. -/
theorem fillAll_inside (hapart : parts.Pairwise fun part other => part.1.Apart other.1)
    {part : Slot × UInt8} (h : part ∈ parts) (block : FieldBlock) :
    held (fillAll block parts) part.1 = (part.2 <<< part.1.bits.shift) &&& part.1.bits.mask := by
  induction parts generalizing block with
  | nil => cases h
  | cons first parts ih =>
    obtain ⟨hfirst, hrest⟩ := List.pairwise_cons.1 hapart
    rcases List.mem_cons.1 h with rfl | h
    · have hlater : ∀ other ∈ parts, other.1.place = part.1.place →
          other.1.bits.mask &&& part.1.bits.mask = 0 := by
        intro other hother hplace
        rw [UInt8.and_comm]
        exact hfirst other hother hplace.symm
      apply (fillAll_outside hlater _).trans
      rw [get_fill, if_pos rfl, BitField.set_inside]
    · exact ih hrest h _

end FieldBlock

/-- The last eight bits of a number. -/
def lastByte {width : Nat} (number : BitVec width) : UInt8 := .ofBitVec (number.setWidth 8)

theorem toNat_lastByte {width : Nat} (number : BitVec width) :
    (lastByte number).toNat = number.toNat % 256 :=
  BitVec.toNat_setWidth 8 number

/-- The status byte with exactly these flags. -/
def FieldStatus.ofFlags (isNew gasValid heaterStable : Bool) : UInt8 :=
  (if isNew then FieldStatus.newData else 0) |||
    ((if gasValid then FieldStatus.gasValid else 0) |||
      if heaterStable then FieldStatus.heaterStable else 0)

theorem FieldStatus.has_ofFlags : ∀ isNew gasValid heaterStable : Bool,
    has newData (ofFlags isNew gasValid heaterStable) = isNew ∧
    has FieldStatus.gasValid (ofFlags isNew gasValid heaterStable) = gasValid ∧
    has FieldStatus.heaterStable (ofFlags isNew gasValid heaterStable) = heaterStable := by
  decide

/-- What a chip has measured, in numbers of the widths that a block has room for. -/
structure Measurement where
  isNew : Bool := false
  gasValid : Bool := false
  heaterStable : Bool := false
  gasIndex : BitVec 4 := 0
  number : BitVec 8 := 0
  pressure : BitVec 20 := 0
  temperature : BitVec 20 := 0
  humidity : BitVec 16 := 0
  gas : BitVec 10 := 0
  gasRange : BitVec 4 := 0

def gasPlace (variant : UInt8) : Fin 17 := if variant = 0x01 then 15 else 13

namespace Measurement

/-- The slots of a block with what of a measurement is packed into them. -/
def parts (m : Measurement) (variant : UInt8) : List (Slot × UInt8) :=
  [(⟨0, 0x80, 7⟩, lastByte (.ofBool m.isNew)), (⟨0, 0x0F, 0⟩, lastByte m.gasIndex),
    (⟨1, 0xFF, 0⟩, lastByte m.number),
    (⟨2, 0xFF, 0⟩, lastByte (m.pressure >>> 12)), (⟨3, 0xFF, 0⟩, lastByte (m.pressure >>> 4)),
    (⟨4, 0xF0, 4⟩, lastByte m.pressure),
    (⟨5, 0xFF, 0⟩, lastByte (m.temperature >>> 12)), (⟨6, 0xFF, 0⟩, lastByte (m.temperature >>> 4)),
    (⟨7, 0xF0, 4⟩, lastByte m.temperature),
    (⟨8, 0xFF, 0⟩, lastByte (m.humidity >>> 8)), (⟨9, 0xFF, 0⟩, lastByte m.humidity),
    (⟨gasPlace variant, 0xFF, 0⟩, lastByte (m.gas >>> 2)),
    (⟨gasPlace variant + 1, 0xC0, 6⟩, lastByte m.gas),
    (⟨gasPlace variant + 1, 0x20, 5⟩, lastByte (.ofBool m.gasValid)),
    (⟨gasPlace variant + 1, 0x10, 4⟩, lastByte (.ofBool m.heaterStable)),
    (⟨gasPlace variant + 1, 0x0F, 0⟩, lastByte m.gasRange)]

def slots (variant : UInt8) : List Slot := (parts {} variant).map Prod.fst

/-- Packs a measurement into a block and keeps every other bit of it. -/
def packedIn (m : Measurement) (variant : UInt8) (block : FieldBlock) : FieldBlock :=
  FieldBlock.fillAll block (m.parts variant)

def raw (m : Measurement) : RawField where
  status := FieldStatus.ofFlags m.isNew m.gasValid m.heaterStable
  gasIndex := .ofBitVec (m.gasIndex.setWidth 8)
  measurement := .ofBitVec m.number
  pressure := .ofBitVec (m.pressure.setWidth 32)
  temperature := .ofBitVec (m.temperature.setWidth 32)
  humidity := .ofBitVec m.humidity
  gas := .ofBitVec (m.gas.setWidth 16)
  gasRange := .ofBitVec (m.gasRange.setWidth 8)

theorem slots_apart (variant : UInt8) : (slots variant).Pairwise Slot.Apart := by
  have hplace : gasPlace variant = 15 ∨ gasPlace variant = 13 := by
    rw [gasPlace]
    split <;> simp
  rw [slots, parts]
  rcases hplace with h | h <;> rw [h] <;> decide

theorem held_packedIn (m : Measurement) (variant : UInt8) (block : FieldBlock) :
    ∀ part ∈ m.parts variant, FieldBlock.held (m.packedIn variant block) part.1 =
      (part.2 <<< part.1.bits.shift) &&& part.1.bits.mask := by
  have hapart : (m.parts variant).Pairwise fun part other => part.1.Apart other.1 :=
    List.pairwise_map.1 (slots_apart variant)
  intro part hpart
  exact FieldBlock.fillAll_inside hapart hpart block

end Measurement

theorem toNat_reading20 (high middle low : UInt8) : (reading20 high middle low).toNat =
    4096 * high.toNat + (16 * middle.toNat + low.toNat / 16) := by
  have hlow : (low.toUInt32 >>> 4).toNat = low.toNat / 16 := by
    rw [UInt32.toNat_shiftRight, UInt8.toNat_toUInt32]
    exact Nat.shiftRight_eq_div_pow low.toNat 4
  have hlt := low.toNat_lt
  have hlt' := middle.toNat_lt
  have hlast : middle.toNat <<< 4 ||| low.toNat / 16 = 16 * middle.toNat + low.toNat / 16 :=
    shiftLeft_or _ 4 (by omega)
  rw [reading20, UInt32.toNat_or, UInt32.toNat_or, toNat_shiftLeft32 _ (by decide),
    toNat_shiftLeft32 _ (by decide), hlow, Nat.or_assoc]
  exact (congrArg _ hlast).trans (shiftLeft_or _ 12 (by omega))

theorem toNat_reading10 (high low : UInt8) :
    (reading10 high low).toNat = 4 * high.toNat + low.toNat / 64 := by
  have hlow : (low.toUInt16 >>> 6).toNat = low.toNat / 64 := by
    rw [UInt16.toNat_shiftRight, UInt8.toNat_toUInt16]
    exact Nat.shiftRight_eq_div_pow low.toNat 6
  have hlt := low.toNat_lt
  rw [reading10, UInt16.toNat_or, toNat_shiftLeft16 _ (by decide), hlow]
  exact shiftLeft_or _ 2 (by omega)

/-- Decoding looks at nothing but the slots. -/
theorem RawField.ofBlock_slots (variant : UInt8) (block : FieldBlock) :
    RawField.ofBlock variant block =
      { status := block.held ⟨0, 0x80, 7⟩ |||
          (block.held ⟨gasPlace variant + 1, 0x20, 5⟩ |||
            block.held ⟨gasPlace variant + 1, 0x10, 4⟩)
        gasIndex := block.held ⟨0, 0x0F, 0⟩
        measurement := block.held ⟨1, 0xFF, 0⟩
        pressure := reading20 (block.held ⟨2, 0xFF, 0⟩) (block.held ⟨3, 0xFF, 0⟩)
          (block.held ⟨4, 0xF0, 4⟩)
        temperature := reading20 (block.held ⟨5, 0xFF, 0⟩) (block.held ⟨6, 0xFF, 0⟩)
          (block.held ⟨7, 0xF0, 4⟩)
        humidity := wordOf (block.held ⟨8, 0xFF, 0⟩) (block.held ⟨9, 0xFF, 0⟩)
        gas := reading10 (block.held ⟨gasPlace variant, 0xFF, 0⟩)
          (block.held ⟨gasPlace variant + 1, 0xC0, 6⟩)
        gasRange := block.held ⟨gasPlace variant + 1, 0x0F, 0⟩ } := by
  have hgas : FieldBlock.gasBytes block variant =
      (block.get (gasPlace variant), block.get (gasPlace variant + 1)) := by
    rw [FieldBlock.gasBytes, gasPlace]
    change (if variant = 0x01 then _ else _) = _
    split <;> rfl
  -- What a reading shifts out of a byte that it shares is no part of its slot.
  have hflags : ∀ byte : UInt8, byte &&& (0x20 ||| 0x10) = (byte &&& 0x20) ||| (byte &&& 0x10) :=
    forall_byte (by decide +kernel)
  have hlow20 : ∀ byte : UInt8, (byte &&& 0xF0).toUInt32 >>> 4 = byte.toUInt32 >>> 4 :=
    forall_byte (by decide +kernel)
  have hlow10 : ∀ byte : UInt8, (byte &&& 0xC0).toUInt16 >>> 6 = byte.toUInt16 >>> 6 :=
    forall_byte (by decide +kernel)
  simp only [FieldBlock.held, and_full, reading20, reading10, hlow20, hlow10, RawField.ofBlock,
    hgas, FieldStatus.newData, FieldStatus.gasValid, FieldStatus.heaterStable, hflags]
  rfl

namespace Measurement

theorem reading20_parts (number : BitVec 20) :
    reading20 (lastByte (number >>> 12)) (lastByte (number >>> 4))
      ((lastByte number <<< 4) &&& 0xF0) = .ofBitVec (number.setWidth 32) := by
  have hlow : ∀ byte : UInt8, ((byte <<< 4) &&& 0xF0).toNat / 16 = byte.toNat % 16 :=
    forall_byte (by decide +kernel)
  have hfit := number.isLt
  apply UInt32.toNat_inj.1
  rw [toNat_reading20, hlow, toNat_lastByte, toNat_lastByte, toNat_lastByte]
  change _ = (number.setWidth 32).toNat
  rw [BitVec.toNat_setWidth, BitVec.toNat_ushiftRight, BitVec.toNat_ushiftRight,
    Nat.shiftRight_eq_div_pow, Nat.shiftRight_eq_div_pow]
  omega

theorem reading10_parts (number : BitVec 10) :
    reading10 (lastByte (number >>> 2)) ((lastByte number <<< 6) &&& 0xC0) =
      .ofBitVec (number.setWidth 16) := by
  have hlow : ∀ byte : UInt8, ((byte <<< 6) &&& 0xC0).toNat / 64 = byte.toNat % 4 :=
    forall_byte (by decide +kernel)
  have hfit := number.isLt
  apply UInt16.toNat_inj.1
  rw [toNat_reading10, hlow, toNat_lastByte, toNat_lastByte]
  change _ = (number.setWidth 16).toNat
  rw [BitVec.toNat_setWidth, BitVec.toNat_ushiftRight, Nat.shiftRight_eq_div_pow]
  omega

theorem wordOf_parts (number : BitVec 16) :
    wordOf (lastByte (number >>> 8)) (lastByte number) = .ofBitVec number := by
  have hfit := number.isLt
  apply UInt16.toNat_inj.1
  rw [toNat_wordOf, toNat_lastByte, toNat_lastByte]
  change _ = number.toNat
  rw [BitVec.toNat_ushiftRight, Nat.shiftRight_eq_div_pow]
  omega

theorem nibble_part (number : BitVec 4) :
    lastByte number &&& 0x0F = .ofBitVec (number.setWidth 8) := by
  revert number
  decide

theorem flag_parts (flag : Bool) :
    (lastByte (.ofBool flag) <<< 7) &&& 0x80 = (if flag then FieldStatus.newData else 0) ∧
    (lastByte (.ofBool flag) <<< 5) &&& 0x20 = (if flag then FieldStatus.gasValid else 0) ∧
    (lastByte (.ofBool flag) <<< 4) &&& 0x10 = (if flag then FieldStatus.heaterStable else 0) := by
  cases flag <;> decide

theorem ofBlock_packedIn (m : Measurement) (variant : UInt8) (block : FieldBlock) :
    RawField.ofBlock variant (m.packedIn variant block) = m.raw := by
  have hheld := m.held_packedIn variant block
  have hnumber : lastByte m.number = .ofBitVec m.number :=
    congrArg UInt8.ofBitVec (BitVec.setWidth_eq m.number)
  simp only [parts, List.forall_mem_cons] at hheld
  simp only [RawField.ofBlock_slots, hheld, UInt8.shiftLeft_zero, and_full, reading20_parts,
    reading10_parts, wordOf_parts, nibble_part, flag_parts, hnumber]
  rfl

theorem ofBlock_congr {variant : UInt8} {block other : FieldBlock}
    (h : ∀ slot ∈ slots variant, other.held slot = block.held slot) :
    RawField.ofBlock variant other = RawField.ofBlock variant block := by
  simp only [slots, parts, List.map_cons, List.forall_mem_cons] at h
  simp only [RawField.ofBlock_slots, h]

/-- A measurement that is packed into a block is found in it again: its flags and indices as they
are, and its readings compensated, with the fine temperature of the same block. Packing keeps all
bits apart from the slots, and none of these makes a difference to what is decoded. -/
theorem decode_packedIn (m : Measurement) (variant : UInt8) (calibration : Calibration)
    (block : FieldBlock) :
    let packed := m.packedIn variant block
    let field := Field.ofBlock variant calibration packed
    let temperature := calibration.temperature m.raw.temperature
    (field.isNew = m.isNew ∧ field.gasValid = m.gasValid ∧ field.heaterStable = m.heaterStable) ∧
    field =
      { status := m.raw.status
        gasIndex := m.raw.gasIndex
        measurement := m.raw.measurement
        temperature := temperature.1
        pressure := calibration.pressure m.raw.pressure temperature.2
        humidity := calibration.humidity m.raw.humidity temperature.2
        gas := if variant = 0x01 then gasHigh m.raw.gas m.raw.gasRange
          else calibration.gasLow m.raw.gas m.raw.gasRange } ∧
    (∀ (place : Fin 17) (kept : UInt8),
      (∀ slot ∈ slots variant, slot.place = place → slot.bits.mask &&& kept = 0) →
      packed.get place &&& kept = block.get place &&& kept) ∧
    ∀ other : FieldBlock, (∀ slot ∈ slots variant, other.held slot = block.held slot) →
      Field.ofBlock variant calibration other = Field.ofBlock variant calibration block := by
  intro packed field temperature
  have hraw : RawField.ofBlock variant packed = m.raw := m.ofBlock_packedIn variant block
  have hfield : field = m.raw.compensate variant calibration :=
    congrArg (RawField.compensate variant calibration) hraw
  refine ⟨?_, hfield, ?_, ?_⟩
  · rw [hfield]
    exact FieldStatus.has_ofFlags m.isNew m.gasValid m.heaterStable
  · intro place kept h
    apply FieldBlock.fillAll_outside
    intro part hpart
    exact h part.1 (List.mem_map_of_mem hpart : part.1 ∈ (m.parts variant).map Prod.fst)
  · intro other h
    exact congrArg (RawField.compensate variant calibration) (ofBlock_congr h)

/-- A measurement of which the gas reading is not valid. -/
def invalidGas : Measurement where
  isNew := true
  heaterStable := true
  gasIndex := 9
  number := 0xFF
  pressure := 0xABCDE
  temperature := 0x12345
  humidity := 0xBEEF
  gas := 0x2A7
  gasRange := 0xC

/-- The flags at the place of the other variant do not count. -/
theorem decode_packedIn_invalidGas :
    let noisy := invalidGas.packedIn 0x01 (.replicate 17 0xFF)
    let quiet := invalidGas.packedIn 0x01 (.replicate 17 0x00)
    noisy.get 14 = 0xFF ∧ quiet.get 14 = 0x00 ∧
    (Field.ofBlock 0x01 {} noisy).gasValid = false ∧
    Field.ofBlock 0x01 {} quiet = Field.ofBlock 0x01 {} noisy := by
  intro noisy quiet
  obtain ⟨⟨-, hvalid, -⟩, -, hkept, -⟩ := decode_packedIn invalidGas 0x01 {} (.replicate 17 0xFF)
  obtain ⟨-, -, -, hsame⟩ := decode_packedIn invalidGas 0x01 {} noisy
  have hheld : ∀ slot ∈ slots 0x01, FieldBlock.held quiet slot = FieldBlock.held noisy slot := by
    decide +kernel
  exact ⟨hkept 14 0xFF (by decide), by decide +kernel, hvalid, hsame quiet hheld⟩

end Measurement

end AirMonitor
