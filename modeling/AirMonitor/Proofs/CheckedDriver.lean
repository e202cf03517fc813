import AirMonitor.Checked.Driver
import AirMonitor.Proofs.CheckedArithmetic
import AirMonitor.Proofs.Delivery

namespace AirMonitor

/-- The three register blocks one after another. -/
def CoefficientDump.bytes (dump : CoefficientDump) : List UInt8 :=
  dump.first.toList ++ dump.second.toList ++ dump.third.toList

/-- The register that a byte of the dump is from. -/
def CoefficientDump.address (i : Nat) : UInt8 :=
  if i < 23 then Register.coefficients1 + UInt8.ofNat i
  else if i < 37 then Register.coefficients2 + UInt8.ofNat (i - 23)
  else Register.coefficients3 + UInt8.ofNat (i - 37)

section

variable (dump : CoefficientDump) {i : Nat}

theorem toNat_add_sub (base other : UInt8) (i : Nat) : (base + UInt8.ofNat i - other).toNat =
    (256 - other.toNat + (base.toNat + i) % 256) % 256 := by
  rw [UInt8.toNat_sub, UInt8.toNat_add, UInt8.toNat_ofNat']
  omega

theorem CoefficientDump.at_first (h : i < 23) :
    dump.at (Register.coefficients1 + UInt8.ofNat i) = dump.first[i] := by
  have hplace : (256 - 0x8A + (0x8A + i) % 256) % 256 = i := by omega
  rw [CoefficientDump.at, toNat_add_sub, show Register.coefficients1.toNat = 0x8A from rfl, hplace,
    Vector.getElem?_eq_getElem h]
  rfl

theorem CoefficientDump.at_second (h : i < 14) :
    dump.at (Register.coefficients2 + UInt8.ofNat i) = dump.second[i] := by
  have hpast : 23 ≤ (256 - 0x8A + (0xE1 + i) % 256) % 256 := by omega
  have hplace : (256 - 0xE1 + (0xE1 + i) % 256) % 256 = i := by omega
  rw [CoefficientDump.at, toNat_add_sub, toNat_add_sub,
    show Register.coefficients1.toNat = 0x8A from rfl,
    show Register.coefficients2.toNat = 0xE1 from rfl, Vector.getElem?_eq_none hpast, hplace,
    Vector.getElem?_eq_getElem h]
  rfl

theorem CoefficientDump.at_third (h : i < 5) :
    dump.at (Register.coefficients3 + UInt8.ofNat i) = dump.third[i] := by
  have hpast1 : 23 ≤ (256 - 0x8A + (0 + i) % 256) % 256 := by omega
  have hpast2 : 14 ≤ (256 - 0xE1 + (0 + i) % 256) % 256 := by omega
  have hplace : (256 - 0 + (0 + i) % 256) % 256 = i := by omega
  rw [CoefficientDump.at, toNat_add_sub, toNat_add_sub, toNat_add_sub,
    show Register.coefficients1.toNat = 0x8A from rfl,
    show Register.coefficients2.toNat = 0xE1 from rfl,
    show Register.coefficients3.toNat = 0 from rfl, Vector.getElem?_eq_none hpast1,
    Vector.getElem?_eq_none hpast2, hplace, Vector.getElem?_eq_getElem h]
  rfl

theorem CoefficientDump.bytes_getElem? (h : i < 42) :
    dump.bytes[i]? = some (dump.at (address i)) := by
  rw [address, bytes, List.append_assoc]
  split
  · next hfirst =>
    rw [dump.at_first hfirst, List.getElem?_append_left (by simpa using hfirst),
      Vector.getElem?_toList, Vector.getElem?_eq_getElem hfirst]
  · next hfirst =>
    rw [List.getElem?_append_right (by simpa using Nat.not_lt.1 hfirst), Vector.length_toList]
    split
    · next hsecond =>
      have hlt : i - 23 < 14 := by omega
      rw [dump.at_second hlt, List.getElem?_append_left (by simpa using hlt),
        Vector.getElem?_toList, Vector.getElem?_eq_getElem hlt]
    · next hsecond =>
      have hle : 14 ≤ i - 23 := by omega
      have hplace : i - 23 - 14 = i - 37 := by omega
      have hlt : i - 37 < 5 := by omega
      rw [dump.at_third hlt, List.getElem?_append_right (by simpa using hle), Vector.length_toList,
        hplace, Vector.getElem?_toList, Vector.getElem?_eq_getElem hlt]

end

/-- What lies under a shorter list shows behind its end. -/
theorem getElem?_append_drop {α : Type} {n : Nat} (xs : List α) (ys : Vector α n) {i : Nat}
    (h : i < n) : (xs ++ ys.toList.drop xs.length)[i]? = some (xs[i]?.getD ys[i]) := by
  by_cases hi : i < xs.length
  · rw [List.getElem?_append_left hi, List.getElem?_eq_getElem hi, Option.getD_some]
  · have hle := Nat.not_lt.1 hi
    rw [List.getElem?_append_right hle, List.getElem?_drop, Nat.add_sub_cancel' hle,
      List.getElem?_eq_none hle, Option.getD_none, Vector.getElem?_toList,
      Vector.getElem?_eq_getElem h]

/-- The last fetch fits the slots, and the cursor is at one of its fields, or at the first slot if
it has none. -/
structure FieldBuffer.Bounded (buffer : FieldBuffer) : Prop where
  count_le : buffer.count ≤ 3
  cursor_le : buffer.cursor.val ≤ buffer.count - 1

namespace Checked

theorem calibration?_eq (dump : CoefficientDump) :
    calibration? dump.bytes = some (.ofDump dump) := by
  simp (disch := decide) only [calibration?, dump.bytes_getElem?, Option.bind_eq_bind,
    Option.bind_some, Option.pure_def]
  rfl

theorem raw?_eq (variant : UInt8) (block : FieldBlock) :
    raw? variant block.toList = some (.ofBlock variant block) := by
  by_cases h : variant = Register.highGasVariant
  · simp [raw?, RawField.ofBlock, FieldBlock.gasBytes, h]
  · simp [raw?, RawField.ofBlock, FieldBlock.gasBytes, h]

/-- The range of a reading is one of sixteen. -/
theorem range_lt (range : UInt8) : (range &&& 0x0F).toNat < 16 := by
  rw [UInt8.toNat_and]
  exact Nat.lt_of_le_of_lt Nat.and_le_right (by decide)

theorem toNat_range (range : UInt8) : (range &&& 0x0F).toNat = (gasRangeOf range).val := by
  rw [UInt8.toNat_and]
  exact Nat.and_two_pow_sub_one_eq_mod range.toNat 4

theorem gasLow?_eq (calibration : Calibration) (adc : UInt16) (range : UInt8) :
    gasLow? calibration adc range = some (calibration.gasLow adc range) := by
  have hlt := range_lt range
  have hgain : lowGasGain.toList[(range &&& 0x0F).toNat]? = some lowGasGain[gasRangeOf range] := by
    rw [Vector.getElem?_toList, toNat_range]
    exact Vector.getElem?_eq_getElem _
  have hscale :
      lowGasScale.toList[(range &&& 0x0F).toNat]? = some lowGasScale[gasRangeOf range] := by
    rw [Vector.getElem?_toList, toNat_range]
    exact Vector.getElem?_eq_getElem _
  have hstep : shiftLeft? 32 1 (range &&& 0x0F).toNat = some (1 <<< (gasRangeOf range).val) := by
    have hfit : 1 <<< (range &&& 0x0F).toNat < 2 ^ 32 := by
      rw [Nat.one_shiftLeft]
      exact Nat.pow_lt_pow_right (by decide) (by omega)
    rw [shiftLeft?_of_lt (by omega), Nat.mod_eq_of_lt hfit, toNat_range]
  simp only [gasLow?, hgain, hscale, hstep, Option.bind_eq_bind, Option.bind_some]
  rfl

theorem gasHigh?_eq (adc : UInt16) (range : UInt8) :
    gasHigh? adc range = some (gasHigh adc range) := by
  have hlt := range_lt range
  rw [gasHigh?, shiftRight?_of_lt (by omega), toNat_range]
  rfl

theorem decode?_eq (variant : UInt8) (calibration : Calibration) (block : FieldBlock) :
    decode? variant calibration block.toList = some (.ofBlock variant calibration block) := by
  rw [decode?, raw?_eq]
  simp only [Option.bind_eq_bind, Option.bind_some, gasHigh?_eq, gasLow?_eq]
  rw [Field.ofBlock, RawField.compensate]
  split <;> rfl

theorem fill?_eq (fields : List Field) (front rest : List Field) (h : fields.length ≤ rest.length) :
    fill? front.length fields (front ++ rest) =
      some (front.length + fields.length, front ++ fields ++ rest.drop fields.length) := by
  induction fields generalizing front rest with
  | nil => simp [fill?]
  | cons field fields ih =>
    cases rest with
    | nil => simp at h
    | cons old rest =>
      have hrest := ih (front ++ [field]) rest (Nat.le_of_succ_le_succ h)
      rw [List.length_append, List.length_singleton] at hrest
      rw [fill?, set?_append]
      simpa [Nat.add_assoc, Nat.add_comm 1] using hrest

/-- The fields before a place are sorted, newest last. -/
theorem sift?_eq (newestFirst : List Field) (field : Field) (rest : List Field) :
    sift? newestFirst.length (newestFirst.reverse ++ field :: rest) =
      some ((insertNewest field newestFirst).reverse ++ rest) := by
  induction newestFirst generalizing rest with
  | nil => rfl
  | cons newest older ih =>
    have hfield : ((newest :: older).reverse ++ field :: rest)[older.length + 1]? = some field := by
      simp
    have hnewest : ((newest :: older).reverse ++ field :: rest)[older.length]? = some newest := by
      simp
    rw [List.length_cons, sift?, hfield, hnewest, insertNewest]
    simp only [Option.bind_eq_bind, Option.bind_some]
    split
    · have hlast := set?_append (older.reverse ++ [newest]) rest field newest
      have hbefore := set?_append older.reverse (newest :: rest) newest field
      rw [List.length_append, List.length_reverse, List.length_singleton] at hlast
      rw [List.length_reverse] at hbefore
      rw [List.reverse_cons, hlast, Option.bind_some, List.append_assoc, List.singleton_append,
        hbefore, Option.bind_some, ih]
      simp
    · simp

theorem sort?_eq (fields newestFirst : List Field) :
    sort? fields.length newestFirst.length (newestFirst.reverse ++ fields) =
      some (fields.foldl (fun sorted field => insertNewest field sorted) newestFirst).reverse := by
  induction fields generalizing newestFirst with
  | nil => simp [sort?]
  | cons field fields ih =>
    have hlength : (insertNewest field newestFirst).length = newestFirst.length + 1 :=
      (insertNewest_perm field newestFirst).length_eq
    have hrest := ih (insertNewest field newestFirst)
    rw [hlength] at hrest
    rw [List.length_cons, sort?, sift?_eq]
    exact hrest

theorem sort?_all (fields : List Field) :
    sort? (fields.length - 1) 1 fields = some (inMeasurementOrder fields) := by
  cases fields with
  | nil => rfl
  | cons field fields => exact sort?_eq fields [field]

theorem store?_eq (buffer : FieldBuffer) {decoded : List Field}
    (h : (decoded.filter Field.isNew).length ≤ 3) :
    store? buffer decoded = some (buffer.store decoded) := by
  have hfilled := fill?_eq (decoded.filter Field.isNew) [] buffer.slots.toList (by simpa using h)
  have hlength : (inMeasurementOrder (decoded.filter Field.isNew)).length =
      (decoded.filter Field.isNew).length := (inMeasurementOrder_perm _).length_eq
  have hslice := slice?_append (decoded.filter Field.isNew)
    (buffer.slots.toList.drop (decoded.filter Field.isNew).length)
  have hslots {i : Nat} (hi : i < 3) :=
    getElem?_append_drop (inMeasurementOrder (decoded.filter Field.isNew)) buffer.slots hi
  rw [hlength] at hslots
  simp only [List.length_nil, List.nil_append, Nat.zero_add] at hfilled
  rw [store?]
  change (fill? 0 (decoded.filter Field.isNew) buffer.slots.toList).bind _ = _
  rw [hfilled]
  simp only [Option.bind_eq_bind, Option.bind_some, hslice, sort?_all, hslots, Nat.zero_lt_succ,
    Nat.one_lt_succ_succ, Nat.lt_succ_self, List.drop_left]
  rw [FieldBuffer.store, hlength]
  rfl

theorem next?_eq {buffer : FieldBuffer} (h : buffer.Bounded) :
    next? buffer = some buffer.next := by
  have hfield : buffer.slots.toList[buffer.cursor.val]? = some buffer.slots[buffer.cursor] := by
    rw [Vector.getElem?_toList]
    exact Vector.getElem?_eq_getElem _
  have hcount := h.count_le
  have hcursor := h.cursor_le
  have hcursor' := buffer.cursor.isLt
  rw [next?, FieldBuffer.next, hfield]
  simp only [Option.bind_eq_bind, Option.bind_some]
  by_cases hnone : buffer.count = 0
  · simp [hnone]
  · have hfit : buffer.cursor.val + 1 < 2 ^ 8 := by omega
    rw [if_neg hnone, fit?_of_lt hfit, Option.bind_some]
    by_cases hlast : buffer.count ≤ buffer.cursor.val + 1
    · have hstay : buffer.count - 1 = buffer.cursor.val := by omega
      rw [if_pos hlast, if_neg (by omega), sub?_of_le (by omega), Option.bind_some, hstay, cursor?,
        dif_pos hcursor']
      rfl
    · have hnext : (⟨buffer.cursor.val + 1, by omega⟩ : Fin 3) = buffer.cursor + 1 := by
        apply Fin.ext
        rw [Fin.val_add_one_of_lt' (by omega)]
      rw [if_neg hlast, if_pos (by omega), sub?_of_le (by omega), Option.bind_some, cursor?,
        dif_pos (by omega), hnext]
      rfl

theorem next_bounded {buffer : FieldBuffer} (h : buffer.Bounded) : buffer.next.2.Bounded := by
  rw [FieldBuffer.next]
  split
  · next hmore =>
    have hcount := h.count_le
    have hstep : (buffer.cursor + 1).val = buffer.cursor.val + 1 :=
      Fin.val_add_one_of_lt' (by omega)
    refine ⟨hcount, ?_⟩
    change (buffer.cursor + 1).val ≤ buffer.count - 1
    omega
  · exact h

theorem clear_bounded (buffer : FieldBuffer) : buffer.clear.Bounded :=
  ⟨Nat.zero_le 3, Nat.le_refl 0⟩

theorem store_bounded {buffer : FieldBuffer} (hcursor : buffer.cursor = 0) {decoded : List Field}
    (h : (decoded.filter Field.isNew).length ≤ 3) : (buffer.store decoded).Bounded := by
  constructor
  · rw [buffer.count_store]
    exact h
  · change buffer.cursor.val ≤ _
    rw [hcursor]
    exact Nat.zero_le _

theorem nextField?_eq {driver : Driver} (h : driver.buffer.Bounded) :
    nextField? driver = some driver.nextField := by
  have hfirst : driver.buffer.slots.toList[0]? = some driver.buffer.first := by
    rw [Vector.getElem?_toList]
    rfl
  rw [nextField?, Driver.nextField, hfirst, next?_eq h]
  split <;> rfl

theorem nextField_bounded {driver : Driver} (h : driver.buffer.Bounded) :
    driver.nextField.2.buffer.Bounded := by
  rw [Driver.nextField]
  split
  · exact h
  · exact next_bounded h

theorem mapM_decode? (variant : UInt8) (calibration : Calibration) (blocks : List FieldBlock) :
    (blocks.map Vector.toList).mapM (decode? variant calibration) =
      some (blocks.map (Field.ofBlock variant calibration)) := by
  induction blocks with
  | nil => rfl
  | cons block blocks ih =>
    rw [List.map_cons, List.mapM_cons, decode?_eq, ih]
    rfl

theorem withFields?_eq (driver : Driver) {blocks : List FieldBlock} (h : blocks.length ≤ 3) :
    withFields? (blocks.map Vector.toList) driver = some (driver.withFields blocks) := by
  have hdecoded : slice? ((blocks.map (Field.ofBlock driver.variant driver.calibration) ++
      List.replicate Register.fieldCount ({} : Field)).take Register.fieldCount) 0
        (blocks.map Vector.toList).length =
      some (blocks.map (Field.ofBlock driver.variant driver.calibration)) := by
    rw [slice?_of_le (Nat.zero_le _) (by simpa [Register.fieldCount] using h), List.drop_zero,
      List.take_take, List.length_map, Register.fieldCount, Nat.min_eq_left h]
    exact congrArg some (List.take_left' (List.length_map _))
  have hfresh : ((blocks.map (Field.ofBlock driver.variant driver.calibration)).filter
      Field.isNew).length ≤ 3 :=
    Nat.le_trans (List.length_filter_le _ _) (by simpa using h)
  rw [withFields?, mapM_decode?]
  simp only [Option.bind_eq_bind, Option.bind_some, hdecoded, store?_eq driver.buffer hfresh]
  rfl

theorem withFields_bounded {driver : Driver} (hcursor : driver.buffer.cursor = 0)
    {blocks : List FieldBlock} (h : blocks.length ≤ 3) :
    (driver.withFields blocks).buffer.Bounded := by
  apply store_bounded hcursor
  exact Nat.le_trans (List.length_filter_le _ _) (by simpa using h)

end Checked

end AirMonitor
