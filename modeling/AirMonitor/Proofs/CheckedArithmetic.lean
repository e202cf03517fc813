import AirMonitor.Checked.Arithmetic
import AirMonitor.Proofs.KnownTimes
import AirMonitor.Sensor.Link

namespace AirMonitor.Checked

variable {α : Type}

theorem fit?_of_lt {bits n : Nat} (h : n < 2 ^ bits) : fit? bits n = some n := by
  rw [fit?, Nat.one_shiftLeft, if_pos h]

theorem sub?_of_le {a b : Nat} (h : b ≤ a) : sub? a b = some (a - b) := if_pos h

theorem add32?_of_lt {a b : UInt32} (h : a.toNat + b.toNat < UInt32.size) :
    add32? a b = some (a + b) := if_pos h

theorem shiftLeft?_of_lt {bits amount : Nat} (h : amount < bits) (n : Nat) :
    shiftLeft? bits n amount = some (n <<< amount % 2 ^ bits) := by
  rw [shiftLeft?, Nat.one_shiftLeft, if_pos h]

theorem shiftRight?_of_lt {bits amount : Nat} (h : amount < bits) (n : Nat) :
    shiftRight? bits n amount = some (n >>> amount) := if_pos h

/-- What stands right behind `front` is replaced. -/
theorem set?_append (front rest : List α) (old new : α) :
    set? (front ++ old :: rest) front.length new = some (front ++ new :: rest) := by
  rw [set?, if_pos (by simp)]
  simp

theorem slice?_of_le {xs : List α} {low high : Nat} (hlow : low ≤ high) (hhigh : high ≤ xs.length) :
    slice? xs low high = some ((xs.take high).drop low) := if_pos ⟨hlow, hhigh⟩

/-- The slice is all that stands before `rest`. -/
theorem slice?_append (front rest : List α) :
    slice? (front ++ rest) 0 front.length = some front := by
  rw [slice?_of_le (Nat.zero_le _) (by simp), List.drop_zero, List.take_left]

section

variable (front middle rest : List α)

theorem take_before_middle : (front ++ middle ++ rest).take front.length = front := by
  rw [List.append_assoc, List.take_left]

theorem drop_past_middle :
    (front ++ middle ++ rest).drop (front.length + middle.length) = rest := by
  rw [← List.length_append, List.drop_left]

/-- The slice is what stands between `front` and `rest`. -/
theorem slice?_middle :
    slice? (front ++ middle ++ rest) front.length (front.length + middle.length) =
      some middle := by
  rw [slice?_of_le (Nat.le_add_right _ _) (by simp), ← List.length_append, List.take_left,
    List.drop_left]

/-- What stands between `front` and `rest` is replaced. -/
theorem copyInto?_middle (xs : List α) (h : middle.length = xs.length) :
    copyInto? (front ++ middle ++ rest) front.length (front.length + middle.length) xs =
      some (front ++ xs ++ rest) := by
  rw [copyInto?, slice?_middle, take_before_middle, drop_past_middle]
  exact if_pos h

end

theorem busBytes?_eq (frame : WriteFrame) : busBytes? frame =
    some (if I2c.bufferSize ≤ frame.data.length then .error .overflow
      else .ok (frame.register :: frame.data)) := by
  rw [busBytes?]
  split
  · rfl
  · next h =>
    rw [I2c.bufferSize] at h ⊢
    have hsplit : List.replicate 63 (0 : UInt8) = List.replicate frame.data.length 0 ++
        List.replicate (63 - frame.data.length) 0 := by
      rw [List.replicate_append_replicate, Nat.add_sub_cancel' (by omega)]
    have hcopied := copyInto?_middle [frame.register] (List.replicate frame.data.length 0)
      (List.replicate (63 - frame.data.length) 0) frame.data List.length_replicate
    have hbytes := slice?_append (frame.register :: frame.data)
      (List.replicate (63 - frame.data.length) 0)
    rw [List.append_assoc, ← hsplit, List.length_replicate, Nat.add_comm] at hcopied
    change (copyInto? ([frame.register] ++ List.replicate 63 0) 1 _ _).bind _ = _
    rw [show 1 = [frame.register].length from rfl, hcopied]
    change (slice? (frame.register :: frame.data ++ _) 0 _).bind _ = _
    rw [List.length_cons] at hbytes
    rw [List.length_singleton, hbytes]
    rfl

theorem fillFrame?_eq (pairs : List (UInt8 × UInt8)) (i : Nat) (front : List UInt8) (k : Nat)
    (hfront : front.length = 1 + 2 * i) (hroom : 2 * pairs.length ≤ k) :
    fillFrame? i pairs (front ++ List.replicate k 0) =
      some (front ++ interleave pairs ++ List.replicate (k - 2 * pairs.length) 0) := by
  induction pairs generalizing i front k with
  | nil => simp [fillFrame?, interleave]
  | cons pair pairs ih =>
    rw [List.length_cons] at hroom
    obtain ⟨k, rfl⟩ := Nat.exists_eq_add_of_le' (show 2 ≤ k by omega)
    have hfirst := set?_append front (0 :: List.replicate k 0) 0 pair.1
    have hsecond := set?_append (front ++ [pair.1]) (List.replicate k 0) 0 pair.2
    rw [hfront] at hfirst
    rw [List.length_append, hfront, List.length_singleton, Nat.add_right_comm] at hsecond
    rw [List.append_assoc, List.singleton_append] at hsecond
    have hrest := ih (i + 1) (front ++ [pair.1, pair.2]) k
      (by rw [List.length_append, hfront]; rfl) (by omega)
    rw [fillFrame?, List.replicate_succ, List.replicate_succ, hfirst]
    change (set? (front ++ pair.1 :: 0 :: List.replicate k 0) (1 + 1 + 2 * i) pair.2).bind _ = _
    rw [hsecond]
    simpa [interleave, Nat.mul_add] using hrest

theorem frame?_cons (pair : UInt8 × UInt8) {pairs : List (UInt8 × UInt8)}
    (h : pairs.length < Register.maxWritePairs) :
    frame? (pair :: pairs) = some ⟨pair.1, pair.2 :: interleave pairs⟩ := by
  rw [Register.maxWritePairs] at h
  have hfilled := fillFrame?_eq pairs 0 [pair.2] 18 rfl (by omega)
  have hothers : slice? (pair :: pairs) 1 (pair :: pairs).length = some pairs := by
    rw [slice?_of_le (by simp) (Nat.le_refl _), List.take_length]
    rfl
  have hlength : sub? (2 * (pair :: pairs).length) 1 =
      some (pair.2 :: interleave pairs).length := by
    rw [sub?_of_le (by rw [List.length_cons]; omega), List.length_cons, List.length_cons,
      length_interleave]
    rfl
  have hdata := slice?_append (pair.2 :: interleave pairs)
    (List.replicate (18 - 2 * pairs.length) 0)
  simp only [frame?, List.getElem?_cons_zero, hothers, hlength, Option.bind_eq_bind,
    Option.bind_some]
  change (fillFrame? 0 pairs ([pair.2] ++ List.replicate 18 0)).bind _ = _
  rw [hfilled, Option.bind_some]
  change (slice? ((pair.2 :: interleave pairs) ++ _) 0 _).bind _ = _
  rw [hdata]
  rfl

example : frame? (List.replicate 11 (0, 0)) = none := by decide

theorem fillTable?_eq (base : UInt8) (values : List UInt8) (i : Nat) (front : List (UInt8 × UInt8))
    (k : Nat) (hfront : front.length = i) (hroom : values.length ≤ k)
    (hregister : base.toNat + i + values.length ≤ 256) :
    fillTable? base i values (front ++ List.replicate k (0, 0)) =
      some (front ++ consecutive (base + UInt8.ofNat i) values ++
        List.replicate (k - values.length) (0, 0)) := by
  induction values generalizing i front k with
  | nil => simp [fillTable?, consecutive]
  | cons value values ih =>
    rw [List.length_cons] at hroom hregister
    obtain ⟨k, rfl⟩ := Nat.exists_eq_add_of_le' (show 1 ≤ k by omega)
    have hset := set?_append front (List.replicate k (0, 0)) (0, 0)
      (UInt8.ofNat (base.toNat + i), value)
    have hrest := ih (i + 1) (front ++ [(UInt8.ofNat (base.toNat + i), value)]) k
      (by rw [List.length_append, hfront]; rfl) (by omega) (by omega)
    have hbase : UInt8.ofNat (base.toNat + i) = base + UInt8.ofNat i := by
      rw [UInt8.ofNat_add, UInt8.ofNat_toNat]
    rw [hfront] at hset
    rw [fillTable?, fit?_of_lt (show base.toNat + i < 2 ^ 8 by omega), List.replicate_succ]
    change (set? (front ++ (0, 0) :: List.replicate k (0, 0)) i _).bind _ = _
    rw [hset]
    simpa [consecutive, UInt8.add_assoc, hbase] using hrest

theorem table?_eq {capacity : Nat} {base : UInt8} {values : List UInt8}
    (hroom : values.length ≤ capacity) (hregister : base.toNat + values.length ≤ 256) :
    table? capacity base values = some (consecutive base values) := by
  have hfilled := fillTable?_eq base values 0 [] capacity rfl hroom hregister
  have hslice := slice?_append (consecutive base values)
    (List.replicate (capacity - values.length) (0, 0))
  rw [length_consecutive] at hslice
  rw [List.nil_append, List.nil_append] at hfilled
  rw [table?, hfilled]
  simpa using hslice

theorem quarter?_eq {n factor : Nat} (h : factor + (HeatingTime.mantissaExponent n).2 < 256) :
    quarter? n factor = some ((HeatingTime.mantissaExponent n).1,
      factor + (HeatingTime.mantissaExponent n).2) := by
  induction n using HeatingTime.mantissaExponent.induct generalizing factor with
  | case1 n hn => rw [quarter?, HeatingTime.mantissaExponent, if_pos hn, if_pos hn]; rfl
  | case2 n hn ih =>
    rw [HeatingTime.mantissaExponent, if_neg hn] at h ⊢
    change factor + (_ + 1) < 256 at h
    rw [quarter?, if_neg hn, fit?_of_lt (show factor + 1 < 2 ^ 8 by omega), Option.bind_some,
      ih (by omega), Nat.add_assoc, Nat.add_comm 1]

/-- The mantissa and the exponent fit a byte together. -/
theorem mantissa_add_exponent_lt {n : Nat} (h : n < 4096) :
    (HeatingTime.mantissaExponent n).1 + (HeatingTime.mantissaExponent n).2 * 64 < 256 := by
  have hmantissa := HeatingTime.mantissa_lt n
  have hexponent := HeatingTime.exponent_lt h
  omega

theorem pack?_eq {n : Nat} (h : n < 4096) : pack? n = some (HeatingTime.pack n) := by
  have hexponent := HeatingTime.exponent_lt h
  have hsum := mantissa_add_exponent_lt h
  rw [pack?, quarter?_eq (by omega), Nat.zero_add]
  simp only [Option.bind_eq_bind, Option.bind_some]
  rw [fit?_of_lt (by omega), Option.bind_some, fit?_of_lt hsum, HeatingTime.pack, Nat.mul_comm 64]
  rfl

theorem encode?_eq (millis : UInt16) : encode? millis = some (HeatingTime.encode millis) := by
  rw [encode?, HeatingTime.encode]
  split
  · rfl
  · next h =>
    have hlt : millis.toNat < 0xFC0 := UInt16.lt_iff_toNat_lt.1 (UInt16.not_le.1 h)
    exact pack?_eq (Nat.lt_trans hlt (by decide))

theorem encodeShared?_eq (millis : UInt16) :
    encodeShared? millis = some (HeatingTime.encodeShared millis) := by
  rw [encodeShared?, HeatingTime.encodeShared]
  split
  · rfl
  · next h =>
    have hlt : millis.toNat < 0x783 := UInt16.lt_iff_toNat_lt.1 (UInt16.not_le.1 h)
    rw [fit?_of_lt (by omega)]
    exact pack?_eq (by omega)

theorem getBits?_eq {field : BitField} (h : field.shift < 8) (byte : UInt8) :
    getBits? field byte = some (field.get byte) := by
  have hshift : field.shift.toNat < 8 := UInt8.lt_iff_toNat_lt.1 h
  rw [getBits?, shiftRight?_of_lt hshift]
  apply congrArg some
  apply UInt8.toNat_inj.1
  rw [BitField.get, UInt8.toNat_shiftRight, UInt8.toNat_ofNat', Nat.mod_eq_of_lt hshift]
  apply Nat.mod_eq_of_lt
  rw [Nat.shiftRight_eq_div_pow]
  exact Nat.lt_of_le_of_lt (Nat.div_le_self _ _) (UInt8.toNat_lt _)

theorem setBits?_eq {field : BitField} (h : field.shift < 8) (byte value : UInt8) :
    setBits? field byte value = some (field.set byte value) := by
  have hshift : field.shift.toNat < 8 := UInt8.lt_iff_toNat_lt.1 h
  have hmoved : UInt8.ofNat (value.toNat <<< field.shift.toNat % 2 ^ 8) =
      value <<< field.shift := by
    apply UInt8.toNat_inj.1
    rw [UInt8.toNat_shiftLeft, UInt8.toNat_ofNat', Nat.mod_mod, Nat.mod_eq_of_lt hshift]
  rw [setBits?, shiftLeft?_of_lt hshift]
  change some (_ ||| (UInt8.ofNat _ &&& _)) = _
  rw [hmoved, BitField.set]

theorem toList_eq_ofFn {n : Nat} (xs : Vector α n) : xs.toList = List.ofFn fun i => xs[i] := by
  rw [← Vector.toList_ofFn]
  exact congrArg Vector.toList xs.ofFn_getElem.symm

theorem config?_eq (block : ConfigBlock) : config? block.toList = some (.ofBlock block) := by
  have hhumidity (byte : UInt8) : Register.humidityOversampling.get byte =
      byte &&& Register.humidityOversampling.mask := by
    rw [BitField.get]
    exact UInt8.shiftRight_zero
  have hbytes : block.toList = [block[0], block[1], block[2], block[3], block[4]] :=
    toList_eq_ofFn block
  rw [hbytes, config?, Config.ofBlock]
  simp only [List.getElem?_cons_zero, List.getElem?_cons_succ, Option.bind_eq_bind,
    Option.bind_some, getBits?_eq (show Register.noStandby.shift < 8 by decide),
    getBits?_eq (show Register.standby.shift < 8 by decide),
    getBits?_eq (show Register.temperatureOversampling.shift < 8 by decide),
    getBits?_eq (show Register.pressureOversampling.shift < 8 by decide),
    getBits?_eq (show Register.filter.shift < 8 by decide), hhumidity]
  split <;> rfl

theorem patchByte?_append {field : BitField} (h : field.shift < 8) (value : UInt8)
    (front rest : List UInt8) (byte : UInt8) :
    patchByte? field value front.length (front ++ byte :: rest) =
      some (front ++ field.set byte value :: rest) := by
  have hbyte : (front ++ byte :: rest)[front.length]? = some byte := by simp
  rw [patchByte?, hbyte]
  simp only [Option.bind_eq_bind, Option.bind_some, setBits?_eq h, set?_append]

theorem patch?_eq (config : Config) (block : ConfigBlock) :
    patch? config block.toList = some (config.patch block).toList := by
  have hfilter (b0 b1 b2 b3 b4 : UInt8) := patchByte?_append
    (show Register.filter.shift < 8 by decide) config.filter.bits [b0, b1, b2, b3] [] b4
  have htemperature (b0 b1 b2 b3 b4 : UInt8) := patchByte?_append
    (show Register.temperatureOversampling.shift < 8 by decide) config.temperature.bits
    [b0, b1, b2] [b4] b3
  have hpressure (b0 b1 b2 b3 b4 : UInt8) := patchByte?_append
    (show Register.pressureOversampling.shift < 8 by decide) config.pressure.bits
    [b0, b1, b2] [b4] b3
  have hhumidity (b0 b1 b2 b3 b4 : UInt8) := patchByte?_append
    (show Register.humidityOversampling.shift < 8 by decide) config.humidity.bits
    [b0] [b2, b3, b4] b1
  have hstandby (b0 b1 b2 b3 b4 : UInt8) := patchByte?_append
    (show Register.standby.shift < 8 by decide) config.standby.fields.2 [b0, b1, b2, b3] [] b4
  have hnoStandby (b0 b1 b2 b3 b4 : UInt8) := patchByte?_append
    (show Register.noStandby.shift < 8 by decide) config.standby.fields.1 [] [b1, b2, b3, b4] b0
  simp only [List.cons_append, List.nil_append, List.length_cons, List.length_nil, Nat.zero_add,
    Nat.reduceAdd] at hfilter htemperature hpressure hhumidity hstandby hnoStandby
  have hbytes : block.toList = [block[0], block[1], block[2], block[3], block[4]] :=
    toList_eq_ofFn block
  rw [hbytes, patch?, hfilter]
  simp only [htemperature, hpressure, hhumidity, hstandby, hnoStandby, Option.bind_eq_bind,
    Option.bind_some]
  rfl

theorem gasControl?_eq (variant steps low high : UInt8) : gasControl? variant steps [low, high] =
    some [(Register.ctrlGas0, Register.heaterOff.set low 0),
      (Register.ctrlGas1, Register.runGas.set (Register.heaterSteps.set high steps)
        (Register.runGasCode variant))] := by
  have hoff := patchByte?_append (show Register.heaterOff.shift < 8 by decide) 0 [] [high] low
  have hsteps := patchByte?_append (show Register.heaterSteps.shift < 8 by decide) steps
    [Register.heaterOff.set low 0] [] high
  have hrun := patchByte?_append (show Register.runGas.shift < 8 by decide)
    (Register.runGasCode variant) [Register.heaterOff.set low 0] []
    (Register.heaterSteps.set high steps)
  simp only [List.nil_append, List.singleton_append, List.length_nil, List.length_singleton]
    at hoff hsteps hrun
  simp only [gasControl?, hoff, hsteps, hrun, Option.bind_eq_bind, Option.bind_some]
  rfl

theorem uniqueId?_eq (b0 b1 b2 b3 : UInt8) : uniqueId? [b0, b1, b2, b3] =
    some ((((b3.toUInt32 + (b2.toUInt32 <<< 8)) &&& 0x7FFF) <<< 16) +
      (b1.toUInt32 <<< 8) + b0.toUInt32) := by
  have hbyte (byte : UInt8) : byte.toUInt32.toNat < 2 ^ 8 := by
    rw [UInt8.toNat_toUInt32]
    exact byte.toNat_lt
  have hmoved (byte : UInt8) : (byte.toUInt32 <<< 8).toNat < 2 ^ 16 := by
    have hlt := byte.toNat_lt
    rw [UInt32.toNat_shiftLeft, UInt8.toNat_toUInt32, Nat.shiftLeft_eq]
    change byte.toNat * 2 ^ 8 % _ < _
    omega
  have hupper (n : UInt32) : ((n &&& 0x7FFF) <<< 16).toNat ≤ 0x7FFF * 2 ^ 16 := by
    have hle : n.toNat &&& 0x7FFF ≤ 0x7FFF := Nat.and_le_right
    rw [UInt32.toNat_shiftLeft, UInt32.toNat_and, Nat.shiftLeft_eq]
    change (n.toNat &&& 0x7FFF) * 2 ^ 16 % _ ≤ _
    omega
  have hsum (upper lower : UInt32) (hu : upper.toNat ≤ 0x7FFF * 2 ^ 16)
      (hl : lower.toNat < 2 ^ 16) : (upper + lower).toNat ≤ 0x7FFF * 2 ^ 16 + 2 ^ 16 := by
    rw [UInt32.toNat_add]
    omega
  have hu := hupper (b3.toUInt32 + (b2.toUInt32 <<< 8))
  have hmiddle := hsum _ _ hu (hmoved b1)
  simp only [uniqueId?, List.getElem?_cons_zero, List.getElem?_cons_succ, Option.bind_eq_bind,
    Option.bind_some]
  rw [add32?_of_lt (Nat.lt_trans (Nat.add_lt_add (hbyte b3) (hmoved b2)) (by decide)),
    Option.bind_some,
    add32?_of_lt (Nat.lt_of_lt_of_le (Nat.add_lt_add_of_le_of_lt hu (hmoved b1)) (by decide)),
    Option.bind_some]
  exact add32?_of_lt
    (Nat.lt_of_lt_of_le (Nat.add_lt_add_of_le_of_lt hmiddle (hbyte b0)) (by decide))

theorem measurementMicros?_eq (driver : Driver) (mode : Mode) :
    measurementMicros? driver mode = some (driver.measurementMicros mode) := by
  have hcycles := driver.config.cycles_le
  rw [Config.cycles] at hcycles
  rw [Driver.measurementMicros, Config.measurementMicros, Config.cycles, measurementMicros?,
    fit?_of_lt (by omega)]
  simp only [Option.bind_eq_bind, Option.bind_some]
  rw [fit?_of_lt (by omega), Option.bind_some, fit?_of_lt (by omega), Option.bind_some,
    fit?_of_lt (by omega), Option.bind_some, fit?_of_lt (by omega), Option.bind_some]
  by_cases h : (if mode = .sleep then driver.lastMode else mode) = .parallel
  · rw [if_pos h, if_pos h]
    rfl
  · rw [if_neg h, if_neg h, fit?_of_lt (by omega)]

theorem forcedMicros?_eq (driver : Driver) :
    forcedMicros? driver = some (SharedSensor.forcedMicros driver) := by
  have hlt := driver.forcedMicros_lt
  rw [SharedSensor.forcedMicros] at hlt ⊢
  rw [forcedMicros?, measurementMicros?_eq, fit?_of_lt (by omega)]
  exact fit?_of_lt hlt

theorem absorb?_eq {estimator : Estimator} (dry : Float32) :
    absorb? dry estimator = some (estimator.absorb dry) := by
  rw [absorb?, Estimator.absorb]
  split
  · next h =>
    rw [Estimator.burnInReadings] at h
    rw [fit?_of_lt (by omega)]
    rfl
  · split <;> rfl

theorem score?_eq (gas humidity temperature : Float32) (estimator : Estimator) :
    score? gas humidity temperature estimator =
      some (estimator.score gas humidity temperature) := by
  rw [score?, absorb?_eq]
  rfl

theorem checksum?_eq (frame : CarbonDioxide.Frame) : checksum? frame = some frame.checksum := by
  have hcontent : slice? frame.toList 1 8 =
      some [frame[1], frame[2], frame[3], frame[4], frame[5], frame[6], frame[7]] := by
    rw [slice?_of_le (by decide) (by simp), toList_eq_ofFn frame]
    rfl
  have hcomplement (sum : UInt8) : UInt8.ofNat (0xFF - sum.toNat) = 0xFF - sum := by
    have hle : sum.toNat ≤ 0xFF := Nat.le_of_lt_succ sum.toNat_lt
    apply UInt8.toNat_inj.1
    rw [UInt8.toNat_sub_of_le _ _ (UInt8.le_iff_toNat_le.2 hle), UInt8.toNat_ofNat']
    exact Nat.mod_eq_of_lt (Nat.lt_succ_of_le (Nat.sub_le _ _))
  rw [checksum?, hcontent]
  simp only [Option.bind_eq_bind, Option.bind_some]
  rw [sub?_of_le (Nat.le_of_lt_succ (UInt8.toNat_lt _)), Option.bind_some, hcomplement]
  simp [CarbonDioxide.Frame.checksum]

end AirMonitor.Checked
