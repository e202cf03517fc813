import AirMonitor.Proofs.RegisterBits

namespace AirMonitor

theorem mem_consecutive {address : UInt8} {values : List UInt8} {pair : UInt8 × UInt8}
    (h : pair ∈ consecutive address values) :
    ∃ i, ∃ hi : i < values.length, pair = (address + UInt8.ofNat i, values[i]) := by
  induction values generalizing address with
  | nil => simp [consecutive] at h
  | cons value values ih =>
    rcases List.mem_cons.1 h with rfl | h
    · exact ⟨0, by simp, by simp⟩
    · obtain ⟨i, hi, rfl⟩ := ih h
      have hnext : (address + 1 + UInt8.ofNat i, values[i]) =
          (address + UInt8.ofNat (i + 1), values[i]) := by
        rw [UInt8.ofNat_add, UInt8.add_comm (UInt8.ofNat i), UInt8.add_assoc]
        rfl
      exact ⟨i + 1, by simpa using hi, hnext⟩

theorem getElem?_consecutive (register : UInt8) (values : List UInt8) (i : Nat) :
    (consecutive register values)[i]? = values[i]?.map fun value =>
      (register + UInt8.ofNat i, value) := by
  induction values generalizing register i with
  | nil => rfl
  | cons value values ih =>
    cases i with
    | zero => simp [consecutive]
    | succ i =>
      have hnext : register + 1 + UInt8.ofNat i = register + UInt8.ofNat (i + 1) := by
        rw [UInt8.ofNat_add, UInt8.add_comm (UInt8.ofNat i), UInt8.add_assoc]
        rfl
      rw [consecutive, List.getElem?_cons_succ, List.getElem?_cons_succ, ih, hnext]

theorem map_fst_consecutive (register : UInt8) (values : List UInt8) :
    (consecutive register values).map Prod.fst =
      (List.range values.length).map fun i => register + UInt8.ofNat i := by
  apply List.ext_getElem?
  intro i
  rw [List.getElem?_map, getElem?_consecutive, List.getElem?_map]
  by_cases hi : i < values.length
  · rw [List.getElem?_range hi, List.getElem?_eq_getElem hi]
    rfl
  · rw [List.getElem?_eq_none (Nat.not_lt.1 hi), List.getElem?_eq_none (by simpa using hi)]
    rfl

theorem WriteFrame.register_of_consecutive {register : UInt8} {values : List UInt8}
    {frame : WriteFrame} (h : ofPairs? (consecutive register values) = some frame) :
    frame.register = register := by
  cases values with
  | nil => simp [consecutive, ofPairs?] at h
  | cons value values =>
    simp only [consecutive, ofPairs?, Option.some.injEq] at h
    exact h ▸ rfl

namespace RegisterFile

theorem set_set (file : RegisterFile) (address first second : UInt8) :
    (file.set address first).set address second = file.set address second := by
  apply ext_get
  intro other
  rw [get_set, get_set, get_set]
  split <;> rfl

theorem set_get (file : RegisterFile) (address : UInt8) :
    file.set address (file.get address) = file := by
  apply ext_get
  intro other
  rw [get_set]
  split
  · next h => rw [h]
  · rfl

theorem bits_set_congr {chosen : RegisterBits} {file other : RegisterFile}
    (h : file.bits chosen = other.bits chosen) {address value value' : UInt8}
    (hvalue : value &&& chosen address = value' &&& chosen address) :
    (file.set address value).bits chosen = (other.set address value').bits chosen := by
  funext register
  have h := congrFun h register
  simp only [bits, get_set] at h ⊢
  split
  · next he => rw [← he, hvalue]
  · exact h

/-- Stores values into the registers they are paired with, one after another. -/
def setPairs (file : RegisterFile) (pairs : List (UInt8 × UInt8)) : RegisterFile :=
  pairs.foldl (fun file pair => file.set pair.1 pair.2) file

theorem get_setPairs_outside {pairs : List (UInt8 × UInt8)} {address : UInt8}
    (h : ∀ pair ∈ pairs, pair.1 ≠ address) (file : RegisterFile) :
    (file.setPairs pairs).get address = file.get address := by
  induction pairs generalizing file with
  | nil => rfl
  | cons pair pairs ih =>
    apply (ih (fun other hother => h other (List.mem_cons_of_mem _ hother)) _).trans
    exact get_set_of_ne _ _ (h pair List.mem_cons_self)

/-- Of pairs with different registers every one is there in the end. -/
theorem get_setPairs_inside {pairs : List (UInt8 × UInt8)}
    (hdistinct : (pairs.map Prod.fst).Nodup) {pair : UInt8 × UInt8} (h : pair ∈ pairs)
    (file : RegisterFile) : (file.setPairs pairs).get pair.1 = pair.2 := by
  induction pairs generalizing file with
  | nil => cases h
  | cons first pairs ih =>
    obtain ⟨hfirst, hrest⟩ := List.nodup_cons.1 hdistinct
    rcases List.mem_cons.1 h with rfl | h
    · apply (get_setPairs_outside _ _).trans (get_set_self file pair.1 pair.2)
      intro other hother he
      exact hfirst (he ▸ List.mem_map_of_mem hother)
    · exact ih hrest h _

theorem setPairs_consecutive (file : RegisterFile) (address : UInt8) (values : List UInt8) :
    file.setPairs (consecutive address values) = file.setBlock address values := by
  induction values generalizing file address with
  | nil => rfl
  | cons value values ih => exact ih _ _

theorem bits_setPairs {chosen : RegisterBits} {file : RegisterFile}
    {pairs : List (UInt8 × UInt8)}
    (h : ∀ pair ∈ pairs, pair.2 &&& chosen pair.1 = file.get pair.1 &&& chosen pair.1) :
    (file.setPairs pairs).bits chosen = file.bits chosen := by
  induction pairs generalizing file with
  | nil => rfl
  | cons pair pairs ih =>
    have hset : (file.set pair.1 pair.2).bits chosen = file.bits chosen :=
      bits_set (h pair List.mem_cons_self)
    apply Eq.trans _ hset
    apply ih
    intro other hother
    rw [h other (List.mem_cons_of_mem _ hother)]
    exact (congrFun hset other.1).symm

theorem get_setBlock_outside {address other : UInt8} {values : List UInt8}
    (h : ∀ i < values.length, address + UInt8.ofNat i ≠ other) (file : RegisterFile) :
    (file.setBlock address values).get other = file.get other := by
  induction values generalizing file address with
  | nil => rfl
  | cons value values ih =>
    rw [setBlock, ih]
    · exact get_set_of_ne _ _ (by simpa using h 0 (by simp))
    · intro i hi
      have hnext := h (i + 1) (by simpa using hi)
      rwa [UInt8.ofNat_add, UInt8.add_comm (UInt8.ofNat i), ← UInt8.add_assoc] at hnext

theorem get_setBlock_inside {address : UInt8} {values : List UInt8} {i : Nat}
    (h : i < values.length) (hfit : values.length ≤ 256) (file : RegisterFile) :
    (file.setBlock address values).get (address + UInt8.ofNat i) = values[i] := by
  induction values generalizing file address i with
  | nil => simp at h
  | cons value values ih =>
    simp only [List.length_cons] at h hfit
    cases i with
    | zero =>
      rw [setBlock, get_setBlock_outside]
      · simp
      · intro i hi he
        have he := congrArg UInt8.toNat he
        simp at he
        omega
    | succ i =>
      rw [setBlock, UInt8.ofNat_add, UInt8.add_comm (UInt8.ofNat i), ← UInt8.add_assoc]
      exact ih (by omega) (by omega) _

theorem block_setBlock {length : Nat} (file : RegisterFile) (address : UInt8)
    (values : Vector UInt8 length) (hfit : length ≤ 256) :
    (file.setBlock address values.toList).block address length = values := by
  apply Vector.ext
  intro i hi
  simp only [block, Vector.getElem_ofFn]
  rw [get_setBlock_inside (by simpa using hi) (by simpa using hfit)]
  simp

theorem config_setBlock (file : RegisterFile) (config : Config) (block : ConfigBlock) :
    (file.setBlock Register.ctrlGas1 (config.patch block).toList).config = config := by
  rw [RegisterFile.config, block_setBlock _ _ _ (by decide), Config.ofBlock_patch]

end RegisterFile

namespace Device

/-- The chip takes every value that it is given, except for the mode in it. -/
theorem store_registers (device : Device) (address value : UInt8) :
    ∃ taken, (device.store address value).registers = device.registers.set address taken ∧
      ∀ {chosen : RegisterBits}, RegisterBits.mode.Apart chosen →
        taken &&& chosen address = value &&& chosen address := by
  have hmode (bits : UInt8) {chosen : RegisterBits} (h : RegisterBits.mode.Apart chosen) :
      Register.mode.set value bits &&& chosen Register.ctrlMeas =
        value &&& chosen Register.ctrlMeas :=
    BitField.set_and_of_apart (h Register.ctrlMeas) value bits
  rw [store]
  split
  · next he =>
    subst he
    split
    · exact ⟨_, rfl, hmode _⟩
    · split
      · exact ⟨_, rfl, hmode _⟩
      · exact ⟨value, rfl, fun _ => rfl⟩
  · exact ⟨value, rfl, fun _ => rfl⟩

theorem storeAll_bits {chosen : RegisterBits} (hmode : RegisterBits.mode.Apart chosen)
    (device : Device) (pairs : List (UInt8 × UInt8)) :
    (device.storeAll pairs).registers.bits chosen =
      (device.registers.setPairs pairs).bits chosen := by
  suffices h : ∀ file : RegisterFile, device.registers.bits chosen = file.bits chosen →
      (device.storeAll pairs).registers.bits chosen = (file.setPairs pairs).bits chosen from
    h device.registers rfl
  induction pairs generalizing device with
  | nil => exact fun _ h => h
  | cons pair pairs ih =>
    intro file h
    obtain ⟨taken, hregisters, htaken⟩ := device.store_registers pair.1 pair.2
    apply ih (device.store pair.1 pair.2) (file.set pair.1 pair.2)
    rw [hregisters]
    exact RegisterFile.bits_set_congr h (htaken hmode)

end Device

end AirMonitor
