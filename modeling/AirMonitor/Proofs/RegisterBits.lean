import AirMonitor.Proofs.Frame
import AirMonitor.Sensor.Device

namespace AirMonitor

namespace BitField

/-- Bits apart from a field survive a write to it. -/
theorem set_and_of_apart {field : BitField} {kept : UInt8} (h : field.mask &&& kept = 0)
    (byte value : UInt8) : field.set byte value &&& kept = byte &&& kept := by
  apply UInt8.toBitVec_inj.1
  have h := congrArg UInt8.toBitVec h
  simp only [set, UInt8.toBitVec_and, UInt8.toBitVec_or, UInt8.toBitVec_not] at h ⊢
  ext i hi
  have hi := congrArg (·[i]) h
  simp only [BitVec.getElem_and, BitVec.getElem_or, BitVec.getElem_not] at hi ⊢
  cases hf : field.mask.toBitVec[i] with
  | false => simp
  | true =>
    rw [hf] at hi
    simp_all

theorem get_congr {field : BitField} {byte other : UInt8}
    (h : byte &&& field.mask = other &&& field.mask) : field.get byte = field.get other := by
  rw [get, get, h]

theorem get_set_of_apart {field other : BitField} (h : other.mask &&& field.mask = 0)
    (byte value : UInt8) : field.get (other.set byte value) = field.get byte :=
  get_congr (set_and_of_apart h byte value)

end BitField

/-- A choice of bits in every register. -/
abbrev RegisterBits := UInt8 → UInt8

namespace RegisterBits

/-- No bit is chosen twice. -/
def Apart (bits other : RegisterBits) : Prop := ∀ address, bits address &&& other address = 0

instance (bits other : RegisterBits) : Decidable (bits.Apart other) :=
  decidable_of_iff
    (∀ i : Fin 256, bits (UInt8.ofNat i.val) &&& other (UInt8.ofNat i.val) = 0)
    ⟨fun h address => by simpa using h ⟨address.toNat, address.toNat_lt⟩, fun h _ => h _⟩

/-- The bits that say in which mode the chip is. -/
def mode : RegisterBits := fun address =>
  if address = Register.ctrlMeas then Register.mode.mask else 0

/-- The bits that the configuration is decoded from. -/
def config : RegisterBits := fun address =>
  if address = Register.ctrlGas1 then Register.noStandby.mask
  else if address = Register.ctrlHum then Register.humidityOversampling.mask
  else if address = Register.ctrlMeas then
    Register.temperatureOversampling.mask ||| Register.pressureOversampling.mask
  else if address = Register.config then Register.filter.mask ||| Register.standby.mask
  else 0

/-- The bits that a heater profile is programmed into. -/
def heater : RegisterBits := fun address =>
  if Register.heaterTarget0 ≤ address ∧ address ≤ Register.heaterShared then 0xFF
  else if address = Register.ctrlGas0 then Register.heaterOff.mask
  else if address = Register.ctrlGas1 then Register.heaterSteps.mask ||| Register.runGas.mask
  else 0

theorem mode_apart_config : mode.Apart config := by decide +kernel

theorem config_apart_mode : config.Apart mode := by decide +kernel

theorem heater_apart_mode : heater.Apart mode := by decide +kernel

theorem heater_apart_config : heater.Apart config := by decide +kernel

theorem Apart.of_and {bits chosen : RegisterBits} (h : bits.Apart chosen) {address mask : UInt8}
    (hmask : mask &&& bits address = mask) : mask &&& chosen address = 0 := by
  rw [← hmask, UInt8.and_assoc, h address, UInt8.and_zero]

theorem Apart.of_range {chosen : RegisterBits} (h : heater.Apart chosen) {address : UInt8}
    (hlow : Register.heaterTarget0 ≤ address) (hhigh : address ≤ Register.heaterShared) :
    chosen address = 0 := by
  have hall : heater address = -1 := if_pos ⟨hlow, hhigh⟩
  have h := h address
  rwa [hall, UInt8.neg_one_and] at h

end RegisterBits

namespace RegisterFile

/-- What a register file holds in the chosen bits. -/
def bits (chosen : RegisterBits) (file : RegisterFile) : RegisterBits := fun address =>
  file.get address &&& chosen address

theorem bits_set {chosen : RegisterBits} {file : RegisterFile} {address value : UInt8}
    (h : value &&& chosen address = file.get address &&& chosen address) :
    (file.set address value).bits chosen = file.bits chosen := by
  funext other
  rw [bits, bits, get_set]
  split
  · next he => rw [← he, h]
  · rfl

theorem and_of_bits {chosen : RegisterBits} {file other : RegisterFile}
    (h : file.bits chosen = other.bits chosen) {address mask : UInt8}
    (hmask : chosen address &&& mask = mask) :
    file.get address &&& mask = other.get address &&& mask := by
  have ha : file.get address &&& chosen address = other.get address &&& chosen address :=
    congrFun h address
  rw [← hmask, ← UInt8.and_assoc, ha, UInt8.and_assoc]

/-- The configuration a chip works with. -/
def config (file : RegisterFile) : Config := .ofBlock (file.block Register.ctrlGas1 5)

theorem config_eq (file : RegisterFile) : file.config =
    { temperature := .ofBits (Register.temperatureOversampling.get (file.get Register.ctrlMeas))
      pressure := .ofBits (Register.pressureOversampling.get (file.get Register.ctrlMeas))
      humidity := .ofBits (Register.humidityOversampling.get (file.get Register.ctrlHum))
      filter := .ofBits (Register.filter.get (file.get Register.config))
      standby :=
        if Register.noStandby.get (file.get Register.ctrlGas1) = 0 then
          .ofBits (Register.standby.get (file.get Register.config))
        else .none } := by
  simp only [config, Config.ofBlock, block, Vector.getElem_ofFn]
  rfl

theorem config_congr {file other : RegisterFile}
    (h : file.bits .config = other.bits .config) : file.config = other.config := by
  have htemperature : Register.temperatureOversampling.get (file.get Register.ctrlMeas) = _ :=
    BitField.get_congr (and_of_bits h rfl)
  have hpressure : Register.pressureOversampling.get (file.get Register.ctrlMeas) = _ :=
    BitField.get_congr (and_of_bits h rfl)
  have hhumidity : Register.humidityOversampling.get (file.get Register.ctrlHum) = _ :=
    BitField.get_congr (and_of_bits h rfl)
  have hfilter : Register.filter.get (file.get Register.config) = _ :=
    BitField.get_congr (and_of_bits h rfl)
  have hstandby : Register.standby.get (file.get Register.config) = _ :=
    BitField.get_congr (and_of_bits h rfl)
  have hnone : Register.noStandby.get (file.get Register.ctrlGas1) = _ :=
    BitField.get_congr (and_of_bits h rfl)
  rw [config_eq, config_eq, htemperature, hpressure, hhumidity, hfilter, hstandby, hnone]

end RegisterFile

namespace Config

theorem standby_patch (standby : Standby) (flags code : UInt8) :
    (if Register.noStandby.get (Register.noStandby.set flags standby.fields.1) = 0 then
      Standby.ofBits (Register.standby.get (Register.standby.set code standby.fields.2))
    else .none) = standby := by
  rw [BitField.get_set, BitField.get_set]
  cases standby <;> rfl

theorem ofBlock_patch (config : Config) (block : ConfigBlock) :
    ofBlock (config.patch block) = config := by
  obtain ⟨temperature, pressure, humidity, filter, standby⟩ := config
  have htemperature : Oversampling.ofBits (Register.temperatureOversampling.get
      (Register.temperatureOversampling.set block[3] temperature.bits)) = temperature := by
    rw [BitField.get_set]
    cases temperature <;> rfl
  have hpressure (byte : UInt8) : Oversampling.ofBits (Register.pressureOversampling.get
      (Register.pressureOversampling.set byte pressure.bits)) = pressure := by
    rw [BitField.get_set]
    cases pressure <;> rfl
  have hhumidity : Oversampling.ofBits (Register.humidityOversampling.get
      (Register.humidityOversampling.set block[1] humidity.bits)) = humidity := by
    rw [BitField.get_set]
    cases humidity <;> rfl
  have hfilter : Filter.ofBits (Register.filter.get
      (Register.filter.set block[4] filter.bits)) = filter := by
    rw [BitField.get_set]
    cases filter <;> rfl
  simp only [ofBlock, patch, Vector.getElem_mk, List.getElem_toArray, List.getElem_cons_zero,
    List.getElem_cons_succ, mk.injEq]
  refine ⟨?_, hpressure _, hhumidity, ?_, standby_patch _ _ _⟩
  · rw [BitField.get_set_of_apart (by decide), htemperature]
  · rw [BitField.get_set_of_apart (by decide), hfilter]

end Config

end AirMonitor
