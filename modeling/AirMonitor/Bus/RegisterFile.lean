namespace AirMonitor

/-- The byte registers of a peripheral; addresses wrap around. -/
structure RegisterFile where
  bytes : Vector UInt8 256

namespace RegisterFile

def zero : RegisterFile := ⟨Vector.replicate 256 0⟩

def get (file : RegisterFile) (address : UInt8) : UInt8 :=
  have h := address.toNat_lt
  file.bytes[address.toNat]

def set (file : RegisterFile) (address value : UInt8) : RegisterFile :=
  ⟨file.bytes.set address.toNat value address.toNat_lt⟩

theorem get_set (file : RegisterFile) (address value other : UInt8) :
    (file.set address value).get other = if address = other then value else file.get other := by
  simp only [get, set, Vector.getElem_set, ← UInt8.toNat_inj]

@[simp] theorem get_set_self (file : RegisterFile) (address value : UInt8) :
    (file.set address value).get address = value := by
  simp [get_set]

@[simp] theorem get_set_of_ne (file : RegisterFile) (value : UInt8) {address other : UInt8}
    (h : address ≠ other) : (file.set address value).get other = file.get other := by
  simp [get_set, h]

theorem ext_get {file other : RegisterFile} (h : ∀ address, file.get address = other.get address) :
    file = other := by
  obtain ⟨bytes⟩ := file
  obtain ⟨bytes'⟩ := other
  congr
  apply Vector.ext
  intro i hi
  have h := h (UInt8.ofNat i)
  simpa only [get, UInt8.toNat_ofNat', Nat.mod_eq_of_lt hi] using h

def block (file : RegisterFile) (address : UInt8) (length : Nat) : Vector UInt8 length :=
  Vector.ofFn fun i => file.get (address + UInt8.ofNat i)

def setBlock (file : RegisterFile) (address : UInt8) : List UInt8 → RegisterFile
  | [] => file
  | value :: rest => (file.set address value).setBlock (address + 1) rest

end RegisterFile

end AirMonitor
