import AirMonitor.Proofs.CheckedArithmetic
import AirMonitor.Proofs.ConfigMirror

/-!
How pairs of registers and values go over the bus. The frame they are put into is taken apart into
the same pairs, so that the chip stores them one after another, and of several pairs for one
register the last one stays.
-/

namespace AirMonitor

namespace Device

/-- Every register but the one of the mode takes what is stored in it, and that one does as well if
the chip neither ignores a request to sleep nor leaves a mode by itself. -/
def Takes (device : Device) (address : UInt8) : Prop :=
  address = Register.ctrlMeas → device.stuck = 0 ∧ device.autoSleep = false

variable {device : Device} {address : UInt8}

theorem Takes.store (h : device.Takes address) (other value : UInt8) :
    (device.store other value).Takes address := by
  intro he
  obtain ⟨hstuck, hstays⟩ := h he
  rw [Device.store]
  split
  · split
    · exact ⟨congrArg (· - 1) hstuck, hstays⟩
    · split <;> exact ⟨hstuck, hstays⟩
  · exact ⟨hstuck, hstays⟩

theorem Takes.get_store (h : device.Takes address) (other value : UInt8) :
    (device.store other value).registers.get address =
      if other = address then value else device.registers.get address := by
  by_cases he : other = address
  · subst he
    rw [if_pos rfl]
    rw [Device.store]
    split
    · next hmeas =>
      obtain ⟨hstuck, hstays⟩ := h hmeas
      simp [hstuck, hstays]
    · exact RegisterFile.get_set_self _ _ _
  · obtain ⟨taken, hstored, -⟩ := device.store_registers other value
    rw [if_neg he, hstored, RegisterFile.get_set_of_ne _ _ he]

/-- The last pair for a register is looked up first among the pairs in reverse. -/
theorem Takes.get_storeAll (h : device.Takes address) (pairs : List (UInt8 × UInt8)) :
    (device.storeAll pairs).registers.get address =
      (pairs.reverse.lookup address).getD (device.registers.get address) := by
  induction pairs generalizing device with
  | nil => rfl
  | cons pair pairs ih =>
    rw [List.reverse_cons, List.lookup_append, Option.getD_or]
    apply (ih (h.store pair.1 pair.2)).trans
    apply congrArg
    rw [h.get_store, List.lookup_cons]
    by_cases he : pair.1 = address
    · rw [if_pos he, he]
      simp
    · rw [if_neg he]
      have hne : (address == pair.1) = false := by simpa using Ne.symm he
      rw [hne]
      rfl

end Device

theorem WriteFrame.length_of_ofPairs? {pairs : List (UInt8 × UInt8)} {frame : WriteFrame}
    (h : ofPairs? pairs = some frame) : frame.data.length = 2 * pairs.length - 1 := by
  cases pairs with
  | nil => cases h
  | cons pair pairs =>
    obtain rfl := Option.some.inj h
    rw [List.length_cons, List.length_cons, length_interleave]
    omega

/-- The buffer in which a frame is built is cut off behind the last pair. -/
theorem Checked.frame?_of_ofPairs? {pairs : List (UInt8 × UInt8)} {frame : WriteFrame}
    (h : WriteFrame.ofPairs? pairs = some frame) (hfits : pairs.length ≤ Register.maxWritePairs) :
    frame? pairs = some frame := by
  cases pairs with
  | nil => cases h
  | cons pair pairs =>
    obtain rfl := Option.some.inj h
    exact frame?_cons pair hfits

/-- So many pairs as one transaction takes go over the bus in one frame. It holds these pairs and
nothing else, and if it is carried the chip has stored one after another; if not, the chip is as it
was. Any other number of pairs does not go over the bus. -/
theorem Session.writeRegisters_lossless (pairs : List (UInt8 × UInt8))
    (s : Session (Traced Device)) :
    let chip := s.link.inner
    let written := writeRegisters pairs s
    (1 ≤ pairs.length → pairs.length ≤ 10 → ∃ frame,
      Checked.frame? pairs = some frame ∧ frame.pairs = pairs ∧
      frame.data.length = 2 * pairs.length - 1 ∧
      ((chip.failWrites || chip.failAt chip.transactions) = false →
        written.1 = .ok () ∧ written.2.link.events = s.link.events ++ [.write frame true] ∧
        written.2.link.inner = chip.counted.storeAll pairs ∧
        ∀ address, chip.Takes address → written.2.link.inner.registers.get address =
          (pairs.reverse.lookup address).getD (chip.registers.get address)) ∧
      ((chip.failWrites || chip.failAt chip.transactions) = true →
        written.1 = .error .commFailure ∧
        written.2.link.events = s.link.events ++ [.write frame false] ∧
        written.2.link.inner.registers = chip.registers)) ∧
    (pairs.length = 0 ∨ 10 < pairs.length →
      written.1 = .error .invalidLength ∧ written.2.link = s.link) := by
  intro chip written
  have hlink : written.2.link = (Link.write pairs s.link).2 := rfl
  have hresult : written.1 = (Link.write pairs s.link).1 := rfl
  rw [hlink, hresult]
  constructor
  · intro hsome hfits
    obtain ⟨pair, rest, rfl⟩ := List.exists_cons_of_length_pos hsome
    have hframe : WriteFrame.ofPairs? (pair :: rest) = some _ := rfl
    refine ⟨_, Checked.frame?_of_ofPairs? hframe hfits, WriteFrame.pairs_of_ofPairs? hframe,
      WriteFrame.length_of_ofPairs? hframe, ?_, ?_⟩
    · intro hcarried
      rw [Link.write_traced hframe hfits, if_neg (by rw [hcarried]; decide)]
      refine ⟨rfl, rfl, rfl, fun address htakes => ?_⟩
      have hcounted : chip.counted.Takes address := htakes
      exact hcounted.get_storeAll (pair :: rest)
    · intro hfailed
      rw [Link.write_traced hframe hfits, if_pos hfailed]
      exact ⟨rfl, rfl, rfl⟩
  · intro hlength
    rw [Link.write_refused (hlength.imp_left List.length_eq_zero_iff.1)]
    exact ⟨rfl, rfl⟩

theorem Session.writeRegisters_lossless_twice :
    let s : Session (Traced Device) := { link := ⟨{ registers := .zero }, []⟩ }
    let pairs : List (UInt8 × UInt8) :=
      [(Register.heaterTarget0, 1), (Register.heaterWait0, 2), (Register.heaterTarget0, 3)]
    (1 ≤ pairs.length ∧ pairs.length ≤ 10) ∧
    s.link.inner.Takes Register.heaterTarget0 ∧
    (writeRegisters pairs s).1 = .ok () ∧
    (writeRegisters pairs s).2.link.inner.registers.get Register.heaterTarget0 = 3 := by
  intro s pairs
  obtain ⟨frame, -, -, -, hcarried, -⟩ :=
    (writeRegisters_lossless pairs s).1 (by decide) (by decide)
  obtain ⟨hok, -, -, hget⟩ := hcarried rfl
  have htakes : s.link.inner.Takes Register.heaterTarget0 := fun _ => ⟨rfl, rfl⟩
  exact ⟨by decide, htakes, hok, hget Register.heaterTarget0 htakes⟩

end AirMonitor
