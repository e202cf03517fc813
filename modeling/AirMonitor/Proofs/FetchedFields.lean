import AirMonitor.Proofs.Delivery
import AirMonitor.Proofs.FieldLayout

namespace AirMonitor

def Mode.fieldCount : Mode → Nat
  | .sleep => 0
  | .forced => 1
  | .parallel | .sequential => Register.fieldCount

/-- The field registers that a mode fills, one block behind the other. -/
def RegisterFile.fieldBlocks (mode : Mode) (file : RegisterFile) : List FieldBlock :=
  (List.range mode.fieldCount).map fun i => file.block (Register.field0 + UInt8.ofNat (17 * i)) 17

theorem FieldBlock.slice_block (file : RegisterFile) (register : UInt8) {count : Nat}
    (i : Fin count) : FieldBlock.slice (file.block register (17 * count)) i =
      file.block (register + UInt8.ofNat (17 * i.val)) 17 := by
  apply Vector.ext
  intro j hj
  simp only [slice, RegisterFile.block, Vector.getElem_ofFn, UInt8.ofNat_add, UInt8.add_assoc]

namespace Link

/-- Nothing but one read of the field registers goes over the bus. -/
theorem readBlocks_run {count : Nat} (hlow : count ≠ 0) (hhigh : count ≤ Register.fieldCount)
    (t : Traced Device) :
    readBlocks count t = (.error .commFailure,
      ⟨t.inner.counted, t.events ++ [.read Register.field0 (17 * count) false]⟩) ∨
    readBlocks count t = (.ok ((List.range count).map fun i =>
        t.inner.registers.block (Register.field0 + UInt8.ofNat (17 * i)) 17),
      ⟨t.inner.counted, t.events ++ [.read Register.field0 (17 * count) true]⟩) := by
  have hlimit : Register.maxReadLength = 17 * Register.fieldCount := rfl
  rw [readBlocks, bind_apply]
  rcases read_cases Register.field0 (17 * count) t with ⟨hlength, _⟩ | hr | hr
  · omega
  · rw [hr]
    exact .inl rfl
  · have hslices : (List.finRange count).map
        (FieldBlock.slice (t.inner.registers.block Register.field0 (17 * count))) =
        (List.range count).map fun i =>
          t.inner.registers.block (Register.field0 + UInt8.ofNat (17 * i)) 17 := by
      rw [← List.map_coe_finRange_eq_range, List.map_map]
      exact List.map_congr_left fun i _ => FieldBlock.slice_block _ _ i
    rw [hr, ← hslices]
    exact .inr rfl

theorem readFields_run {mode : Mode} (hmode : mode ≠ .sleep) (t : Traced Device) :
    readFields mode t = (.error .commFailure,
      ⟨t.inner.counted, t.events ++ [.read Register.field0 (17 * mode.fieldCount) false]⟩) ∨
    readFields mode t = (.ok (t.inner.registers.fieldBlocks mode),
      ⟨t.inner.counted, t.events ++ [.read Register.field0 (17 * mode.fieldCount) true]⟩) := by
  cases mode with
  | sleep => exact (hmode rfl).elim
  | forced => exact readBlocks_run (by decide) (by decide) t
  | parallel => exact readBlocks_run (by decide) (by decide) t
  | sequential => exact readBlocks_run (by decide) (by decide) t

end Link

/-- New fields fill the first slots, and the slots behind them stay as they are. -/
theorem FieldBuffer.toList_store (buffer : FieldBuffer) {decoded fresh : List Field}
    (hfresh : inMeasurementOrder (decoded.filter Field.isNew) = fresh) (hfit : fresh.length ≤ 3) :
    (buffer.store decoded).slots.toList = fresh ++ buffer.slots.toList.drop fresh.length := by
  apply List.ext_getElem?
  intro i
  rw [List.getElem?_append, List.getElem?_drop, Vector.getElem?_toList]
  split
  · next hi =>
    subst hfresh
    exact buffer.slots_store decoded (Nat.lt_of_lt_of_le hi hfit) hi
  · next hi =>
    have hplace : fresh.length + (i - fresh.length) = i := by omega
    rw [hplace, Vector.getElem?_toList, store, hfresh]
    by_cases hslot : i < 3
    · rw [Vector.getElem?_ofFn, dif_pos hslot, Vector.getElem?_eq_getElem hslot]
      simp only
      rw [List.getElem?_eq_none (Nat.not_lt.1 hi)]
      rfl
    · rw [Vector.getElem?_eq_none (Nat.not_lt.1 hslot),
        Vector.getElem?_eq_none (Nat.not_lt.1 hslot)]

namespace Session

/-- The fields in the blocks that the chip marked as new. -/
def freshFields (s : Session (Traced Device)) : List Field :=
  ((s.registers.fieldBlocks s.driver.lastMode).filter FieldBlock.isNew).map
    (Field.ofBlock s.driver.variant s.driver.calibration)

theorem filter_isNew (s : Session (Traced Device)) :
    ((s.registers.fieldBlocks s.driver.lastMode).map
      (Field.ofBlock s.driver.variant s.driver.calibration)).filter Field.isNew =
        s.freshFields := by
  have hnew : Field.isNew ∘ Field.ofBlock s.driver.variant s.driver.calibration =
      FieldBlock.isNew :=
    funext fun block => Field.isNew_ofBlock _ _ block
  rw [List.filter_map, hnew, freshFields]

theorem length_freshFields_le (s : Session (Traced Device)) : s.freshFields.length ≤ 3 := by
  have hcount : s.driver.lastMode.fieldCount ≤ 3 := by cases s.driver.lastMode <;> decide
  rw [freshFields, List.length_map]
  apply (List.length_filter_le _ _).trans
  rwa [RegisterFile.fieldBlocks, List.length_map, List.length_range]

/-- A fetch keeps the fields that the chip marked as new and no others, oldest first. -/
theorem fetch_keeps_new {s : Session (Traced Device)} (hmode : s.driver.lastMode ≠ .sleep)
    {count : Nat} (h : (fetch s).1 = .ok count) :
    let slots := (fetch s).2.driver.buffer.slots.toList
    (fetch s).2.link.events = s.link.events ++
      [.read Register.field0 (if s.driver.lastMode = .forced then 17 else 51) true] ∧
    count = (s.registers.fieldBlocks s.driver.lastMode).countP FieldBlock.isNew ∧
    (slots.take count).Perm s.freshFields ∧
    slots.drop count = s.driver.buffer.slots.toList.drop count ∧
    (∀ number, (slots.take count).filter (·.measurement == number) =
      s.freshFields.filter (·.measurement == number)) ∧
    ∀ base, WithinHalfTurn base s.freshFields →
      (slots.take count).Pairwise fun a b => a.offset base ≤ b.offset base := by
  intro slots
  have hlength : (if s.driver.lastMode = .forced then 17 else 51) =
      17 * s.driver.lastMode.fieldCount := by
    cases hlast : s.driver.lastMode with
    | sleep => exact (hmode hlast).elim
    | _ => rfl
  have hlink : (fetch s).2.link = (Link.readFields s.driver.lastMode s.link).2 := rfl
  have hdriver : (fetch s).2.driver = s.driver.withoutFields.conclude Driver.withFields
      (Link.readFields s.driver.lastMode s.link).1 := rfl
  have hreply := fetch_reply s
  rw [h] at hreply
  rcases Link.readFields_run hmode s.link with hr | hr
  · rw [hr] at hreply
    cases hreply
  · have hsame : (inMeasurementOrder s.freshFields).length = s.freshFields.length :=
      (inMeasurementOrder_perm _).length_eq
    have hcount : (inMeasurementOrder s.freshFields).length = count := by
      rw [newFields, hr] at hreply
      rw [← filter_isNew]
      exact (Except.ok.inj hreply).symm
    have hslots : slots = inMeasurementOrder s.freshFields ++
        s.driver.buffer.slots.toList.drop count := by
      have hstored := FieldBuffer.toList_store s.driver.buffer.clear
        (congrArg inMeasurementOrder s.filter_isNew) (hsame ▸ s.length_freshFields_le)
      rw [hcount] at hstored
      rw [hr] at hdriver
      exact (congrArg (·.buffer.slots.toList) hdriver).trans hstored
    have hkept : slots.take count = inMeasurementOrder s.freshFields := by
      rw [hslots, List.take_left' hcount]
    have hrest : slots.drop count = s.driver.buffer.slots.toList.drop count := by
      rw [hslots, List.drop_left' hcount]
    rw [hlink, hr, hlength, hkept]
    refine ⟨rfl, ?_, inMeasurementOrder_perm _, hrest, ?_, ?_⟩
    · rw [← hcount, hsame, freshFields, List.length_map, List.countP_eq_length_filter]
    · exact fun number => filter_inMeasurementOrder number _
    · exact fun base => inMeasurementOrder_sorted

/-- A chip whose counter has wrapped around between two new fields, with one between them that was
read before. -/
def wrapped : Session (Traced Device) where
  driver :=
    { lastMode := .parallel
      buffer := { FieldBuffer.initial with slots := Vector.replicate 3 { measurement := 9 } } }
  link :=
    ⟨{ registers := ((RegisterFile.zero.setBlock Register.field0 [0x80, 1]).setBlock 0x2E
        [0x00, 0]).setBlock 0x3F [0x80, 255] }, []⟩

theorem numbers_wrapped : wrapped.freshFields.map (·.measurement) = [1, 255] := by
  have hnumber : (fun field : Field => field.measurement) ∘
      Field.ofBlock wrapped.driver.variant wrapped.driver.calibration = fun block => block.get 1 :=
    rfl
  rw [freshFields, List.map_map, hnumber]
  decide +kernel

theorem fetch_wrapped : (fetch wrapped).1 = .ok 2 := by
  have hlength : wrapped.freshFields.length = 2 := by
    rw [← List.length_map, numbers_wrapped]
    rfl
  have hr : (Link.readFields wrapped.driver.lastMode wrapped.link).1 =
      .ok (wrapped.registers.fieldBlocks wrapped.driver.lastMode) := by
    rcases Link.readFields_run (by decide : wrapped.driver.lastMode ≠ .sleep) wrapped.link
      with hr | hr
    · cases hr
    · exact congrArg Prod.fst hr
  rw [fetch_reply, newFields, hr, ← hlength, ← filter_isNew]
  exact congrArg Except.ok (inMeasurementOrder_perm _).length_eq

theorem fetch_keeps_new_wrapped :
    wrapped.driver.lastMode ≠ .sleep ∧ (fetch wrapped).1 = .ok 2 ∧
    WithinHalfTurn 200 wrapped.freshFields ∧
    ((fetch wrapped).2.driver.buffer.slots.toList.take 2).Pairwise
      (fun a b => a.offset 200 ≤ b.offset 200) ∧
    (fetch wrapped).2.driver.buffer.slots.toList.drop 2 = [{ measurement := 9 }] := by
  have hmode : wrapped.driver.lastMode ≠ .sleep := by decide
  have hwindow : WithinHalfTurn 200 wrapped.freshFields := by
    intro field hfield
    have hnumber : field.measurement ∈ [1, 255] :=
      numbers_wrapped ▸ List.mem_map_of_mem hfield
    simp only [List.mem_cons, List.not_mem_nil, or_false] at hnumber
    rcases hnumber with h | h <;> rw [Field.offset, h] <;> decide
  obtain ⟨-, -, -, hrest, -, hsorted⟩ := fetch_keeps_new hmode fetch_wrapped
  exact ⟨hmode, fetch_wrapped, hwindow, hsorted 200 hwindow, hrest⟩

end Session

end AirMonitor
