import AirMonitor.Proofs.DriverHistory
import AirMonitor.Proofs.Provenance

namespace AirMonitor

namespace FieldBuffer

theorem slots_store (buffer : FieldBuffer) (decoded : List Field) {i : Nat} (hfit : i < 3)
    (h : i < (inMeasurementOrder (decoded.filter Field.isNew)).length) :
    (buffer.store decoded).slots[i]? = (inMeasurementOrder (decoded.filter Field.isNew))[i]? := by
  rw [store, Vector.getElem?_ofFn, dif_pos hfit]
  simp only
  rw [List.getElem?_eq_getElem h, Option.getD_some]

/-- A buffer whose fields have been asked for so many times since they were stored. -/
structure Asked (stored : FieldBuffer) (times : Nat) (buffer : FieldBuffer) : Prop where
  slots : buffer.slots = stored.slots
  count : buffer.count = stored.count
  cursor : buffer.cursor.val = min times (stored.count - 1)

/-- The field that a slot holds and how many wait behind it, when the fields are asked for so many
times before. -/
def delivery (buffer : FieldBuffer) (times : Nat) : Option Field × Nat :=
  (buffer.slots[min (times + 1) buffer.count - 1]?, buffer.count - min (times + 1) buffer.count)

theorem Asked.next {stored buffer : FieldBuffer} {times : Nat} (h : Asked stored times buffer)
    (hcount : stored.count ≤ 3) :
    (some buffer.next.1.1, buffer.next.1.2) = stored.delivery times ∧
      Asked stored (times + 1) buffer.next.2 := by
  obtain ⟨slots, count, cursor⟩ := buffer
  obtain ⟨rfl, rfl, hcursor⟩ := h
  have hcursor : cursor.val = min times (stored.count - 1) := hcursor
  have hslot : stored.slots[min (times + 1) stored.count - 1]? = some stored.slots[cursor] := by
    have hindex : min (times + 1) stored.count - 1 = cursor.val := by omega
    rw [hindex]
    exact Vector.getElem?_eq_getElem cursor.isLt
  rw [FieldBuffer.next, delivery, hslot]
  simp only
  split
  · next hmore =>
    have hrest : stored.count - (cursor.val + 1) =
        stored.count - min (times + 1) stored.count := by omega
    have hstep : (cursor + 1).val = min (times + 1) (stored.count - 1) := by
      rw [Fin.val_add_one_of_lt' (by omega)]
      omega
    exact ⟨by rw [hrest], rfl, rfl, hstep⟩
  · next hlast =>
    have hrest : stored.count - min (times + 1) stored.count = 0 := by omega
    have hstay : cursor.val = min (times + 1) (stored.count - 1) := by omega
    exact ⟨by rw [hrest], rfl, rfl, hstay⟩

end FieldBuffer

theorem Link.readFields_length [Transport σ] {mode : Mode} {link : σ} {blocks : List FieldBlock}
    (h : (readFields mode link).1 = .ok blocks) : blocks.length ≤ 3 := by
  have hblocks {count : Nat} (h : (readBlocks count link).1 = .ok blocks) :
      blocks.length = count := by
    rw [readBlocks, bind_apply] at h
    cases hr : (read Register.field0 (17 * count) link).1 with
    | error e => simp [hr] at h
    | ok bytes =>
      simp only [hr, pure_apply, Except.ok.injEq] at h
      rw [← h, List.length_map, List.length_finRange]
  cases mode with
  | sleep =>
    cases h
    exact Nat.zero_le 3
  | forced => exact (hblocks h).trans_le (by decide)
  | parallel => exact Nat.le_of_eq (hblocks h)
  | sequential => exact Nat.le_of_eq (hblocks h)

namespace Session

variable {σ : Type} [Transport σ]

theorem length_newFields {s : Session σ} {blocks : List FieldBlock}
    (h : (Link.readFields s.driver.lastMode s.link).1 = .ok blocks) :
    s.newFields.length =
      blocks.countP fun block => FieldStatus.has FieldStatus.newData (block.get 0) := by
  rw [newFields, h]
  apply (inMeasurementOrder_perm _).length_eq.trans
  rw [← List.countP_eq_length_filter, List.countP_map]
  exact List.countP_congr fun block _ => by
    rw [Function.comp_apply, Field.isNew_ofBlock]

theorem newFields_length_le (s : Session σ) : s.newFields.length ≤ 3 := by
  cases hr : (Link.readFields s.driver.lastMode s.link).1 with
  | error e =>
    rw [newFields, hr]
    exact Nat.zero_le 3
  | ok blocks =>
    rw [length_newFields hr]
    exact List.countP_le_length.trans (Link.readFields_length hr)

theorem fetch_slots (s : Session σ) {i : Nat} (h : i < s.newFields.length) :
    (fetch s).2.driver.buffer.slots[i]? = s.newFields[i]? := by
  have hfit : i < 3 := Nat.lt_of_lt_of_le h s.newFields_length_le
  have hran : (fetch s).2.driver = s.driver.withoutFields.conclude Driver.withFields
      (Link.readFields s.driver.lastMode s.link).1 := rfl
  rw [hran]
  rw [newFields] at h ⊢
  cases hr : (Link.readFields s.driver.lastMode s.link).1 with
  | error e => simp [hr] at h
  | ok blocks =>
    rw [hr] at h
    exact FieldBuffer.slots_store _ _ hfit h

/-- The buffer changes only when fields are fetched or asked for. -/
theorem Leads.buffer {s : Session σ} {operation : Operation} {reply : Except SensorError Reply}
    {driver : Driver} (h : Leads s operation reply driver) (hfetch : operation ≠ .fetch)
    (hnext : operation ≠ .nextField) : driver.buffer = s.driver.buffer := by
  cases h with
  | delivered => exact (hnext rfl).elim
  | fetched h count => exact (hfetch rfl).elim
  | unfetched e => exact (hfetch rfl).elim
  | started mode =>
    rw [Driver.withMode]
    split <;> rfl
  | _ => rfl

variable [Settling σ]

/-- What an operation delivers to a caller outside forced mode. -/
def delivered? (operation : Operation) (s : Session σ) : Option (Field × Nat) :=
  match operation, (perform operation s).1 with
  | .nextField, .ok (.field field remaining) =>
    if s.driver.lastMode = .forced then none else some (field, remaining)
  | _, _ => none

/-- What a run delivers outside forced mode, first to last. -/
def deliveries : List Operation → Session σ → List (Field × Nat)
  | [], _ => []
  | operation :: rest, s =>
    (delivered? operation s).toList ++ deliveries rest (perform operation s).2

theorem delivered?_nextField (s : Session σ) : delivered? .nextField s =
    if s.driver.lastMode = .forced then none else some s.driver.buffer.next.1 := by
  change (if s.driver.lastMode = .forced then none
    else some (s.driver.nextField.1.1, s.driver.nextField.1.2)) = _
  split
  · rfl
  · next h => rw [Driver.nextField, if_neg h]

theorem delivered?_of_others {operation : Operation} (h : operation ≠ .nextField)
    (s : Session σ) : delivered? operation s = none := by
  cases operation with
  | nextField => exact (h rfl).elim
  | _ => rfl

theorem deliveries_nextField {s : Session σ} (h : s.driver.lastMode ≠ .forced)
    (rest : List Operation) :
    deliveries (.nextField :: rest) s =
      s.driver.buffer.next.1 :: deliveries rest (perform .nextField s).2 := by
  rw [deliveries, delivered?_nextField, if_neg h]
  rfl

theorem deliveries_of_others {operation : Operation} (h : operation ≠ .nextField) (s : Session σ)
    (rest : List Operation) :
    deliveries (operation :: rest) s = deliveries rest (perform operation s).2 := by
  rw [deliveries, delivered?_of_others h]
  rfl

theorem nextField_buffer (s : Session σ) : (perform .nextField s).2.driver.buffer =
    if s.driver.lastMode = .forced then s.driver.buffer else s.driver.buffer.next.2 := by
  change s.driver.nextField.2.buffer = _
  rw [Driver.nextField]
  split <;> rfl

theorem perform_asked {stored : FieldBuffer} (hcount : stored.count ≤ 3) {operation : Operation}
    (hfetch : operation ≠ .fetch) {s : Session σ} {times : Nat}
    (h : stored.Asked times s.driver.buffer) :
    (delivered? operation s).toList.map (Prod.map some id) =
      (List.range' times (delivered? operation s).toList.length).map stored.delivery ∧
    stored.Asked (times + (delivered? operation s).toList.length)
      (perform operation s).2.driver.buffer := by
  by_cases hnext : operation = .nextField
  · subst hnext
    rw [delivered?_nextField, nextField_buffer]
    split
    · exact ⟨rfl, h⟩
    · obtain ⟨hdelivery, hasked⟩ := h.next hcount
      exact ⟨congrArg (fun delivery => [delivery]) hdelivery, hasked⟩
  · rw [delivered?_of_others hnext, (perform_leads operation s).buffer hfetch hnext]
    exact ⟨rfl, h⟩

theorem deliveries_asked {stored : FieldBuffer} (hcount : stored.count ≤ 3)
    {later : List Operation} (hlater : ∀ operation ∈ later, operation ≠ .fetch) {s : Session σ}
    {times : Nat} (h : stored.Asked times s.driver.buffer) :
    (deliveries later s).map (Prod.map some id) =
      (List.range' times (deliveries later s).length).map stored.delivery ∧
    stored.Asked (times + (deliveries later s).length) (performAll later s).2.driver.buffer := by
  induction later generalizing s times with
  | nil => exact ⟨rfl, h⟩
  | cons operation rest ih =>
    obtain ⟨hfirst, hasked⟩ := perform_asked hcount (hlater operation List.mem_cons_self) h
    -- The rest goes on with the cursor, and so with the numbers, that the first one leaves.
    obtain ⟨hrest, hended⟩ :=
      ih (fun other hother => hlater other (List.mem_cons_of_mem _ hother)) hasked
    rw [deliveries, List.length_append, List.map_append, performAll_cons, hfirst, hrest,
      ← List.map_append, ← Nat.add_assoc]
    refine ⟨?_, hended⟩
    rw [List.range'_append_1]

theorem countP_range_lt (length bound : Nat) :
    (List.range length).countP (· < bound) = min length bound := by
  induction length with
  | zero => simp
  | succ length ih =>
    rw [List.range_succ, List.countP_append, ih, List.countP_singleton]
    split
    · next h =>
      have h : length < bound := of_decide_eq_true h
      omega
    · next h =>
      have h : ¬ length < bound := fun hlt => h (decide_eq_true hlt)
      omega

/-- Before the last field is repeated, each field is handed out once. -/
theorem take_of_deliveries {delivered : List (Field × Nat)} {slots : Vector Field 3}
    {fields : List Field} (hall : delivered.map (Prod.map some id) =
      (List.range delivered.length).map fun calls =>
        (slots[min (calls + 1) fields.length - 1]?, fields.length - min (calls + 1) fields.length))
    (hslots : ∀ i, i < fields.length → slots[i]? = fields[i]?) :
    (delivered.take fields.length).map Prod.fst = fields.take delivered.length := by
  apply List.ext_getElem?
  intro i
  rw [List.getElem?_map, List.getElem?_take, List.getElem?_take]
  by_cases hfield : i < fields.length
  · rw [if_pos hfield]
    by_cases hcall : i < delivered.length
    · have hi := congrArg (fun deliveries => deliveries[i]?) hall
      have hslot : min (i + 1) fields.length - 1 = i := by omega
      simp only [List.getElem?_map, List.getElem?_range hcall, Option.map_some, hslot] at hi
      rw [hslots i hfield] at hi
      rw [if_pos hcall]
      rw [List.getElem?_eq_getElem hcall] at hi ⊢
      exact congrArg Prod.fst (Option.some.inj hi)
    · rw [if_neg hcall, List.getElem?_eq_none (Nat.not_lt.1 hcall), Option.map_none]
  · rw [if_neg hfield, List.getElem?_eq_none (Nat.not_lt.1 hfield), Option.map_none, ite_self]

/-- The first slots are handed out one after another, and the last of them over and over. -/
theorem fields_delivered (s : Session σ) {count : Nat} (h : (fetch s).1 = .ok count)
    {later : List Operation} (hlater : ∀ operation ∈ later, operation ≠ .fetch) :
    let stored := (fetch s).2.driver.buffer
    let delivered := deliveries later (fetch s).2
    let after := (performAll later (fetch s).2).2
    delivered.map (fun delivery => (some delivery.1, delivery.2)) =
      (List.range delivered.length).map (fun calls =>
        (stored.slots[min (calls + 1) count - 1]?, count - min (calls + 1) count)) ∧
    (delivered.take count).map Prod.fst = s.newFields.take delivered.length ∧
    (∀ base, WithinHalfTurn base s.newFields →
      s.newFields.Pairwise fun a b => a.offset base ≤ b.offset base) ∧
    delivered.countP (fun delivery => delivery.2 ≠ 0) = min delivered.length (count - 1) ∧
    after.driver.buffer.slots = stored.slots ∧
    (after.driver.lastMode = .forced →
      (nextField after).1 = (after.driver.buffer.first, 0) ∧ (nextField after).2 = after) := by
  intro stored delivered after
  have hcount : stored.count = s.newFields.length := (fetch_buffer s).1
  have hreply : s.newFields.length = count := by
    have hran := fetch_reply s
    rw [h] at hran
    cases hr : (Link.readFields s.driver.lastMode s.link).1 with
    | error e => simp [hr, Except.map] at hran
    | ok blocks =>
      rw [hr] at hran
      exact (Except.ok.inj hran).symm
  have hstart : stored.Asked 0 (fetch s).2.driver.buffer :=
    ⟨rfl, rfl, by rw [(fetch_buffer s).2.1, Nat.zero_min]; rfl⟩
  obtain ⟨hall, hended⟩ := deliveries_asked (hcount ▸ s.newFields_length_le) hlater hstart
  rw [← List.range_eq_range'] at hall
  have hdelivery : stored.delivery = fun calls =>
      (stored.slots[min (calls + 1) count - 1]?, count - min (calls + 1) count) := by
    funext calls
    rw [FieldBuffer.delivery, hcount, hreply]
  rw [hdelivery] at hall
  refine ⟨hall, ?_, fun base => newFields_sorted, ?_, hended.slots, ?_⟩
  · rw [← hreply] at hall ⊢
    exact take_of_deliveries hall fun i hi => fetch_slots s hi
  · have hmore := congrArg (List.countP fun delivery => delivery.2 ≠ 0) hall
    rw [List.countP_map, List.countP_map] at hmore
    apply hmore.trans
    rw [← countP_range_lt]
    apply List.countP_congr
    intro calls _
    simp
    omega
  · intro hforced
    rw [nextField, Driver.nextField, if_pos hforced]
    exact ⟨rfl, rfl⟩

/-- A chip in parallel mode with two new fields, the older one in the third place. -/
def measuring : Session Device where
  driver := { lastMode := .parallel }
  link :=
    { registers := (RegisterFile.zero.setBlock Register.field0 [0x80, 7]).setBlock 0x3F [0x80, 6] }

/-- The fields are asked for once more than there are, and again in forced mode. -/
def askedOften : List Operation :=
  [.nextField, .nextField, .nextField, .setMode .forced, .nextField]

set_option maxRecDepth 100000 in
theorem fetch_measuring : (fetch measuring).1 = .ok 2 := by
  have hnew : (Link.readFields measuring.driver.lastMode measuring.link).1.map (fun blocks =>
      blocks.countP fun block => FieldStatus.has FieldStatus.newData (block.get 0)) = .ok 2 := by
    cbv
  apply (fetch_ok_iff measuring (by decide)).2
  cases hr : (Link.readFields measuring.driver.lastMode measuring.link).1 with
  | error e =>
    rw [hr] at hnew
    cases hnew
  | ok blocks =>
    rw [hr] at hnew
    exact (length_newFields hr).trans (Except.ok.inj hnew)

set_option maxRecDepth 100000 in
theorem length_deliveries_measuring :
    (deliveries askedOften (fetch measuring).2).length = 3 := by
  have hasked {s : Session Device} (h : s.driver.lastMode = .parallel) (rest : List Operation) :
      (deliveries (.nextField :: rest) s).length =
        (deliveries rest (perform .nextField s).2).length + 1 ∧
      (perform .nextField s).2.driver.lastMode = .parallel := by
    rw [deliveries_nextField (by simp [h])]
    exact ⟨rfl, (perform_leads .nextField s).remembered.lastMode.trans h⟩
  have hforced {s : Session Device} (hlink : s.link = measuring.link.counted) :
      (perform (.setMode .forced) s).2.driver.lastMode = .forced := by
    have hstarted : (perform (.setMode .forced) s).1 = .ok .done := by
      change (Link.changeMode .forced s.link).1.map _ = _
      rw [hlink]
      cbv
    rw [(perform_leads (.setMode .forced) s).remembered.lastMode, hstarted]
    rfl
  have hfetched : (fetch measuring).2.driver.lastMode = .parallel :=
    (perform_leads .fetch measuring).remembered.lastMode
  obtain ⟨hfirst, hsecond⟩ := hasked hfetched [.nextField, .nextField, .setMode .forced, .nextField]
  obtain ⟨hnext, hthird⟩ := hasked hsecond [.nextField, .setMode .forced, .nextField]
  rw [askedOften, hfirst, hnext, (hasked hthird _).1, deliveries_of_others (by simp),
    deliveries, delivered?_nextField, if_pos (hforced rfl)]
  rfl

theorem fields_delivered_measuring :
    (fetch measuring).1 = .ok 2 ∧ (∀ operation ∈ askedOften, operation ≠ .fetch) ∧
    (deliveries askedOften (fetch measuring).2).map Prod.snd = [1, 0, 0] := by
  have hlater : ∀ operation ∈ askedOften, operation ≠ .fetch := by
    simp [askedOften]
  obtain ⟨hall, _⟩ := fields_delivered measuring fetch_measuring hlater
  have hremaining := congrArg (List.map Prod.snd) hall
  rw [List.map_map, List.map_map, length_deliveries_measuring] at hremaining
  exact ⟨fetch_measuring, hlater, hremaining⟩

end Session

end AirMonitor
