import AirMonitor.Sensor.FieldBuffer

namespace AirMonitor

/-- How far the wrapping counter had come since `base` when the field was measured. -/
def Field.offset (base : UInt8) (field : Field) : Nat := (field.measurement - base).toNat

def WithinHalfTurn (base : UInt8) (fields : List Field) : Prop :=
  ∀ field ∈ fields, field.offset base < 128

/-- Within half a turn of the counter the shorter way round it is the way that it went. -/
theorem Field.precedes_iff {base : UInt8} {a b : Field} (ha : a.offset base < 128)
    (hb : b.offset base < 128) : a.precedes b = true ↔ a.offset base < b.offset base := by
  have hhalf : (128 : UInt8).toNat = 128 := rfl
  have hlast := b.measurement.toNat_lt
  rw [Field.precedes, decide_eq_true_iff, UInt8.le_iff_toNat_le, hhalf]
  simp only [offset, UInt8.toNat_sub] at *
  omega

def NewestFirst (base : UInt8) (fields : List Field) : Prop :=
  fields.Pairwise fun a b => b.offset base ≤ a.offset base

theorem insertNewest_newestFirst {base : UInt8} {field : Field} {fields : List Field}
    (hwindow : WithinHalfTurn base (field :: fields)) (h : NewestFirst base fields) :
    NewestFirst base (insertNewest field fields) := by
  induction fields with
  | nil => exact List.pairwise_singleton _ _
  | cons newest older ih =>
    obtain ⟨hfield, hrest⟩ := List.forall_mem_cons.1 hwindow
    obtain ⟨hnewest, holder⟩ := List.forall_mem_cons.1 hrest
    obtain ⟨hfirst, hsorted⟩ := List.pairwise_cons.1 h
    have hprecedes := Field.precedes_iff hfield hnewest
    rw [insertNewest]
    split
    · next hp =>
      apply List.pairwise_cons.2 ⟨_, ih (List.forall_mem_cons.2 ⟨hfield, holder⟩) hsorted⟩
      intro other hother
      rcases List.mem_cons.1 ((insertNewest_perm field older).mem_iff.1 hother) with rfl | hother
      · exact Nat.le_of_lt (hprecedes.1 hp)
      · exact hfirst other hother
    · next hp =>
      have hle : newest.offset base ≤ field.offset base := Nat.not_lt.1 (mt hprecedes.2 hp)
      apply List.pairwise_cons.2 ⟨_, h⟩
      intro other hother
      rcases List.mem_cons.1 hother with rfl | hother
      · exact hle
      · exact Nat.le_trans (hfirst other hother) hle

theorem foldl_newestFirst {base : UInt8} {fields sorted : List Field}
    (hwindow : WithinHalfTurn base (fields ++ sorted)) (h : NewestFirst base sorted) :
    NewestFirst base (fields.foldl (fun sorted field => insertNewest field sorted) sorted) := by
  induction fields generalizing sorted with
  | nil => exact h
  | cons field fields ih =>
    have hinsert : WithinHalfTurn base (field :: sorted) := by
      intro other hother
      apply hwindow
      rcases List.mem_cons.1 hother with rfl | hother
      · exact List.mem_cons_self
      · exact List.mem_append_right _ hother
    apply ih _ (insertNewest_newestFirst hinsert h)
    intro other hother
    rcases List.mem_append.1 hother with hother | hother
    · exact hwindow other (List.mem_cons_of_mem _ (List.mem_append_left _ hother))
    · exact hinsert other ((insertNewest_perm field sorted).mem_iff.1 hother)

/-- Fields of half a turn of the counter are put in the order they were measured in. -/
theorem inMeasurementOrder_sorted {base : UInt8} {fields : List Field}
    (hwindow : WithinHalfTurn base fields) :
    (inMeasurementOrder fields).Pairwise fun a b => a.offset base ≤ b.offset base := by
  apply List.pairwise_reverse.2
  apply foldl_newestFirst _ List.Pairwise.nil
  rwa [List.append_nil]

-- Half a turn apart is too far: either field counts as the older one.
example : (inMeasurementOrder [{ measurement := 0 }, { measurement := 128 }]).map
    (·.measurement) = [128, 0] := by decide

theorem Field.not_precedes {a b : Field} (h : a.measurement = b.measurement) :
    a.precedes b = false := by
  rw [Field.precedes, h, UInt8.sub_self]
  rfl

theorem filter_insertNewest (number : UInt8) (field : Field) (fields : List Field) :
    (insertNewest field fields).filter (·.measurement == number) =
      (field :: fields).filter (·.measurement == number) := by
  induction fields with
  | nil => rfl
  | cons newest older ih =>
    rw [insertNewest]
    split
    · next hp =>
      have hne : field.measurement ≠ newest.measurement := by
        intro he
        rw [Field.not_precedes he] at hp
        cases hp
      rw [List.filter_cons, ih, List.filter_cons, List.filter_cons, List.filter_cons]
      cases hfield : field.measurement == number with
      | false => rfl
      | true =>
        have hnewest : (newest.measurement == number) = false := by
          rw [← eq_of_beq hfield]
          exact beq_false_of_ne hne.symm
        rw [hnewest]
        rfl
    · rfl

theorem filter_foldl_insertNewest (number : UInt8) (fields sorted : List Field) :
    (fields.foldl (fun sorted field => insertNewest field sorted) sorted).filter
        (·.measurement == number) =
      (fields.reverse ++ sorted).filter (·.measurement == number) := by
  induction fields generalizing sorted with
  | nil => rfl
  | cons field fields ih =>
    rw [List.foldl_cons, ih, List.filter_append, filter_insertNewest, ← List.filter_append,
      List.reverse_cons, List.append_assoc, List.singleton_append]

/-- Fields of one number keep their order, whatever lies between them. -/
theorem filter_inMeasurementOrder (number : UInt8) (fields : List Field) :
    (inMeasurementOrder fields).filter (·.measurement == number) =
      fields.filter (·.measurement == number) := by
  rw [inMeasurementOrder, List.filter_reverse, filter_foldl_insertNewest, List.append_nil,
    ← List.filter_reverse, List.reverse_reverse]

end AirMonitor
