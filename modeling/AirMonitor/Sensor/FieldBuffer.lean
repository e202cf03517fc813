import AirMonitor.Sensor.Field

namespace AirMonitor

/-- Whether `a` was measured before `b`, by the shorter way round the wrapping counter. -/
def Field.precedes (a b : Field) : Bool := 128 ≤ a.measurement - b.measurement

def insertNewest (field : Field) : List Field → List Field
  | [] => [field]
  | newest :: older =>
    if field.precedes newest then newest :: insertNewest field older
    else field :: newest :: older

theorem insertNewest_perm (field : Field) (fields : List Field) :
    (insertNewest field fields).Perm (field :: fields) := by
  induction fields with
  | nil => exact .refl _
  | cons newest older ih =>
    simp only [insertNewest]
    split
    · exact (ih.cons newest).trans (.swap field newest older)
    · exact .refl _

/-- Oldest measurement first; fields with one number keep their order. -/
def inMeasurementOrder (fields : List Field) : List Field :=
  (fields.foldl (fun sorted field => insertNewest field sorted) []).reverse

theorem foldl_insertNewest_perm (fields sorted : List Field) :
    (fields.foldl (fun sorted field => insertNewest field sorted) sorted).Perm
      (fields ++ sorted) := by
  induction fields generalizing sorted with
  | nil => exact .refl _
  | cons field fields ih =>
    exact (ih _).trans (((insertNewest_perm field sorted).append_left fields).trans
      List.perm_middle)

theorem inMeasurementOrder_perm (fields : List Field) :
    (inMeasurementOrder fields).Perm fields := by
  have h := foldl_insertNewest_perm fields []
  rw [List.append_nil] at h
  exact (List.reverse_perm _).trans h

structure FieldBuffer where
  slots : Vector Field 3 := Vector.replicate 3 {}
  count : Nat := 0
  cursor : Fin 3 := 0

def FieldBuffer.initial : FieldBuffer := {}

/-- The oldest field of the last fetch that found any. -/
def FieldBuffer.first (buffer : FieldBuffer) : Field := buffer.slots[0]

def FieldBuffer.clear (buffer : FieldBuffer) : FieldBuffer :=
  { buffer with count := 0, cursor := 0 }

def FieldBuffer.store (buffer : FieldBuffer) (decoded : List Field) : FieldBuffer :=
  let fresh := inMeasurementOrder (decoded.filter Field.isNew)
  { buffer with
    slots := Vector.ofFn fun i => fresh[i.val]?.getD buffer.slots[i]
    count := fresh.length }

theorem FieldBuffer.count_store (buffer : FieldBuffer) (decoded : List Field) :
    (buffer.store decoded).count = (decoded.filter Field.isNew).length :=
  (inMeasurementOrder_perm _).length_eq

/-- The field to deliver and how many wait behind it; the last one is delivered over and over. -/
def FieldBuffer.next (buffer : FieldBuffer) : (Field × Nat) × FieldBuffer :=
  let field := buffer.slots[buffer.cursor]
  let following := buffer.cursor.val + 1
  if following < buffer.count then
    ((field, buffer.count - following), { buffer with cursor := buffer.cursor + 1 })
  else ((field, 0), buffer)

end AirMonitor
