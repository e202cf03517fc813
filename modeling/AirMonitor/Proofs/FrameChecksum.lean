import AirMonitor.Proofs.AnswerStream

/-!
What the checksum of a frame tells. It makes the bytes after the first one add up to a multiple of
256, and two frames that differ in one of these bytes cannot both do that.
-/

namespace AirMonitor.CarbonDioxide

/-- Replacing one of several numbers changes their sum by the difference. -/
theorem sum_set_add {xs : List Nat} {i : Nat} (h : i < xs.length) (x : Nat) :
    (xs.set i x).sum + xs[i] = xs.sum + x := by
  have hsum := List.sum_take_add_sum_drop xs i
  rw [List.drop_eq_getElem_cons h, List.sum_cons] at hsum
  rw [List.sum_set, if_pos h]
  omega

namespace Frame

/-- The sum of all bytes but the first one. -/
def weight (frame : Frame) : Nat := ((frame.toList.drop 1).map UInt8.toNat).sum

theorem weight_set (frame : Frame) {place : Fin 9} (h : place ≠ 0) (value : UInt8) :
    weight (frame.set place value) + frame[place].toNat = weight frame + value.toNat := by
  obtain ⟨i, hi⟩ := Nat.exists_eq_add_one_of_ne_zero (Fin.val_ne_of_ne h)
  have hplace := place.isLt
  have hlength : i < ((frame.toList.drop 1).map UInt8.toNat).length := by
    rw [List.length_map, List.length_drop, Vector.length_toList]
    omega
  have hbyte : ((frame.toList.drop 1).map UInt8.toNat)[i] = frame[place].toNat := by
    simp [← hi]
  have hset : ((frame.set place value).toList.drop 1).map UInt8.toNat =
      ((frame.toList.drop 1).map UInt8.toNat).set i value.toNat := by
    rw [Vector.toList_set, List.drop_set, if_neg (by omega), List.map_set]
    simp [hi]
  have hsum := sum_set_add hlength value.toNat
  rwa [hbyte, ← hset] at hsum

/-- The weights of two valid frames are the same modulo 256, and so are two bytes only if they are
the same. -/
theorem not_isValid_set {frame : Frame} (hvalid : frame.isValid) {place : Fin 9} (h : place ≠ 0)
    {value : UInt8} (hvalue : value ≠ frame[place]) : ¬isValid (frame.set place value) := by
  have hweight := weight_set frame h value
  have hbyte := frame[place].toNat_lt
  have hlt := value.toNat_lt
  have hne : value.toNat ≠ frame[place].toNat := fun he => hvalue (UInt8.toNat_inj.1 he)
  rw [isValid_iff] at hvalid ⊢
  change weight frame % 256 = 0 at hvalid
  change ¬weight (frame.set place value) % 256 = 0
  omega

theorem checksum_set_last (frame : Frame) (value : UInt8) :
    checksum (frame.set (8 : Fin 9) value) = checksum frame := by
  simp [checksum]

theorem checksum_set_first (frame : Frame) (value : UInt8) :
    checksum (frame.set (0 : Fin 9) value) = checksum frame := by
  simp [checksum]

theorem request_signed (command : UInt8) (payload : Vector UInt8 5) :
    (request command payload)[(8 : Fin 9)] = checksum (request command payload) := by
  have hchecksum := checksum_set_last ((#v[0xFF, 0x01, command] ++ payload).push 0)
  exact (Vector.getElem_set_self _).trans (hchecksum _).symm

theorem toList_request (command : UInt8) (payload : Vector UInt8 5) :
    (request command payload).toList =
      [0xFF, 0x01, command] ++ payload.toList ++ [checksum (request command payload)] := by
  rw [← request_signed]
  obtain ⟨⟨bytes⟩, hsize⟩ := payload
  match bytes, hsize with
  | [_, _, _, _, _], _ => rfl

theorem request_inj {command command' : UInt8} {payload payload' : Vector UInt8 5}
    (h : request command payload = request command' payload') :
    command = command' ∧ payload = payload' := by
  have hbytes := congrArg (fun frame : Frame => frame.toList.drop 2) h
  simp only [toList_request] at hbytes
  obtain ⟨hcommand, hrest⟩ := List.cons.inj hbytes
  have hpayload := List.append_inj_left hrest (by simp)
  exact ⟨hcommand, Vector.toList_inj.1 hpayload⟩

theorem accept_iff (frame : Frame) : (∃ ppm, Meter.accept frame = .ok ppm) ↔ frame.isValid := by
  rw [Meter.accept]
  by_cases h : frame.isValid
  · rw [if_pos h]
    exact iff_of_true ⟨_, rfl⟩ h
  · rw [if_neg h]
    exact iff_of_false (by rintro ⟨ppm, ⟨⟩⟩) h

/-- The checksum of a frame is right exactly if the bytes after the first one add up to a multiple
of 256. It is right in every request, which also shows what it asks for. An answer is accepted
exactly if it is right, and then no other byte is accepted in any of these places. Neither end of
the frame makes a difference to it. -/
theorem checksum_detects (frame : Frame) :
    (frame[(8 : Fin 9)] = checksum frame ↔ weight frame % 256 = 0) ∧
    (∀ command payload,
      (request command payload)[(8 : Fin 9)] = checksum (request command payload) ∧
      ∀ command' payload', request command payload = request command' payload' ↔
        command = command' ∧ payload = payload') ∧
    ((∃ ppm, Meter.accept frame = .ok ppm) ↔ frame[(8 : Fin 9)] = checksum frame) ∧
    (∀ ppm, Meter.accept frame = .ok ppm → ∀ place : Fin 9, place ≠ 0 →
      ∀ value, value ≠ frame[place] →
        Meter.accept (frame.set place value) = .error .checksum) ∧
    ∀ first last,
      checksum ((frame.set (0 : Fin 9) first).set (8 : Fin 9) last) = checksum frame := by
  have hvalid : frame.isValid ↔ frame[(8 : Fin 9)] = checksum frame := beq_iff_eq
  refine ⟨hvalid.symm.trans (isValid_iff frame), ?_, (accept_iff frame).trans hvalid, ?_, ?_⟩
  · intro command payload
    refine ⟨request_signed command payload, fun command' payload' => ⟨request_inj, ?_⟩⟩
    rintro ⟨rfl, rfl⟩
    rfl
  · intro ppm hppm place hplace value hvalue
    have haccepted := (accept_iff frame).1 ⟨ppm, hppm⟩
    exact if_neg (not_isValid_set haccepted hplace hvalue)
  · intro first last
    rw [checksum_set_last, checksum_set_first]

/-- An answer of 608 ppm, in which a byte is lost that would make it 96 ppm. -/
theorem checksum_detects_lost :
    Meter.accept #v[0xFF, 0x86, 0x02, 0x60, 0x47, 0, 0, 0, 0xD1] = .ok 608 ∧
    Meter.accept #v[0xFF, 0x86, 0x00, 0x60, 0x47, 0, 0, 0, 0xD1] = .error .checksum ∧
    checksum #v[0x00, 0x86, 0x02, 0x60, 0x47, 0, 0, 0, 0x00] = 0xD1 := by
  have haccepted : Meter.accept #v[0xFF, 0x86, 0x02, 0x60, 0x47, 0, 0, 0, 0xD1] = .ok 608 := rfl
  obtain ⟨-, -, -, hdetected, hends⟩ :=
    checksum_detects #v[0xFF, 0x86, 0x02, 0x60, 0x47, 0, 0, 0, 0xD1]
  exact ⟨haccepted, hdetected 608 haccepted 2 (by decide) 0 (by decide), hends 0 0⟩

end Frame

end AirMonitor.CarbonDioxide
