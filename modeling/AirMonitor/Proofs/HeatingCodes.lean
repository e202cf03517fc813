import AirMonitor.Proofs.CheckedArithmetic

/-!
Packed heating times as a code. A byte stands for the time it was made from, cut off to the finest
unit that leaves room for it, and longer times never get smaller bytes.
-/

namespace AirMonitor.HeatingTime

def mantissa (byte : UInt8) : Nat := byte.toNat % 64

def exponent (byte : UInt8) : Nat := byte.toNat / 64

/-- The byte stands for the time cut off to its unit, and the next finer unit has no room for it. -/
structure Cuts (byte : UInt8) (time : Nat) : Prop where
  lower : mantissa byte * 4 ^ exponent byte ≤ time
  upper : time < (mantissa byte + 1) * 4 ^ exponent byte
  finest : 0 < exponent byte → 16 ≤ mantissa byte

theorem lt_succ_mantissa_mul (n : Nat) :
    n < ((mantissaExponent n).1 + 1) * 4 ^ (mantissaExponent n).2 := by
  induction n using mantissaExponent.induct with
  | case1 n h =>
    rw [mantissaExponent_of_lt h]
    exact Nat.lt_of_lt_of_eq (Nat.lt_succ_self n) (Nat.mul_one _).symm
  | case2 n h ih =>
    rw [mantissaExponent_of_not_lt h, Nat.pow_succ, ← Nat.mul_assoc]
    exact (Nat.div_lt_iff_lt_mul (by decide)).1 ih

theorem exponent_pos_iff (n : Nat) : 0 < (mantissaExponent n).2 ↔ 64 ≤ n := by
  rw [mantissaExponent]
  split
  · next h => exact iff_of_false (Nat.lt_irrefl 0) (Nat.not_le.2 h)
  · next h => exact iff_of_true (Nat.succ_pos _) (Nat.not_lt.1 h)

/-- Where a longer time takes a coarser unit, the unit outweighs the units that are fewer. -/
theorem packed_mono {n m : Nat} (h : n ≤ m) :
    (mantissaExponent n).1 + 64 * (mantissaExponent n).2 ≤
      (mantissaExponent m).1 + 64 * (mantissaExponent m).2 := by
  induction m using mantissaExponent.induct generalizing n with
  | case1 m hm =>
    rw [mantissaExponent_of_lt hm, mantissaExponent_of_lt (Nat.lt_of_le_of_lt h hm)]
    exact Nat.add_le_add_right h _
  | case2 m hm ih =>
    by_cases hn : n < 64
    · have hcoarser := (exponent_pos_iff m).2 (Nat.not_lt.1 hm)
      rw [mantissaExponent_of_lt hn]
      omega
    · have hquarters := ih (Nat.div_le_div_right h)
      rw [mantissaExponent_of_not_lt hm, mantissaExponent_of_not_lt hn]
      omega

theorem pack_cuts {n : Nat} (h : n < 4096) : Cuts (pack n) n := by
  have hmantissa : mantissa (pack n) = (mantissaExponent n).1 := (pack_parts h).1
  have hexponent : exponent (pack n) = (mantissaExponent n).2 := (pack_parts h).2
  refine ⟨?_, ?_, ?_⟩
  · rw [hmantissa, hexponent]
    exact mantissa_mul_le n
  · rw [hmantissa, hexponent]
    exact lt_succ_mantissa_mul n
  · rw [hmantissa, hexponent]
    exact fun hpos => sixteen_le_mantissa ((exponent_pos_iff n).1 hpos)

/-- No byte is above the one that all times from the limit on get. -/
theorem saturated_mono {limit : UInt16} {units : Nat → Nat}
    (hmono : ∀ n m, n ≤ m → units n ≤ units m)
    (hfit : ∀ millis < limit, units millis.toNat < 4096) {millis longer : UInt16}
    (h : millis ≤ longer) :
    (if limit ≤ millis then 0xFF else pack (units millis.toNat)) ≤
      if limit ≤ longer then 0xFF else pack (units longer.toNat) := by
  by_cases hlonger : limit ≤ longer
  · rw [if_pos hlonger, UInt8.le_iff_toNat_le]
    exact Nat.le_of_lt_succ (UInt8.toNat_lt _)
  · have hlt := UInt16.not_le.1 hlonger
    have hmillis : millis < limit := UInt16.lt_of_le_of_lt h hlt
    rw [if_neg hlonger, if_neg (UInt16.not_le.2 hmillis), UInt8.le_iff_toNat_le,
      toNat_pack (hfit millis hmillis), toNat_pack (hfit longer hlt)]
    exact packed_mono (hmono _ _ (UInt16.le_iff_toNat_le.1 h))

theorem toNat_lt_4096 {millis : UInt16} (h : millis < 0xFC0) : millis.toNat < 4096 :=
  Nat.lt_trans (UInt16.lt_iff_toNat_lt.1 h) (by decide)

theorem shared_lt_4096 {millis : UInt16} (h : millis < 0x783) :
    millis.toNat * 1000 / 477 < 4096 := by
  have hlt : millis.toNat < 0x783 := UInt16.lt_iff_toNat_lt.1 h
  omega

/-- Both encodings of heating times get by without a number that leaves its byte, cut off what
they have room for, saturate where they have none, and keep the order of all times. -/
theorem heating_times_cut (millis : UInt16) :
    (Checked.encode? millis = some (encode millis) ∧
      Checked.encodeShared? millis = some (encodeShared millis)) ∧
    (millis < 0xFC0 → Cuts (encode millis) millis.toNat) ∧
    (0xFC0 ≤ millis →
      encode millis = 0xFF ∧ unpack (encode millis) = 4032 ∧ 4032 ≤ millis.toNat) ∧
    (millis < 0x783 → Cuts (encodeShared millis) (1000 * millis.toNat / 477)) ∧
    (0x783 ≤ millis → encodeShared millis = 0xFF) ∧
    ∀ longer, millis ≤ longer →
      encode millis ≤ encode longer ∧ encodeShared millis ≤ encodeShared longer := by
  refine ⟨⟨Checked.encode?_eq millis, Checked.encodeShared?_eq millis⟩, ?_, ?_, ?_, ?_, ?_⟩
  · intro h
    rw [encode, if_neg (UInt16.not_le.2 h)]
    exact pack_cuts (toNat_lt_4096 h)
  · intro h
    have hfull : encode millis = 0xFF := if_pos h
    rw [hfull]
    exact ⟨rfl, rfl, UInt16.le_iff_toNat_le.1 h⟩
  · intro h
    rw [encodeShared, if_neg (UInt16.not_le.2 h), Nat.mul_comm 1000]
    exact pack_cuts (shared_lt_4096 h)
  · exact fun h => if_pos h
  · intro longer h
    constructor
    · exact saturated_mono (fun _ _ hle => hle) (fun _ hlt => toNat_lt_4096 hlt) h
    · have hmono (n m : Nat) (hle : n ≤ m) : n * 1000 / 477 ≤ m * 1000 / 477 :=
        Nat.div_le_div_right (Nat.mul_le_mul_right 1000 hle)
      exact saturated_mono hmono (fun _ hlt => shared_lt_4096 hlt) h

/-- The last times before the encodings saturate, the first ones at which they do, and two times on
either side of a change of the unit. -/
theorem heating_times_cut_full :
    Cuts (encode 0xFBF) 0xFBF ∧ Cuts (encodeShared 0x782) (1000 * 0x782 / 477) ∧
    encode 0xFBF = 0xFE ∧ encode 0xFC0 = 0xFF ∧ encodeShared 0x783 = 0xFF ∧
    unpack (encode 0xFFFF) = 4032 ∧
    encode 63 ≤ encode 64 ∧ encodeShared 0x782 ≤ encodeShared 0x783 := by
  obtain ⟨-, hcut, -⟩ := heating_times_cut 0xFBF
  obtain ⟨-, -, -, hshared, -, hlonger⟩ := heating_times_cut 0x782
  obtain ⟨-, -, hfull, -⟩ := heating_times_cut 0xFC0
  obtain ⟨-, -, hlongest, -⟩ := heating_times_cut 0xFFFF
  obtain ⟨-, -, -, -, hfullShared, -⟩ := heating_times_cut 0x783
  obtain ⟨-, -, -, -, -, horder⟩ := heating_times_cut 63
  exact ⟨hcut (by decide), hshared (by decide), by cbv, (hfull (by decide)).1,
    hfullShared (by decide), (hlongest (by decide)).2.1, (horder 64 (by decide)).1,
    (hlonger 0x783 (by decide)).2⟩

end AirMonitor.HeatingTime
