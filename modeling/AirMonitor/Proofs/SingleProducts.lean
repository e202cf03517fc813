import AirMonitor.Proofs.SingleOrder

namespace AirMonitor.Single

open Float.Model (Format UnpackedFloat totalExponent)
open Float.Model.UnpackedFloat

theorem unpackSign_packComponents (s : Sign) (e : BitVec 8) (m : BitVec 23) :
    Sign.ofBitVec (unpackSign (packComponents .binary32 s e m)) = s := by
  rw [unpackSign, packComponents, BitVec.extractLsb]
  rw [BitVec.extractLsb'_append_eq_of_le (by decide),
    BitVec.extractLsb'_append_eq_of_le (by decide)]
  cases s <;> rfl

theorem signedMagnitude_packComponents (s : Sign) (e : BitVec 8) (m : BitVec 23) :
    signedMagnitude (packComponents .binary32 s e m) =
      s.apply ((e.toNat * 2 ^ 23 + m.toNat : Nat) : Int) := by
  rw [signedMagnitude, magnitude, unpackSign_packComponents, unpackExponent_packComponents,
    unpackMantissa_packComponents]

/-- An unpacked single that is a number, with its sign. -/
inductive Signed (s : Sign) : UnpackedFloat → Prop
  | infinity : Signed s (.infinity s)
  | zero : Signed s (.zero s)
  | finite (m : Nat) (e : Int) (h : 0 < m) : Signed s (.finite s m e h)

theorem Signed.round (s : Sign) (m : Nat) (e : Int) (accuracy : Accuracy) :
    Signed s (roundWithAccuracy .binary32 s m e accuracy) := by
  simp only [roundWithAccuracy]
  split
  · exact .zero
  · exact .finite _ _ _

theorem Signed.mul {s t : Sign} {u v : UnpackedFloat} (hu : Signed s u) (hv : Signed t v) :
    mul .binary32 u v = .notANumber ∨ Signed (s * t) (mul .binary32 u v) := by
  cases hu with
  | infinity =>
    cases hv with
    | infinity => exact .inr .infinity
    | zero => exact .inl rfl
    | finite => exact .inr .infinity
  | zero =>
    cases hv with
    | infinity => exact .inl rfl
    | zero => exact .inr .zero
    | finite => exact .inr .zero
  | finite m e h =>
    cases hv with
    | infinity => exact .inr .infinity
    | zero => exact .inr .zero
    | finite n f h' => exact .inr (.round _ _ _ _)

theorem log2_eq {m : Nat} (h : m.log2 + 1 = 24) : 2 ^ 23 ≤ m ∧ m < 2 ^ 24 := by
  have hm : m ≠ 0 := by
    rintro rfl
    exact absurd h (by decide)
  exact (Nat.log2_eq_iff hm).mp (Nat.succ.inj h)

theorem signedMagnitude_packedInfinity (s : Sign) :
    signedMagnitude (packedInfinity .binary32 s) = s.apply infinite := by
  rw [packedInfinity, signedMagnitude_packComponents]
  rfl

theorem signedMagnitude_pack_zero (s : Sign) :
    signedMagnitude (pack .binary32 (.zero s)) = 0 := by
  rw [pack, packedZero, signedMagnitude_packComponents]
  exact apply_zero s

theorem pack_finite (s : Sign) (m : Nat) (e : Int) (h : 0 < m) :
    pack .binary32 (.finite s m e h) =
      if 254 < (e + 150).toNat then packedInfinity .binary32 s
      else if m.log2 + 1 = 24 then
        packComponents .binary32 s (BitVec.ofNat 8 (e + 150).toNat) (BitVec.ofNat 23 m)
      else packComponents .binary32 s 0#8 (BitVec.ofNat 23 m) := by
  have hbiased : e + Format.binary32.exponentBias + Format.binary32.mantissaBitsWithoutImplicit =
      e + 150 := by
    show e + 127 + 23 = e + 150
    omega
  have hover : 2 ^ Format.binary32.exponentBits ≤ (e + 150).toNat + 1 ↔ 254 < (e + 150).toNat := by
    show 256 ≤ (e + 150).toNat + 1 ↔ _
    omega
  simp only [pack, hbiased, hover]
  rfl

/-- What a finite unpacked single is packed to: infinity, a normal or a subnormal number. -/
theorem signedMagnitude_pack_finite (s : Sign) (m : Nat) (e : Int) (h : 0 < m) :
    signedMagnitude (pack .binary32 (.finite s m e h)) =
      s.apply ((if 254 < (e + 150).toNat then infinite
        else if m.log2 + 1 = 24 then (e + 150).toNat * 2 ^ 23 + m % 2 ^ 23
        else m % 2 ^ 23 : Nat) : Int) := by
  have hmantissa : (BitVec.ofNat 23 m).toNat = m % 2 ^ 23 := BitVec.toNat_ofNat _ _
  rw [pack_finite]
  split
  · exact signedMagnitude_packedInfinity s
  · have hexponent : (BitVec.ofNat 8 (e + 150).toNat).toNat = (e + 150).toNat := by
      rw [BitVec.toNat_ofNat]
      omega
    split
    · rw [signedMagnitude_packComponents, hexponent, hmantissa]
    · rw [signedMagnitude_packComponents, hmantissa, BitVec.toNat_zero, Nat.zero_mul, Nat.zero_add]

theorem Signed.magnitude_pack {s : Sign} {u : UnpackedFloat} (h : Signed s u) :
    ∃ n : Nat, signedMagnitude (pack .binary32 u) = s.apply n ∧ n ≤ infinite := by
  cases h with
  | infinity => exact ⟨infinite, signedMagnitude_packedInfinity s, Nat.le_refl _⟩
  | zero => exact ⟨0, (signedMagnitude_pack_zero s).trans (apply_zero s).symm, Nat.zero_le _⟩
  | finite m e h =>
    refine ⟨_, signedMagnitude_pack_finite s m e h, ?_⟩
    rw [infinite]
    split
    · exact Nat.le_refl _
    · split <;> omega

theorem Signed.number {s : Sign} {u : UnpackedFloat} (h : Signed s u) :
    (Float32.ofModel (.pack u)).isNaN = false ∧
      ∃ n : Nat, rank (Float32.ofModel (.pack u)) = s.apply n := by
  obtain ⟨n, hn, htop⟩ := h.magnitude_pack
  refine ⟨?_, n, hn⟩
  rcases isNaN_cases (Float32.ofModel (.pack u)) with ⟨-, -, hbeyond⟩ | ⟨hnumber, -, -⟩
  · have hmagnitude : magnitude (word (Float32.ofModel (.pack u))) = n := by
      rw [← natAbs_signedMagnitude]
      exact (congrArg Int.natAbs hn).trans (natAbs_apply s n)
    omega
  · exact hnumber

theorem mul_eq (x y : Float32) : x * y =
    Float32.ofModel (.pack (mul .binary32 x.toModel.unpack y.toModel.unpack)) :=
  rfl

theorem Ranked.signed {u : UnpackedFloat} {a : Int} (h : Ranked u a) : ∃ s, Signed s u := by
  cases h with
  | infinity s => exact ⟨s, .infinity⟩
  | zero s => exact ⟨s, .zero⟩
  | finite s => exact ⟨s, .finite _ _ _⟩

/-- A square is never negative. -/
theorem mul_self_nonneg (x : Float32) : (x * x).isNaN = true ∨ 0 ≤ x * x := by
  rw [mul_eq]
  rcases isNaN_cases x with ⟨-, hunpack, -⟩ | ⟨-, hranked, -⟩
  · rw [hunpack]
    exact .inl rfl
  · obtain ⟨s, hs⟩ := hranked.signed
    rcases hs.mul hs with hnan | hsquare
    · rw [hnan]
      exact .inl rfl
    · obtain ⟨hnumber, n, hn⟩ := hsquare.number
      have hpositive : s * s = .positive := by cases s <;> rfl
      right
      rw [le_iff, hn, hpositive]
      exact ⟨rfl, hnumber, Int.natCast_nonneg n⟩

theorem shift_mantissa (em : ExtendedMantissa) (n : Nat) :
    (em >>> n).mantissa = em.mantissa / 2 ^ n := by
  induction n with
  | zero => exact (Nat.div_one _).symm
  | succ n ih =>
    show (em >>> n).mantissa / 2 = _
    rw [ih, Nat.div_div_eq_div_mul, Nat.pow_succ]

theorem roundedMantissa_le (em : ExtendedMantissa) : em.roundedMantissa ≤ em.mantissa + 1 := by
  rw [ExtendedMantissa.roundedMantissa]
  cases em.accuracy with
  | exact => exact Nat.le_succ _
  | inexact order =>
    cases order with
    | lt => exact Nat.le_succ _
    | eq =>
      rw [Accuracy.roundToNearestEven]
      omega
    | gt => exact Nat.le_refl _

/-- The exponent that numbers of a size are given. -/
theorem targetExponent_eq (m : Nat) (e : Int) :
    Format.binary32.targetExponent (totalExponent m e) = max (m.log2 + e - 23) (-149) := by
  show max ((m.log2 : Int) + 1 + e - 24) (3 - 2 ^ 7 - 24) = _
  omega

theorem log2_lt {m k : Nat} (h : m < 2 ^ k) (hk : 0 < k) : m.log2 < k := by
  rcases Nat.eq_zero_or_pos m with rfl | hm
  · exact hk
  · exact (Nat.log2_lt (by omega)).mpr h

/-- The shift of an exact mantissa, with what it leaves of it. -/
theorem shift_exact (m : Nat) (e : Int) :
    ∃ n : Nat, n = (max (m.log2 + e - 23) (-149) - e).toNat ∧
      (shiftToTargetExponent .binary32 m e .exact).1.mantissa = m / 2 ^ n ∧
      (shiftToTargetExponent .binary32 m e .exact).2 = e + n := by
  refine ⟨_, rfl, ?_, ?_⟩
  · rw [shiftToTargetExponent, shiftToExponent, targetExponent_eq]
    exact shift_mantissa _ _
  · rw [shiftToTargetExponent, shiftToExponent, targetExponent_eq]

/-- The two shifts of a product with a hundred, which is `13107200 * 2 ^ -17`. -/
theorem hundredfold_shifts {m n r n' : Nat} {e : Int} (hm : m < 2 ^ 24) (hpos : 0 < m)
    (hlow : -149 ≤ e) (hhigh : e ≤ -24)
    (hn : n = (max ((m * 13107200).log2 + (e - 17) - 23) (-149) - (e - 17)).toNat)
    (hr : r ≤ m * 13107200 / 2 ^ n + 1)
    (hn' : n' = (max (r.log2 + (e - 17 + n) - 23) (-149) - (e - 17 + n)).toNat) :
    e - 17 + n + n' ≤ -17 ∧ (e - 17 + n + n' = -17 → r / 2 ^ n' ≤ 13107200) := by
  have hlog : (m * 13107200).log2 < 48 := log2_lt (by omega) (by decide)
  -- Only a mantissa that is shifted as far as that of a hundred could come to more than it; it is
  -- then a multiple of 100/128 of less than `2 ^ 24`, which leaves room to round up.
  by_cases hedge : e - 17 + n = -17
  · have hshift : 2 ^ 24 ≤ 2 ^ n := Nat.pow_le_pow_right (by decide) (by omega)
    have hdiv : m * 13107200 / 2 ^ n ≤ m * 13107200 / 2 ^ 24 :=
      Nat.div_le_div_left hshift (by decide)
    have hr : r ≤ 13107200 := by omega
    have hlog' : r.log2 < 24 := log2_lt (by omega) (by decide)
    obtain rfl : n' = 0 := by omega
    exact ⟨by omega, fun _ => by omega⟩
  -- Below that, rounding up to `2 ^ 24` is all that makes for a second shift.
  · have hwide : m * 13107200 < 2 ^ n * 2 ^ 24 := by
      rw [← Nat.pow_add]
      exact Nat.lt_of_lt_of_le Nat.lt_log2_self (Nat.pow_le_pow_right (by decide) (by omega))
    have hr : r ≤ 2 ^ 24 := by
      have hdiv : m * 13107200 / 2 ^ n < 2 ^ 24 := Nat.div_lt_of_lt_mul hwide
      omega
    have hlog' : r.log2 < 25 := log2_lt (by omega) (by decide)
    rcases (by omega : n' = 0 ∨ n' = 1) with rfl | rfl
    · exact ⟨by omega, fun h => by omega⟩
    · exact ⟨by omega, fun h => by omega⟩

/-- The rank of a hundred. -/
def hundred : Nat := 132 * 2 ^ 23 + 13107200

theorem pack_le_hundred {m : Nat} {e : Int} (h : 0 < m) (hhigh : e ≤ -17)
    (hedge : e = -17 → m ≤ 13107200) :
    signedMagnitude (pack .binary32 (.finite .positive m e h)) ≤ hundred := by
  rw [signedMagnitude_pack_finite, Sign.apply, hundred]
  split
  · omega
  · split
    case isTrue hlog =>
      have hm := log2_eq hlog
      omega
    case isFalse => omega

theorem round_le_hundred {m : Nat} {e : Int} (hm : m < 2 ^ 24) (hpos : 0 < m)
    (hlow : -149 ≤ e) (hhigh : e ≤ -24) :
    signedMagnitude (pack .binary32
      (roundWithAccuracy .binary32 .positive (m * 13107200) (e - 17) .exact)) ≤ hundred := by
  obtain ⟨n, hn, hmantissa, hexponent⟩ := shift_exact (m * 13107200) (e - 17)
  have hr := roundedMantissa_le (shiftToTargetExponent .binary32 (m * 13107200) (e - 17) .exact).1
  rw [hmantissa] at hr
  simp only [roundWithAccuracy]
  generalize ExtendedMantissa.roundedMantissa _ = r at hr ⊢
  rw [hexponent]
  obtain ⟨n', hn', hmantissa', hexponent'⟩ := shift_exact r (e - 17 + n)
  obtain ⟨hE, hM⟩ := hundredfold_shifts hm hpos hlow hhigh hn hr hn'
  split
  · rw [signedMagnitude_pack_zero]
    exact Int.natCast_nonneg _
  · refine pack_le_hundred _ ?_ fun h => ?_
    · rw [hexponent']
      exact hE
    · rw [hexponent'] at h
      rw [hmantissa']
      exact hM h

theorem rank_one : rank 1 = 127 * 2 ^ 23 := by decide +kernel

theorem rank_hundred : rank 100 = hundred := by decide +kernel

theorem unpack_hundred :
    (100 : Float32).toModel.unpack = .finite .positive 13107200 (-17) (by decide) := by
  rfl

theorem Ranked.mul_hundred {u : UnpackedFloat} {a : Int} (h : Ranked u a) (h0 : 0 ≤ a)
    (h1 : a < 127 * 2 ^ 23) :
    ∃ v s, mul .binary32 u (100 : Float32).toModel.unpack = v ∧ Signed s v ∧
      0 ≤ signedMagnitude (pack .binary32 v) ∧
      signedMagnitude (pack .binary32 v) ≤ hundred := by
  rw [unpack_hundred]
  cases h with
  | infinity s => cases s <;> simp only [Sign.apply, infinite] at h0 h1 <;> omega
  | zero s =>
    refine ⟨.zero (s * .positive), _, rfl, .zero, ?_⟩
    rw [signedMagnitude_pack_zero]
    exact ⟨Int.le_refl _, Int.natCast_nonneg _⟩
  | finite s m e hpos hm hnormal hlow hhigh =>
    cases s with
    | negative =>
      rw [Sign.apply] at h0
      omega
    | positive =>
      rw [Sign.apply] at h1
      have hround := Signed.round .positive (m * 13107200) (e - 17) .exact
      refine ⟨_, _, rfl, hround, ?_, round_le_hundred hm hpos hlow (by omega)⟩
      obtain ⟨n, hn, -⟩ := hround.magnitude_pack
      exact hn ▸ Int.natCast_nonneg n

/-- A share is a percentage of at most a hundred. -/
theorem mul_hundred {q : Float32} (h0 : 0 ≤ q) (h1 : q ≤ 1) : 0 ≤ q * 100 ∧ q * 100 ≤ 100 := by
  obtain ⟨-, hnumber, hlow⟩ := (le_iff _ _).mp h0
  obtain ⟨-, -, hhigh⟩ := (le_iff _ _).mp h1
  rw [rank_zero] at hlow
  rw [rank_one] at hhigh
  rcases Int.lt_or_eq_of_le hhigh with hbelow | hone
  · obtain ⟨v, s, hv, hsigned, hbounds⟩ := (ranked_of_number hnumber).mul_hundred hlow hbelow
    obtain ⟨hproduct, -⟩ := hsigned.number
    rw [le_iff, le_iff, mul_eq, hv, rank_zero, rank_hundred]
    exact ⟨⟨rfl, hproduct, hbounds.1⟩, hproduct, rfl, hbounds.2⟩
  · obtain rfl : q = 1 := eq_of_rank_eq (hone.trans rank_one.symm) (by omega)
    decide +kernel

end AirMonitor.Single
