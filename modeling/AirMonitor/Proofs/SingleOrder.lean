import Mathlib

namespace AirMonitor.Single

open Float.Model (Format UnpackedFloat totalExponent)
open Float.Model.UnpackedFloat

/-- The bits of a single but for its sign, as a number. -/
def magnitude (bits : BitVec Format.binary32.numBits) : Nat :=
  (unpackExponent bits).toNat * 2 ^ 23 + (unpackMantissa bits).toNat

/-- The sign of a single applied to its other bits. -/
def signedMagnitude (bits : BitVec Format.binary32.numBits) : Int :=
  (Sign.ofBitVec (unpackSign bits)).apply (magnitude bits)

/-- What infinity has for a magnitude. -/
def infinite : Nat := 255 * 2 ^ 23

def word (x : Float32) : BitVec Format.binary32.numBits := x.toBits.toBitVec

/-- The place of a single that is a number in the order of all of them. Both zeros have place 0. -/
def rank (x : Float32) : Int := signedMagnitude (word x)

/-- An unpacked single that is a number, with its rank. -/
inductive Ranked : UnpackedFloat → Int → Prop
  | infinity (s : Sign) : Ranked (.infinity s) (s.apply infinite)
  | zero (s : Sign) : Ranked (.zero s) 0
  | finite (s : Sign) (m : Nat) (e : Int) (h : 0 < m) (hm : m < 2 ^ 24)
      (hnormal : 2 ^ 23 ≤ m ∨ e = -149) (hlow : -149 ≤ e) (hhigh : e ≤ 104) :
      Ranked (.finite s m e h) (s.apply ((e + 149) * 2 ^ 23 + m))

theorem lt_eq_compare {a b : Int} : Ordering.lt = compare a b ↔ a < b :=
  eq_comm.trans Int.compare_eq_lt

theorem gt_eq_compare {a b : Int} : Ordering.gt = compare a b ↔ b < a :=
  eq_comm.trans Int.compare_eq_gt

theorem compare_neg (a b : Int) : compare (-a) (-b) = (compare a b).swap := by
  rw [Int.compare_swap, Int.compare_eq_ite_lt, Int.compare_eq_ite_lt]
  simp only [Int.neg_lt_neg_iff]

/-- Singles with mantissas of one length compare by their exponents first. -/
theorem compare_then {e e' : Int} {m m' : Nat} (hm : m < 2 ^ 24) (hm' : m' < 2 ^ 24)
    (hnormal : 2 ^ 23 ≤ m ∨ e = -149) (hnormal' : 2 ^ 23 ≤ m' ∨ e' = -149)
    (hlow : -149 ≤ e) (hlow' : -149 ≤ e') :
    (compare e e').then (compare m m') =
      compare ((e + 149) * 2 ^ 23 + m) ((e' + 149) * 2 ^ 23 + m') := by
  cases h : compare ((e + 149) * 2 ^ 23 + m) ((e' + 149) * 2 ^ 23 + m') with
  | lt =>
    rw [Int.compare_eq_lt] at h
    rw [Ordering.then_eq_lt, Int.compare_eq_lt, Int.compare_eq_eq, Nat.compare_eq_lt]
    omega
  | eq =>
    rw [Int.compare_eq_eq] at h
    rw [Ordering.then_eq_eq, Int.compare_eq_eq, Nat.compare_eq_eq]
    omega
  | gt =>
    rw [Int.compare_eq_gt] at h
    rw [Ordering.then_eq_gt, Int.compare_eq_gt, Int.compare_eq_eq, Nat.compare_eq_gt]
    omega

theorem Ranked.compare {u v : UnpackedFloat} {a b : Int} (hu : Ranked u a) (hv : Ranked v b) :
    u.compare v = some (compare a b) := by
  cases hu with
  | infinity s =>
    cases hv with
    | infinity t => cases s <;> cases t <;> rfl
    | zero t => cases s <;> rfl
    | finite t n f _ hn _ hlow hhigh =>
      cases s <;> cases t <;>
        simp only [UnpackedFloat.compare, Option.some.injEq, lt_eq_compare, gt_eq_compare,
          Sign.apply, infinite] <;>
        omega
  | zero s =>
    cases hv with
    | infinity t => cases t <;> rfl
    | zero t => rfl
    | finite t n f hpos hn _ hlow hhigh =>
      cases t <;>
        simp only [UnpackedFloat.compare, Option.some.injEq, lt_eq_compare, gt_eq_compare,
          Sign.apply] <;>
        omega
  | finite s m e hpos hm hnormal hlow hhigh =>
    cases hv with
    | infinity t =>
      cases s <;> cases t <;>
        simp only [UnpackedFloat.compare, Option.some.injEq, lt_eq_compare, gt_eq_compare,
          Sign.apply, infinite] <;>
        omega
    | zero t =>
      cases s <;>
        simp only [UnpackedFloat.compare, Option.some.injEq, lt_eq_compare, gt_eq_compare,
          Sign.apply] <;>
        omega
    | finite t n f _ hn hnormal' hlow' hhigh' =>
      have hthen := compare_then hm hn hnormal hnormal' hlow hlow'
      cases s <;> cases t <;>
        simp only [UnpackedFloat.compare, Option.some.injEq, lt_eq_compare, gt_eq_compare,
          Sign.apply, compare_neg, hthen] <;>
        omega

theorem toNat_eq (bits : BitVec Format.binary32.numBits) :
    bits.toNat = (unpackSign bits).toNat * 2 ^ 31 + magnitude bits := by
  have h : bits.toNat < 2 ^ 32 := bits.isLt
  simp only [magnitude, unpackSign, unpackExponent, unpackMantissa, BitVec.toNat_cast,
    BitVec.extractLsb_toNat, Nat.shiftRight_eq_div_pow, Nat.reduceAdd, Nat.reducePow, Nat.reduceSub]
  omega

theorem magnitude_eq {bits : BitVec Format.binary32.numBits} {e m : Nat}
    (he : (unpackExponent bits).toNat = e) (hm : (unpackMantissa bits).toNat = m) :
    magnitude bits = e * 2 ^ 23 + m := by
  rw [magnitude, he, hm]

theorem toNat_one_append (m : BitVec 23) : (1#1 ++ m).toNat = 2 ^ 23 + m.toNat := by
  rw [BitVec.toNat_append, ← Nat.shiftLeft_add_eq_or_of_lt m.isLt]
  rfl

theorem apply_zero (s : Sign) : s.apply 0 = 0 := by
  cases s <;> rfl

/-- Bits stand for no number, or for the one that their signed magnitude ranks. -/
theorem unpack_cases (bits : BitVec Format.binary32.numBits) :
    (unpack .binary32 bits = .notANumber ∧ infinite < magnitude bits) ∨
    Ranked (unpack .binary32 bits) (signedMagnitude bits) := by
  rw [signedMagnitude]
  fun_cases unpack .binary32 bits with
  | case1 m e s sign he hm =>
    have hbits : magnitude bits = 255 * 2 ^ 23 + 0 :=
      magnitude_eq (congrArg BitVec.toNat he) (congrArg BitVec.toNat hm)
    rw [hbits]
    exact .inr (.infinity sign)
  | case2 m e he hm =>
    have hbits : magnitude bits = 255 * 2 ^ 23 + m.toNat :=
      magnitude_eq (congrArg BitVec.toNat he) rfl
    have hmpos : m.toNat ≠ 0 := fun h => hm (BitVec.eq_of_toNat_eq h)
    refine .inl ⟨rfl, ?_⟩
    rw [hbits, infinite]
    omega
  | case3 m e s sign he he0 hm =>
    have hbits : magnitude bits = 0 * 2 ^ 23 + 0 :=
      magnitude_eq (congrArg BitVec.toNat he0) (congrArg BitVec.toNat hm)
    have hmagnitude : (magnitude bits : Int) = 0 := by
      rw [hbits]
      omega
    rw [hmagnitude, apply_zero]
    exact .inr (.zero sign)
  | case4 m e exponent s sign he he0 hm =>
    have hbits : magnitude bits = 0 * 2 ^ 23 + m.toNat :=
      magnitude_eq (congrArg BitVec.toNat he0) rfl
    have hexponent : exponent + 1 = -149 := by
      rw [show exponent = e.toNat - 150 from rfl, show e.toNat = 0 from congrArg BitVec.toNat he0]
      omega
    have hm23 : m.toNat < 2 ^ 23 := m.isLt
    have hmagnitude : (magnitude bits : Int) = (exponent + 1 + 149) * 2 ^ 23 + m.toNat := by
      omega
    rw [hmagnitude]
    exact .inr (.finite sign _ _ _ (by omega) (.inr hexponent) (by omega) (by omega))
  | case5 m e exponent s sign he he0 =>
    have hbits : magnitude bits = e.toNat * 2 ^ 23 + m.toNat := magnitude_eq rfl rfl
    have he255 : e.toNat ≠ 255 := fun h => he (BitVec.eq_of_toNat_eq h)
    have hepos : e.toNat ≠ 0 := fun h => he0 (BitVec.eq_of_toNat_eq h)
    have he256 : e.toNat < 256 := e.isLt
    have hm23 : m.toNat < 2 ^ 23 := m.isLt
    have hexponent : exponent = e.toNat - 150 := rfl
    have hmantissa : (1#1 ++ m).toNat = 2 ^ 23 + m.toNat := toNat_one_append m
    have hmagnitude : (magnitude bits : Int) = (exponent + 149) * 2 ^ 23 + (1#1 ++ m).toNat := by
      omega
    rw [hmagnitude]
    exact .inr (.finite sign _ _ _ (by omega) (.inl (by omega)) (by omega) (by omega))

theorem natAbs_apply (s : Sign) (n : Nat) : (s.apply n).natAbs = n := by
  cases s with
  | positive => rfl
  | negative => exact Int.natAbs_neg n

theorem natAbs_signedMagnitude (bits : BitVec Format.binary32.numBits) :
    (signedMagnitude bits).natAbs = magnitude bits :=
  natAbs_apply _ _

theorem Ranked.isNaN {u : UnpackedFloat} {a : Int} (h : Ranked u a) : u.isNaN = false := by
  cases h <;> rfl

theorem Ranked.le_infinite {u : UnpackedFloat} {a : Int} (h : Ranked u a) :
    a.natAbs ≤ infinite := by
  cases h with
  | infinity s => exact Nat.le_of_eq (natAbs_apply s infinite)
  | zero s => exact Nat.zero_le _
  | finite s m e hpos hm _ hlow hhigh => cases s <;> simp only [Sign.apply, infinite] <;> omega

theorem isNaN_cases (x : Float32) :
    (x.isNaN = true ∧ x.toModel.unpack = .notANumber ∧ infinite < magnitude (word x)) ∨
    (x.isNaN = false ∧ Ranked x.toModel.unpack (rank x) ∧ magnitude (word x) ≤ infinite) := by
  rcases unpack_cases (word x) with ⟨hunpack, hmagnitude⟩ | hranked
  · exact .inl ⟨congrArg UnpackedFloat.isNaN hunpack, hunpack, hmagnitude⟩
  · refine .inr ⟨hranked.isNaN, hranked, ?_⟩
    rw [← natAbs_signedMagnitude]
    exact hranked.le_infinite

theorem ranked_of_number {x : Float32} (h : x.isNaN = false) :
    Ranked x.toModel.unpack (rank x) := by
  rcases isNaN_cases x with ⟨hnan, -, -⟩ | ⟨-, hranked, -⟩
  · exact absurd (hnan.symm.trans h) (by decide)
  · exact hranked

theorem compare_eq (x y : Float32) : x.toModel.unpack.compare y.toModel.unpack =
    if x.isNaN || y.isNaN then none else some (compare (rank x) (rank y)) := by
  rcases isNaN_cases x with ⟨hx, hunpack, -⟩ | ⟨hx, hx', -⟩
  · rw [hx, hunpack]
    rfl
  · rcases isNaN_cases y with ⟨hy, hunpack, -⟩ | ⟨hy, hy', -⟩
    · rw [hx, hy, hunpack]
      cases x.toModel.unpack <;> rfl
    · rw [hx, hy, hx'.compare hy']
      rfl

theorem lt_iff (x y : Float32) :
    x < y ↔ x.isNaN = false ∧ y.isNaN = false ∧ rank x < rank y := by
  have hlt : x < y ↔ (x.toModel.unpack.compare y.toModel.unpack == some .lt) = true :=
    decide_eq_true_iff
  rw [hlt, compare_eq]
  cases x.isNaN <;> cases y.isNaN <;> simp [Int.compare_eq_lt]

theorem le_iff (x y : Float32) :
    x ≤ y ↔ x.isNaN = false ∧ y.isNaN = false ∧ rank x ≤ rank y := by
  have hle : x ≤ y ↔ (x.toModel.unpack.compare y.toModel.unpack).any (·.isLE) = true :=
    decide_eq_true_iff
  rw [hle, compare_eq]
  cases x.isNaN <;> cases y.isNaN <;> simp [Int.isLE_compare]

theorem eq_of_apply_eq {a b : BitVec 1} {n : Nat} (hn : n ≠ 0)
    (h : (Sign.ofBitVec a).apply n = (Sign.ofBitVec b).apply n) : a = b := by
  have ha := a.isLt
  have hb := b.isLt
  have hzero (c : BitVec 1) : c = 0#1 ↔ c.toNat = 0 := BitVec.toNat_inj.symm
  apply BitVec.eq_of_toNat_eq
  simp only [Sign.ofBitVec, hzero] at h
  split at h <;> split at h <;> simp only [Sign.apply] at h <;> omega

/-- A number is known by its place, but for the sign of zero. -/
theorem eq_of_rank_eq {x y : Float32} (h : rank x = rank y) (h0 : rank x ≠ 0) : x = y := by
  have hmagnitude : magnitude (word x) = magnitude (word y) := by
    rw [← natAbs_signedMagnitude, ← natAbs_signedMagnitude, ← rank, ← rank, h]
  have hsign : unpackSign (word x) = unpackSign (word y) := by
    rw [rank, rank, signedMagnitude, signedMagnitude, ← hmagnitude] at h
    refine eq_of_apply_eq (fun hzero => h0 ?_) h
    rw [rank, signedMagnitude, hzero, Int.ofNat_zero, apply_zero]
  have hword : word x = word y := by
    apply BitVec.eq_of_toNat_eq
    rw [toNat_eq, toNat_eq (word y), hmagnitude, hsign]
  obtain ⟨⟨bits, hvalid⟩⟩ := x
  obtain ⟨⟨bits', hvalid'⟩⟩ := y
  obtain rfl : bits = bits' := UInt32.toBitVec_inj.mp hword
  rfl

theorem rank_zero : rank 0 = 0 := by decide +kernel

theorem le_refl {x : Float32} (h : x.isNaN = false) : x ≤ x :=
  (le_iff x x).mpr ⟨h, h, Int.le_refl _⟩

theorem le_trans {x y z : Float32} (h : x ≤ y) (h' : y ≤ z) : x ≤ z := by
  obtain ⟨hx, -, hxy⟩ := (le_iff x y).mp h
  obtain ⟨-, hz, hyz⟩ := (le_iff y z).mp h'
  exact (le_iff x z).mpr ⟨hx, hz, Int.le_trans hxy hyz⟩

theorem le_of_lt {x y : Float32} (h : x < y) : x ≤ y := by
  obtain ⟨hx, hy, hxy⟩ := (lt_iff x y).mp h
  exact (le_iff x y).mpr ⟨hx, hy, Int.le_of_lt hxy⟩

theorem lt_of_le_of_lt {x y z : Float32} (h : x ≤ y) (h' : y < z) : x < z := by
  obtain ⟨hx, -, hxy⟩ := (le_iff x y).mp h
  obtain ⟨-, hz, hyz⟩ := (lt_iff y z).mp h'
  exact (lt_iff x z).mpr ⟨hx, hz, Int.lt_of_le_of_lt hxy hyz⟩

theorem le_of_not_lt {x y : Float32} (hx : x.isNaN = false) (hy : y.isNaN = false)
    (h : ¬x < y) : y ≤ x := by
  refine (le_iff y x).mpr ⟨hy, hx, ?_⟩
  rw [lt_iff] at h
  by_contra hxy
  exact h ⟨hx, hy, by omega⟩

/-- Only zeros differ although neither is the smaller one. -/
theorem le_antisymm {x y : Float32} (h : x ≤ y) (h' : y ≤ x) (h0 : 0 < x) : x = y := by
  obtain ⟨-, -, hxy⟩ := (le_iff x y).mp h
  obtain ⟨-, -, hyx⟩ := (le_iff y x).mp h'
  obtain ⟨-, -, hpos⟩ := (lt_iff 0 x).mp h0
  rw [rank_zero] at hpos
  exact eq_of_rank_eq (by omega) (by omega)

end AirMonitor.Single
