import AirMonitor.Number.Shortest
import AirMonitor.Proofs.SingleParts
import Mathlib

/-!
The decimals that stand for single-precision numbers in texts, measured against the numbers
themselves.
-/

namespace AirMonitor

namespace Magnitude

def toRat (x : Magnitude) : ℚ := x.num / x.den

theorem toRat_ofNat (n : Nat) : (ofNat n).toRat = n := by
  rw [toRat, ofNat, Nat.cast_one, div_one]

/-- Of numerator and denominator one is 1. -/
theorem pow_toNat_div {base : ℚ} (h : base ≠ 0) (exponent : Int) :
    base ^ exponent.toNat / base ^ (-exponent).toNat = base ^ exponent := by
  rw [div_eq_mul_inv, ← zpow_natCast, ← zpow_natCast, ← zpow_neg, ← zpow_add₀ h]
  congr 1
  omega

theorem toRat_scaled (n : Nat) (exponent : Int) :
    (scaled n exponent).toRat = n * (2 : ℚ) ^ exponent := by
  have hnum : ((n <<< exponent.toNat : Nat) : ℚ) = n * 2 ^ exponent.toNat := by
    rw [Nat.shiftLeft_eq]
    push_cast
    rfl
  have hden : ((1 <<< (-exponent).toNat : Nat) : ℚ) = 2 ^ (-exponent).toNat := by
    rw [Nat.shiftLeft_eq, Nat.one_mul]
    push_cast
    rfl
  rw [← pow_toNat_div two_ne_zero, ← mul_div_assoc, ← hnum, ← hden]
  rfl

theorem toRat_shift (x : Magnitude) (places : Int) :
    (x.shift places).toRat = x.toRat * (10 : ℚ) ^ places := by
  rw [← pow_toNat_div (by norm_num : (10 : ℚ) ≠ 0), toRat, toRat, div_mul_div_comm]
  change ((x.num * 10 ^ places.toNat : Nat) : ℚ) / (x.den * 10 ^ (-places).toNat : Nat) = _
  push_cast
  rfl

theorem floor_eq (x : Magnitude) : x.floor = ⌊x.toRat⌋₊ := (Nat.floor_div_eq_div _ _).symm

theorem toRat_nonneg (x : Magnitude) : 0 ≤ x.toRat := by
  rw [toRat]
  positivity

theorem floor_le (x : Magnitude) : (x.floor : ℚ) ≤ x.toRat := by
  rw [floor_eq]
  exact Nat.floor_le x.toRat_nonneg

theorem lt_floor_add_one (x : Magnitude) : x.toRat < x.floor + 1 := by
  rw [floor_eq]
  exact Nat.lt_floor_add_one x.toRat

theorem doubledRest_eq (x : Magnitude) :
    (x.doubledRest : ℚ) = 2 * (x.toRat - x.floor) * x.den := by
  have hden : (x.den : ℚ) ≠ 0 := Nat.cast_ne_zero.2 (Nat.ne_of_gt x.den_pos)
  have hsplit : (x.num : ℚ) = x.den * x.floor + (x.num % x.den : Nat) := by
    exact_mod_cast (Nat.div_add_mod x.num x.den).symm
  have hnum : x.toRat * x.den = x.num := div_mul_cancel₀ _ hden
  have hrest : (x.doubledRest : ℚ) = 2 * (x.num % x.den : Nat) := by
    exact_mod_cast rfl
  rw [hrest]
  linarith

theorem doubledRest_lt_iff (x : Magnitude) :
    x.doubledRest < x.den ↔ x.toRat - x.floor < 1 / 2 := by
  have hden : (0 : ℚ) < x.den := Nat.cast_pos.2 x.den_pos
  rw [← Nat.cast_lt (α := ℚ), doubledRest_eq, mul_lt_iff_lt_one_left hden]
  constructor <;> intro h <;> linarith

theorem doubledRest_eq_iff (x : Magnitude) :
    x.doubledRest = x.den ↔ x.toRat - x.floor = 1 / 2 := by
  have hden : (x.den : ℚ) ≠ 0 := Nat.cast_ne_zero.2 (Nat.ne_of_gt x.den_pos)
  rw [← Nat.cast_inj (R := ℚ), doubledRest_eq, mul_eq_right₀ hden]
  constructor <;> intro h <;> linarith

/-- Rounding goes to a nearest number, and from the middle to the even one. -/
theorem round_nearest (x : Magnitude) :
    |x.toRat - x.round| ≤ 1 / 2 ∧ (|x.toRat - x.round| = 1 / 2 → x.round % 2 = 0) := by
  have hlow := x.floor_le
  have hhigh := x.lt_floor_add_one
  rw [round]
  split
  · next h =>
    rw [doubledRest_lt_iff, doubledRest_eq_iff] at h
    rw [abs_of_nonneg (by linarith)]
    rcases h with h | ⟨h, heven⟩
    · exact ⟨h.le, fun he => (h.ne he).elim⟩
    · exact ⟨h.le, fun _ => heven⟩
  · next h =>
    rw [doubledRest_lt_iff, doubledRest_eq_iff, not_or, not_lt, not_and] at h
    obtain ⟨hhalf, hodd⟩ := h
    push_cast
    rw [abs_of_nonpos (by linarith)]
    refine ⟨by linarith, fun he => ?_⟩
    have hrest := hodd (by linarith)
    omega

theorem length_toString_le_iff {n k : Nat} (h : 0 < k) :
    (toString n).length ≤ k ↔ n < 10 ^ k := by
  rw [Nat.toString_eq_ofList_toDigits, String.length_ofList]
  exact Nat.length_toDigits_le_iff (by decide) h

theorem length_toString_pos (n : Nat) : 0 < (toString n).length := by
  rw [Nat.toString_eq_ofList_toDigits, String.length_ofList]
  exact Nat.length_toDigits_pos

theorem ten_pow_length_le {n : Nat} (h : 0 < n) : 10 ^ ((toString n).length - 1) ≤ n := by
  by_contra hlt
  rw [Nat.not_le] at hlt
  by_cases hone : (toString n).length - 1 = 0
  · rw [hone] at hlt
    omega
  · have hshort := (length_toString_le_iff (Nat.pos_of_ne_zero hone)).2 hlt
    omega

/-- The exponent is that of the power of ten below the number. -/
theorem decimalExponent_spec {x : Magnitude} (h : (10 : ℚ) ^ (-60 : Int) ≤ x.toRat) :
    (10 : ℚ) ^ x.decimalExponent ≤ x.toRat ∧ x.toRat < (10 : ℚ) ^ (x.decimalExponent + 1) := by
  have hshift := x.toRat_shift 60
  have hone : 1 ≤ (x.shift 60).toRat := by
    have hunit : (1 : ℚ) = (10 : ℚ) ^ (-60 : Int) * (10 : ℚ) ^ (60 : Int) := by norm_num
    rw [hshift, hunit]
    exact mul_le_mul_of_nonneg_right h (by positivity)
  have hfloor : 0 < (x.shift 60).floor := by
    rw [floor_eq]
    exact Nat.floor_pos.2 hone
  have hlow := ten_pow_length_le hfloor
  have hsome := length_toString_pos (x.shift 60).floor
  have hhigh := (length_toString_le_iff hsome).1 (Nat.le_refl _)
  generalize hlength : (toString (x.shift 60).floor).length = length at hlow hhigh hsome
  have hexponent : x.decimalExponent + 60 = (length - 1 : Nat) := by
    rw [decimalExponent, hlength]
    omega
  have hsplit (exponent : Int) :
      (10 : ℚ) ^ exponent * (10 : ℚ) ^ (60 : Int) = (10 : ℚ) ^ (exponent + 60) :=
    (zpow_add₀ (by norm_num) _ _).symm
  have hpos : (0 : ℚ) < (10 : ℚ) ^ (60 : Int) := by positivity
  constructor
  · apply le_of_mul_le_mul_right _ hpos
    rw [hsplit, ← hshift, hexponent, zpow_natCast]
    exact le_trans (by exact_mod_cast hlow) (x.shift 60).floor_le
  · apply lt_of_mul_lt_mul_right _ hpos.le
    have hnext : x.decimalExponent + 1 + 60 = length := by omega
    rw [hsplit, ← hshift, hnext, zpow_natCast]
    exact lt_of_lt_of_le (x.shift 60).lt_floor_add_one (by exact_mod_cast hhigh)

/-- Moved by its own exponent, a number has a fixed number of digits before the point. -/
theorem floor_shift {x : Magnitude} (h : (10 : ℚ) ^ (-60 : Int) ≤ x.toRat) (places : Nat) :
    10 ^ places ≤ (x.shift (places - x.decimalExponent)).floor ∧
      (x.shift (places - x.decimalExponent)).floor < 10 ^ (places + 1) := by
  obtain ⟨hlow, hhigh⟩ := decimalExponent_spec h
  have hpos : (0 : ℚ) < (10 : ℚ) ^ (places - x.decimalExponent) := by positivity
  have hmove (exponent : Int) : (10 : ℚ) ^ exponent * (10 : ℚ) ^ (places - x.decimalExponent) =
      (10 : ℚ) ^ (exponent + (places - x.decimalExponent)) := (zpow_add₀ (by norm_num) _ _).symm
  rw [floor_eq, toRat_shift]
  constructor
  · apply Nat.le_floor
    have hscaled := mul_le_mul_of_nonneg_right hlow hpos.le
    rw [hmove, add_sub_cancel, zpow_natCast] at hscaled
    exact_mod_cast hscaled
  · rw [Nat.floor_lt (mul_nonneg x.toRat_nonneg hpos.le)]
    have hscaled := mul_lt_mul_of_pos_right hhigh hpos
    have hexponent : x.decimalExponent + 1 + (places - x.decimalExponent) = (places + 1 : Nat) := by
      omega
    rw [hmove, hexponent, zpow_natCast] at hscaled
    exact_mod_cast hscaled

end Magnitude

namespace Single

theorem partsOf_range {x : Float32} {negative : Bool} {mantissa : Nat} {exponent : Int}
    (h : partsOf x = .finite negative mantissa exponent) :
    mantissa < 2 ^ 24 ∧ Parts.lowestExponent ≤ exponent := by
  have hfraction : fraction x < 2 ^ 23 := BitVec.isLt _
  rw [partsOf_eq] at h
  split at h
  · split at h <;> cases h
  · next hbiased =>
    split at h
    · cases h
      exact ⟨by omega, Int.le_refl _⟩
    · cases h
      rw [Parts.smallestNormal]
      omega

/-- No single is so small that its power of ten would be missed. -/
theorem le_toRat_scaled {mantissa : Nat} {exponent : Int} (hm : mantissa ≠ 0)
    (he : Parts.lowestExponent ≤ exponent) :
    (10 : ℚ) ^ (-60 : Int) ≤ (Magnitude.scaled mantissa exponent).toRat := by
  have hone : (1 : ℚ) ≤ mantissa := Nat.one_le_cast.2 (Nat.pos_of_ne_zero hm)
  have hlow : (2 : ℚ) ^ Parts.lowestExponent ≤ (2 : ℚ) ^ exponent :=
    zpow_le_zpow_right₀ one_le_two he
  have hsmall : (10 : ℚ) ^ (-60 : Int) ≤ (2 : ℚ) ^ Parts.lowestExponent := by
    norm_num [Parts.lowestExponent]
  rw [Magnitude.toRat_scaled]
  calc (10 : ℚ) ^ (-60 : Int) ≤ (2 : ℚ) ^ exponent := hsmall.trans hlow
    _ ≤ mantissa * (2 : ℚ) ^ exponent := le_mul_of_one_le_left (by positivity) hone

end Single

/-- A number that is not 0 is written with one digit before the point, which is not 0 either, and
rounded to the places after it. -/
theorem scientific_nearest (places : Nat) {x : Float32} {negative : Bool} {mantissa : Nat}
    {exponent : Int} (h : partsOf x = .finite negative mantissa exponent) (hm : mantissa ≠ 0) :
    ∃ (n : Nat) (e : Int),
      scientific places x = signText negative ++ positional n places ++ "e" ++ toString e ∧
      10 ^ places ≤ n ∧ n < 10 ^ (places + 1) ∧
      |(mantissa * (2 : ℚ) ^ exponent) * (10 : ℚ) ^ (places - e) - n| ≤ 1 / 2 := by
  fun_cases scientific places x with
  | case1 _ _ hzero => exact (hm (Parts.finite.inj (h.symm.trans hzero)).2.1).elim
  | case3 hzero hother => exact (hother _ _ _ h).elim
  | case2 negative' mantissa' exponent' hsome hparts value e n n' e' hdecimal =>
    obtain ⟨rfl, rfl, rfl⟩ := Parts.finite.inj (h.symm.trans hparts)
    have hsmall := Single.le_toRat_scaled hm (Single.partsOf_range h).2
    have hrat : value.toRat = _ := Magnitude.toRat_scaled mantissa exponent
    have hfloor : 10 ^ places ≤ (value.shift (places - e)).floor ∧
        (value.shift (places - e)).floor < 10 ^ (places + 1) := Magnitude.floor_shift hsmall places
    have hnear := (value.shift (places - e)).round_nearest.1
    have hge := hfloor.1.trans (Magnitude.floor_le_round _)
    have hle := (value.shift (places - e)).round_le_floor_succ
    rw [value.toRat_shift, hrat] at hnear
    refine ⟨n', e', rfl, ?_⟩
    split at hdecimal
    · next hround =>
      obtain ⟨rfl, rfl⟩ := Prod.mk.inj hdecimal
      have hten : (10 : ℚ) ^ (places - (e + 1)) = (10 : ℚ) ^ (places - e) / 10 := by
        rw [← sub_sub, zpow_sub_one₀ (by norm_num), div_eq_mul_inv]
      have hround : (value.shift (places - e)).round = 10 ^ (places + 1) := hround
      refine ⟨Nat.le_refl _, Nat.pow_lt_pow_succ (by decide), ?_⟩
      change |_ - ((10 ^ places : Nat) : ℚ)| ≤ _
      rw [hround] at hnear
      push_cast at hnear ⊢
      rw [hten, ← mul_div_assoc, abs_le]
      rw [pow_succ, abs_le] at hnear
      constructor <;> linarith [hnear.1, hnear.2]
    · next hround =>
      obtain ⟨rfl, rfl⟩ := Prod.mk.inj hdecimal
      have hne : (value.shift (places - e)).round ≠ 10 ^ (places + 1) := hround
      exact ⟨hge, by omega, hnear⟩

namespace Interval

/-- A number lies between the ends, or at one of them if they belong to the interval. -/
def Holds (interval : Interval) (v : ℚ) : Prop :=
  if interval.closed then interval.low.toRat ≤ v ∧ v ≤ interval.high.toRat
  else interval.low.toRat < v ∧ v < interval.high.toRat

theorem contains_iff (interval : Interval) (x : Magnitude) :
    interval.contains x = true ↔ interval.Holds x.toRat := by
  have hle (a b : Magnitude) : a.num * b.den ≤ b.num * a.den ↔ a.toRat ≤ b.toRat := by
    rw [Magnitude.toRat, Magnitude.toRat, div_le_div_iff₀ (Nat.cast_pos.2 a.den_pos)
      (Nat.cast_pos.2 b.den_pos)]
    exact_mod_cast Iff.rfl
  have hlt (a b : Magnitude) : a.num * b.den < b.num * a.den ↔ a.toRat < b.toRat := by
    rw [← not_le, ← not_le, hle]
  rw [contains, Holds]
  split
  · rw [Bool.and_eq_true, decide_eq_true_iff, decide_eq_true_iff, hle, hle]
  · rw [Bool.and_eq_true, decide_eq_true_iff, decide_eq_true_iff, hlt, hlt]

theorem Holds.between {interval : Interval} {a b c : ℚ} (ha : interval.Holds a)
    (hb : interval.Holds b) (hac : a ≤ c) (hcb : c ≤ b) : interval.Holds c := by
  rw [Holds] at *
  split at ha
  · next h =>
    rw [if_pos h] at hb ⊢
    exact ⟨ha.1.trans hac, hcb.trans hb.2⟩
  · next h =>
    rw [if_neg h] at hb ⊢
    exact ⟨ha.1.trans_le hac, hcb.trans_lt hb.2⟩

/-- The multiple of a power of ten that stands for a number in an interval. -/
def multiple (n : Nat) (places : Int) : ℚ := n * (10 : ℚ) ^ (-places)

variable {interval : Interval} {x : Magnitude} {places : Int}

theorem hits_iff (n : Nat) : interval.contains ((Magnitude.ofNat n).shift (-places)) = true ↔
    interval.Holds (multiple n places) := by
  rw [contains_iff, Magnitude.toRat_shift, Magnitude.toRat_ofNat, multiple]

theorem multiple_le_iff {n : Nat} : multiple n places ≤ x.toRat ↔ n ≤ (x.shift places).floor := by
  have hpos : (0 : ℚ) < (10 : ℚ) ^ places := by positivity
  rw [Magnitude.floor_eq, Nat.le_floor_iff (Magnitude.toRat_nonneg _), Magnitude.toRat_shift,
    multiple, zpow_neg, ← div_eq_mul_inv, div_le_iff₀ hpos]

theorem multiple_floor_le : multiple (x.shift places).floor places ≤ x.toRat :=
  multiple_le_iff.2 (Nat.le_refl _)

theorem lt_multiple_floor_succ : x.toRat < multiple ((x.shift places).floor + 1) places := by
  rw [← not_le, multiple_le_iff]
  exact Nat.not_succ_le_self _

theorem multiple_mono {m n : Nat} (h : m ≤ n) : multiple m places ≤ multiple n places := by
  have hpos : (0 : ℚ) < (10 : ℚ) ^ (-places) := by positivity
  exact mul_le_mul_of_nonneg_right (Nat.cast_le.2 h) hpos.le

/-- Either of the two multiples beside a number is in the interval if any is on that side. -/
theorem holds_beside (hx : interval.Holds x.toRat) {n : Nat}
    (hn : interval.Holds (multiple n places)) :
    (n ≤ (x.shift places).floor → interval.Holds (multiple (x.shift places).floor places)) ∧
    ((x.shift places).floor < n →
      interval.Holds (multiple ((x.shift places).floor + 1) places)) := by
  constructor
  · intro hle
    exact hn.between hx (multiple_mono hle) multiple_floor_le
  · intro hlt
    exact hx.between hn lt_multiple_floor_succ.le (multiple_mono hlt)

theorem multiple_succ (n : Nat) :
    multiple (n + 1) places = multiple n places + (10 : ℚ) ^ (-places) := by
  rw [multiple, multiple]
  push_cast
  ring

theorem toRat_sub_multiple (x : Magnitude) (places : Int) (n : Nat) :
    x.toRat - multiple n places = ((x.shift places).toRat - n) * (10 : ℚ) ^ (-places) := by
  have hunit : (10 : ℚ) ^ places * (10 : ℚ) ^ (-places) = 1 := by
    rw [← zpow_add₀ (by norm_num), add_neg_cancel, zpow_zero]
  rw [Magnitude.toRat_shift, multiple, sub_mul, mul_assoc, hunit, mul_one]

/-- Which of the two multiples beside a number is the nearer one. -/
theorem doubledRest_lt_iff : (x.shift places).doubledRest < (x.shift places).den ↔
    x.toRat - multiple (x.shift places).floor places <
      multiple ((x.shift places).floor + 1) places - x.toRat := by
  have hpos : (0 : ℚ) < (10 : ℚ) ^ (-places) := by positivity
  have hrest := toRat_sub_multiple x places (x.shift places).floor
  rw [Magnitude.doubledRest_lt_iff, multiple_succ, ← mul_lt_mul_iff_left₀ hpos, ← hrest]
  constructor <;> intro h <;> linarith

/-- What is found is a nearest multiple in the interval, and nothing is only found where there is
none. -/
theorem nearestMultiple?_spec (hx : interval.Holds x.toRat) (places : Int) :
    match interval.nearestMultiple? x places with
    | none => ∀ n, ¬ interval.Holds (multiple n places)
    | some n => interval.Holds (multiple n places) ∧
      ∀ m, interval.Holds (multiple m places) →
        |x.toRat - multiple n places| ≤ |x.toRat - multiple m places| := by
  have hbelow {m : Nat} (hm : m ≤ (x.shift places).floor) :
      |x.toRat - multiple m places| = x.toRat - multiple m places :=
    abs_of_nonneg (sub_nonneg.2 ((multiple_mono hm).trans multiple_floor_le))
  have habove {m : Nat} (hm : (x.shift places).floor < m) :
      |x.toRat - multiple m places| = multiple m places - x.toRat := by
    rw [abs_sub_comm]
    exact abs_of_nonneg (sub_nonneg.2 (lt_multiple_floor_succ.le.trans (multiple_mono hm)))
  fun_cases nearestMultiple? interval x places with
  | case1 scaled down hits h =>
    simp only [hits, Bool.and_eq_true, Bool.or_eq_true, decide_eq_true_iff, Bool.not_eq_true',
      Bool.eq_false_iff, ne_eq, hits_iff] at h
    refine ⟨h.1, fun m hm => ?_⟩
    rw [hbelow (Nat.le_refl down)]
    rcases Nat.lt_or_ge down m with hlt | hle
    · have hcloser := h.2.resolve_right (not_not.2 ((holds_beside hx hm).2 hlt))
      rw [habove hlt]
      exact (doubledRest_lt_iff.1 hcloser).le.trans (sub_le_sub_right (multiple_mono hlt) _)
    · rw [hbelow hle]
      exact sub_le_sub_left (multiple_mono hle) _
  | case2 scaled down hits h hup =>
    simp only [hits, Bool.and_eq_true, Bool.or_eq_true, decide_eq_true_iff, Bool.not_eq_true',
      Bool.eq_false_iff, ne_eq, hits_iff] at h hup
    refine ⟨hup, fun m hm => ?_⟩
    rw [habove (Nat.lt_succ_self down)]
    rcases Nat.lt_or_ge down m with hlt | hle
    · rw [habove hlt]
      exact sub_le_sub_right (multiple_mono hlt) _
    · have hfarther := not_lt.1 fun hcloser =>
        h ⟨(holds_beside hx hm).1 hle, .inl (doubledRest_lt_iff.2 hcloser)⟩
      rw [hbelow hle]
      exact hfarther.trans (sub_le_sub_left (multiple_mono hle) _)
  | case3 scaled down hits h hup =>
    simp only [hits, Bool.and_eq_true, Bool.or_eq_true, decide_eq_true_iff, Bool.not_eq_true',
      Bool.eq_false_iff, ne_eq, hits_iff] at h hup
    intro m hm
    rcases Nat.lt_or_ge down m with hlt | hle
    · exact hup ((holds_beside hx hm).2 hlt)
    · exact h ⟨(holds_beside hx hm).1 hle, .inr hup⟩

theorem holds_of_lt {v : ℚ} (hlow : interval.low.toRat < v) (hhigh : v < interval.high.toRat) :
    interval.Holds v := by
  rw [Holds]
  split
  · exact ⟨hlow.le, hhigh.le⟩
  · exact ⟨hlow, hhigh⟩

/-- The interval around a number reaches at least a quarter of a step to either side. -/
theorem holds_around {mantissa : Nat} (hm : mantissa ≠ 0) (exponent : Int) {v : ℚ}
    (hlow : (4 * mantissa - 1) * (2 : ℚ) ^ (exponent - 2) < v)
    (hhigh : v ≤ (4 * mantissa) * (2 : ℚ) ^ (exponent - 2)) :
    (around mantissa exponent).Holds v := by
  have hpos : (0 : ℚ) < (2 : ℚ) ^ (exponent - 2) := by positivity
  apply holds_of_lt
  · apply lt_of_le_of_lt _ hlow
    rw [around, Magnitude.toRat_scaled]
    apply mul_le_mul_of_nonneg_right _ hpos.le
    have hless : 4 * mantissa - (if mantissa = Parts.smallestNormal ∧
        Parts.lowestExponent < exponent then 1 else 2) + 1 ≤ 4 * mantissa := by
      split <;> omega
    rw [le_sub_iff_add_le]
    exact_mod_cast hless
  · apply lt_of_le_of_lt hhigh
    rw [around, Magnitude.toRat_scaled]
    apply mul_lt_mul_of_pos_right _ hpos
    push_cast
    linarith

theorem toRat_scaled_quarters (mantissa : Nat) (exponent : Int) :
    (Magnitude.scaled mantissa exponent).toRat =
      (4 * mantissa) * (2 : ℚ) ^ (exponent - 2) := by
  have hquarter : (2 : ℚ) ^ exponent = 4 * (2 : ℚ) ^ (exponent - 2) := by
    rw [zpow_sub₀ two_ne_zero]
    norm_num
    ring
  rw [Magnitude.toRat_scaled, hquarter]
  ring

theorem holds_scaled {mantissa : Nat} (hm : mantissa ≠ 0) (exponent : Int) :
    (around mantissa exponent).Holds (Magnitude.scaled mantissa exponent).toRat := by
  have hpos : (0 : ℚ) < (2 : ℚ) ^ (exponent - 2) := by positivity
  rw [toRat_scaled_quarters]
  apply holds_around hm
  · exact mul_lt_mul_of_pos_right (sub_one_lt _) hpos
  · exact le_rfl

/-- A decimal with nine digits is close enough to any single. -/
theorem holds_nine {mantissa : Nat} {exponent : Int} (hm : mantissa ≠ 0) (hfit : mantissa < 2 ^ 24)
    (he : Parts.lowestExponent ≤ exponent) :
    let value := Magnitude.scaled mantissa exponent
    let places := 8 - value.decimalExponent
    (around mantissa exponent).Holds (multiple (value.shift places).floor places) := by
  intro value places
  have hvalue : value.toRat = _ := toRat_scaled_quarters mantissa exponent
  have hlow : (10 : ℚ) ^ value.decimalExponent ≤ value.toRat :=
    (Magnitude.decimalExponent_spec (Single.le_toRat_scaled hm he)).1
  have hbelow : multiple (value.shift places).floor places ≤ value.toRat := multiple_floor_le
  have habove :
      value.toRat < multiple (value.shift places).floor places + (10 : ℚ) ^ (-places) := by
    rw [← multiple_succ]
    exact lt_multiple_floor_succ
  have hunit : (10 : ℚ) ^ (-places) = (10 : ℚ) ^ value.decimalExponent / 10 ^ 8 := by
    rw [neg_sub, zpow_sub₀ (by norm_num)]
    rfl
  have hpos : (0 : ℚ) < (2 : ℚ) ^ (exponent - 2) := by positivity
  have hfit : (mantissa : ℚ) < 2 ^ 24 := by exact_mod_cast hfit
  have hstep := mul_lt_mul_of_pos_right hfit hpos
  apply holds_around hm
  · linarith
  · rwa [← hvalue]

end Interval

/-- Digits with their number of places after the point tell a number from all others: they lie in
its interval, no others of so many places that do are nearer, and none of fewer places do. -/
structure Tells (mantissa : Nat) (exponent : Int) (n : Nat) (places : Int) : Prop where
  holds : (Interval.around mantissa exponent).Holds (Interval.multiple n places)
  nearest : ∀ m, (Interval.around mantissa exponent).Holds (Interval.multiple m places) →
    |(Magnitude.scaled mantissa exponent).toRat - Interval.multiple n places| ≤
      |(Magnitude.scaled mantissa exponent).toRat - Interval.multiple m places|
  fewest : ∀ fewer < places, -(Magnitude.scaled mantissa exponent).decimalExponent ≤ fewer →
    ∀ m, ¬ (Interval.around mantissa exponent).Holds (Interval.multiple m fewer)

/-- A search through the first numbers ends at the first one that is a hit. -/
theorem findSome?_range {α : Type} {f : Nat → Option α} {n : Nat} {a : α}
    (h : (List.range n).findSome? f = some a) : ∃ k, f k = some a ∧ ∀ j < k, f j = none := by
  induction n with
  | zero => cases h
  | succ n ih =>
    rw [List.range_succ, List.findSome?_append] at h
    cases hfirst : (List.range n).findSome? f with
    | some b =>
      rw [hfirst] at h
      exact ih (hfirst.trans h)
    | none =>
      rw [hfirst, Option.none_or, List.findSome?_singleton] at h
      rw [List.findSome?_eq_none_iff] at hfirst
      exact ⟨n, h, fun j hj => hfirst j (List.mem_range.2 hj)⟩

theorem shortestDigits_tells {mantissa : Nat} {exponent : Int} (hm : mantissa ≠ 0)
    (hfit : mantissa < 2 ^ 24) (he : Parts.lowestExponent ≤ exponent) :
    Tells mantissa exponent (shortestDigits mantissa exponent).1
      (shortestDigits mantissa exponent).2 := by
  let value := Magnitude.scaled mantissa exponent
  let interval := Interval.around mantissa exponent
  let search (k : Nat) : Option (Nat × Int) :=
    (interval.nearestMultiple? value (k - value.decimalExponent)).map fun n =>
      (n, k - value.decimalExponent)
  have hvalue : interval.Holds value.toRat := Interval.holds_scaled hm exponent
  have hmissing {k : Nat} (h : search k = none) (n : Nat) :
      ¬ interval.Holds (Interval.multiple n (k - value.decimalExponent)) := by
    have hspec := Interval.nearestMultiple?_spec hvalue (k - value.decimalExponent)
    rw [Option.map_eq_none_iff.1 h] at hspec
    exact hspec n
  have hfound : (List.range 9).findSome? search ≠ none := by
    intro hnone
    have hlast := List.findSome?_eq_none_iff.1 hnone 8 (by decide)
    exact hmissing hlast _ (Interval.holds_nine hm hfit he)
  obtain ⟨found, hfound⟩ := Option.ne_none_iff_exists'.1 hfound
  obtain ⟨k, hk, hnone⟩ := findSome?_range hfound
  have hdigits : shortestDigits mantissa exponent = found :=
    congrArg (·.getD (value.floor, 0)) hfound
  obtain ⟨n, hn, rfl⟩ := Option.map_eq_some_iff.1 hk
  rw [hdigits]
  have hspec := Interval.nearestMultiple?_spec hvalue (k - value.decimalExponent)
  rw [hn] at hspec
  constructor
  case holds => exact hspec.1
  case nearest => exact hspec.2
  case fewest =>
    intro fewer hfewer hlead
    have hlead : -value.decimalExponent ≤ fewer := hlead
    have hfewer : fewer < k - value.decimalExponent := hfewer
    obtain ⟨j, hj⟩ := Int.eq_ofNat_of_zero_le (Int.add_nonneg_iff_neg_le.2 hlead)
    have hplaces : fewer = j - value.decimalExponent := by omega
    rw [hplaces]
    exact hmissing (hnone j (by omega))

/-- A number that is not 0 is shown by the fewest digits that tell it. -/
theorem shortest_tells {x : Float32} {negative : Bool} {mantissa : Nat} {exponent : Int}
    (h : partsOf x = .finite negative mantissa exponent) (hm : mantissa ≠ 0) :
    ∃ (n : Nat) (places : Int), Tells mantissa exponent n places ∧
      shortest x = signText negative ++
        if places ≤ 0 then toString (n * Nat.pow 10 (-places).toNat)
        else trimFraction (positional n places.toNat) := by
  obtain ⟨hfit, he⟩ := Single.partsOf_range h
  have htells := shortestDigits_tells hm hfit he
  fun_cases shortest x with
  | case1 _ _ hzero => exact (hm (Parts.finite.inj (h.symm.trans hzero)).2.1).elim
  | case2 negative' mantissa' exponent' hsome hparts n places hdigits =>
    obtain ⟨rfl, rfl, rfl⟩ := Parts.finite.inj (h.symm.trans hparts)
    rw [hdigits] at htells
    exact ⟨n, places, htells, rfl⟩
  | case3 hzero hother => exact (hother _ _ _ h).elim

end AirMonitor
