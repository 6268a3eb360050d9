/-
**The limits of a scale never change a result.**

The numerator and the denominator of a scale have 128 bits.  With exponents of the allowed size one
of the two may need more, and then the largest such number stands in its place: the scale is wrong,
and every quantity and every code is still right.  Only one of the two parts can be replaced, and
the other is small then.  A number multiplied by the replaced part is zero, or leaves the range
after the division; a number divided by it is less than one half, and rounds to zero as it would
have done.

Main definitions:

* `DeviceProperty.Multiplier.Fits32` — the parts of a multiplier are 32-bit numbers;
* `DeviceProperty.Scale.capped`, `DeviceProperty.Scale.coarsenExactly` — a scale with its parts cut
  off at the limit, and a step of its computation without a limit;
* `DeviceProperty.Scale.Balanced` — the sizes that the parts of a scale can have.

Main results:

* `DeviceProperty.Format.scale_eq_capped` — the scale of a format is the exact one, cut off at the
  limit;
* `DeviceProperty.roundsTo_capped` — **the limit never changes a rounded product**;
* `DeviceProperty.Format.roundsTo_of_scaled` — **every quantity and every code is the exact one**,
  rounded.
-/

import Mathlib
import DeviceProperty.Proofs.Format.Scale

set_option relaxedAutoImplicit false
set_option autoImplicit false

namespace DeviceProperty

/-- The parts of a multiplier are 32-bit numbers. -/
def Multiplier.Fits32 (multiplier : Multiplier) : Prop :=
  multiplier.num < 2 ^ 32 ∧ multiplier.den < 2 ^ 32

instance (multiplier : Multiplier) : Decidable multiplier.Fits32 :=
  inferInstanceAs (Decidable (_ ∧ _))

/-! ### A scale cut off at the limit -/

/-- A product of two numbers that are cut off at a limit is the product of the numbers themselves,
when it is cut off too. -/
theorem min_min_mul_min {a b limit : ℤ} (ha : 0 ≤ a) (hb : 1 ≤ b) (hlimit : 1 ≤ limit) :
    min (min a limit * min b limit) limit = min (a * b) limit := by
  rcases le_total a limit with hal | hal
  · rcases le_total b limit with hbl | hbl
    · rw [min_eq_left hal, min_eq_left hbl]
    · rw [min_eq_left hal, min_eq_right hbl]
      rcases ha.eq_or_lt with rfl | hpos
      · simp
      · have cut : limit ≤ a * limit := le_mul_of_one_le_left (by omega) hpos
        have full : limit ≤ a * b := cut.trans (mul_le_mul_of_nonneg_left hbl ha)
        rw [min_eq_right cut, min_eq_right full]
  · have cut : limit ≤ limit * min b limit := le_mul_of_one_le_right (by omega) (by omega)
    have full : limit ≤ a * b := hal.trans (le_mul_of_one_le_right ha hb)
    rw [min_eq_right hal, min_eq_right cut, min_eq_right full]

namespace Scale

variable {scale : Scale}

/-- A scale with its parts cut off at the largest 128-bit number. -/
def capped (scale : Scale) : Scale := ⟨min scale.num max128, min scale.den max128⟩

/-- Dividing the scale by `base ^ exponent` without a limit. -/
def coarsenExactly (scale : Scale) (base : ℕ) (exponent : ℤ) : Scale :=
  { num := scale.num * Nat.pow base (-exponent).toNat
    den := scale.den * Nat.pow base exponent.toNat }

theorem clamp128_mul_cappedPow {part : ℤ} (hpart : 0 ≤ part) {base : ℕ} (hbase : 0 < base)
    (exponent : ℕ) :
    clamp128 (min part max128 * cappedPow base exponent) =
      min (part * Nat.pow base exponent) max128 := by
  have power : (1 : ℤ) ≤ Nat.pow base exponent := by exact_mod_cast Nat.pow_pos hbase
  have product := min_min_mul_min hpart power (show 1 ≤ max128 by decide)
  have nonneg : 0 ≤ min part max128 * cappedPow base exponent := by
    simp only [cappedPow]
    exact mul_nonneg (le_min hpart (by decide)) (le_min (by omega) (by decide))
  have above : min128 ≤ min part max128 * cappedPow base exponent := le_trans (by decide) nonneg
  rw [clamp128, max_eq_right (le_min above (by decide)), cappedPow, product]

/-- A scale cut off before a step and after it is the exact step, cut off. -/
theorem coarsen_capped (hnum : 0 ≤ scale.num) (hden : 0 ≤ scale.den) {base : ℕ} (hbase : 0 < base)
    (exponent : ℤ) :
    scale.capped.coarsen base exponent = (scale.coarsenExactly base exponent).capped := by
  simp only [coarsen, capped, coarsenExactly]
  split_ifs with negative
  · have positive : exponent.toNat = 0 := by omega
    have magnitude : exponent.natAbs = (-exponent).toNat := by omega
    rw [clamp128_mul_cappedPow hnum hbase, positive, magnitude]
    simp
  · have positive : (-exponent).toNat = 0 := by omega
    have magnitude : exponent.natAbs = exponent.toNat := by omega
    rw [clamp128_mul_cappedPow hden hbase, positive, magnitude]
    simp

end Scale

namespace Format

variable {format : Format}

/-- The scale of a format is the exact one, cut off at the limit. -/
theorem scale_eq_capped (words : format.multiplier.Fits32) :
    format.scale = format.exactScale.capped := by
  set plain : Scale :=
    ⟨format.multiplier.den, format.multiplier.num * microsPerUnit⟩ with hplain
  have small : plain.capped = plain := by
    obtain ⟨hnum, hden⟩ := words
    simp only [hplain, Scale.capped, microsPerUnit, max128]
    congr 1 <;> omega
  have hnum : 0 ≤ plain.num := Int.natCast_nonneg _
  have hden : 0 ≤ plain.den := mul_nonneg (Int.natCast_nonneg _) (by decide)
  calc format.scale = (plain.capped.coarsen 10 format.decimalExponent).coarsen 2
        format.binaryExponent := by rw [small]; rfl
    _ = (plain.coarsenExactly 10 format.decimalExponent).capped.coarsen 2
        format.binaryExponent := by rw [Scale.coarsen_capped hnum hden (by decide)]
    _ = ((plain.coarsenExactly 10 format.decimalExponent).coarsenExactly 2
        format.binaryExponent).capped :=
          Scale.coarsen_capped (mul_nonneg hnum (Int.natCast_nonneg _))
            (mul_nonneg hden (Int.natCast_nonneg _)) (by decide) _
    _ = format.exactScale.capped := rfl

end Format

/-! ### The sizes of its parts -/

/-- The sizes that the parts of a scale can have: both are in range, or one is not and the other is
small. -/
def Scale.Balanced (p q : ℤ) : Prop :=
  (p ≤ max128 ∧ q ≤ max128) ∨ (max128 < p ∧ q ≤ 2 ^ 52) ∨ (max128 < q ∧ p ≤ 2 ^ 52)

theorem Scale.Balanced.symm {p q : ℤ} (h : Scale.Balanced p q) : Scale.Balanced q p := by
  rcases h with ⟨hp, hq⟩ | large | large
  · exact .inl ⟨hq, hp⟩
  · exact .inr (.inr large)
  · exact .inr (.inl large)

theorem Scale.Balanced.of_le {p q : ℤ} (hq : q ≤ 2 ^ 52) : Scale.Balanced p q := by
  rcases le_or_gt p max128 with inRange | large
  · exact .inl ⟨inRange, hq.trans (by decide)⟩
  · exact .inr (.inl ⟨large, hq⟩)

/-- Two balanced parts, cut off at the limit, are still in the same order: only one of them is cut
off, and it stays the larger one. -/
theorem Scale.Balanced.min_le_min_iff {p q : ℤ} (sizes : Scale.Balanced p q) :
    min p max128 ≤ min q max128 ↔ p ≤ q := by
  simp only [Scale.Balanced, max128] at *
  omega

theorem mul_mul_le_max128 {a ten two : ℤ} (ha : 0 ≤ a ∧ a ≤ 2 ^ 52) (hten : 0 ≤ ten ∧ ten ≤ 10 ^ 18)
    (htwo : 0 ≤ two ∧ two ≤ 2 ^ 62) (single : ten = 1 ∨ two = 1) : a * ten * two ≤ max128 := by
  rcases single with rfl | rfl
  · calc a * 1 * two = a * two := by rw [mul_one]
      _ ≤ 2 ^ 52 * 2 ^ 62 := mul_le_mul ha.2 htwo.2 htwo.1 (by norm_num)
      _ ≤ max128 := by norm_num
  · calc a * ten * 1 = a * ten := by rw [mul_one]
      _ ≤ 2 ^ 52 * 10 ^ 18 := mul_le_mul ha.2 hten.2 hten.1 (by norm_num)
      _ ≤ max128 := by norm_num

theorem tenPow_bounds {n : ℕ} (h : n ≤ maxDecimalExponent) :
    0 ≤ (tenPow n : ℤ) ∧ (tenPow n : ℤ) ≤ 10 ^ 18 := by
  have power : tenPow n ≤ 10 ^ 18 := Nat.pow_le_pow_right (by decide) h
  exact ⟨Int.natCast_nonneg _, by exact_mod_cast power⟩

theorem twoPow_bounds {n : ℕ} (h : n ≤ maxBinaryExponent) :
    0 ≤ (twoPow n : ℤ) ∧ (twoPow n : ℤ) ≤ 2 ^ 62 := by
  have power : twoPow n ≤ 2 ^ 62 := Nat.pow_le_pow_right (by decide) h
  exact ⟨Int.natCast_nonneg _, by exact_mod_cast power⟩

/-- Two small parts, each with the powers of the exponents of one sign.  Only the two powers
together make a part leave the range, and then the other part has none. -/
theorem balanced_mul_powers {a b decimal binary : ℤ} (ha : 0 ≤ a ∧ a ≤ 2 ^ 52)
    (hb : 0 ≤ b ∧ b ≤ 2 ^ 52) (hdecimal : decimal.natAbs ≤ maxDecimalExponent)
    (hbinary : binary.natAbs ≤ maxBinaryExponent) (fine : decimal ≤ 0) :
    Scale.Balanced (a * tenPow (-decimal).toNat * twoPow (-binary).toNat)
      (b * tenPow decimal.toNat * twoPow binary.toNat) := by
  have noTen : decimal.toNat = 0 := by omega
  have ten := tenPow_bounds (n := (-decimal).toNat) (by omega)
  rw [noTen]
  rcases le_total binary 0 with fine' | coarse'
  · -- the second part has no power
    have noTwo : binary.toNat = 0 := by omega
    rw [noTwo]
    refine .of_le ?_
    simpa using hb.2
  · -- either part has one power
    have noTwo : (-binary).toNat = 0 := by omega
    have two := twoPow_bounds (n := binary.toNat) (by omega)
    rw [noTwo]
    exact .inl ⟨mul_mul_le_max128 ha ten (twoPow_bounds (Nat.zero_le _)) (.inr rfl),
      mul_mul_le_max128 hb (tenPow_bounds (Nat.zero_le _)) two (.inl rfl)⟩

namespace Format

variable {format : Format}

namespace Consistent

theorem exactScale_pos (consistent : format.Consistent) :
    0 < format.exactScale.num ∧ 0 < format.exactScale.den := by
  have num := consistent.num_pos
  have den := consistent.den_pos
  have ten := tenPow_pos
  have two := twoPow_pos
  simp only [exactScale, microsPerUnit]
  exact ⟨by exact_mod_cast Nat.mul_pos (Nat.mul_pos den (ten _)) (two _), by
    exact_mod_cast Nat.mul_pos (Nat.mul_pos (Nat.mul_pos num (by decide)) (ten _)) (two _)⟩

/-- The parts of an exact scale are in range, but for one of them, and the other is small then. -/
theorem balanced_exactScale (consistent : format.Consistent) (words : format.multiplier.Fits32) :
    Scale.Balanced format.exactScale.num format.exactScale.den := by
  obtain ⟨hnum, hden⟩ := words
  have decimal := consistent.decimal_le
  have binary := consistent.binary_le
  have numPart : 0 ≤ (format.multiplier.den : ℤ) ∧ (format.multiplier.den : ℤ) ≤ 2 ^ 52 := by omega
  have denPart : 0 ≤ (format.multiplier.num * microsPerUnit : ℤ) ∧
      (format.multiplier.num * microsPerUnit : ℤ) ≤ 2 ^ 52 := by
    simp only [microsPerUnit]
    omega
  rcases le_total format.decimalExponent 0 with fine | coarse
  · exact balanced_mul_powers numPart denPart decimal binary fine
  · -- with the signs of the exponents changed, the parts change places
    have swapped := balanced_mul_powers denPart numPart (by rwa [Int.natAbs_neg])
      (by rwa [Int.natAbs_neg]) (neg_nonpos.2 coarse)
    simpa only [exactScale, neg_neg] using swapped.symm

end Consistent

end Format

/-! ### Rounding under the limit -/

section Capped

variable {a p q : ℤ}

/-- A number that is not zero, multiplied by a part over the limit, leaves the range after the
division. -/
theorem eq_zero_of_fits64_roundDiv (hq : 0 < q) (small : q ≤ 2 ^ 52)
    (result : Fits64 (roundDiv (a * max128) q)) : a = 0 := by
  obtain ⟨least, greatest⟩ := result
  obtain ⟨lower, upper⟩ := roundDiv_mul_bounds (a * max128) hq
  -- a quotient of `2 ^ 127` by at most `2 ^ 52` is far beyond 64 bits, on either side of zero
  rcases lt_trichotomy a 0 with negative | zero | positive
  · have product : min64 * q ≤ roundDiv (a * max128) q * q :=
      mul_le_mul_of_nonneg_right least hq.le
    simp only [min64, max128] at *
    omega
  · exact zero
  · have product : roundDiv (a * max128) q * q ≤ max64 * q :=
      mul_le_mul_of_nonneg_right greatest hq.le
    simp only [max64, max128] at *
    omega

/-- A small product is less than half a denominator over the limit. -/
theorem two_mul_abs_mul_lt (ha : Fits64 a) (hp : 0 < p) (small : p ≤ 2 ^ 52) :
    2 * |a * p| < max128 := by
  have magnitude : |a| ≤ 2 ^ 63 := by
    obtain ⟨lower, upper⟩ := ha
    simp only [min64, max64] at *
    exact abs_le.2 ⟨by omega, by omega⟩
  calc 2 * |a * p| = 2 * (|a| * p) := by rw [abs_mul, abs_of_pos hp]
    _ ≤ 2 * (2 ^ 63 * 2 ^ 52) := by
        have := mul_le_mul magnitude small hp.le (by norm_num)
        linarith
    _ < max128 := by norm_num

/-- Where one part is over the limit, a rounded product in range is zero, and the exact quotient is
less than one half. -/
theorem eq_zero_of_capped (ha : Fits64 a) (hp : 0 < p) (hq : 0 < q)
    (large : (max128 < p ∧ q ≤ 2 ^ 52) ∨ (max128 < q ∧ p ≤ 2 ^ 52))
    (result : Fits64 (roundDiv (a * min p max128) (min q max128))) :
    roundDiv (a * min p max128) (min q max128) = 0 ∧ 2 * |a * p| < q := by
  rcases large with ⟨beyond, small⟩ | ⟨beyond, small⟩
  · -- with the numerator over the limit only zero keeps the quotient in range
    rw [min_eq_right beyond.le, min_eq_left (small.trans (by decide))] at result ⊢
    obtain rfl := eq_zero_of_fits64_roundDiv hq small result
    simpa [roundDiv_zero_left] using hq
  · -- with the denominator over the limit every quotient is less than one half
    rw [min_eq_right beyond.le, min_eq_left (small.trans (by decide))]
    have less := two_mul_abs_mul_lt ha hp small
    exact ⟨roundDiv_eq_of_lt (by simpa using less), less.trans beyond⟩

/-- **The limit never changes a rounded product.** -/
theorem roundsTo_capped (ha : Fits64 a) (hp : 0 < p) (hq : 0 < q) (sizes : Scale.Balanced p q)
    (result : Fits64 (roundDiv (a * min p max128) (min q max128))) :
    RoundsTo (a * p / q) (roundDiv (a * min p max128) (min q max128)) := by
  rcases sizes with ⟨inRange, inRange'⟩ | large
  · rw [min_eq_left inRange, min_eq_left inRange']
    exact_mod_cast roundsTo_roundDiv (a * p) hq
  · obtain ⟨zero, less⟩ := eq_zero_of_capped ha hp hq large result
    have positive : (0 : ℚ) < q := by exact_mod_cast hq
    have less : 2 * |(a : ℚ) * p| < q := by exact_mod_cast less
    rw [zero]
    refine RoundsTo.zero_of_abs_lt ?_
    rw [abs_div, abs_of_pos positive, div_lt_div_iff₀ positive (by norm_num)]
    linarith

end Capped

/-! ### Quantities and codes -/

namespace Format

variable {format : Format}

theorem step_eq_div (consistent : format.Consistent) :
    format.step = format.exactScale.den / format.exactScale.num := by
  have positive : (0 : ℚ) < format.exactScale.num := by
    exact_mod_cast consistent.exactScale_pos.1
  rw [eq_div_iff positive.ne', step_mul_exactScale_num consistent.den_pos]

theorem quantityOfCode_eq_ok_iff {code : ℤ} {quantity : Quantity} :
    format.quantityOfCode code = .ok quantity ↔ format.quantityOfCode? code = some quantity := by
  rw [quantityOfCode]
  cases format.quantityOfCode? code <;> simp

theorem codeOfQuantity_eq_ok_iff {code : ℤ} {quantity : Quantity} :
    format.codeOfQuantity quantity = .ok code ↔ format.codeOfQuantity? quantity = some code := by
  rw [codeOfQuantity]
  cases format.codeOfQuantity? quantity <;> simp

namespace Consistent

/-- The quantity of a code is the exact one, rounded to a millionth. -/
theorem roundsTo_of_quantityOfCode? (consistent : format.Consistent)
    (words : format.multiplier.Fits32) {code : ℤ} (hcode : Fits64 code) {quantity : Quantity}
    (h : format.quantityOfCode? code = some quantity) :
    RoundsTo (code * format.step) quantity.micros := by
  obtain ⟨-, -, micros⟩ := quantityOfCode?_eq_some_iff.1 h
  have fits := quantity.fits
  obtain ⟨hnum, hden⟩ := consistent.exactScale_pos
  have balanced := (consistent.balanced_exactScale words).symm
  rw [scale_eq_capped words] at micros
  rw [micros] at fits ⊢
  rw [step_eq_div consistent, ← mul_div_assoc]
  exact roundsTo_capped hcode hden hnum balanced fits

/-- The code of a quantity is the exact one, rounded to a whole number. -/
theorem roundsTo_of_codeOfQuantity? (consistent : format.Consistent)
    (words : format.multiplier.Fits32) {code : ℤ} {quantity : Quantity}
    (h : format.codeOfQuantity? quantity = some code) :
    RoundsTo (quantity.micros / format.step) code := by
  obtain ⟨-, -, fits, rounded⟩ := codeOfQuantity?_eq_some_iff.1 h
  obtain ⟨hnum, hden⟩ := consistent.exactScale_pos
  have balanced := consistent.balanced_exactScale words
  rw [scale_eq_capped words] at rounded
  rw [rounded] at fits ⊢
  rw [step_eq_div consistent, div_div_eq_mul_div]
  exact roundsTo_capped quantity.fits hnum hden balanced fits

/-- Where a scale meets the limit, no code has a quantity other than zero. -/
theorem micros_eq_zero_of_scale_ne (consistent : format.Consistent)
    (words : format.multiplier.Fits32) (limited : format.scale ≠ format.exactScale) {code : ℤ}
    (hcode : Fits64 code) {quantity : Quantity}
    (h : format.quantityOfCode? code = some quantity) : quantity.micros = 0 := by
  obtain ⟨-, -, micros⟩ := quantityOfCode?_eq_some_iff.1 h
  have fits := quantity.fits
  obtain ⟨hnum, hden⟩ := consistent.exactScale_pos
  rw [scale_eq_capped words] at micros limited
  rw [micros] at fits ⊢
  rcases (consistent.balanced_exactScale words).symm with ⟨hden', hnum'⟩ | large
  · -- a scale inside the limit is not cut off
    refine absurd ?_ limited
    rw [Scale.capped, min_eq_left hnum', min_eq_left hden']
  · exact (eq_zero_of_capped hcode hden hnum large fits).1

end Consistent

/-- **Every quantity and every code is the exact one, rounded.**  The limits of the arithmetic may
refuse a code or a quantity, but the quantity of a code is the code times the exact step, and the
code of a quantity the quantity divided by it, rounded to the nearest integer with ties away from
zero, and no other number. -/
theorem roundsTo_of_scaled (consistent : format.tableFaults = [])
    (words : format.multiplier.Fits32) :
    (∀ code quantity, Fits64 code → format.quantityOfCode code = .ok quantity →
        ∀ micros, RoundsTo (code * format.step) micros ↔ micros = quantity.micros) ∧
      ∀ quantity code, format.codeOfQuantity quantity = .ok code →
        ∀ nearest, RoundsTo (quantity.micros / format.step) nearest ↔ nearest = code := by
  have consistent := tableFaults_eq_nil_iff.1 consistent
  constructor
  · intro code quantity hcode h micros
    have answered := quantityOfCode_eq_ok_iff.1 h
    exact (consistent.roundsTo_of_quantityOfCode? words hcode answered).iff_eq
  · intro quantity code h nearest
    have answered := codeOfQuantity_eq_ok_iff.1 h
    exact (consistent.roundsTo_of_codeOfQuantity? words answered).iff_eq

/-- The finest steps that a format of eight bits can have. -/
def finest : Format :=
  { plain "finest" (.twosComplement 8) with
    multiplier := ⟨1, 4294967295⟩
    decimalExponent := -18
    binaryExponent := -62 }

/-- The coarsest steps that a format of eight bits can have. -/
def coarsest : Format :=
  { plain "coarsest" (.twosComplement 8) with
    multiplier := ⟨4294967295, 1⟩
    decimalExponent := 18
    binaryExponent := 62 }

/-- Steps of half a millionth. -/
def halfStep : Format :=
  { plain "half_step" (.twosComplement 8) with
    multiplier := ⟨1, 2⟩
    decimalExponent := -6 }

/-- Steps of two millionths. -/
def doubleStep : Format :=
  { plain "double_step" (.twosComplement 8) with
    multiplier := ⟨2, 1⟩
    decimalExponent := -6 }

/-- In the finest steps the numerator of the scale is cut off, and every code is less than half a
millionth; in the coarsest the denominator is, and every quantity is less than half a step.  In
between, ties of either sign go away from zero: three steps of half a millionth are two millionths,
and three millionths are two steps of two millionths. -/
theorem roundsTo_of_scaled_limits :
    (finest.tableFaults = [] ∧ finest.multiplier.Fits32 ∧ finest.scale.num = max128 ∧
        finest.quantityOfCode (-128) = .ok .zero ∧ RoundsTo ((-128 : ℤ) * finest.step) 0) ∧
      (coarsest.tableFaults = [] ∧ coarsest.multiplier.Fits32 ∧ coarsest.scale.den = max128 ∧
        coarsest.codeOfQuantity ⟨max64, by decide⟩ = .ok 0 ∧
        RoundsTo ((max64 : ℤ) / coarsest.step) 0) ∧
      (halfStep.tableFaults = [] ∧ halfStep.multiplier.Fits32 ∧
        halfStep.quantityOfCode 3 = .ok ⟨2, by decide⟩ ∧
        RoundsTo ((3 : ℤ) * halfStep.step) 2 ∧ ¬ RoundsTo ((3 : ℤ) * halfStep.step) 1 ∧
        halfStep.quantityOfCode (-3) = .ok ⟨-2, by decide⟩ ∧
        RoundsTo ((-3 : ℤ) * halfStep.step) (-2)) ∧
      doubleStep.tableFaults = [] ∧ doubleStep.multiplier.Fits32 ∧
        doubleStep.codeOfQuantity ⟨3, by decide⟩ = .ok 2 ∧
        RoundsTo ((3 : ℤ) / doubleStep.step) 2 ∧
        doubleStep.codeOfQuantity ⟨-3, by decide⟩ = .ok (-2) ∧
        RoundsTo ((-3 : ℤ) / doubleStep.step) (-2) := by
  have fine : finest.tableFaults = [] := by decide
  have fineWords : finest.multiplier.Fits32 := by decide
  have smallest : finest.quantityOfCode (-128) = .ok .zero := by rfl
  have coarse : coarsest.tableFaults = [] := by decide
  have coarseWords : coarsest.multiplier.Fits32 := by decide
  have largest : coarsest.codeOfQuantity ⟨max64, by decide⟩ = .ok 0 := by rfl
  have half : halfStep.tableFaults = [] := by decide
  have halfWords : halfStep.multiplier.Fits32 := by decide
  have up : halfStep.quantityOfCode 3 = .ok ⟨2, by decide⟩ := by rfl
  have down : halfStep.quantityOfCode (-3) = .ok ⟨-2, by decide⟩ := by rfl
  have double : doubleStep.tableFaults = [] := by decide
  have doubleWords : doubleStep.multiplier.Fits32 := by decide
  have above : doubleStep.codeOfQuantity ⟨3, by decide⟩ = .ok 2 := by rfl
  have below : doubleStep.codeOfQuantity ⟨-3, by decide⟩ = .ok (-2) := by rfl
  have smallestRounds := (roundsTo_of_scaled fine fineWords).1 _ _ (by decide) smallest
  have largestRounds := (roundsTo_of_scaled coarse coarseWords).2 _ _ largest
  have upRounds := (roundsTo_of_scaled half halfWords).1 _ _ (by decide) up
  have downRounds := (roundsTo_of_scaled half halfWords).1 _ _ (by decide) down
  have aboveRounds := (roundsTo_of_scaled double doubleWords).2 _ _ above
  have belowRounds := (roundsTo_of_scaled double doubleWords).2 _ _ below
  refine ⟨⟨fine, fineWords, by decide, smallest, (smallestRounds 0).2 rfl⟩,
    ⟨coarse, coarseWords, by decide, largest, (largestRounds 0).2 rfl⟩,
    ⟨half, halfWords, up, (upRounds 2).2 rfl, ?_, down, (downRounds (-2)).2 rfl⟩,
    double, doubleWords, above, (aboveRounds 2).2 rfl, below, (belowRounds (-2)).2 rfl⟩
  intro one
  exact absurd ((upRounds 1).1 one) (by decide)

end Format

end DeviceProperty
