/-
**The nearest integer.**

`DeviceProperty.roundDiv` is computed by a truncating division and a correction of its remainder.
This module replaces the computation by an inequality: the result times the denominator is within
half a denominator of the numerator.  Order, and the round trip through a finer scale, follow from
the inequality alone.  The same rule is then said of the rational number that numerator and
denominator stand for; there it leaves no choice, and it survives a restriction to a range.

At the end the rounded quotient is computed once more, with every step on a word of 128 bits, where
a step may have no answer; and it is shown that every step has one.

Main definitions:

* `DeviceProperty.RoundsTo` — being the nearest integer to a rational number;
* `DeviceProperty.roundDiv128?` — the rounded quotient, step by step in words;
* `DeviceProperty.NearestMultiple` — the multiple of a denominator nearest to a numerator.

Main results:

* `DeviceProperty.two_mul_abs_sub_roundDiv_le` — **the rounded quotient is nearest**;
* `DeviceProperty.roundDiv_mono` — rounding keeps the order of numerators;
* `DeviceProperty.roundDiv_roundDiv_mul` — a number of coarse steps, turned into fine steps and
  back, is the same number;
* `DeviceProperty.RoundsTo.unique` — there is one nearest integer;
* `DeviceProperty.RoundsTo.farther_of_range` — **the nearest integer of a range**;
* `DeviceProperty.roundDiv128?_eq_some` — **no step overflows**;
* `DeviceProperty.roundDiv128?_nearest` — **the rounded quotient in words** is the only nearest one,
  commutes with a change of sign, and keeps order.
-/

import Mathlib
import DeviceProperty.Number.Basic

set_option relaxedAutoImplicit false
set_option autoImplicit false

namespace DeviceProperty

variable {num den : ℤ}

/-! ### The distance to the rounded quotient -/

private theorem two_mul_abs_sub_roundDiv_le_of_nonneg (hnum : 0 ≤ num) (hden : 0 < den) :
    2 * |num - roundDiv num den * den| ≤ den := by
  have split : num / den * den + num % den = num := Int.ediv_mul_add_emod num den
  have nonneg : 0 ≤ num % den := Int.emod_nonneg num (by omega)
  have small : num % den < den := Int.emod_lt_of_pos num hden
  simp only [roundDiv, Int.tdiv_eq_ediv_of_nonneg hnum, Int.tmod_eq_emod_of_nonneg hnum]
  split_ifs with tie
  · -- the remainder is at least half a denominator, so the numerator is not zero
    have positive : 0 < num := by
      rcases hnum.lt_or_eq with h | rfl
      · exact h
      · simp at tie; omega
    rw [Int.sign_eq_one_of_pos positive, add_mul, one_mul, abs_of_nonpos (by omega)]
    omega
  · rw [abs_of_nonneg (by omega)]
    omega

/-- **The rounded quotient is nearest**: times the denominator it is within half a denominator of
the numerator. -/
theorem two_mul_abs_sub_roundDiv_le (num : ℤ) (hden : 0 < den) :
    2 * |num - roundDiv num den * den| ≤ den := by
  rcases le_total 0 num with h | h
  · exact two_mul_abs_sub_roundDiv_le_of_nonneg h hden
  · have reflected := two_mul_abs_sub_roundDiv_le_of_nonneg (neg_nonneg.2 h) hden
    rwa [roundDiv_neg, neg_mul, ← neg_sub', abs_neg] at reflected

theorem roundDiv_mul_bounds (num : ℤ) (hden : 0 < den) :
    2 * num - den ≤ 2 * (roundDiv num den * den) ∧
      2 * (roundDiv num den * den) ≤ 2 * num + den := by
  have near := two_mul_abs_sub_roundDiv_le num hden
  have above := le_abs_self (num - roundDiv num den * den)
  have below := neg_abs_le (num - roundDiv num den * den)
  constructor <;> linarith

/-- Above zero a tie goes up: the product is never half a denominator below the numerator. -/
theorem sub_lt_roundDiv_mul (hnum : 0 ≤ num) (hden : 0 < den) :
    2 * num - den < 2 * (roundDiv num den * den) := by
  have split : num / den * den + num % den = num := Int.ediv_mul_add_emod num den
  have nonneg : 0 ≤ num % den := Int.emod_nonneg num (by omega)
  have small : num % den < den := Int.emod_lt_of_pos num hden
  simp only [roundDiv, Int.tdiv_eq_ediv_of_nonneg hnum, Int.tmod_eq_emod_of_nonneg hnum]
  split_ifs with tie
  · have positive : 0 < num := by
      rcases hnum.lt_or_eq with h | rfl
      · exact h
      · simp at tie; omega
    rw [Int.sign_eq_one_of_pos positive, add_mul, one_mul]
    omega
  · omega

private theorem eq_of_abs_mul_sub_mul_lt {p q : ℤ} (h : |p * den - q * den| < den) : p = q := by
  have hden : 0 < den := (abs_nonneg _).trans_lt h
  rw [← sub_mul, abs_mul, abs_of_pos hden] at h
  have small : |p - q| < 1 := lt_of_mul_lt_mul_right (by linarith) hden.le
  exact sub_eq_zero.1 (Int.abs_lt_one_iff.1 small)

/-- An integer whose product with the denominator is closer than half a denominator to the
numerator is the rounded quotient. -/
theorem roundDiv_eq_of_lt {q : ℤ} (h : 2 * |num - q * den| < den) : roundDiv num den = q := by
  have hden : 0 < den := by linarith [abs_nonneg (num - q * den)]
  have near := two_mul_abs_sub_roundDiv_le num hden
  have apart := abs_sub_le (roundDiv num den * den) num (q * den)
  rw [abs_sub_comm _ num] at apart
  have close : |roundDiv num den * den - q * den| < den := by linarith
  exact eq_of_abs_mul_sub_mul_lt close

/-! ### Order -/

theorem roundDiv_mono {a b : ℤ} (hden : 0 < den) (h : a ≤ b) : roundDiv a den ≤ roundDiv b den := by
  by_contra crossed
  have step : (roundDiv b den + 1) * den ≤ roundDiv a den * den :=
    mul_le_mul_of_nonneg_right (by omega) hden.le
  have lower := (roundDiv_mul_bounds a hden).2
  have upper := (roundDiv_mul_bounds b hden).1
  -- both products are half a denominator away from the numerators, so the numerators are equal
  have same : a = b := by linarith
  subst same
  exact crossed le_rfl

/-! ### The round trip through a finer scale -/

/-- A number of coarse steps, turned into fine steps and back, is the same number.  The fine steps
are `den / num ≥ 1` to a coarse one, so the first rounding moves a number by less than half a
coarse step, or not at all. -/
theorem roundDiv_roundDiv_mul (code : ℤ) (hnum : 0 < num) (fine : num ≤ den) :
    roundDiv (roundDiv (code * den) num * num) den = code := by
  have near := two_mul_abs_sub_roundDiv_le (code * den) hnum
  rw [abs_sub_comm] at near
  -- the second quotient is nearest to a product half a numerator from `code * den`
  apply roundDiv_eq_of_lt
  rcases fine.lt_or_eq with finer | rfl
  · linarith
  · -- equal steps: nothing is rounded
    have exact : roundDiv (code * num) num = code := roundDiv_eq_of_lt (by simpa using hnum)
    simpa [exact] using hnum

/-- The nearest integer to a rational number; of two equally near ones, the one of larger
magnitude. -/
structure RoundsTo (x : ℚ) (n : ℤ) : Prop where
  near : |x - n| ≤ 1 / 2
  tie : |x - n| = 1 / 2 → |x| < |(n : ℚ)|

namespace RoundsTo

variable {x : ℚ} {m n : ℤ}

theorem neg (h : RoundsTo x n) : RoundsTo (-x) (-n) := by
  have distance : |-x - ((-n : ℤ) : ℚ)| = |x - n| := by
    rw [Int.cast_neg, ← neg_sub', abs_neg]
  refine ⟨?_, ?_⟩
  · rw [distance]
    exact h.near
  · intro half
    rw [distance] at half
    rw [Int.cast_neg, abs_neg, abs_neg]
    exact h.tie half

theorem zero_of_abs_lt (h : |x| < 1 / 2) : RoundsTo x 0 := by
  refine ⟨?_, ?_⟩
  · simpa using h.le
  · intro half
    simp only [Int.cast_zero, sub_zero] at half
    exact absurd half h.ne

/-! ### Every other integer -/

/-- A smaller integer is farther, or as far and of smaller magnitude. -/
private theorem farther_of_lt (h : RoundsTo x n) {other : ℤ} (less : other < n) :
    |x - n| < |x - other| ∨ |x - n| = |x - other| ∧ |other| < |n| := by
  have below : (other : ℚ) ≤ n - 1 := by exact_mod_cast Int.le_sub_one_of_lt less
  have lower := (abs_le.1 h.near).1
  have distance : |x - other| = x - other := abs_of_nonneg (by linarith)
  rcases lt_or_ge |x - n| |x - other| with nearer | notNearer
  · exact .inl nearer
  · -- both are one half away, so the number lies halfway between two neighbours above zero
    have half : |x - n| = 1 / 2 := le_antisymm h.near (by linarith)
    have smaller := h.tie half
    have positive : 0 < n := by
      by_contra nonpositive
      have cast : (n : ℚ) ≤ 0 := by exact_mod_cast not_lt.1 nonpositive
      rw [abs_of_nonpos (by linarith), abs_of_nonpos cast] at smaller
      linarith
    refine .inr ⟨le_antisymm (by linarith) notNearer, ?_⟩
    have neighbour : (n : ℚ) ≤ other + 1 := by linarith
    have neighbour : n ≤ other + 1 := by exact_mod_cast neighbour
    rw [abs_of_nonneg (by omega), abs_of_pos positive]
    exact less

/-- **Every other integer** is farther, or as far and of smaller magnitude. -/
theorem farther (h : RoundsTo x n) {other : ℤ} (distinct : other ≠ n) :
    |x - n| < |x - other| ∨ |x - n| = |x - other| ∧ |other| < |n| := by
  rcases lt_or_gt_of_ne distinct with less | greater
  · exact h.farther_of_lt less
  · have reflected := h.neg.farther_of_lt (neg_lt_neg greater)
    simpa only [Int.cast_neg, ← neg_sub', abs_neg] using reflected

theorem unique (hm : RoundsTo x m) (hn : RoundsTo x n) : m = n := by
  by_contra distinct
  rcases hn.farther distinct with nearer | ⟨same, smaller⟩
  · rcases hm.farther (Ne.symm distinct) with farther | ⟨same, -⟩
    · exact lt_asymm nearer farther
    · exact nearer.ne same.symm
  · rcases hm.farther (Ne.symm distinct) with farther | ⟨-, larger⟩
    · exact farther.ne same.symm
    · exact lt_asymm smaller larger

theorem iff_eq (h : RoundsTo x n) : RoundsTo x m ↔ m = n := by
  constructor
  · intro other
    exact other.unique h
  · rintro rfl
    exact h

/-- **The nearest integer of a range** is the nearest integer, moved into the range: every other
integer of the range is farther, or as far and of smaller magnitude. -/
theorem farther_of_range (h : RoundsTo x n) {least greatest nearest other : ℤ}
    (moved : nearest = min (max n least) greatest) (lower : least ≤ other)
    (upper : other ≤ greatest) (distinct : other ≠ nearest) :
    |x - nearest| < |x - other| ∨ |x - nearest| = |x - other| ∧ |other| < |nearest| := by
  obtain ⟨below, above⟩ := abs_le.1 h.near
  rcases lt_or_ge greatest n with past | notPast
  · -- the number lies beyond the last integer of the range
    obtain rfl : nearest = greatest := by omega
    have beyond : (nearest : ℚ) + 1 ≤ n := by exact_mod_cast past
    have less : (other : ℚ) < nearest := by exact_mod_cast lt_of_le_of_ne upper distinct
    left
    rw [abs_of_nonneg (by linarith), abs_of_nonneg (by linarith)]
    linarith
  rcases lt_or_ge n least with before | notBefore
  · -- the number lies before the first integer of the range
    obtain rfl : nearest = least := by omega
    have beyond : (n : ℚ) + 1 ≤ nearest := by exact_mod_cast before
    have greater : (nearest : ℚ) < other := by exact_mod_cast lt_of_le_of_ne lower distinct.symm
    left
    rw [abs_of_nonpos (by linarith), abs_of_nonpos (by linarith)]
    linarith
  · obtain rfl : nearest = n := by omega
    exact h.farther distinct

end RoundsTo

/-! ### Rounded quotients -/

theorem abs_div_sub_mul {d : ℚ} (hd : 0 < d) (x y : ℚ) : |x / d - y| * d = |x - y * d| := by
  have product : (x / d - y) * d = x - y * d := by
    rw [sub_mul, div_mul_cancel₀ _ hd.ne']
  rw [← product, abs_mul, abs_of_pos hd]

private theorem roundsTo_roundDiv_of_nonneg (hnum : 0 ≤ num) (hden : 0 < den) :
    RoundsTo (num / den) (roundDiv num den) := by
  have positive : (0 : ℚ) < den := by exact_mod_cast hden
  have near : 2 * |(num : ℚ) - roundDiv num den * den| ≤ den := by
    exact_mod_cast two_mul_abs_sub_roundDiv_le num hden
  have upward : 2 * (num : ℚ) - den < 2 * (roundDiv num den * den) := by
    exact_mod_cast sub_lt_roundDiv_mul hnum hden
  -- distances are compared as multiples of the denominator
  have distance := abs_div_sub_mul positive (num : ℚ) (roundDiv num den)
  refine ⟨le_of_mul_le_mul_right (by linarith) positive, ?_⟩
  intro half
  rw [half] at distance
  -- not below the quotient by one half, the result is above it
  have above : (num : ℚ) < roundDiv num den * den := by
    by_contra below
    rw [abs_of_nonneg (by linarith)] at distance
    linarith
  have quotient : (num : ℚ) / den < roundDiv num den := (div_lt_iff₀ positive).2 above
  have nonneg : (0 : ℚ) ≤ num / den := div_nonneg (by exact_mod_cast hnum) positive.le
  rwa [abs_of_nonneg nonneg, abs_of_pos (nonneg.trans_lt quotient)]

/-- **The rounded quotient is the nearest integer** to the quotient. -/
theorem roundsTo_roundDiv (num : ℤ) (hden : 0 < den) :
    RoundsTo (num / den) (roundDiv num den) := by
  rcases le_total 0 num with h | h
  · exact roundsTo_roundDiv_of_nonneg h hden
  · have reflected := (roundsTo_roundDiv_of_nonneg (neg_nonneg.2 h) hden).neg
    rwa [roundDiv_neg, neg_neg, Int.cast_neg, neg_div, neg_neg] at reflected

/-! ### Steps that stay in a word -/

/-- A number, if it is a 128-bit number with a sign. -/
def signed128? (n : ℤ) : Option ℤ := if Fits128 n then some n else none

/-- A number, if it is a 128-bit number without a sign. -/
def unsigned128? (n : ℕ) : Option ℕ := if n < twoPow 128 then some n else none

/-- The quotient of two words, rounded toward zero.  There is none by zero, and the quotient of the
smallest word by `-1` is out of range. -/
def quotient128? (num den : ℤ) : Option ℤ := if den = 0 then none else signed128? (num.tdiv den)

/-- The remainder that belongs to the quotient of two words.  It is found together with the
quotient, and there is none where the quotient is out of range. -/
def remainder128? (num den : ℤ) : Option ℤ := do
  let _ ← quotient128? num den
  signed128? (num.tmod den)

/-- The rounded quotient of two words, with every step held to its range. -/
def roundDiv128? (num den : ℤ) : Option ℤ := do
  let quotient ← quotient128? num den
  let remainder ← remainder128? num den
  let size ← unsigned128? remainder.natAbs
  let twice ← unsigned128? (size * 2)
  let divisor ← unsigned128? den.natAbs
  if divisor ≤ twice then signed128? (quotient + num.sign) else some quotient

theorem signed128?_eq_some {n : ℤ} (h : Fits128 n) : signed128? n = some n := if_pos h

theorem unsigned128?_eq_some {n : ℕ} (h : n < twoPow 128) : unsigned128? n = some n := if_pos h

/-- What lies between zero and a word is a word. -/
theorem Fits128.of_toward_zero {m n : ℤ} (h : Fits128 m) (lower : min m 0 ≤ n)
    (upper : n ≤ max m 0) : Fits128 n := by
  simp only [Fits128, min128, max128] at *
  omega

/-! ### Bounds of a quotient -/

private theorem roundDiv_bounds_of_nonneg (hnum : 0 ≤ num) (hden : 0 < den) :
    0 ≤ roundDiv num den ∧ roundDiv num den ≤ num := by
  constructor
  · simpa [roundDiv_zero_left] using roundDiv_mono hden hnum
  · by_contra beyond
    have near := (roundDiv_mul_bounds num hden).2
    have step : (num + 1) * den ≤ roundDiv num den * den :=
      mul_le_mul_of_nonneg_right (by omega) hden.le
    -- a denominator takes nothing away from a number that is not negative
    have whole : num * 1 ≤ num * den := mul_le_mul_of_nonneg_left (by omega) hnum
    linarith

/-- The rounded quotient lies between zero and the numerator. -/
theorem roundDiv_bounds (num : ℤ) (hden : 0 < den) :
    min num 0 ≤ roundDiv num den ∧ roundDiv num den ≤ max num 0 := by
  rcases le_total 0 num with h | h
  · have := roundDiv_bounds_of_nonneg h hden
    omega
  · have reflected := roundDiv_bounds_of_nonneg (neg_nonneg.2 h) hden
    rw [roundDiv_neg] at reflected
    omega

theorem tdiv_bounds (num : ℤ) (hden : 0 < den) :
    min num 0 ≤ num.tdiv den ∧ num.tdiv den ≤ max num 0 := by
  rcases le_total 0 num with h | h
  · have above := Int.tdiv_nonneg h hden.le
    have below := Int.tdiv_le_self den h
    omega
  · have above := Int.tdiv_nonneg (neg_nonneg.2 h) hden.le
    have below := Int.tdiv_le_self den (neg_nonneg.2 h)
    rw [Int.neg_tdiv] at above below
    omega

theorem natAbs_tmod_lt (num : ℤ) (hden : 0 < den) : (num.tmod den).natAbs < den.natAbs := by
  rw [Int.natAbs_tmod]
  exact Nat.mod_lt _ (by omega)

/-! ### No overflow -/

/-- **No step overflows**: in words the rounded quotient is computed as it is on integers. -/
theorem roundDiv128?_eq_some (hnum : Fits128 num) (hden : Fits128 den) (positive : 0 < den) :
    roundDiv128? num den = some (roundDiv num den) := by
  obtain ⟨quotientLower, quotientUpper⟩ := tdiv_bounds num positive
  obtain ⟨resultLower, resultUpper⟩ := roundDiv_bounds num positive
  have quotientFits := hnum.of_toward_zero quotientLower quotientUpper
  have resultFits := hnum.of_toward_zero resultLower resultUpper
  have smaller := natAbs_tmod_lt num positive
  have remainderFits : Fits128 (num.tmod den) := by
    simp only [Fits128, min128, max128] at *
    omega
  -- a word with a sign has at most half the magnitude of one without
  have half : den.natAbs * 2 < twoPow 128 := by
    have size : twoPow 128 = 340282366920938463463374607431768211456 := rfl
    simp only [Fits128, min128, max128] at hden
    omega
  have quotient : quotient128? num den = some (num.tdiv den) := by
    rw [quotient128?, if_neg positive.ne', signed128?_eq_some quotientFits]
  have remainder : remainder128? num den = some (num.tmod den) := by
    rw [remainder128?, quotient, Option.bind_eq_bind, Option.bind_some,
      signed128?_eq_some remainderFits]
  have size : unsigned128? (num.tmod den).natAbs = some (num.tmod den).natAbs :=
    unsigned128?_eq_some (by omega)
  have twice : unsigned128? ((num.tmod den).natAbs * 2) = some ((num.tmod den).natAbs * 2) :=
    unsigned128?_eq_some (by omega)
  have divisor : unsigned128? den.natAbs = some den.natAbs := unsigned128?_eq_some (by omega)
  -- the remainder is compared without signs, which changes nothing for a positive denominator
  have compared : den.natAbs ≤ (num.tmod den).natAbs * 2 ↔ den ≤ 2 * (num.tmod den).natAbs := by
    omega
  simp only [roundDiv128?, quotient, remainder, size, twice, divisor, compared,
    Option.bind_eq_bind, Option.bind_some]
  rw [roundDiv] at resultFits ⊢
  split_ifs at resultFits ⊢ with tie
  · exact signed128?_eq_some resultFits
  · rfl

/-! ### The nearest multiple -/

/-- The multiple of a denominator nearest to a numerator; of two equally near ones, the one of
larger magnitude. -/
structure NearestMultiple (num den q : ℤ) : Prop where
  near : 2 * |num - q * den| ≤ den
  tie : 2 * |num - q * den| = den → |num| < |q * den|

/-- A nearest multiple is a nearest integer to the quotient. -/
theorem nearestMultiple_iff (hden : 0 < den) {q : ℤ} :
    NearestMultiple num den q ↔ RoundsTo (num / den) q := by
  have positive : (0 : ℚ) < den := by exact_mod_cast hden
  -- distances and magnitudes are compared as multiples of the denominator
  have distance := abs_div_sub_mul positive (num : ℚ) q
  have magnitude : |(num : ℚ) / den| * den = |(num : ℚ)| := by
    simpa using abs_div_sub_mul positive (num : ℚ) 0
  have near : 2 * |num - q * den| ≤ den ↔ |(num : ℚ) / den - q| ≤ 1 / 2 := by
    rw [← mul_le_mul_iff_left₀ positive, distance, ← Int.cast_le (R := ℚ)]
    push_cast
    constructor <;> intro <;> linarith
  have half : 2 * |num - q * den| = den ↔ |(num : ℚ) / den - q| = 1 / 2 := by
    rw [← mul_left_inj' positive.ne', distance, ← Int.cast_inj (α := ℚ)]
    push_cast
    constructor <;> intro <;> linarith
  have larger : |num| < |q * den| ↔ |(num : ℚ) / den| < |(q : ℚ)| := by
    rw [← mul_lt_mul_iff_left₀ positive, magnitude, abs_mul, abs_of_pos hden]
    exact_mod_cast Iff.rfl
  constructor
  · intro h
    exact ⟨near.1 h.near, fun equal => larger.1 (h.tie (half.2 equal))⟩
  · intro h
    exact ⟨near.2 h.near, fun equal => larger.2 (h.tie (half.1 equal))⟩

/-- **The rounded quotient in words.**  For a positive denominator no step overflows, and the result
is the only multiple nearest to the numerator, of two equally near ones the one of larger magnitude.
So a change of sign, where the opposite numerator is a word, changes the sign of the result, and a
larger numerator has no smaller result. -/
theorem roundDiv128?_nearest {num den : ℤ} (hnum : Fits128 num) (hden : Fits128 den)
    (positive : 0 < den) :
    roundDiv128? num den = some (roundDiv num den) ∧
      (∀ q, NearestMultiple num den q ↔ q = roundDiv num den) ∧
      (Fits128 (-num) → roundDiv128? (-num) den = some (-roundDiv num den)) ∧
      ∀ other, Fits128 other → num ≤ other →
        ∃ larger, roundDiv128? other den = some larger ∧ roundDiv num den ≤ larger := by
  refine ⟨roundDiv128?_eq_some hnum hden positive, ?_, ?_, ?_⟩
  · intro q
    rw [nearestMultiple_iff positive]
    exact (roundsTo_roundDiv num positive).iff_eq
  · intro opposite
    rw [roundDiv128?_eq_some opposite hden positive, roundDiv_neg]
  · intro other fits le
    exact ⟨_, roundDiv128?_eq_some fits hden positive, roundDiv_mono positive le⟩

/-- At the ends of the range: the smallest word is its own quotient by one, and half of the largest
one is a tie, which goes up; below zero it goes down. -/
theorem roundDiv128?_nearest_ends :
    (Fits128 min128 ∧ Fits128 1 ∧ (0 : ℤ) < 1 ∧ roundDiv128? min128 1 = some min128) ∧
      Fits128 max128 ∧ Fits128 2 ∧ (0 : ℤ) < 2 ∧ Fits128 (-max128) ∧
        2 * |max128 - 2 ^ 126 * 2| = 2 ∧ NearestMultiple max128 2 (2 ^ 126) ∧
        roundDiv128? (-max128) 2 = some (-2 ^ 126) := by
  have least : Fits128 min128 ∧ Fits128 1 ∧ (0 : ℤ) < 1 := by decide
  have greatest : Fits128 max128 ∧ Fits128 2 ∧ (0 : ℤ) < 2 ∧ Fits128 (-max128) := by decide
  have whole : roundDiv min128 1 = min128 := roundDiv_one min128
  have half : roundDiv max128 2 = 2 ^ 126 := by decide
  obtain ⟨exact, -⟩ := roundDiv128?_nearest least.1 least.2.1 least.2.2
  obtain ⟨-, nearest, reflected, -⟩ :=
    roundDiv128?_nearest greatest.1 greatest.2.1 greatest.2.2.1
  rw [whole] at exact
  rw [half] at nearest reflected
  exact ⟨⟨least.1, least.2.1, least.2.2, exact⟩, greatest.1, greatest.2.1, greatest.2.2.1,
    greatest.2.2.2, by decide, (nearest _).2 rfl, reflected greatest.2.2.2⟩

end DeviceProperty
