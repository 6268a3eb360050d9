/-
**Codes and quantities on one scale.**

The scale of a format turns codes into quantities and quantities into codes by a rounded division.
Both directions are partial, because the products and the results have a limited range.  This
module says when they give a result and which one, that codes between two codes with a quantity
have a quantity in between, and how far a quantity is from the quantity of its code.  The distance
is stated in exact steps: a step is a rational number of millionths, computed without limits.

Main definitions:

* `DeviceProperty.Format.Bounded` — both bounds of a format have a quantity;
* `DeviceProperty.Format.step` — the millionths of one step of the code, as a rational number;
* `DeviceProperty.Format.exactScale` — the scale computed without limits;
* `DeviceProperty.Format.Invertible` — the scale separates the ordinary codes of a format and has
  room for all of them.

Main results:

* `DeviceProperty.Format.inDomain_iff_bounded` — the domain in terms of the reported bounds;
* `DeviceProperty.Format.quantityOfCode?_between` — **no gaps**: between two codes with a quantity
  every code has one;
* `DeviceProperty.Format.codeOfQuantity?_between` — and between two quantities with a code every
  quantity has one;
* `DeviceProperty.Format.abs_sub_le_of_clampCode` — a quantity is half a step and half a millionth
  from the quantity of its code, at most;
* `DeviceProperty.Format.Invertible.codeOfQuantity?_eq` — a code comes back from its quantity;
* `DeviceProperty.Format.step_mul_exactScale_num` — the exact scale is the inverse of a step.
-/

import Mathlib
import DeviceProperty.Format.Codec
import DeviceProperty.Proofs.Format.Consistent
import DeviceProperty.Proofs.Number

set_option relaxedAutoImplicit false
set_option autoImplicit false

namespace DeviceProperty

namespace Format

variable {format : Format}

/-! ### The two directions -/

theorem quantityOfCode?_eq_some_iff {code : ℤ} {quantity : Quantity} :
    format.quantityOfCode? code = some quantity ↔
      (0 < format.scale.num ∧ 0 < format.scale.den) ∧ Fits128 (code * format.scale.den) ∧
        quantity.micros = roundDiv (code * format.scale.den) format.scale.num := by
  simp only [quantityOfCode?, Scale.isPositive, Bool.and_eq_true, decide_eq_true_eq]
  split_ifs with positive
  · simp only [positive, Option.bind_eq_bind, Option.bind_eq_some_iff, product?_eq_some,
      Quantity.ofMicros?_eq_some_iff]
    constructor
    · rintro ⟨_, ⟨fits, rfl⟩, micros⟩
      exact ⟨⟨trivial, trivial⟩, fits, micros⟩
    · rintro ⟨-, fits, micros⟩
      exact ⟨_, ⟨fits, rfl⟩, micros⟩
  · simp [positive]

theorem codeOfQuantity?_eq_some_iff {code : ℤ} {quantity : Quantity} :
    format.codeOfQuantity? quantity = some code ↔
      (0 < format.scale.num ∧ 0 < format.scale.den) ∧
        Fits128 (quantity.micros * format.scale.num) ∧ Fits64 code ∧
        code = roundDiv (quantity.micros * format.scale.num) format.scale.den := by
  simp only [codeOfQuantity?, Scale.isPositive, Bool.and_eq_true, decide_eq_true_eq]
  split_ifs with positive
  · simp only [positive, Option.bind_eq_bind, Option.bind_eq_some_iff, product?_eq_some]
    constructor
    · rintro ⟨_, ⟨fits, rfl⟩, h⟩
      split_ifs at h with small
      obtain rfl := Option.some.inj h
      exact ⟨⟨trivial, trivial⟩, fits, small, rfl⟩
    · rintro ⟨-, fits, small, rfl⟩
      exact ⟨_, ⟨fits, rfl⟩, by rw [if_pos small]⟩
  · simp [positive]

/-- A quantity is in the domain when both bounds have a quantity and it lies between them. -/
theorem inDomain_iff {quantity : Quantity} :
    format.inDomain quantity = true ↔ ∃ least greatest,
      format.quantityOfCode? format.minCode = some least ∧
        format.quantityOfCode? format.maxCode = some greatest ∧
        least.micros ≤ quantity.micros ∧ quantity.micros ≤ greatest.micros := by
  simp only [inDomain]
  cases format.quantityOfCode? format.minCode with
  | none => simp
  | some least =>
      cases format.quantityOfCode? format.maxCode with
      | none => simp
      | some greatest => simp [Quantity.le_iff_micros_le]

structure Bounded (format : Format) : Prop where
  minCode_isSome : (format.quantityOfCode? format.minCode).isSome
  maxCode_isSome : (format.quantityOfCode? format.maxCode).isSome

theorem least_eq {least : Quantity} (h : format.quantityOfCode? format.minCode = some least) :
    format.least = least := by
  rw [Format.least, h, Option.getD_some]

theorem greatest_eq {greatest : Quantity}
    (h : format.quantityOfCode? format.maxCode = some greatest) : format.greatest = greatest := by
  rw [Format.greatest, h, Option.getD_some]

/-- A quantity is in the domain when both bounds have a quantity and it lies between the bounds that
the format reports. -/
theorem inDomain_iff_bounded {quantity : Quantity} :
    format.inDomain quantity = true ↔
      format.Bounded ∧ format.least ≤ quantity ∧ quantity ≤ format.greatest := by
  rw [inDomain_iff]
  constructor
  · rintro ⟨least, greatest, hleast, hgreatest, lower, upper⟩
    rw [least_eq hleast, greatest_eq hgreatest]
    exact ⟨⟨by simp [hleast], by simp [hgreatest]⟩, lower, upper⟩
  · rintro ⟨⟨minCode, maxCode⟩, lower, upper⟩
    obtain ⟨least, hleast⟩ := Option.isSome_iff_exists.1 minCode
    obtain ⟨greatest, hgreatest⟩ := Option.isSome_iff_exists.1 maxCode
    rw [least_eq hleast] at lower
    rw [greatest_eq hgreatest] at upper
    exact ⟨least, greatest, hleast, hgreatest, lower, upper⟩

/-- A number between two whose products are in range has a product in range, and its rounded
quotient lies between theirs. -/
theorem fits128_roundDiv_between {a b c num den : ℤ} (hnum : 0 < num) (hden : 0 < den)
    (lower : a ≤ b) (upper : b ≤ c) (first : Fits128 (a * num)) (last : Fits128 (c * num)) :
    Fits128 (b * num) ∧ roundDiv (a * num) den ≤ roundDiv (b * num) den ∧
      roundDiv (b * num) den ≤ roundDiv (c * num) den := by
  have lowerProduct : a * num ≤ b * num := mul_le_mul_of_nonneg_right lower hnum.le
  have upperProduct : b * num ≤ c * num := mul_le_mul_of_nonneg_right upper hnum.le
  exact ⟨⟨first.1.trans lowerProduct, upperProduct.trans last.2⟩,
    roundDiv_mono hden lowerProduct, roundDiv_mono hden upperProduct⟩

/-- **No gaps**: a code between two codes with a quantity has a quantity, and it lies between the
two quantities. -/
theorem quantityOfCode?_between {first code last : ℤ} {least greatest : Quantity}
    (hfirst : format.quantityOfCode? first = some least)
    (hlast : format.quantityOfCode? last = some greatest)
    (lower : first ≤ code) (upper : code ≤ last) :
    ∃ quantity, format.quantityOfCode? code = some quantity ∧
      least.micros ≤ quantity.micros ∧ quantity.micros ≤ greatest.micros := by
  obtain ⟨⟨hnum, hden⟩, fitsFirst, leastMicros⟩ := quantityOfCode?_eq_some_iff.1 hfirst
  obtain ⟨-, fitsLast, greatestMicros⟩ := quantityOfCode?_eq_some_iff.1 hlast
  obtain ⟨product, above, below⟩ :=
    fits128_roundDiv_between hden hnum lower upper fitsFirst fitsLast
  rw [← leastMicros] at above
  rw [← greatestMicros] at below
  -- the quotient lies between two quantities, which are in range
  have fits : Fits64 (roundDiv (code * format.scale.den) format.scale.num) :=
    ⟨least.fits.1.trans above, below.trans greatest.fits.2⟩
  exact ⟨⟨_, fits⟩, quantityOfCode?_eq_some_iff.2 ⟨⟨hnum, hden⟩, product, rfl⟩, above, below⟩

/-- In the other direction a quantity between two quantities with a code has a code, and it lies
between the two codes. -/
theorem codeOfQuantity?_between {first last : ℤ} {least quantity greatest : Quantity}
    (hleast : format.codeOfQuantity? least = some first)
    (hgreatest : format.codeOfQuantity? greatest = some last)
    (lower : least.micros ≤ quantity.micros) (upper : quantity.micros ≤ greatest.micros) :
    ∃ code, format.codeOfQuantity? quantity = some code ∧ first ≤ code ∧ code ≤ last := by
  obtain ⟨⟨hnum, hden⟩, fitsLeast, fitsFirst, firstCode⟩ := codeOfQuantity?_eq_some_iff.1 hleast
  obtain ⟨-, fitsGreatest, fitsLast, lastCode⟩ := codeOfQuantity?_eq_some_iff.1 hgreatest
  obtain ⟨product, above, below⟩ :=
    fits128_roundDiv_between hnum hden lower upper fitsLeast fitsGreatest
  rw [← firstCode] at above
  rw [← lastCode] at below
  have fits : Fits64 (roundDiv (quantity.micros * format.scale.num) format.scale.den) :=
    ⟨fitsFirst.1.trans above, below.trans fitsLast.2⟩
  exact ⟨_, codeOfQuantity?_eq_some_iff.2 ⟨⟨hnum, hden⟩, product, fits, rfl⟩, above, below⟩

/-! ### The distance to the quantity of the code -/

theorem isDomainCode_clampCode (h : format.minCode ≤ format.maxCode) (code : ℤ) :
    format.isDomainCode (format.clampCode code) = true := by
  simp only [isDomainCode_iff, clampCode]
  omega

theorem clampCode_eq_self {code : ℤ} (h : format.isDomainCode code = true) :
    format.clampCode code = code := by
  rw [isDomainCode_iff] at h
  simp only [clampCode]
  omega

/-- A quantity in the domain is half a step and half a millionth from the quantity of its code, at
most; one step is `scale.den / scale.num` millionths. -/
theorem abs_sub_le_of_clampCode {quantity result : Quantity} {code : ℤ}
    (hle : format.minCode ≤ format.maxCode)
    (hdomain : format.inDomain quantity = true)
    (hcode : format.codeOfQuantity? quantity = some code)
    (hresult : format.quantityOfCode? (format.clampCode code) = some result) :
    2 * (format.scale.num * |result.micros - quantity.micros|) ≤
      format.scale.num + format.scale.den := by
  obtain ⟨least, greatest, hleast, hgreatest, lower, upper⟩ := inDomain_iff.1 hdomain
  obtain ⟨⟨hnum, hden⟩, -, -, codeEq⟩ := codeOfQuantity?_eq_some_iff.1 hcode
  obtain ⟨-, -, resultEq⟩ := quantityOfCode?_eq_some_iff.1 hresult
  have codeNear := roundDiv_mul_bounds (quantity.micros * format.scale.num) hden
  have resultNear := roundDiv_mul_bounds (format.clampCode code * format.scale.den) hnum
  rw [← codeEq] at codeNear
  rw [← resultEq] at resultNear
  -- it is enough to compare the products with the numerator of the scale
  suffices bounds :
      2 * (quantity.micros * format.scale.num) - (format.scale.num + format.scale.den) ≤
        2 * (result.micros * format.scale.num) ∧
      2 * (result.micros * format.scale.num) ≤
        2 * (quantity.micros * format.scale.num) + (format.scale.num + format.scale.den) by
    have distance : 2 * |result.micros * format.scale.num - quantity.micros * format.scale.num| ≤
        format.scale.num + format.scale.den := by
      rcases abs_cases (result.micros * format.scale.num - quantity.micros * format.scale.num) with
        h | h <;> linarith [h.1]
    rwa [← sub_mul, abs_mul, abs_of_pos hnum, mul_comm _ format.scale.num] at distance
  rcases lt_or_ge format.maxCode code with above | notAbove
  · -- past the last code: the result is the upper bound, so it is not below the quantity
    have clamped : format.clampCode code = format.maxCode := by simp only [clampCode]; omega
    rw [clamped] at hresult resultNear
    obtain rfl := Option.some.inj (hgreatest.symm.trans hresult)
    have order := mul_le_mul_of_nonneg_right upper hnum.le
    have past : (format.maxCode + 1) * format.scale.den ≤ code * format.scale.den :=
      mul_le_mul_of_nonneg_right above hden.le
    constructor <;> linarith
  rcases lt_or_ge code format.minCode with below | notBelow
  · -- before the first code: the result is the lower bound, so it is not above the quantity
    have clamped : format.clampCode code = format.minCode := by simp only [clampCode]; omega
    rw [clamped] at hresult resultNear
    obtain rfl := Option.some.inj (hleast.symm.trans hresult)
    have order := mul_le_mul_of_nonneg_right lower hnum.le
    have past : (code + 1) * format.scale.den ≤ format.minCode * format.scale.den :=
      mul_le_mul_of_nonneg_right below hden.le
    constructor <;> linarith
  · -- an ordinary code is left alone
    rw [clampCode_eq_self (isDomainCode_iff.2 ⟨notBelow, notAbove⟩)] at resultNear
    constructor <;> linarith

/-! ### Exact steps -/

/-- The millionths of one step of the code, as a rational number. -/
def step (format : Format) : ℚ :=
  microsPerUnit * (format.multiplier.num / format.multiplier.den) *
    10 ^ format.decimalExponent * 2 ^ format.binaryExponent

/-- The scale of a format in numbers without a limit: an exponent multiplies the denominator when
it is positive and the numerator when it is negative. -/
def exactScale (format : Format) : Scale :=
  { num := format.multiplier.den * tenPow (-format.decimalExponent).toNat *
      twoPow (-format.binaryExponent).toNat
    den := format.multiplier.num * microsPerUnit * tenPow format.decimalExponent.toNat *
      twoPow format.binaryExponent.toNat }

/-- A power with an integer exponent, cleared of its denominator. -/
theorem zpow_mul_pow_toNat_neg {base : ℚ} (hbase : base ≠ 0) (exponent : ℤ) :
    base ^ exponent * base ^ (-exponent).toNat = base ^ exponent.toNat := by
  rw [← zpow_natCast, ← zpow_natCast, ← zpow_add₀ hbase]
  congr 1
  omega

theorem cast_tenPow (n : ℕ) : ((tenPow n : ℕ) : ℚ) = 10 ^ n := by
  rw [tenPow, Nat.pow_eq]; norm_num

theorem cast_twoPow (n : ℕ) : ((twoPow n : ℕ) : ℚ) = 2 ^ n := by
  rw [twoPow, Nat.pow_eq]; norm_num

/-- The exact scale is the inverse of a step. -/
theorem step_mul_exactScale_num (hden : 0 < format.multiplier.den) :
    format.step * format.exactScale.num = format.exactScale.den := by
  have den : (format.multiplier.den : ℚ) ≠ 0 := by exact_mod_cast hden.ne'
  have decimal := zpow_mul_pow_toNat_neg (by norm_num : (10 : ℚ) ≠ 0) format.decimalExponent
  have binary := zpow_mul_pow_toNat_neg (by norm_num : (2 : ℚ) ≠ 0) format.binaryExponent
  simp only [step, exactScale, Int.cast_mul, Int.cast_natCast, cast_tenPow, cast_twoPow,
    ← decimal, ← binary]
  field_simp

/-- The distance of `abs_sub_le_of_clampCode` in exact steps. -/
theorem abs_sub_le_step {quantity result : Quantity}
    (hden : 0 < format.multiplier.den) (exact : format.scale = format.exactScale)
    (hnum : 0 < format.scale.num)
    (h : 2 * (format.scale.num * |result.micros - quantity.micros|) ≤
      format.scale.num + format.scale.den) :
    |(result.micros : ℚ) - quantity.micros| ≤ (format.step + 1) / 2 := by
  have relation := step_mul_exactScale_num hden
  rw [← exact] at relation
  have positive : (0 : ℚ) < format.scale.num := by exact_mod_cast hnum
  have distance : 2 * ((format.scale.num : ℚ) * |(result.micros : ℚ) - quantity.micros|) ≤
      format.scale.num + format.step * format.scale.num := by
    rw [relation]
    exact_mod_cast h
  refine le_of_mul_le_mul_left ?_ positive
  linarith

/-! ### Scales that can be undone -/

/-- The scale separates the ordinary codes of a format, because a step is at least a millionth, and
has room for all of them. -/
structure Invertible (format : Format) : Prop where
  num_pos : 0 < format.scale.num
  num_le_den : format.scale.num ≤ format.scale.den
  minCode_room : (|format.minCode| + 1) * (format.scale.num + format.scale.den) ≤ max128
  maxCode_room : (|format.maxCode| + 1) * (format.scale.num + format.scale.den) ≤ max128
  minCode_isSome : (format.quantityOfCode? format.minCode).isSome
  maxCode_isSome : (format.quantityOfCode? format.maxCode).isSome

namespace Invertible

/-- An ordinary code has a quantity, and it is in the domain. -/
theorem exists_quantity (invertible : format.Invertible) {code : ℤ}
    (h : format.isDomainCode code = true) :
    ∃ quantity, format.quantityOfCode? code = some quantity ∧ format.inDomain quantity = true := by
  obtain ⟨lower, upper⟩ := isDomainCode_iff.1 h
  obtain ⟨least, hleast⟩ := Option.isSome_iff_exists.1 invertible.minCode_isSome
  obtain ⟨greatest, hgreatest⟩ := Option.isSome_iff_exists.1 invertible.maxCode_isSome
  obtain ⟨quantity, hquantity, above, below⟩ :=
    quantityOfCode?_between hleast hgreatest lower upper
  exact ⟨quantity, hquantity, inDomain_iff.2 ⟨least, greatest, hleast, hgreatest, above, below⟩⟩

theorem bounded (invertible : format.Invertible) : format.Bounded :=
  ⟨invertible.minCode_isSome, invertible.maxCode_isSome⟩

theorem inDomain_iff_bounds (invertible : format.Invertible) {quantity : Quantity} :
    format.inDomain quantity = true ↔ format.least ≤ quantity ∧ quantity ≤ format.greatest := by
  simp only [inDomain_iff_bounded, invertible.bounded, true_and]

/-- There is room for the product that turns a quantity back into its code. -/
theorem fits128_mul_num (invertible : format.Invertible) {code : ℤ} {quantity : Quantity}
    (h : format.isDomainCode code = true)
    (hquantity : format.quantityOfCode? code = some quantity) :
    Fits128 (quantity.micros * format.scale.num) := by
  obtain ⟨lower, upper⟩ := isDomainCode_iff.1 h
  obtain ⟨⟨hnum, hden⟩, -, micros⟩ := quantityOfCode?_eq_some_iff.1 hquantity
  have near := roundDiv_mul_bounds (code * format.scale.den) hnum
  rw [← micros] at near
  have upperProduct : code * format.scale.den ≤ |format.maxCode| * format.scale.den :=
    mul_le_mul_of_nonneg_right (upper.trans (le_abs_self _)) hden.le
  have lowerProduct : -|format.minCode| * format.scale.den ≤ code * format.scale.den :=
    mul_le_mul_of_nonneg_right ((neg_abs_le _).trans lower) hden.le
  -- rounding adds half a numerator, which the spare step of the room covers
  have upperSpare : 0 ≤ |format.maxCode| * format.scale.num := by positivity
  have lowerSpare : 0 ≤ |format.minCode| * format.scale.num := by positivity
  have upperRoom := invertible.maxCode_room
  have lowerRoom := invertible.minCode_room
  constructor
  · linarith
  · linarith

theorem codeOfQuantity?_eq (invertible : format.Invertible) {code : ℤ} {quantity : Quantity}
    (small : Fits64 code) (h : format.isDomainCode code = true)
    (hquantity : format.quantityOfCode? code = some quantity) :
    format.codeOfQuantity? quantity = some code := by
  obtain ⟨positive, -, micros⟩ := quantityOfCode?_eq_some_iff.1 hquantity
  refine codeOfQuantity?_eq_some_iff.2 ⟨positive, invertible.fits128_mul_num h hquantity, small, ?_⟩
  rw [micros, roundDiv_roundDiv_mul code invertible.num_pos invertible.num_le_den]

end Invertible

end Format

end DeviceProperty
