/-
**Tolerances in twelve bits.**

A tolerance is a percentage in steps of a 4095th of the whole, which is no whole number of
millionths.  Its code is the nearest of the 4096 codes, and of two equally near codes the larger
one; a quantity that is no percentage is refused.  Every code stands for a percentage that has this
code again.

Main definitions:

* `DeviceProperty.Quantity.IsPercentage` — lying between nothing and the whole;
* `DeviceProperty.toleranceStep` — the step, as a rational number of millionths;
* `DeviceProperty.NearestTolerance` — being the code nearest to a percentage.

Main results:

* `DeviceProperty.encodeTolerance_of_isPercentage`, `DeviceProperty.encodeTolerance_of_not` — which
  quantities have a code;
* `DeviceProperty.nearestTolerance_toleranceCode` — **the code is nearest**;
* `DeviceProperty.exists_decodeTolerance` — **every code comes back** from its percentage;
* `DeviceProperty.abs_sub_le_toleranceStep` — a percentage moves by half a step and half a
  millionth, at most.
-/

import Mathlib
import DeviceProperty.Proofs.Format.Ordinary
import DeviceProperty.Sensor

set_option relaxedAutoImplicit false
set_option autoImplicit false

namespace DeviceProperty

variable {percent result : Quantity} {code : ℕ}

/-! ### Percentages and their codes -/

/-- Lying between nothing and the whole, in percent. -/
def Quantity.IsPercentage (percent : Quantity) : Prop :=
  0 ≤ percent.micros ∧ percent.micros ≤ 100 * microsPerUnit

/-- The millionths of a percent in one step of a tolerance. -/
def toleranceStep : ℚ := 100000000 / 4095

/-- The largest code of a tolerance. -/
def maxToleranceCode : ℕ := 4095

/-- The code nearest to a percentage.  Where another code is equally near, it is the smaller one. -/
structure NearestTolerance (percent : Quantity) (code : ℕ) : Prop where
  le_max : code ≤ maxToleranceCode
  nearest : ∀ other : ℕ, other ≤ maxToleranceCode →
    |code * toleranceStep - percent.micros| ≤ |other * toleranceStep - percent.micros|
  tie : ∀ other : ℕ, other ≤ maxToleranceCode →
    |other * toleranceStep - percent.micros| = |code * toleranceStep - percent.micros| →
      other ≤ code

/-! ### The format of tolerances -/

theorem tolerance_mem_catalogue : Format.tolerance ∈ Format.catalogue := by decide

theorem lossless_tolerance : Format.tolerance.Lossless :=
  Format.lossless_of_mem_catalogue tolerance_mem_catalogue

theorem scale_tolerance : Format.tolerance.scale = ⟨4095, 100000000⟩ := by decide

theorem step_tolerance : Format.tolerance.step = toleranceStep := by
  have decimal : Format.tolerance.decimalExponent = 0 := rfl
  have binary : Format.tolerance.binaryExponent = 0 := rfl
  have multiplier : Format.tolerance.multiplier = ⟨100, 4095⟩ := rfl
  simp only [Format.step, toleranceStep, decimal, binary, multiplier, microsPerUnit, zpow_zero]
  norm_num

theorem least_tolerance : Format.tolerance.least = .zero := by decide

theorem greatest_tolerance : Format.tolerance.greatest = .ofWhole 100 := by decide

/-- The domain of a tolerance is the percentages. -/
theorem inDomain_tolerance_iff :
    Format.tolerance.inDomain percent = true ↔ percent.IsPercentage := by
  rw [lossless_tolerance.invertible.inDomain_iff_bounds, least_tolerance, greatest_tolerance,
    Quantity.le_iff_micros_le, Quantity.le_iff_micros_le]
  rfl

/-! ### Writing a tolerance -/

/-- The code of a percentage. -/
def toleranceCode (percent : Quantity) : ℕ := (roundDiv (percent.micros * 4095) 100000000).toNat

/-- The rounded quotient behind the code of a percentage is a code of twelve bits. -/
theorem cast_toleranceCode (h : percent.IsPercentage) :
    (toleranceCode percent : ℤ) = roundDiv (percent.micros * 4095) 100000000 ∧
      toleranceCode percent ≤ maxToleranceCode := by
  simp only [Quantity.IsPercentage, microsPerUnit] at h
  have near := roundDiv_mul_bounds (percent.micros * 4095) (show (0 : ℤ) < 100000000 by norm_num)
  rw [toleranceCode, maxToleranceCode]
  omega

theorem encode_tolerance (h : percent.IsPercentage) :
    Format.tolerance.encode (.normal percent) = .ok (toleranceCode percent : ℤ) := by
  obtain ⟨quotient, small⟩ := cast_toleranceCode h
  have ordinary : Format.tolerance.isDomainCode (toleranceCode percent) = true := by
    have upper : (toleranceCode percent : ℤ) ≤ 4095 := by exact_mod_cast small
    exact Format.isDomainCode_iff.2 ⟨Int.natCast_nonneg _, upper⟩
  have room : Fits128 (percent.micros * 4095) := by
    obtain ⟨lower, upper⟩ := percent.fits
    simp only [Fits128, min64, max64, min128, max128] at *
    omega
  have fits := lossless_tolerance.consistent.fits64_of_isDomainCode ordinary
  have found : Format.tolerance.codeOfQuantity? percent = some (toleranceCode percent : ℤ) := by
    rw [Format.codeOfQuantity?_eq_some_iff, scale_tolerance]
    exact ⟨⟨by norm_num, by norm_num⟩, room, fits, quotient⟩
  exact Format.encode_normal_eq_ok_iff.2
    (.inl ⟨inDomain_tolerance_iff.2 h, _, found, Format.clampCode_eq_self ordinary⟩)

theorem encodeTolerance_of_isPercentage (h : percent.IsPercentage) :
    encodeTolerance percent = .ok (toleranceCode percent) := by
  rw [encodeTolerance, encode_tolerance h]
  simp [Except.map]

theorem encodeTolerance_of_not (h : ¬ percent.IsPercentage) :
    encodeTolerance percent = .error (.outOfRange percent .zero (.ofWhole 100)) := by
  have outside : Format.tolerance.inDomain percent = false := by
    rw [Bool.eq_false_iff]
    intro inside
    exact h (inDomain_tolerance_iff.1 inside)
  have policy : Format.tolerance.outOfRange = .reject := rfl
  rw [encodeTolerance, Format.encode, Format.classifyReading, Format.classifyQuantity, outside,
    policy]
  simp only [Bool.false_eq_true, if_false, Format.outOfRangeFault, least_tolerance,
    greatest_tolerance, Except.map]

/-- Only percentages have a code. -/
theorem encodeTolerance_eq_ok_iff :
    encodeTolerance percent = .ok code ↔ percent.IsPercentage ∧ code = toleranceCode percent := by
  by_cases h : percent.IsPercentage
  · rw [encodeTolerance_of_isPercentage h]
    simp [h, eq_comm]
  · rw [encodeTolerance_of_not h]
    simp [h]

/-- **The code is nearest** to its percentage, and ties go up. -/
theorem nearestTolerance_toleranceCode (h : percent.IsPercentage) :
    NearestTolerance percent (toleranceCode percent) := by
  have words : Format.tolerance.multiplier.Fits32 := by decide
  obtain ⟨⟨-, small⟩, nearest, tie⟩ := lossless_tolerance.consistent.nearestCode words
    (inDomain_tolerance_iff.2 h) (encode_tolerance h)
  have first : Format.tolerance.minCode = 0 := rfl
  have last : Format.tolerance.maxCode = maxToleranceCode := rfl
  simp only [first, last, step_tolerance] at small nearest tie
  refine ⟨by exact_mod_cast small, ?_, ?_⟩
  · intro other le
    have closer := nearest other (Int.natCast_nonneg _) (by exact_mod_cast le)
    simpa only [Int.cast_natCast, abs_sub_comm (percent.micros : ℚ)] using closer
  · intro other le same
    by_contra above
    -- an equally near code would be the one of smaller magnitude
    have smaller := tie other (Int.natCast_nonneg _) (by exact_mod_cast le) (by omega)
      (by simpa only [Int.cast_natCast, abs_sub_comm (percent.micros : ℚ)] using same)
    rw [Nat.abs_cast, Nat.abs_cast] at smaller
    omega

/-! ### Reading a tolerance -/

theorem decodeTolerance_eq_ok_iff :
    decodeTolerance code = .ok percent ↔
      Format.tolerance.decode code = .ok (.normal percent) := by
  rw [decodeTolerance]
  split <;> simp_all

theorem encodeTolerance_of_decodeTolerance (h : decodeTolerance code = .ok percent) :
    encodeTolerance percent = .ok code := by
  have encoded := lossless_tolerance.encode_of_decode (decodeTolerance_eq_ok_iff.1 h)
  rw [encodeTolerance, encoded]
  simp [Except.map]

/-- **Every code comes back** from its percentage. -/
theorem exists_decodeTolerance (h : code ≤ maxToleranceCode) :
    ∃ percent, decodeTolerance code = .ok percent ∧ encodeTolerance percent = .ok code := by
  have upper : (code : ℤ) ≤ 4095 := by exact_mod_cast h
  have fits : Format.tolerance.width.fits (code : ℤ) = true :=
    Width.fits_iff.2 ⟨Int.natCast_nonneg _, upper⟩
  obtain ⟨reading, decoded⟩ := lossless_tolerance.exists_decode fits rfl
  rcases (Format.decode_eq_ok_iff.1 decoded).2 with ⟨state, sentinel, -⟩ | ⟨-, percent, -, rfl⟩
  · -- no code of a tolerance stands for a special state
    exact absurd (Format.sentinelState?_mem sentinel) List.not_mem_nil
  · have read := decodeTolerance_eq_ok_iff.2 decoded
    exact ⟨percent, read, encodeTolerance_of_decodeTolerance read⟩

/-- A percentage moves by half a step and half a millionth, at most. -/
theorem abs_sub_le_toleranceStep (encoded : encodeTolerance percent = .ok code)
    (decoded : decodeTolerance code = .ok result) :
    |(result.micros : ℚ) - percent.micros| ≤ (toleranceStep + 1) / 2 := by
  obtain ⟨h, rfl⟩ := encodeTolerance_eq_ok_iff.1 encoded
  rw [← step_tolerance]
  exact lossless_tolerance.consistent.abs_sub_le_of_decode
    (Format.scale_eq_exactScale_of_mem_catalogue tolerance_mem_catalogue)
    (inDomain_tolerance_iff.2 h) (encode_tolerance h) (decodeTolerance_eq_ok_iff.1 decoded)

end DeviceProperty
