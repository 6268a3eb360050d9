/-
**Powers, ranges and rounding.**

Quantities and wire codes are 64-bit signed numbers, and the products formed while scaling between
them are 128-bit signed numbers.  Every integer of this library is an `Int`; where a result has to
stay inside one of the two ranges this module says what happens at the edge: it is refused, or it
is moved to the nearest end.  Scaling a measurement to a wire code and back divides one integer by
another and settles on the nearest one, a tie going to the one of larger magnitude; the decimal
texts of floating point numbers use the other common rule, under which it goes to the even one.

Main definitions:

* `DeviceProperty.twoPow`, `DeviceProperty.tenPow` — powers;
* `DeviceProperty.Fits64`, `DeviceProperty.Fits128` — lying in a range;
* `DeviceProperty.clamp64`, `DeviceProperty.clamp128` — the nearest number of a range;
* `DeviceProperty.product?`, `DeviceProperty.cappedPow` — a product that stays in the range, and a
  power that is kept in it;
* `DeviceProperty.roundDiv`, `DeviceProperty.roundDivEven` — the nearest integer to a quotient.
-/

set_option relaxedAutoImplicit false
set_option autoImplicit false

namespace DeviceProperty

/-! ### Powers -/

/-- The `n`-th power of two, the number of patterns of `n` bits. -/
def twoPow (n : Nat) : Nat := Nat.pow 2 n

def tenPow (n : Nat) : Nat := Nat.pow 10 n

@[simp] theorem twoPow_zero : twoPow 0 = 1 := rfl

theorem twoPow_succ (n : Nat) : twoPow (n + 1) = 2 * twoPow n := Nat.mul_comm ..

theorem twoPow_add (m n : Nat) : twoPow (m + n) = twoPow m * twoPow n := Nat.pow_add ..

theorem twoPow_pos (n : Nat) : 0 < twoPow n := Nat.pow_pos (by decide)

@[simp] theorem tenPow_zero : tenPow 0 = 1 := rfl

theorem tenPow_pos (n : Nat) : 0 < tenPow n := Nat.pow_pos (by decide)

/-! ### 64-bit numbers -/

abbrev min64 : Int := -9223372036854775808

abbrev max64 : Int := 9223372036854775807

/-- Being a 64-bit signed number. -/
def Fits64 (n : Int) : Prop := min64 ≤ n ∧ n ≤ max64

instance (n : Int) : Decidable (Fits64 n) := inferInstanceAs (Decidable (_ ∧ _))

/-- The 64-bit signed number nearest to `n`. -/
def clamp64 (n : Int) : Int := max min64 (min n max64)

theorem fits64_clamp64 (n : Int) : Fits64 (clamp64 n) := by
  simp only [Fits64, clamp64, min64, max64]; omega

theorem clamp64_of_fits {n : Int} (h : Fits64 n) : clamp64 n = n := by
  simp only [Fits64, clamp64, min64, max64] at *; omega

/-! ### 128-bit numbers -/

abbrev min128 : Int := -170141183460469231731687303715884105728

abbrev max128 : Int := 170141183460469231731687303715884105727

/-- Being a 128-bit signed number. -/
def Fits128 (n : Int) : Prop := min128 ≤ n ∧ n ≤ max128

instance (n : Int) : Decidable (Fits128 n) := inferInstanceAs (Decidable (_ ∧ _))

/-- The 128-bit signed number nearest to `n`. -/
def clamp128 (n : Int) : Int := max min128 (min n max128)

/-- The product of two numbers, unless it leaves the 128-bit range. -/
def product? (a b : Int) : Option Int := if Fits128 (a * b) then some (a * b) else none

/-- A power, with every power beyond the 128-bit range replaced by the largest number of it. -/
def cappedPow (base exponent : Nat) : Int := min (Nat.pow base exponent) max128

theorem product?_eq_some {a b c : Int} : product? a b = some c ↔ Fits128 (a * b) ∧ a * b = c := by
  simp only [product?]; split <;> simp_all

/-! ### The nearest integer to a quotient -/

/-- The integer nearest to `num / den` for a positive `den`; a quotient halfway between two
integers goes to the one of larger magnitude. -/
def roundDiv (num den : Int) : Int :=
  if den ≤ 2 * (num.tmod den).natAbs then num.tdiv den + num.sign else num.tdiv den

theorem roundDiv_zero_left (den : Int) : roundDiv 0 den = 0 := by
  simp [roundDiv]

theorem roundDiv_neg (num den : Int) : roundDiv (-num) den = -roundDiv num den := by
  simp only [roundDiv, Int.neg_tmod, Int.neg_tdiv, Int.natAbs_neg, Int.sign_neg]
  split <;> omega

theorem roundDiv_one (num : Int) : roundDiv num 1 = num := by
  simp [roundDiv]

/-- The natural number nearest to `num / den` for a positive `den`; a quotient halfway between two
numbers goes to the even one. -/
def roundDivEven (num den : Nat) : Nat :=
  let quotient := num / den
  let twice := 2 * (num % den)
  if twice < den ∨ (twice = den ∧ quotient % 2 = 0) then quotient else quotient + 1

end DeviceProperty
