/-
**The bounds that a format reports.**

The quantities of the smallest and the largest ordinary code bound the domain of a format, and the
format reports them.  The two readings of a bound part where it has no quantity, because the product
with the scale or the quotient leaves its range.  The domain is then empty, and the report is zero.
The check of a format does not look at the size of its bounds, so this happens in formats that it
passes; a quantity may then be refused as out of range together with bounds that it lies between.
This module says which quantities are in the domain of any format, and in which formats these are
the quantities between the reported bounds.

Main results:

* `DeviceProperty.Format.forall_inDomain_iff` — when the domain is what lies between them;
* `DeviceProperty.Format.Consistent.bounded_iff` — when both bounds have a quantity;
* `DeviceProperty.Format.inDomain_iff_between` — **the domain and the reported bounds**.
-/

import Mathlib
import DeviceProperty.Proofs.Format.Lossless

set_option relaxedAutoImplicit false
set_option autoImplicit false

namespace DeviceProperty

/-! ### Positive scales -/

namespace Scale

theorem isPositive_iff {scale : Scale} :
    scale.isPositive = true ↔ 0 < scale.num ∧ 0 < scale.den := by
  simp [isPositive]

theorem clamp128_pos {n : ℤ} (h : 0 < n) : 0 < clamp128 n := by
  simp only [clamp128, min128, max128]
  omega

theorem cappedPow_pos {base : ℕ} (h : 0 < base) (exponent : ℕ) : 0 < cappedPow base exponent := by
  have power : (0 : ℤ) < Nat.pow base exponent := by exact_mod_cast Nat.pow_pos h
  simp only [cappedPow, max128]
  omega

theorem isPositive_coarsen {scale : Scale} (h : scale.isPositive = true) {base : ℕ}
    (hbase : 0 < base) (exponent : ℤ) : (scale.coarsen base exponent).isPositive = true := by
  have power := cappedPow_pos hbase exponent.natAbs
  rw [isPositive_iff] at h ⊢
  simp only [coarsen]
  split_ifs with negative
  · exact ⟨clamp128_pos (mul_pos h.1 power), h.2⟩
  · exact ⟨h.1, clamp128_pos (mul_pos h.2 power)⟩

end Scale

namespace Format

variable {format : Format}

/-- The scale of a consistent format is positive, wherever it meets the limit. -/
theorem Consistent.isPositive_scale (consistent : format.Consistent) :
    format.scale.isPositive = true := by
  have num := consistent.num_pos
  have den := consistent.den_pos
  have plain : Scale.isPositive
      { num := format.multiplier.den, den := format.multiplier.num * microsPerUnit } = true :=
    Scale.isPositive_iff.2 ⟨Int.natCast_pos.2 den, mul_pos (Int.natCast_pos.2 num) (by norm_num)⟩
  exact Scale.isPositive_coarsen (Scale.isPositive_coarsen plain (by norm_num) _) (by norm_num) _

/-! ### Bounds with a quantity -/

/-- A code of a consistent format has a quantity when neither its product with the scale nor the
rounded quotient leaves the range. -/
theorem Consistent.isSome_quantityOfCode?_iff (consistent : format.Consistent) {code : ℤ} :
    (format.quantityOfCode? code).isSome ↔
      Fits128 (code * format.scale.den) ∧
        Fits64 (roundDiv (code * format.scale.den) format.scale.num) := by
  have positive := Scale.isPositive_iff.1 consistent.isPositive_scale
  rw [Option.isSome_iff_exists]
  constructor
  · rintro ⟨quantity, hquantity⟩
    obtain ⟨-, product, micros⟩ := quantityOfCode?_eq_some_iff.1 hquantity
    exact ⟨product, micros ▸ quantity.fits⟩
  · rintro ⟨product, quotient⟩
    exact ⟨⟨_, quotient⟩,
      quantityOfCode?_eq_some_iff.2 ⟨positive, product, rfl⟩⟩

/-- Both bounds of a consistent format have a quantity when the arithmetic has room for them. -/
theorem Consistent.bounded_iff (consistent : format.Consistent) :
    format.Bounded ↔ ∀ bound ∈ [format.minCode, format.maxCode],
      Fits128 (bound * format.scale.den) ∧
        Fits64 (roundDiv (bound * format.scale.den) format.scale.num) := by
  simp only [← consistent.isSome_quantityOfCode?_iff, List.forall_mem_cons, List.not_mem_nil,
    false_implies, implies_true, and_true]
  constructor
  · intro bounded
    exact ⟨bounded.minCode_isSome, bounded.maxCode_isSome⟩
  · rintro ⟨least, greatest⟩
    exact ⟨least, greatest⟩

/-! ### The domain and the reported bounds -/

/-- The domain is what lies between the reported bounds when both have a quantity, and else when
nothing lies between them. -/
theorem forall_inDomain_iff :
    (∀ quantity, format.inDomain quantity = true ↔
        format.least ≤ quantity ∧ quantity ≤ format.greatest) ↔
      format.Bounded ∨ format.greatest < format.least := by
  simp only [inDomain_iff_bounded]
  constructor
  · intro agree
    by_contra neither
    obtain ⟨unbounded, ordered⟩ := not_or.1 neither
    -- the lower bound itself lies between the two
    have inside := (agree format.least).2
      ⟨le_refl format.least.micros, Quantity.not_lt_iff_le.1 ordered⟩
    exact unbounded inside.1
  · rintro (bounded | empty) quantity
    · simp [bounded]
    · have outside : ¬ (format.least ≤ quantity ∧ quantity ≤ format.greatest) := by
        rintro ⟨lower, upper⟩
        exact absurd (le_trans (α := ℤ) lower upper) (not_le.2 empty)
      simp [outside]

theorem encode_of_not_inDomain {quantity : Quantity} (outside : format.inDomain quantity = false)
    (policy : format.outOfRange = .reject) :
    format.encode (.normal quantity) =
      .error (.outOfRange quantity format.least format.greatest) := by
  simp [encode, classifyReading, classifyQuantity, outside, policy, outOfRangeFault]

/-- **The domain and the reported bounds.**  In a format that its check passes, a quantity is in the
domain exactly when it lies between the reported bounds and both bounds have a quantity; and it is
refused, where nothing else becomes of it, with these bounds.  So the domain is what lies between
the reported bounds exactly when both have a quantity, which is when the arithmetic has room for
them, or when nothing lies between them.  In the formats of the catalogue both have one. -/
theorem inDomain_iff_between (format : Format) (faultless : format.tableFaults = []) :
    (∀ quantity,
      (format.inDomain quantity = true ↔
        format.Bounded ∧ format.least ≤ quantity ∧ quantity ≤ format.greatest) ∧
      (format.inDomain quantity = false → format.outOfRange = .reject →
        format.encode (.normal quantity) =
          .error (.outOfRange quantity format.least format.greatest))) ∧
    ((∀ quantity, format.inDomain quantity = true ↔
        format.least ≤ quantity ∧ quantity ≤ format.greatest) ↔
      format.Bounded ∨ format.greatest < format.least) ∧
    (format.Bounded ↔ ∀ bound ∈ [format.minCode, format.maxCode],
      Fits128 (bound * format.scale.den) ∧
        Fits64 (roundDiv (bound * format.scale.den) format.scale.num)) ∧
    (format ∈ catalogue → format.Bounded) := by
  have consistent := tableFaults_eq_nil_iff.1 faultless
  refine ⟨?_, forall_inDomain_iff, consistent.bounded_iff, ?_⟩
  · intro quantity
    exact ⟨inDomain_iff_bounded, encode_of_not_inDomain⟩
  · intro member
    exact (lossless_of_mem_catalogue member).invertible.bounded

/-- Codes of 32 bits in steps of `10 ^ 18` units. -/
def vast : Format := { plain "vast" (.unsigned 32) with decimalExponent := 18 }

/-- Codes of 32 bits in steps of `2 ^ 62 / 10 ^ 18` units, about four and a half, by a fraction that
is not in lowest terms.  The largest code stands for less than `2 ^ 35` units. -/
def unreduced : Format :=
  { plain "unreduced" (.unsigned 32) with
    multiplier := ⟨4294967295, 4294967295⟩
    decimalExponent := -18
    binaryExponent := 62 }

/-- The domain of the percentages is what lies between their bounds, and a quantity beyond is
refused with these.  In steps of `10 ^ 18` units the quotient of the last bound leaves the range,
and zero is refused as not between zero and zero. -/
theorem inDomain_iff_between_percentage_vast :
    (percentage8.tableFaults = [] ∧
        (∀ quantity, percentage8.inDomain quantity = true ↔
          Quantity.zero ≤ quantity ∧ quantity ≤ .ofWhole 100) ∧
        percentage8.encode (.normal (.ofWhole 101)) =
          .error (.outOfRange (.ofWhole 101) .zero (.ofWhole 100))) ∧
      vast.tableFaults = [] ∧ ¬ vast.Bounded ∧ vast.encode (.normal .zero) =
        .error (.outOfRange .zero .zero .zero) := by
  have percentage : percentage8.tableFaults = [] := by decide
  have faultless : vast.tableFaults = [] := by decide
  obtain ⟨domain, agree, -, known⟩ := inDomain_iff_between percentage8 percentage
  obtain ⟨refused, -, room, -⟩ := inDomain_iff_between vast faultless
  have bounded := known (by decide)
  refine ⟨⟨percentage, agree.2 (.inl bounded), (domain _).2 (by decide) rfl⟩, faultless, ?_,
    (refused _).2 (by decide) rfl⟩
  intro all
  exact absurd (room.1 all vast.maxCode (by simp)).2 (by decide)

/-- The check passes formats whose domain is not what lies between the reported bounds: in steps of
`10 ^ 18` units both bounds are reported as zero, and zero is not in the domain.  The last bound
need not be large for that: that of `unreduced` is not, but its product with the scale is. -/
theorem not_forall_inDomain_iff :
    ¬ (∀ format : Format, format.tableFaults = [] → ∀ quantity,
        format.inDomain quantity = true ↔
          format.least ≤ quantity ∧ quantity ≤ format.greatest) ∧
      (vast.tableFaults = [] ∧ vast.least = .zero ∧ vast.greatest = .zero ∧
        vast.inDomain .zero = false) ∧
      unreduced.tableFaults = [] ∧ ¬ unreduced.Bounded ∧
        Fits64 (roundDiv (unreduced.maxCode * unreduced.scale.den) unreduced.scale.num) := by
  have faultless : vast.tableFaults = [] := by decide
  have least : vast.least = .zero := by decide
  have greatest : vast.greatest = .zero := by decide
  have refused : vast.inDomain .zero = false := by decide
  refine ⟨?_, ⟨faultless, least, greatest, refused⟩, by decide, ?_, by decide⟩
  · intro all
    have accepted := (all vast faultless .zero).2
      ⟨by rw [least]; decide, by rw [greatest]; decide⟩
    rw [refused] at accepted
    cases accepted
  · intro bounded
    exact absurd bounded.maxCode_isSome (by decide)

end Format

end DeviceProperty
