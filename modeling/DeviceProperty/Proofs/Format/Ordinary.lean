/-
**Ordinary codes and the quantities of the domain.**

The bounds of a format are the quantities of its smallest and its largest ordinary code, rounded to
a millionth, so a quantity between the bounds may lie beyond the last exact step.  Its code is the
nearest integer moved into the range of ordinary codes, and that is the nearest ordinary code all
the same.  In the other direction, where a step is at least a millionth and the products have room,
the quantity of an ordinary code is between the bounds and has that code again, without being moved.

Neither rounding nor moving changes the order: of two quantities of the domain the smaller one never
has the larger code, and of two codes the smaller one is never read as the larger quantity.
Different codes can be read as one quantity, where a step is finer than a millionth; from a
millionth on every code has a quantity of its own.

Main definitions:

* `DeviceProperty.Format.NearestCode` — being the nearest ordinary code to a quantity.

Main results:

* `DeviceProperty.Format.invertible_iff` — when the scale of a format can be undone;
* `DeviceProperty.Format.nearestCode_of_encode` — **the nearest ordinary code is written**;
* `DeviceProperty.Format.encode_decode_ordinary` — **an ordinary code comes back**;
* `DeviceProperty.Format.quantityOfCode?_injective` — a scale with steps of a millionth or more
  separates the codes;
* `DeviceProperty.Format.encode_decode_mono` — **the order is kept**.
-/

import Mathlib
import DeviceProperty.Proofs.Format.Exact
import DeviceProperty.Proofs.Format.Lossless

set_option relaxedAutoImplicit false
set_option autoImplicit false

namespace DeviceProperty

namespace Format

variable {format : Format}

/-! ### Scales that can be undone -/

/-- The scale of a format can be undone when a step is at least a millionth, the products of both
bounds have room for one code more, and both bounds have a quantity. -/
theorem invertible_iff :
    format.Invertible ↔ format.scale.num ≤ format.scale.den ∧
      ∀ bound ∈ [format.minCode, format.maxCode],
        (|bound| + 1) * (format.scale.num + format.scale.den) < 2 ^ 127 ∧
          ∃ quantity, format.quantityOfCode bound = .ok quantity := by
  have room : ∀ n : ℤ, n < 2 ^ 127 ↔ n ≤ max128 := by
    intro n
    simp only [max128]
    omega
  simp only [List.forall_mem_cons, List.not_mem_nil, false_implies, implies_true, and_true, room,
    quantityOfCode_eq_ok_iff, ← Option.isSome_iff_exists]
  constructor
  · intro h
    exact ⟨h.num_le_den, ⟨h.minCode_room, h.minCode_isSome⟩, h.maxCode_room, h.maxCode_isSome⟩
  · rintro ⟨coarse, ⟨minRoom, minQuantity⟩, maxRoom, maxQuantity⟩
    -- a scale that gives a quantity is positive
    obtain ⟨least, hleast⟩ := Option.isSome_iff_exists.1 minQuantity
    have positive := (quantityOfCode?_eq_some_iff.1 hleast).1.1
    exact ⟨positive, coarse, minRoom, maxRoom, minQuantity, maxQuantity⟩

namespace Invertible

theorem exists_code (invertible : format.Invertible) (consistent : format.Consistent)
    {quantity : Quantity} (hdomain : format.inDomain quantity = true) :
    ∃ code, format.codeOfQuantity? quantity = some code ∧ format.isDomainCode code = true := by
  obtain ⟨least, greatest, hleast, hgreatest, lower, upper⟩ := inDomain_iff.1 hdomain
  have minOrdinary := consistent.isDomainCode_minCode
  have maxOrdinary := consistent.isDomainCode_maxCode
  -- the bounds have the first and the last ordinary code again
  have first := invertible.codeOfQuantity?_eq (consistent.fits64_of_isDomainCode minOrdinary)
    minOrdinary hleast
  have last := invertible.codeOfQuantity?_eq (consistent.fits64_of_isDomainCode maxOrdinary)
    maxOrdinary hgreatest
  obtain ⟨code, hcode, above, below⟩ := codeOfQuantity?_between first last lower upper
  exact ⟨code, hcode, isDomainCode_iff.2 ⟨above, below⟩⟩

theorem exists_encode (invertible : format.Invertible) (consistent : format.Consistent)
    {quantity : Quantity} (hdomain : format.inDomain quantity = true) :
    ∃ code, format.encode (.normal quantity) = .ok code := by
  obtain ⟨code, hcode, ordinary⟩ := invertible.exists_code consistent hdomain
  have unmoved := clampCode_eq_self ordinary
  exact ⟨code, (encode_inDomain_eq_ok_iff hdomain).2 ⟨code, hcode, unmoved⟩⟩

end Invertible

/-! ### The nearest ordinary code -/

/-- The ordinary code whose exact quantity is nearest to a quantity; of two equally near codes, the
one of larger magnitude. -/
structure NearestCode (format : Format) (quantity : Quantity) (code : ℤ) : Prop where
  ordinary : format.minCode ≤ code ∧ code ≤ format.maxCode
  nearest : ∀ other, format.minCode ≤ other → other ≤ format.maxCode →
    |(quantity.micros : ℚ) - code * format.step| ≤ |(quantity.micros : ℚ) - other * format.step|
  tie : ∀ other, format.minCode ≤ other → other ≤ format.maxCode → other ≠ code →
    |(quantity.micros : ℚ) - other * format.step| = |(quantity.micros : ℚ) - code * format.step| →
      |other| < |code|

namespace Consistent

theorem step_pos (consistent : format.Consistent) : 0 < format.step := by
  obtain ⟨hnum, hden⟩ := consistent.exactScale_pos
  rw [step_eq_div consistent]
  exact div_pos (by exact_mod_cast hden) (by exact_mod_cast hnum)

/-- The nearest integer to a quantity in steps, moved into the range of ordinary codes, is the
nearest ordinary code. -/
theorem nearestCode_clampCode (consistent : format.Consistent) {quantity : Quantity} {code : ℤ}
    (h : RoundsTo (quantity.micros / format.step) code) :
    format.NearestCode quantity (format.clampCode code) := by
  have positive := consistent.step_pos
  -- distances are compared in steps
  have distance : ∀ n : ℤ, |(quantity.micros : ℚ) - n * format.step| =
      |quantity.micros / format.step - n| * format.step := by
    intro n
    rw [abs_div_sub_mul positive]
  refine ⟨isDomainCode_iff.1 (isDomainCode_clampCode consistent.minCode_le_maxCode code), ?_, ?_⟩
  · intro other lower upper
    rw [distance, distance]
    refine mul_le_mul_of_nonneg_right ?_ positive.le
    by_cases distinct : other = format.clampCode code
    · rw [distinct]
    · rcases h.farther_of_range rfl lower upper distinct with farther | ⟨same, -⟩
      · exact farther.le
      · exact same.le
  · intro other lower upper distinct same
    rw [distance, distance, mul_left_inj' positive.ne'] at same
    rcases h.farther_of_range rfl lower upper distinct with farther | ⟨-, smaller⟩
    · exact absurd same farther.ne'
    · exact smaller

/-- The code of a quantity in the domain is the nearest ordinary code. -/
theorem nearestCode (consistent : format.Consistent) (words : format.multiplier.Fits32)
    {quantity : Quantity} {code : ℤ} (hdomain : format.inDomain quantity = true)
    (encoded : format.encode (.normal quantity) = .ok code) : format.NearestCode quantity code := by
  obtain ⟨nearest, hnearest, rfl⟩ := (encode_inDomain_eq_ok_iff hdomain).1 encoded
  exact consistent.nearestCode_clampCode (consistent.roundsTo_of_codeOfQuantity? words hnearest)

/-- A quantity in the domain that comes back as a quantity has moved by half a step and half a
millionth, at most, whether or not the scale meets a limit. -/
theorem abs_sub_le_of_encode (consistent : format.Consistent) (words : format.multiplier.Fits32)
    {quantity value : Quantity} {code : ℤ} (hdomain : format.inDomain quantity = true)
    (encoded : format.encode (.normal quantity) = .ok code)
    (decoded : format.decode code = .ok (.normal value)) :
    |(value.micros : ℚ) - quantity.micros| ≤ (format.step + 1) / 2 := by
  by_cases exact : format.scale = format.exactScale
  · exact consistent.abs_sub_le_of_decode exact hdomain encoded decoded
  · -- where the scale meets a limit, both bounds are zero, and so is all between them
    have zero : ∀ {n : ℤ} {result : Quantity}, format.isDomainCode n = true →
        format.quantityOfCode? n = some result → result.micros = 0 := by
      intro n result ordinary
      exact consistent.micros_eq_zero_of_scale_ne words exact
        (consistent.fits64_of_isDomainCode ordinary)
    obtain ⟨ordinary, -⟩ := consistent.isDomainCode_of_encode hdomain encoded
    obtain ⟨least, greatest, hleast, hgreatest, lower, upper⟩ := inDomain_iff.1 hdomain
    have leastZero := zero consistent.isDomainCode_minCode hleast
    have greatestZero := zero consistent.isDomainCode_maxCode hgreatest
    have quantityZero : quantity.micros = 0 := by omega
    rw [zero ordinary (quantityOfCode?_of_decode decoded), quantityZero, sub_self, abs_zero]
    have positive := consistent.step_pos
    positivity

end Consistent

/-- **The nearest ordinary code is written.**  The code of a quantity in the domain is the nearest
ordinary one, of two equally near ones the one of larger magnitude, and unless it is a sentinel too
it is read as a quantity half a step and half a millionth away, at most.  In the formats of the
catalogue every quantity between the bounds has a code. -/
theorem nearestCode_of_encode :
    (∀ (format : Format) (quantity : Quantity) (code : ℤ), format.tableFaults = [] →
        format.multiplier.Fits32 → format.inDomain quantity = true →
        format.encode (.normal quantity) = .ok code →
          format.NearestCode quantity code ∧
            ((∀ sentinel ∈ format.sentinels, sentinel.code ≠ code) →
              ∃ value, format.decode code = .ok (.normal value) ∧
                |(value.micros : ℚ) - quantity.micros| ≤ (format.step + 1) / 2)) ∧
      ∀ format ∈ catalogue, ∀ quantity : Quantity, format.least ≤ quantity →
        quantity ≤ format.greatest → ∃ code, format.encode (.normal quantity) = .ok code := by
  constructor
  · intro format quantity code faultless words hdomain encoded
    have consistent := tableFaults_eq_nil_iff.1 faultless
    constructor
    · exact consistent.nearestCode words hdomain encoded
    · intro noSentinel
      rcases consistent.decode_of_encode_inDomain hdomain encoded with
        ⟨value, read⟩ | ⟨sentinel, member, same, -⟩
      · exact ⟨value, read, consistent.abs_sub_le_of_encode words hdomain encoded read⟩
      · exact absurd same (noSentinel sentinel member)
  · intro format member quantity lower upper
    have lossless := lossless_of_mem_catalogue member
    have hdomain := lossless.invertible.inDomain_iff_bounds.2 ⟨lower, upper⟩
    exact lossless.invertible.exists_encode lossless.consistent hdomain

/-- Three codes in steps of three tenths of a millionth. -/
def tenths : Format :=
  { plain "tenths" (.unsigned 8) with
    multiplier := ⟨3, 10000000⟩
    maxCode := 2 }

/-- The largest of three codes stands for six tenths of a millionth, and the bound is a whole one.
A millionth has the nearest integer three, which is moved to the last code, and is read again. -/
theorem nearestCode_of_encode_tenths :
    tenths.tableFaults = [] ∧ tenths.multiplier.Fits32 ∧
      tenths.inDomain ⟨1, by decide⟩ = true ∧
      tenths.codeOfQuantity ⟨1, by decide⟩ = .ok 3 ∧
      tenths.encode (.normal ⟨1, by decide⟩) = .ok 2 ∧
      tenths.NearestCode ⟨1, by decide⟩ 2 ∧
      ∃ value, tenths.decode 2 = .ok (.normal value) ∧
        |(value.micros : ℚ) - 1| ≤ (tenths.step + 1) / 2 := by
  have faultless : tenths.tableFaults = [] := by decide
  have words : tenths.multiplier.Fits32 := by decide
  have hdomain : tenths.inDomain ⟨1, by decide⟩ = true := by decide
  have encoded : tenths.encode (.normal ⟨1, by decide⟩) = .ok 2 := by rfl
  obtain ⟨nearest, near⟩ := nearestCode_of_encode.1 tenths _ _ faultless words hdomain encoded
  obtain ⟨value, read, distance⟩ := near (by decide)
  exact ⟨faultless, words, hdomain, by rfl, encoded, nearest, value, read, by simpa using distance⟩

/-! ### Ordinary codes -/

/-- **An ordinary code comes back.**  Where a step is at least a millionth and the scaled bounds
stay inside the arithmetic, an ordinary code that is no sentinel is read as a quantity of the
domain, and this quantity has that code again before it is moved into the range of ordinary codes.
So it is in the formats of the catalogue. -/
theorem encode_decode_ordinary :
    (∀ format : Format, format.tableFaults = [] → format.scale.num ≤ format.scale.den →
        (∀ bound ∈ [format.minCode, format.maxCode],
          (|bound| + 1) * (format.scale.num + format.scale.den) < 2 ^ 127 ∧
            ∃ quantity, format.quantityOfCode bound = .ok quantity) →
        ∀ code, format.minCode ≤ code → code ≤ format.maxCode →
          (∀ sentinel ∈ format.sentinels, sentinel.code ≠ code) →
            ∃ quantity, format.decode code = .ok (.normal quantity) ∧
              format.inDomain quantity = true ∧
              format.codeOfQuantity quantity = .ok code ∧ format.clampCode code = code ∧
              format.encode (.normal quantity) = .ok code) ∧
      ∀ format ∈ catalogue, format.tableFaults = [] ∧ format.scale.num ≤ format.scale.den ∧
        ∀ bound ∈ [format.minCode, format.maxCode],
          (|bound| + 1) * (format.scale.num + format.scale.den) < 2 ^ 127 ∧
            ∃ quantity, format.quantityOfCode bound = .ok quantity := by
  constructor
  · intro format faultless coarse room code lower upper noSentinel
    have consistent := tableFaults_eq_nil_iff.1 faultless
    have invertible := invertible_iff.2 ⟨coarse, room⟩
    have ordinary := isDomainCode_iff.2 ⟨lower, upper⟩
    obtain ⟨quantity, hquantity, hdomain⟩ := invertible.exists_quantity ordinary
    have small := consistent.fits64_of_isDomainCode ordinary
    have back := invertible.codeOfQuantity?_eq small ordinary hquantity
    have unmoved := clampCode_eq_self ordinary
    rcases consistent.decode_ordinary ordinary hquantity with read | ⟨sentinel, member, same, -⟩
    · exact ⟨quantity, read, hdomain, codeOfQuantity_eq_ok_iff.2 back, unmoved,
        encode_normal_eq_ok_iff.2 (.inl ⟨hdomain, code, back, unmoved⟩)⟩
    · exact absurd same (noSentinel sentinel member)
  · intro format member
    have lossless := lossless_of_mem_catalogue member
    exact ⟨tableFaults_eq_nil_iff.2 lossless.consistent, invertible_iff.1 lossless.invertible⟩

/-- A step of a tolerance is no whole number of millionths, and every quantity is rounded; the
middle code comes back all the same. -/
theorem encode_decode_ordinary_tolerance :
    tolerance.tableFaults = [] ∧ tolerance.scale.num ≤ tolerance.scale.den ∧
      (∀ bound ∈ [tolerance.minCode, tolerance.maxCode],
        (|bound| + 1) * (tolerance.scale.num + tolerance.scale.den) < 2 ^ 127 ∧
          ∃ quantity, tolerance.quantityOfCode bound = .ok quantity) ∧
      (2048 : ℚ) * tolerance.step ≠ 50012210 ∧
      tolerance.decode 2048 = .ok (.normal ⟨50012210, by decide⟩) ∧
      tolerance.encode (.normal ⟨50012210, by decide⟩) = .ok 2048 := by
  have faultless : tolerance.tableFaults = [] := by decide
  have coarse : tolerance.scale.num ≤ tolerance.scale.den := by decide
  have room : ∀ bound ∈ [tolerance.minCode, tolerance.maxCode],
      (|bound| + 1) * (tolerance.scale.num + tolerance.scale.den) < 2 ^ 127 ∧
        ∃ quantity, tolerance.quantityOfCode bound = .ok quantity := by
    intro bound member
    simp only [List.mem_cons, List.not_mem_nil, or_false] at member
    rcases member with rfl | rfl
    · exact ⟨by decide, .zero, by rfl⟩
    · exact ⟨by decide, .ofWhole 100, by rfl⟩
  have read : tolerance.decode 2048 = .ok (.normal ⟨50012210, by decide⟩) := by rfl
  obtain ⟨quantity, read', -, -, -, written⟩ :=
    encode_decode_ordinary.1 tolerance faultless coarse room 2048 (by decide) (by decide)
      (by decide)
  obtain rfl := Reading.normal.inj (Except.ok.inj (read.symm.trans read'))
  refine ⟨faultless, coarse, room, ?_, read, written⟩
  have decimal : tolerance.decimalExponent = 0 := rfl
  have binary : tolerance.binaryExponent = 0 := rfl
  have multiplier : tolerance.multiplier = ⟨100, 4095⟩ := rfl
  simp only [step, decimal, binary, multiplier, microsPerUnit, zpow_zero]
  norm_num

/-! ### Steps of a millionth or more -/

/-- The scale of a format tells whether a step is at least a millionth. -/
theorem Consistent.num_le_den_iff (consistent : format.Consistent)
    (words : format.multiplier.Fits32) : format.scale.num ≤ format.scale.den ↔ 1 ≤ format.step := by
  have positive : (0 : ℚ) < format.exactScale.num := by
    exact_mod_cast consistent.exactScale_pos.1
  have balanced := consistent.balanced_exactScale words
  rw [step_eq_div consistent, one_le_div positive, Int.cast_le, scale_eq_capped words]
  exact balanced.min_le_min_iff

theorem fits32_of_mem_catalogue (h : format ∈ catalogue) : format.multiplier.Fits32 := by
  have checks : ∀ format ∈ catalogue, format.multiplier.Fits32 := by decide
  exact checks format h

theorem one_le_step_of_mem_catalogue (h : format ∈ catalogue) : 1 ≤ format.step := by
  have lossless := lossless_of_mem_catalogue h
  have words := fits32_of_mem_catalogue h
  exact (lossless.consistent.num_le_den_iff words).1 lossless.invertible.num_le_den

/-! ### The order of quantities on the wire -/

section Scaled

variable {first last : ℤ} {smaller larger : Quantity}

theorem codeOfQuantity?_mono (hfirst : format.codeOfQuantity? smaller = some first)
    (hlast : format.codeOfQuantity? larger = some last) (h : smaller ≤ larger) : first ≤ last := by
  obtain ⟨⟨hnum, hden⟩, -, -, rfl⟩ := codeOfQuantity?_eq_some_iff.1 hfirst
  obtain ⟨-, -, -, rfl⟩ := codeOfQuantity?_eq_some_iff.1 hlast
  exact roundDiv_mono hden (mul_le_mul_of_nonneg_right h hnum.le)

theorem quantityOfCode?_mono (hsmaller : format.quantityOfCode? first = some smaller)
    (hlarger : format.quantityOfCode? last = some larger) (h : first ≤ last) :
    smaller ≤ larger := by
  obtain ⟨⟨hnum, hden⟩, -, smallerMicros⟩ := quantityOfCode?_eq_some_iff.1 hsmaller
  obtain ⟨-, -, largerMicros⟩ := quantityOfCode?_eq_some_iff.1 hlarger
  rw [Quantity.le_iff_micros_le, smallerMicros, largerMicros]
  exact roundDiv_mono hnum (mul_le_mul_of_nonneg_right h hden.le)

theorem quantityOfCode?_injective (coarse : format.scale.num ≤ format.scale.den)
    {quantity : Quantity} (hfirst : format.quantityOfCode? first = some quantity)
    (hlast : format.quantityOfCode? last = some quantity) : first = last := by
  obtain ⟨⟨hnum, -⟩, -, firstMicros⟩ := quantityOfCode?_eq_some_iff.1 hfirst
  obtain ⟨-, -, lastMicros⟩ := quantityOfCode?_eq_some_iff.1 hlast
  -- either code comes back from the quantity
  rw [← roundDiv_roundDiv_mul first hnum coarse, ← firstMicros, lastMicros,
    roundDiv_roundDiv_mul last hnum coarse]

theorem quantityOfCode?_strictMono (coarse : format.scale.num ≤ format.scale.den)
    (hsmaller : format.quantityOfCode? first = some smaller)
    (hlarger : format.quantityOfCode? last = some larger) (h : first < last) :
    smaller < larger := by
  have order := quantityOfCode?_mono hsmaller hlarger h.le
  have distinct : smaller.micros ≠ larger.micros := by
    intro same
    obtain rfl := Quantity.ext same
    exact h.ne (quantityOfCode?_injective coarse hsmaller hlarger)
  exact lt_of_le_of_ne (Quantity.le_iff_micros_le.1 order) distinct

/-! ### Codes and readings -/

theorem clampCode_mono (h : first ≤ last) : format.clampCode first ≤ format.clampCode last :=
  min_le_min_right _ (max_le_max_right _ h)

theorem encode_mono (hsmaller : format.inDomain smaller = true)
    (hlarger : format.inDomain larger = true) (h : smaller ≤ larger)
    (hfirst : format.encode (.normal smaller) = .ok first)
    (hlast : format.encode (.normal larger) = .ok last) : first ≤ last := by
  obtain ⟨low, hlow, rfl⟩ := (encode_inDomain_eq_ok_iff hsmaller).1 hfirst
  obtain ⟨high, hhigh, rfl⟩ := (encode_inDomain_eq_ok_iff hlarger).1 hlast
  exact clampCode_mono (codeOfQuantity?_mono hlow hhigh h)

end Scaled

/-- **The order is kept.**  Of two quantities in the domain the smaller one has no larger code, when
both are written; and of two codes that are read as quantities the smaller one has no larger
quantity.  Where a step is at least a millionth, it has a smaller one. -/
theorem encode_decode_mono (faultless : format.tableFaults = [])
    (words : format.multiplier.Fits32) :
    (∀ (smaller larger : Quantity) (first last : ℤ),
        format.inDomain smaller = true → format.inDomain larger = true → smaller ≤ larger →
        format.encode (.normal smaller) = .ok first → format.encode (.normal larger) = .ok last →
          first ≤ last) ∧
      ∀ (first last : ℤ) (smaller larger : Quantity), first ≤ last →
        format.decode first = .ok (.normal smaller) → format.decode last = .ok (.normal larger) →
          smaller ≤ larger ∧ (1 ≤ format.step → first < last → smaller < larger) := by
  constructor
  · intro smaller larger first last hsmaller hlarger order hfirst hlast
    exact encode_mono hsmaller hlarger order hfirst hlast
  · intro first last smaller larger order hfirst hlast
    have hsmaller := quantityOfCode?_of_decode hfirst
    have hlarger := quantityOfCode?_of_decode hlast
    refine ⟨quantityOfCode?_mono hsmaller hlarger order, ?_⟩
    intro coarse strict
    have consistent := tableFaults_eq_nil_iff.1 faultless
    have separated := (consistent.num_le_den_iff words).2 coarse
    exact quantityOfCode?_strictMono separated hsmaller hlarger strict

/-- A distance of half a step, on either side of zero, is written as a step away from zero, and the
two codes are in order; so are the quantities of two codes around zero. -/
theorem encode_decode_mono_around_zero :
    chromaticDistance.tableFaults = [] ∧ chromaticDistance.multiplier.Fits32 ∧
      1 ≤ chromaticDistance.step ∧
      chromaticDistance.encode (.normal ⟨-5, by decide⟩) = .ok (-1) ∧
      chromaticDistance.encode (.normal ⟨5, by decide⟩) = .ok 1 ∧ (-1 : ℤ) ≤ 1 ∧
      chromaticDistance.decode (-2) = .ok (.normal ⟨-20, by decide⟩) ∧
      chromaticDistance.decode 1 = .ok (.normal ⟨10, by decide⟩) ∧
      (⟨-20, by decide⟩ : Quantity) < ⟨10, by decide⟩ := by
  have member : chromaticDistance ∈ catalogue := by decide
  have faultless : chromaticDistance.tableFaults = [] := by decide
  have words := fits32_of_mem_catalogue member
  have coarse := one_le_step_of_mem_catalogue member
  have below : chromaticDistance.encode (.normal ⟨-5, by decide⟩) = .ok (-1) := by rfl
  have above : chromaticDistance.encode (.normal ⟨5, by decide⟩) = .ok 1 := by rfl
  have negative : chromaticDistance.decode (-2) = .ok (.normal ⟨-20, by decide⟩) := by rfl
  have positive : chromaticDistance.decode 1 = .ok (.normal ⟨10, by decide⟩) := by rfl
  obtain ⟨written, read⟩ := encode_decode_mono faultless words
  have codes := written _ _ _ _ (by decide) (by decide) (by decide) below above
  have quantities := (read _ _ _ _ (by decide) negative positive).2 coarse (by decide)
  exact ⟨faultless, words, coarse, below, above, codes, negative, positive, quantities⟩

end Format

end DeviceProperty
