/-
**Every code has one meaning.**

The codes that a field can carry are divided among ordinary codes, reserved ranges and sentinels.
In a lossless format no code is left over, no state has two sentinels, and the scale can be undone:
then a code that is read is written again as the same code, and a code that is not read is a
reserved one.  What is left over is computed by taking the ranges with a meaning away, one after
another, so the condition is decided from the numbers of a format; every format of the catalogue
has it.

In the other direction a reading is rounded twice: to a step of the code, and to a millionth.  A
quantity between the bounds moves by half a step and half a millionth, at most.  There are two
exceptions.  One step below zero a distance from the Planckian locus has the code of an unknown
value, and a power out of bounds is written as saturated.

Main definitions:

* `DeviceProperty.CodeRange.remaining`, `DeviceProperty.Format.freeCodes` — what is left over;
* `DeviceProperty.Format.Lossless` — every code has one meaning, and the scale can be undone;
* `DeviceProperty.Format.Settles` — what becomes of a reading, case by case.

Main results:

* `DeviceProperty.Format.Lossless.encode_of_decode` — **a code that is read is written again**;
* `DeviceProperty.Format.lossless_of_mem_catalogue` — the formats of the catalogue are lossless;
* `DeviceProperty.Format.settles_of_mem_catalogue` — **what becomes of a reading** in a format of
  the catalogue.
-/

import Mathlib
import DeviceProperty.Proofs.Format.RoundTrip

set_option relaxedAutoImplicit false
set_option autoImplicit false

namespace DeviceProperty

/-! ### What is left of a range -/

namespace CodeRange

theorem contains_iff {range : CodeRange} {code : ℤ} :
    range.contains code = true ↔ range.first ≤ code ∧ code ≤ range.last := by
  simp [contains]

/-- The codes of a range before another range, and the codes after it; empty parts are left out. -/
def minus (range taken : CodeRange) : List CodeRange :=
  [⟨range.first, min range.last (taken.first - 1)⟩,
    ⟨max range.first (taken.last + 1), range.last⟩].filter fun part => part.first ≤ part.last

theorem exists_mem_minus_iff {range taken : CodeRange} {code : ℤ} :
    (∃ part ∈ range.minus taken, part.contains code = true) ↔
      range.contains code = true ∧ ¬ taken.contains code = true := by
  simp only [minus, List.mem_filter, List.mem_cons, List.not_mem_nil, or_false, decide_eq_true_eq,
    contains_iff, and_assoc, or_and_right, exists_or, exists_eq_left]
  omega

/-- The parts of a range that lie in none of a list of ranges. -/
def remaining (range : CodeRange) : List CodeRange → List CodeRange
  | [] => [range]
  | taken :: others => (range.remaining others).flatMap (·.minus taken)

theorem exists_mem_remaining_iff {range : CodeRange} {others : List CodeRange} {code : ℤ} :
    (∃ part ∈ range.remaining others, part.contains code = true) ↔
      range.contains code = true ∧ ∀ taken ∈ others, ¬ taken.contains code = true := by
  induction others with
  | nil => simp [remaining]
  | cons taken others ih =>
      have split : (∃ part ∈ range.remaining (taken :: others), part.contains code = true) ↔
          ∃ part ∈ range.remaining others,
            ∃ rest ∈ part.minus taken, rest.contains code = true := by
        simp only [remaining, List.mem_flatMap]
        constructor
        · rintro ⟨rest, ⟨part, hpart, hrest⟩, inside⟩
          exact ⟨part, hpart, rest, hrest, inside⟩
        · rintro ⟨part, hpart, rest, hrest, inside⟩
          exact ⟨rest, ⟨part, hpart, hrest⟩, inside⟩
      -- the part that holds the code is in what the other ranges leave
      rw [split, List.forall_mem_cons]
      simp only [exists_mem_minus_iff]
      constructor
      · rintro ⟨part, hpart, inside, outside⟩
        obtain ⟨inRange, inOthers⟩ := ih.1 ⟨part, hpart, inside⟩
        exact ⟨inRange, outside, inOthers⟩
      · rintro ⟨inRange, outside, inOthers⟩
        obtain ⟨part, hpart, inside⟩ := ih.2 ⟨inRange, inOthers⟩
        exact ⟨part, hpart, inside, outside⟩

end CodeRange

namespace Format

variable {format : Format}

/-! ### The meanings of codes -/

/-- The codes of a field that are neither ordinary nor reserved nor a sentinel. -/
def freeCodes (format : Format) : List CodeRange :=
  CodeRange.remaining ⟨format.width.minCode, format.width.maxCode⟩
    (⟨format.minCode, format.maxCode⟩ ::
      (format.invalid ++ format.sentinels.map fun sentinel => .single sentinel.code))

/-- With nothing left over, every code of the width has a meaning. -/
theorem meaning_of_freeCodes_eq_nil (free : format.freeCodes = []) {code : ℤ}
    (fits : format.width.fits code = true) :
    format.isDomainCode code = true ∨ format.isInvalidCode code = true ∨
      ∃ sentinel ∈ format.sentinels, sentinel.code = code := by
  by_contra meaningless
  simp only [not_or, not_exists, not_and] at meaningless
  obtain ⟨notOrdinary, notInvalid, noSentinel⟩ := meaningless
  have left : ∃ part ∈ format.freeCodes, part.contains code = true := by
    refine CodeRange.exists_mem_remaining_iff.2 ⟨?_, ?_⟩
    · exact CodeRange.contains_iff.2 (Width.fits_iff.1 fits)
    · intro taken member inside
      rw [CodeRange.contains_iff] at inside
      rw [List.mem_cons, List.mem_append, List.mem_map] at member
      rcases member with rfl | member | ⟨sentinel, member, rfl⟩
      · exact notOrdinary (isDomainCode_iff.2 inside)
      · exact notInvalid (isInvalidCode_iff.2 ⟨taken, member, inside⟩)
      · exact noSentinel sentinel member (le_antisymm inside.1 inside.2)
  simp [free] at left

/-- Every code of a field has one meaning, and the scale can be undone. -/
structure Lossless (format : Format) : Prop where
  consistent : format.Consistent
  invertible : format.Invertible
  state_unique : (format.sentinels.map (·.state)).Nodup
  complete : ∀ code, format.width.fits code = true →
    format.isDomainCode code = true ∨ format.isInvalidCode code = true ∨
      ∃ sentinel ∈ format.sentinels, sentinel.code = code

/-! ### From code to reading and back -/

theorem decode_of_isInvalidCode {code : ℤ} (h : format.isInvalidCode code = true) :
    format.decode code = .error (.reservedCode code) := by
  simp [decode, classifyCode, h]

/-- Reading a code fails in one way only. -/
theorem eq_reservedCode_of_decode {code : ℤ} {fault : Fault}
    (h : format.decode code = .error fault) : fault = .reservedCode code := by
  simp only [decode, classifyCode] at h
  split_ifs at h
  · simpa using h.symm
  · cases hstate : format.sentinelState? code with
    | some state => simp [hstate] at h
    | none =>
        cases hquantity : format.quantityOfCode? code <;>
          simp_all [quantityOfCode, Except.map]

theorem sentinelCode?_state (unique : (format.sentinels.map (·.state)).Nodup) {sentinel : Sentinel}
    (h : sentinel ∈ format.sentinels) :
    format.sentinelCode? sentinel.state = some sentinel.code := by
  rw [sentinelCode?, find?_eq_of_nodup_map unique h]
  rfl

namespace Lossless

theorem isDomainCode_of_sentinelState?_eq_none (lossless : format.Lossless) {code : ℤ}
    (fits : format.width.fits code = true) (valid : format.isInvalidCode code = false)
    (noSentinel : format.sentinelState? code = none) : format.isDomainCode code = true := by
  rcases lossless.complete code fits with ordinary | invalid | ⟨sentinel, member, rfl⟩
  · exact ordinary
  · simp [valid] at invalid
  · simp [lossless.consistent.sentinelState?_code member] at noSentinel

/-- **A code that is read is written again.** -/
theorem encode_of_decode (lossless : format.Lossless) {code : ℤ} {reading : Reading}
    (h : format.decode code = .ok reading) : format.encode reading = .ok code := by
  obtain ⟨⟨fits, valid⟩, meaning⟩ := decode_eq_ok_iff.1 h
  rcases meaning with ⟨state, hstate, rfl⟩ | ⟨noSentinel, quantity, hquantity, rfl⟩
  · have member := sentinelState?_mem hstate
    exact encode_ofState_eq_ok_iff.2 (sentinelCode?_state lossless.state_unique member)
  · -- no code of the width is left over, so this one is ordinary
    have ordinary := lossless.isDomainCode_of_sentinelState?_eq_none fits valid noSentinel
    obtain ⟨quantity', hquantity', hdomain⟩ := lossless.invertible.exists_quantity ordinary
    obtain rfl : quantity = quantity' := Option.some.inj (hquantity.symm.trans hquantity')
    have back := lossless.invertible.codeOfQuantity?_eq
      (lossless.consistent.fits64_of_fits fits) ordinary hquantity
    exact encode_normal_eq_ok_iff.2 (.inl ⟨hdomain, code, back, clampCode_eq_self ordinary⟩)

theorem exists_decode (lossless : format.Lossless) {code : ℤ}
    (fits : format.width.fits code = true) (valid : format.isInvalidCode code = false) :
    ∃ reading, format.decode code = .ok reading := by
  cases hstate : format.sentinelState? code with
  | some state => exact ⟨_, decode_eq_ok_iff.2 ⟨⟨fits, valid⟩, .inl ⟨state, hstate, rfl⟩⟩⟩
  | none =>
      have ordinary := lossless.isDomainCode_of_sentinelState?_eq_none fits valid hstate
      obtain ⟨quantity, hquantity, -⟩ := lossless.invertible.exists_quantity ordinary
      exact ⟨_, decode_eq_ok_iff.2 ⟨⟨fits, valid⟩, .inr ⟨hstate, quantity, hquantity, rfl⟩⟩⟩

end Lossless

/-! ### The catalogue -/

/-- Whether a scale can be undone is computed. -/
instance (format : Format) : Decidable format.Invertible :=
  decidable_of_iff
    ((0 < format.scale.num ∧ format.scale.num ≤ format.scale.den) ∧
      ((|format.minCode| + 1) * (format.scale.num + format.scale.den) ≤ max128 ∧
        (|format.maxCode| + 1) * (format.scale.num + format.scale.den) ≤ max128) ∧
      (format.quantityOfCode? format.minCode).isSome = true ∧
        (format.quantityOfCode? format.maxCode).isSome = true)
    ⟨fun ⟨⟨pos, fine⟩, ⟨minRoom, maxRoom⟩, least, greatest⟩ =>
        ⟨pos, fine, minRoom, maxRoom, least, greatest⟩,
      fun ⟨pos, fine, minRoom, maxRoom, least, greatest⟩ =>
        ⟨⟨pos, fine⟩, ⟨minRoom, maxRoom⟩, least, greatest⟩⟩

/-- The formats of the catalogue are lossless. -/
theorem lossless_of_mem_catalogue (h : format ∈ catalogue) : format.Lossless := by
  have checks : ∀ format ∈ catalogue, format.tableFaults = [] ∧ format.Invertible ∧
      (format.sentinels.map (·.state)).Nodup ∧ format.freeCodes = [] := by
    decide
  obtain ⟨faults, invertible, states, free⟩ := checks format h
  refine ⟨tableFaults_eq_nil_iff.1 faults, invertible, states, ?_⟩
  intro code fits
  exact meaning_of_freeCodes_eq_nil free fits

/-! ### What becomes of a reading -/

/-- The result of writing a reading in a format and reading it again: a special state stays; a
quantity between the bounds moves by half a step and half a millionth, at most, unless it is a
distance with the code of an unknown value; and a quantity out of bounds is a power, and saturated.
The distance is in millionths. -/
structure Settles (format : Format) (reading result : Reading) : Prop where
  special : ∀ state, reading = .ofState state → result = .ofState state
  near : ∀ quantity, reading = .normal quantity →
    format.least ≤ quantity → quantity ≤ format.greatest →
    ¬ (format = chromaticDistance ∧ format.encode (.normal quantity) = .ok (-1)) →
      ∃ value, result = .normal value ∧
        |(value.micros : ℚ) - quantity.micros| ≤ (format.step + 1) / 2
  ambiguous : ∀ quantity, reading = .normal quantity → format = chromaticDistance →
    format.encode (.normal quantity) = .ok (-1) → result = .unknown
  outside : ∀ quantity, reading = .normal quantity →
    ¬ (format.least ≤ quantity ∧ quantity ≤ format.greatest) →
      format = power ∧ result = .saturated

/-! ### The numbers of the catalogue -/

/-- No scale of the catalogue meets a limit. -/
theorem scale_eq_exactScale_of_mem_catalogue (h : format ∈ catalogue) :
    format.scale = format.exactScale := by
  have checks : ∀ format ∈ catalogue, format.scale = format.exactScale := by decide
  exact checks format h

/-- One sentinel of the catalogue is an ordinary code too. -/
theorem eq_chromaticDistance_of_isDomainCode (h : format ∈ catalogue) {sentinel : Sentinel}
    (member : sentinel ∈ format.sentinels) (ordinary : format.isDomainCode sentinel.code = true) :
    format = chromaticDistance ∧ sentinel.code = -1 := by
  have checks : ∀ format ∈ catalogue, ∀ sentinel ∈ format.ambiguousSentinels,
      format = chromaticDistance ∧ sentinel.code = -1 := by
    decide
  exact checks format h sentinel (List.mem_filter.2 ⟨member, ordinary⟩)

/-- One format of the catalogue writes quantities out of bounds. -/
theorem eq_power_of_outOfRange_eq_sentinel (h : format ∈ catalogue) {state : State}
    (policy : format.outOfRange = .sentinel state) : format = power ∧ state = .saturated := by
  have checks : ∀ format ∈ catalogue, format.outOfRange ≠ .reject →
      format = power ∧ format.outOfRange = .sentinel .saturated := by
    decide
  obtain ⟨same, saturated⟩ := checks format h (by simp [policy])
  exact ⟨same, OverflowPolicy.sentinel.inj (policy.symm.trans saturated)⟩

/-! ### The cases -/

/-- **What becomes of a reading** in a format of the catalogue. -/
theorem settles_of_mem_catalogue (h : format ∈ catalogue) {reading result : Reading} {code : ℤ}
    (encoded : format.encode reading = .ok code) (decoded : format.decode code = .ok result) :
    format.Settles reading result := by
  have lossless := lossless_of_mem_catalogue h
  have consistent := lossless.consistent
  refine { special := ?_, near := ?_, ambiguous := ?_, outside := ?_ }
  · rintro state rfl
    exact Except.ok.inj (decoded.symm.trans (consistent.decode_of_encode_ofState encoded))
  · rintro quantity rfl lower upper distinct
    have hdomain := lossless.invertible.inDomain_iff_bounds.2 ⟨lower, upper⟩
    rcases consistent.decode_of_encode_inDomain hdomain encoded with
      ⟨value, read⟩ | ⟨sentinel, member, rfl, -⟩
    · obtain rfl := Except.ok.inj (decoded.symm.trans read)
      have exact := scale_eq_exactScale_of_mem_catalogue h
      exact ⟨value, rfl, consistent.abs_sub_le_of_decode exact hdomain encoded decoded⟩
    · -- an ordinary code that is also a sentinel is the exception of the hypothesis
      have ordinary := (consistent.isDomainCode_of_encode hdomain encoded).1
      obtain ⟨same, code⟩ := eq_chromaticDistance_of_isDomainCode h member ordinary
      exact absurd ⟨same, code ▸ encoded⟩ distinct
  · rintro quantity rfl rfl written
    obtain rfl := Except.ok.inj (encoded.symm.trans written)
    exact Except.ok.inj (decoded.symm.trans (by decide))
  · rintro quantity rfl outOfBounds
    have hdomain : format.inDomain quantity = false := by
      rw [Bool.eq_false_iff]
      intro inside
      exact outOfBounds (lossless.invertible.inDomain_iff_bounds.1 inside)
    obtain ⟨state, policy, read⟩ := consistent.decode_of_encode_outOfRange hdomain encoded
    obtain ⟨same, rfl⟩ := eq_power_of_outOfRange_eq_sentinel h policy
    exact ⟨same, Except.ok.inj (decoded.symm.trans read)⟩

end Format

end DeviceProperty
