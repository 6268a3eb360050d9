/-
**Consistent formats.**

`DeviceProperty.Format.tableFaults` reports the disagreements among the numbers of a format.  This
module says what it means that there are none: a condition on every number, in a form that proofs
can use.  The queries on reserved codes then have one answer each: a sentinel is the only meaning
of its code, and an ordinary code is in no reserved range.

Main definitions:

* `DeviceProperty.Format.Consistent` — the numbers of a format agree.

Main results:

* `DeviceProperty.Format.tableFaults_eq_nil_iff` — **the check reports nothing exactly for a
  consistent format**;
* `DeviceProperty.Format.Consistent.sentinelState?_code` — a sentinel is found under its code;
* `DeviceProperty.Format.Consistent.isInvalidCode_of_isDomainCode` — ordinary codes are not
  reserved.
-/

import Mathlib
import DeviceProperty.Format.Consistency

set_option relaxedAutoImplicit false
set_option autoImplicit false

namespace DeviceProperty

namespace Format

variable {format : Format}

/-- The numbers of a format agree with one another. -/
structure Consistent (format : Format) : Prop where
  bits_pos : 0 < format.width.bits
  bits_le : format.width.bits ≤ maxFieldBits
  decimal_le : format.decimalExponent.natAbs ≤ maxDecimalExponent
  binary_le : format.binaryExponent.natAbs ≤ maxBinaryExponent
  num_pos : 0 < format.multiplier.num
  den_pos : 0 < format.multiplier.den
  minCode_le_maxCode : format.minCode ≤ format.maxCode
  fits_minCode : format.width.fits format.minCode = true
  fits_maxCode : format.width.fits format.maxCode = true
  invalid_wellFormed : ∀ range ∈ format.invalid, range.first ≤ range.last ∧
    format.width.fits range.first = true ∧ format.width.fits range.last = true
  invalid_disjoint : ∀ range ∈ format.invalid,
    range.last < format.minCode ∨ format.maxCode < range.first
  sentinel_fits : ∀ sentinel ∈ format.sentinels, format.width.fits sentinel.code = true
  sentinel_valid : ∀ sentinel ∈ format.sentinels, format.isInvalidCode sentinel.code = false
  sentinel_unique : (format.sentinels.map (·.code)).Nodup
  policy : ∀ state, format.outOfRange = .sentinel state → ∃ code,
    format.sentinelCode? state = some code

/-! ### The check -/

theorem whenever_eq_nil_iff {condition : Bool} {fault : TableFault} :
    whenever condition fault = [] ↔ condition = false := by
  cases condition <;> simp [whenever]

theorem rangeFaults_eq_nil_iff {range : CodeRange} :
    format.rangeFaults range = [] ↔
      (range.first ≤ range.last ∧ format.width.fits range.first = true ∧
        format.width.fits range.last = true) ∧
      (range.last < format.minCode ∨ format.maxCode < range.first) := by
  simp only [rangeFaults, List.append_eq_nil_iff, whenever_eq_nil_iff, Bool.or_eq_false_iff,
    Bool.and_eq_false_iff, decide_eq_false_iff_not, Bool.not_eq_false', not_lt, not_le, and_assoc]
  tauto

theorem sentinelFaults_eq_nil_iff {sentinel : Sentinel} :
    format.sentinelFaults sentinel = [] ↔
      format.width.fits sentinel.code = true ∧ format.isInvalidCode sentinel.code = false ∧
        (format.sentinels.map (·.code)).count sentinel.code ≤ 1 := by
  have same : (format.sentinels.map (·.code)).count sentinel.code =
      format.sentinels.countP (·.code = sentinel.code) := by
    rw [List.count, List.countP_map]
    exact List.countP_congr fun other _ => by simp
  simp only [sentinelFaults, List.append_eq_nil_iff, whenever_eq_nil_iff, Bool.not_eq_false',
    decide_eq_false_iff_not, not_lt, and_assoc, same]

theorem policyFaults_eq_nil_iff :
    format.policyFaults = [] ↔
      ∀ state, format.outOfRange = .sentinel state → ∃ code,
        format.sentinelCode? state = some code := by
  simp only [policyFaults]
  cases format.outOfRange with
  | reject => simp
  | sentinel state => simp [whenever_eq_nil_iff, Option.isSome_iff_exists]

theorem domainFaults_eq_nil_iff :
    format.domainFaults = [] ↔
      (format.decimalExponent.natAbs ≤ maxDecimalExponent ∧
        format.binaryExponent.natAbs ≤ maxBinaryExponent) ∧
      (0 < format.multiplier.num ∧ 0 < format.multiplier.den) ∧
      format.minCode ≤ format.maxCode ∧
      format.width.fits format.minCode = true ∧ format.width.fits format.maxCode = true := by
  simp only [domainFaults, List.append_eq_nil_iff, whenever_eq_nil_iff, Bool.or_eq_false_iff,
    decide_eq_false_iff_not, Bool.not_eq_false', not_lt, and_assoc, Nat.pos_iff_ne_zero, ne_eq]

/-- No code is given to two sentinels exactly when every sentinel is the only one with its code. -/
theorem nodup_codes_iff :
    (format.sentinels.map (·.code)).Nodup ↔
      ∀ sentinel ∈ format.sentinels, (format.sentinels.map (·.code)).count sentinel.code ≤ 1 := by
  rw [List.nodup_iff_count_le_one]
  constructor
  · intro h sentinel _
    exact h sentinel.code
  · intro h code
    by_cases member : code ∈ format.sentinels.map (·.code)
    · obtain ⟨sentinel, hsentinel, rfl⟩ := List.mem_map.1 member
      exact h sentinel hsentinel
    · simp [List.count_eq_zero_of_not_mem member]

/-- **The check reports nothing exactly for a consistent format.** -/
theorem tableFaults_eq_nil_iff : format.tableFaults = [] ↔ format.Consistent := by
  rw [tableFaults]
  split_ifs with hbits
  · -- no other number is judged under a width that no field has
    refine iff_of_false (by simp) ?_
    intro consistent
    have := consistent.bits_pos
    have := consistent.bits_le
    omega
  · simp only [List.append_eq_nil_iff, List.flatMap_eq_nil_iff, domainFaults_eq_nil_iff,
      rangeFaults_eq_nil_iff, sentinelFaults_eq_nil_iff, policyFaults_eq_nil_iff]
    constructor
    · rintro ⟨⟨⟨domain, hranges⟩, hsentinels⟩, hpolicy⟩
      obtain ⟨⟨hdecimal, hbinary⟩, ⟨hnum, hden⟩, hle, hmin, hmax⟩ := domain
      exact
        { bits_pos := by omega
          bits_le := by omega
          decimal_le := hdecimal
          binary_le := hbinary
          num_pos := hnum
          den_pos := hden
          minCode_le_maxCode := hle
          fits_minCode := hmin
          fits_maxCode := hmax
          invalid_wellFormed := fun range h => (hranges range h).1
          invalid_disjoint := fun range h => (hranges range h).2
          sentinel_fits := fun sentinel h => (hsentinels sentinel h).1
          sentinel_valid := fun sentinel h => (hsentinels sentinel h).2.1
          sentinel_unique := nodup_codes_iff.2 fun sentinel h => (hsentinels sentinel h).2.2
          policy := hpolicy }
    · intro consistent
      refine ⟨⟨⟨⟨⟨consistent.decimal_le, consistent.binary_le⟩, ⟨consistent.num_pos,
        consistent.den_pos⟩, consistent.minCode_le_maxCode, consistent.fits_minCode,
        consistent.fits_maxCode⟩, ?_⟩, ?_⟩, consistent.policy⟩
      · intro range h
        exact ⟨consistent.invalid_wellFormed range h, consistent.invalid_disjoint range h⟩
      · intro sentinel h
        have once := nodup_codes_iff.1 consistent.sentinel_unique sentinel h
        exact ⟨consistent.sentinel_fits sentinel h, consistent.sentinel_valid sentinel h, once⟩

/-! ### Reserved codes of a consistent format -/

/-- Where no key is given twice, an entry is found under its key. -/
theorem find?_eq_of_nodup_map {α β : Type} [DecidableEq β] {key : α → β} {entries : List α}
    (unique : (entries.map key).Nodup) {entry : α} (h : entry ∈ entries) :
    entries.find? (fun other => key other = key entry) = some entry := by
  obtain ⟨found, hfound⟩ : ∃ found,
      entries.find? (fun other => key other = key entry) = some found :=
    Option.isSome_iff_exists.1 (List.find?_isSome.2 ⟨entry, h, by simp⟩)
  have same : key found = key entry := by simpa using List.find?_some hfound
  rw [hfound, List.inj_on_of_nodup_map unique (List.mem_of_find?_eq_some hfound) h same]

theorem isDomainCode_iff {code : ℤ} :
    format.isDomainCode code = true ↔ format.minCode ≤ code ∧ code ≤ format.maxCode := by
  simp [isDomainCode]

theorem isInvalidCode_iff {code : ℤ} :
    format.isInvalidCode code = true ↔
      ∃ range ∈ format.invalid, range.first ≤ code ∧ code ≤ range.last := by
  simp [isInvalidCode, CodeRange.contains]

namespace Consistent

theorem sentinelState?_code (consistent : format.Consistent) {sentinel : Sentinel}
    (h : sentinel ∈ format.sentinels) :
    format.sentinelState? sentinel.code = some sentinel.state := by
  rw [sentinelState?, find?_eq_of_nodup_map consistent.sentinel_unique h]
  rfl

theorem fits64_of_fits (consistent : format.Consistent) {code : ℤ}
    (h : format.width.fits code = true) : Fits64 code := by
  obtain ⟨lower, upper⟩ := Width.fits_iff.1 h
  have size : twoPow format.width.bits ≤ twoPow 32 :=
    Nat.pow_le_pow_right (by norm_num) consistent.bits_le
  have half : twoPow (format.width.bits - 1) ≤ twoPow 32 :=
    (Nat.pow_le_pow_right (by norm_num) (Nat.sub_le _ 1)).trans size
  have value : twoPow 32 = 4294967296 := rfl
  simp only [Width.minCode, Width.maxCode] at lower upper
  simp only [Fits64, min64, max64]
  split_ifs at lower upper <;> omega

theorem fits_of_isDomainCode (consistent : format.Consistent) {code : ℤ}
    (h : format.isDomainCode code = true) : format.width.fits code = true := by
  obtain ⟨lower, upper⟩ := isDomainCode_iff.1 h
  exact Width.fits_iff.2 ⟨(Width.fits_iff.1 consistent.fits_minCode).1.trans lower,
    upper.trans (Width.fits_iff.1 consistent.fits_maxCode).2⟩

theorem fits64_of_isDomainCode (consistent : format.Consistent) {code : ℤ}
    (h : format.isDomainCode code = true) : Fits64 code :=
  consistent.fits64_of_fits (consistent.fits_of_isDomainCode h)

theorem isDomainCode_minCode (consistent : format.Consistent) :
    format.isDomainCode format.minCode = true :=
  isDomainCode_iff.2 ⟨le_rfl, consistent.minCode_le_maxCode⟩

theorem isDomainCode_maxCode (consistent : format.Consistent) :
    format.isDomainCode format.maxCode = true :=
  isDomainCode_iff.2 ⟨consistent.minCode_le_maxCode, le_rfl⟩

theorem isInvalidCode_of_isDomainCode (consistent : format.Consistent) {code : ℤ}
    (h : format.isDomainCode code = true) : format.isInvalidCode code = false := by
  obtain ⟨lower, upper⟩ := isDomainCode_iff.1 h
  rw [Bool.eq_false_iff]
  intro invalid
  obtain ⟨range, hrange, first, last⟩ := isInvalidCode_iff.1 invalid
  have := consistent.invalid_disjoint range hrange
  omega

end Consistent

end Format

end DeviceProperty
