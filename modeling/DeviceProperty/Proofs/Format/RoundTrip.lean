/-
**What is written can be read.**

A reading becomes a code on one of three ways: a quantity in the domain by the scale, a quantity
out of bounds by the policy, and a special state by its sentinel.  In a consistent format each of
the three ends in a code that is read again: as the state of the policy, as the same state, or as
the quantity of an ordinary code, unless that code is a sentinel too.

Main results:

* `DeviceProperty.Format.decode_eq_ok_iff` — when a code is read, and as what;
* `DeviceProperty.Format.encode_ofState_eq_ok_iff`, `DeviceProperty.Format.encode_normal_eq_ok_iff`
  — when a reading is written, and how;
* `DeviceProperty.Format.Consistent.decode_sentinel` — the code of a sentinel is read as its state;
* `DeviceProperty.Format.Consistent.exists_decode_of_encode` — every code that is written is read;
* `DeviceProperty.Format.Consistent.abs_sub_le_of_decode` — how far a quantity has moved;
* `DeviceProperty.Format.decode_encode_cases` — **what is written can be read**, case by case.
-/

import Mathlib
import DeviceProperty.Format.Catalogue
import DeviceProperty.Proofs.Format.Scale

set_option relaxedAutoImplicit false
set_option autoImplicit false

namespace DeviceProperty

theorem Reading.eq_ofState_or_eq_normal (reading : Reading) :
    (∃ state, reading = .ofState state) ∨ ∃ quantity, reading = .normal quantity := by
  cases reading with
  | normal quantity => exact .inr ⟨quantity, rfl⟩
  | saturated => exact .inl ⟨.saturated, rfl⟩
  | unknown => exact .inl ⟨.unknown, rfl⟩

namespace Format

variable {format : Format}

/-! ### Reading a code -/

/-- A code is read when it fits the field and is not reserved: as the state of its sentinel, or
else as its quantity, if it has one. -/
theorem decode_eq_ok_iff {code : ℤ} {reading : Reading} :
    format.decode code = .ok reading ↔
      (format.width.fits code = true ∧ format.isInvalidCode code = false) ∧
        ((∃ state, format.sentinelState? code = some state ∧ reading = .ofState state) ∨
          (format.sentinelState? code = none ∧
            ∃ quantity, format.quantityOfCode? code = some quantity ∧
              reading = .normal quantity)) := by
  simp only [decode, classifyCode]
  by_cases valid : format.width.fits code = true ∧ format.isInvalidCode code = false
  · simp only [valid, Bool.not_true, Bool.or_self, Bool.false_eq_true, if_false, true_and]
    cases format.sentinelState? code with
    | some state => simp [eq_comm]
    | none =>
        cases hquantity : format.quantityOfCode? code with
        | some quantity => simp [quantityOfCode, hquantity, Except.map, eq_comm]
        | none => simp [quantityOfCode, hquantity, Except.map]
  · have reserved : (!format.width.fits code || format.isInvalidCode code) = true := by
      cases hfits : format.width.fits code <;> cases hinvalid : format.isInvalidCode code <;>
        simp_all
    simp [reserved, valid]

theorem quantityOfCode?_of_decode {code : ℤ} {quantity : Quantity}
    (h : format.decode code = .ok (.normal quantity)) :
    format.quantityOfCode? code = some quantity := by
  rcases (decode_eq_ok_iff.1 h).2 with ⟨state, -, same⟩ | ⟨-, quantity', hquantity, same⟩
  · -- a quantity is no special state
    cases state <;> simp [Reading.ofState] at same
  · obtain rfl := Reading.normal.inj same
    exact hquantity

namespace Consistent

theorem decode_sentinel (consistent : format.Consistent) {sentinel : Sentinel}
    (h : sentinel ∈ format.sentinels) :
    format.decode sentinel.code = .ok (.ofState sentinel.state) := by
  have fits := consistent.sentinel_fits sentinel h
  have valid := consistent.sentinel_valid sentinel h
  have state := consistent.sentinelState?_code h
  exact decode_eq_ok_iff.2 ⟨⟨fits, valid⟩, .inl ⟨sentinel.state, state, rfl⟩⟩

/-- An ordinary code is read as its quantity, unless a sentinel has the same code. -/
theorem decode_ordinary (consistent : format.Consistent) {code : ℤ} {quantity : Quantity}
    (hcode : format.isDomainCode code = true)
    (hquantity : format.quantityOfCode? code = some quantity) :
    format.decode code = .ok (.normal quantity) ∨
      ∃ sentinel ∈ format.sentinels, sentinel.code = code ∧
        format.decode code = .ok (.ofState sentinel.state) := by
  cases hstate : format.sentinelState? code with
  | none =>
      have fits := consistent.fits_of_isDomainCode hcode
      have valid := consistent.isInvalidCode_of_isDomainCode hcode
      exact .inl (decode_eq_ok_iff.2 ⟨⟨fits, valid⟩, .inr ⟨hstate, quantity, hquantity, rfl⟩⟩)
  | some state =>
      have member := sentinelState?_mem hstate
      exact .inr ⟨_, member, rfl, consistent.decode_sentinel member⟩

end Consistent

/-! ### Writing a reading -/

/-- A special state is written when it has a sentinel, as the code of the sentinel. -/
theorem encode_ofState_eq_ok_iff {state : State} {code : ℤ} :
    format.encode (.ofState state) = .ok code ↔ format.sentinelCode? state = some code := by
  have classified : format.classifyReading (.ofState state) = format.classifyState state := by
    cases state <;> rfl
  rw [encode, classified, classifyState]
  cases format.sentinelCode? state <;> simp

/-- A quantity is written as the nearest ordinary code in the domain, and as the state of the
policy out of bounds. -/
theorem encode_normal_eq_ok_iff {quantity : Quantity} {code : ℤ} :
    format.encode (.normal quantity) = .ok code ↔
      (format.inDomain quantity = true ∧ ∃ nearest,
          format.codeOfQuantity? quantity = some nearest ∧ format.clampCode nearest = code) ∨
        (format.inDomain quantity = false ∧ ∃ state,
          format.outOfRange = .sentinel state ∧ format.sentinelCode? state = some code) := by
  simp only [encode, classifyReading, classifyQuantity]
  cases hdomain : format.inDomain quantity with
  | true =>
      cases hcode : format.codeOfQuantity? quantity <;> simp [codeOfQuantity, hcode, Except.map]
  | false =>
      cases hpolicy : format.outOfRange with
      | reject => simp
      | sentinel state => cases hcode : format.sentinelCode? state <;> simp [hcode]

theorem encode_inDomain_eq_ok_iff {quantity : Quantity} {code : ℤ}
    (hdomain : format.inDomain quantity = true) :
    format.encode (.normal quantity) = .ok code ↔
      ∃ nearest, format.codeOfQuantity? quantity = some nearest ∧
        format.clampCode nearest = code := by
  simp [encode_normal_eq_ok_iff, hdomain]

/-! ### From reading to code and back -/

namespace Consistent

theorem decode_of_encode_ofState (consistent : format.Consistent) {state : State} {code : ℤ}
    (h : format.encode (.ofState state) = .ok code) :
    format.decode code = .ok (.ofState state) :=
  consistent.decode_sentinel (sentinelCode?_mem (encode_ofState_eq_ok_iff.1 h))

/-- A quantity out of bounds comes back as the state of the policy. -/
theorem decode_of_encode_outOfRange (consistent : format.Consistent) {quantity : Quantity}
    {code : ℤ} (hdomain : format.inDomain quantity = false)
    (h : format.encode (.normal quantity) = .ok code) :
    ∃ state, format.outOfRange = .sentinel state ∧ format.decode code = .ok (.ofState state) := by
  rcases encode_normal_eq_ok_iff.1 h with ⟨inside, -⟩ | ⟨-, state, hpolicy, hcode⟩
  · simp [hdomain] at inside
  · exact ⟨state, hpolicy, consistent.decode_sentinel (sentinelCode?_mem hcode)⟩

theorem isDomainCode_of_encode (consistent : format.Consistent) {quantity : Quantity} {code : ℤ}
    (hdomain : format.inDomain quantity = true)
    (h : format.encode (.normal quantity) = .ok code) :
    format.isDomainCode code = true ∧ ∃ value, format.quantityOfCode? code = some value := by
  obtain ⟨nearest, -, rfl⟩ := (encode_inDomain_eq_ok_iff hdomain).1 h
  have ordinary := isDomainCode_clampCode consistent.minCode_le_maxCode nearest
  obtain ⟨lower, upper⟩ := isDomainCode_iff.1 ordinary
  obtain ⟨least, greatest, hleast, hgreatest, -, -⟩ := inDomain_iff.1 hdomain
  obtain ⟨value, hvalue, -⟩ := quantityOfCode?_between hleast hgreatest lower upper
  exact ⟨ordinary, value, hvalue⟩

/-- A quantity in the domain comes back as a quantity, unless its code is also a sentinel. -/
theorem decode_of_encode_inDomain (consistent : format.Consistent) {quantity : Quantity} {code : ℤ}
    (hdomain : format.inDomain quantity = true)
    (h : format.encode (.normal quantity) = .ok code) :
    (∃ value, format.decode code = .ok (.normal value)) ∨
      ∃ sentinel ∈ format.sentinels, sentinel.code = code ∧
        format.decode code = .ok (.ofState sentinel.state) := by
  obtain ⟨ordinary, value, hvalue⟩ := consistent.isDomainCode_of_encode hdomain h
  exact (consistent.decode_ordinary ordinary hvalue).imp_left fun read => ⟨value, read⟩

/-- A quantity that comes back as a quantity has moved by half a step and half a millionth, at
most. -/
theorem abs_sub_le_of_decode (consistent : format.Consistent)
    (exact : format.scale = format.exactScale) {quantity value : Quantity} {code : ℤ}
    (hdomain : format.inDomain quantity = true)
    (encoded : format.encode (.normal quantity) = .ok code)
    (decoded : format.decode code = .ok (.normal value)) :
    |(value.micros : ℚ) - quantity.micros| ≤ (format.step + 1) / 2 := by
  obtain ⟨nearest, hnearest, rfl⟩ := (encode_inDomain_eq_ok_iff hdomain).1 encoded
  have hvalue := quantityOfCode?_of_decode decoded
  have positive := (quantityOfCode?_eq_some_iff.1 hvalue).1.1
  exact abs_sub_le_step consistent.den_pos exact positive
    (abs_sub_le_of_clampCode consistent.minCode_le_maxCode hdomain hnearest hvalue)

theorem exists_decode_of_encode (consistent : format.Consistent) {reading : Reading} {code : ℤ}
    (h : format.encode reading = .ok code) : ∃ result, format.decode code = .ok result := by
  rcases reading.eq_ofState_or_eq_normal with ⟨state, rfl⟩ | ⟨quantity, rfl⟩
  · exact ⟨_, consistent.decode_of_encode_ofState h⟩
  · cases hdomain : format.inDomain quantity with
    | false =>
        obtain ⟨state, -, read⟩ := consistent.decode_of_encode_outOfRange hdomain h
        exact ⟨_, read⟩
    | true =>
        rcases consistent.decode_of_encode_inDomain hdomain h with
          ⟨value, read⟩ | ⟨sentinel, -, -, read⟩
        · exact ⟨_, read⟩
        · exact ⟨_, read⟩

end Consistent

/-- **What is written can be read.**  In a consistent format the code of a reading fits the field,
lies in no reserved range, and is read again.  A special state comes back.  A quantity out of
bounds comes back as the special state of the policy.  A quantity in the domain has an ordinary
code, and comes back as a quantity unless that code is also a sentinel. -/
theorem decode_encode_cases {reading : Reading} {code : ℤ} (consistent : format.tableFaults = [])
    (encoded : format.encode reading = .ok code) :
    format.width.fits code = true ∧
      (∀ range ∈ format.invalid, ¬ (range.first ≤ code ∧ code ≤ range.last)) ∧
      ∃ result, format.decode code = .ok result ∧
        (∀ state, reading = .ofState state → result = reading) ∧
        (∀ quantity, reading = .normal quantity → format.inDomain quantity = false →
          ∃ state, format.outOfRange = .sentinel state ∧ result = .ofState state ∧
            result.quantity? = none) ∧
        (∀ quantity, reading = .normal quantity → format.inDomain quantity = true →
          (format.minCode ≤ code ∧ code ≤ format.maxCode) ∧
            ((∀ sentinel ∈ format.sentinels, sentinel.code ≠ code) →
              ∃ value, result = .normal value)) := by
  have consistent := tableFaults_eq_nil_iff.1 consistent
  obtain ⟨result, decoded⟩ := consistent.exists_decode_of_encode encoded
  obtain ⟨⟨fits, valid⟩, -⟩ := decode_eq_ok_iff.1 decoded
  refine ⟨fits, ?_, result, decoded, ?_, ?_, ?_⟩
  · intro range hrange inside
    exact Bool.false_ne_true (valid.symm.trans (isInvalidCode_iff.2 ⟨range, hrange, inside⟩))
  · rintro state rfl
    have same := consistent.decode_of_encode_ofState encoded
    exact Except.ok.inj (decoded.symm.trans same)
  · rintro quantity rfl hdomain
    obtain ⟨state, hpolicy, same⟩ := consistent.decode_of_encode_outOfRange hdomain encoded
    obtain rfl := Except.ok.inj (decoded.symm.trans same)
    exact ⟨state, hpolicy, rfl, by cases state <;> rfl⟩
  · rintro quantity rfl hdomain
    obtain ⟨ordinary, -⟩ := consistent.isDomainCode_of_encode hdomain encoded
    refine ⟨isDomainCode_iff.1 ordinary, ?_⟩
    intro noSentinel
    rcases consistent.decode_of_encode_inDomain hdomain encoded with
      ⟨value, read⟩ | ⟨sentinel, member, same, -⟩
    · exact ⟨value, Except.ok.inj (decoded.symm.trans read)⟩
    · exact absurd same (noSentinel sentinel member)

/-- A power just below zero is written as the policy of its format says, and read as saturated, and
so is a saturated one.  A power of a quarter is written as a code between the bounds, and read as a
quantity. -/
theorem decode_encode_cases_negative_power :
    Format.power.tableFaults = [] ∧
      (Format.power.encode (.normal ⟨-1, by decide⟩) = .ok 0xFFFFFF ∧
        ∃ result state, Format.power.decode 0xFFFFFF = .ok result ∧
          Format.power.outOfRange = .sentinel state ∧ result = .ofState state ∧
          result.quantity? = none) ∧
      (Format.power.encode (.normal ⟨250000, by decide⟩) = .ok 3 ∧
        Format.power.minCode ≤ 3 ∧ 3 ≤ Format.power.maxCode ∧
        ∃ value, Format.power.decode 3 = .ok (.normal value)) ∧
      Format.power.encode .saturated = .ok 0xFFFFFF ∧
        Format.power.decode 0xFFFFFF = .ok .saturated := by
  have consistent : Format.power.tableFaults = [] := by decide
  have outside : Format.power.encode (.normal ⟨-1, by decide⟩) = .ok 0xFFFFFF := by rfl
  have inside : Format.power.encode (.normal ⟨250000, by decide⟩) = .ok 3 := by rfl
  have special : Format.power.encode .saturated = .ok 0xFFFFFF := by rfl
  obtain ⟨-, -, result, decoded, -, policy, -⟩ := decode_encode_cases consistent outside
  obtain ⟨state, declared, same, none⟩ := policy _ rfl (by rfl)
  obtain ⟨-, -, result', decoded', -, -, ordinary⟩ := decode_encode_cases consistent inside
  obtain ⟨⟨lower, upper⟩, quantity⟩ := ordinary _ rfl (by rfl)
  obtain ⟨value, rfl⟩ := quantity (by decide)
  obtain ⟨-, -, result'', decoded'', states, -⟩ := decode_encode_cases consistent special
  obtain rfl := states .saturated rfl
  exact ⟨consistent, ⟨outside, result, state, decoded, declared, same, none⟩,
    ⟨inside, lower, upper, value, decoded'⟩, special, decoded''⟩

end Format

end DeviceProperty
