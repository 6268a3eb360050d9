/-
**The record of a sensor descriptor.**

The six fields of a descriptor fill one 64-bit number from the low end, two of them across the
border of a byte.  Fields are written in ascending order, so each adds its digits above those that
are there, and a field is read by dividing them off.  Hence a record is its six fields, and fields
are their record; together with the codes of tolerances and sampling functions this gives both
round trips.

Main definitions:

* `DeviceProperty.SensorDescriptor.packed` — the record of six numbers;
* `DeviceProperty.SensorDescriptor.Packs` — a record is that of a descriptor with a body.

Main results:

* `DeviceProperty.SensorDescriptor.natOfBytes_packed` — the number of a record;
* `DeviceProperty.SensorDescriptor.packed_extractBits` — a record is its six fields;
* `DeviceProperty.SensorDescriptor.decodeBody_eq_ok_iff` — when a body is read, and as what;
* `DeviceProperty.SensorDescriptor.encode_of_decode` — a record that is read is written again;
* `DeviceProperty.SensorDescriptor.tolerances_of_decode` — with its tolerances as the codes that
  they were;
* `DeviceProperty.SensorDescriptor.decode_record_cases` — **every record is refused or comes back**;
* `DeviceProperty.SensorDescriptor.encode_word_cases` — **every descriptor is refused or comes
  back** within half a step.
-/

import Mathlib
import DeviceProperty.Proofs.Sensor.Tolerance
import DeviceProperty.Proofs.Wire.Bits

set_option relaxedAutoImplicit false
set_option autoImplicit false

namespace DeviceProperty

/-! ### Sampling functions -/

namespace Sampling

theorem code_le (sampling : Sampling) : sampling.code.toNat ≤ 7 := by
  cases sampling <;> decide

theorem exists_ofCode {code : UInt8} (h : code.toNat ≤ 7) :
    ∃ sampling, ofCode code = .ok sampling := by
  obtain ⟨n, hn, rfl⟩ : ∃ n ≤ 7, code = UInt8.ofNat n := ⟨code.toNat, h, code.ofNat_toNat.symm⟩
  interval_cases n <;> exact ⟨_, rfl⟩

theorem ofCode_eq_error {code : UInt8} (h : 7 < code.toNat) :
    ofCode code = .error (.reservedCode code.toNat) := by
  have unknown : all.find? (·.code = code) = none := by
    rw [List.find?_eq_none]
    intro sampling _ same
    have small := code_le sampling
    rw [of_decide_eq_true same] at small
    omega
  rw [ofCode, unknown]

end Sampling

namespace SensorDescriptor

variable {record : List UInt8} {id : UInt16} {body : SensorBody}

/-! ### Six numbers in one -/

/-- The record of six numbers, each written to its field. -/
def packed (id positive negative sampling period interval : ℕ) : List UInt8 :=
  let blank := List.replicate fullLength (0 : UInt8)
  let record := insertBits blank idBit 16 id
  let record := insertBits record positiveBit 12 positive
  let record := insertBits record negativeBit 12 negative
  let record := insertBits record samplingBit 8 sampling
  let record := insertBits record periodBit 8 period
  insertBits record intervalBit 8 interval

@[simp] theorem length_packed (id positive negative sampling period interval : ℕ) :
    (packed id positive negative sampling period interval).length = 8 := by
  simp [packed, fullLength]

/-- Writing a field above all others adds its digits. -/
theorem natOfBytes_add_field {n : ℕ} (hlength : record.length = 8) (hn : natOfBytes record = n)
    {start : UInt16} {length value : ℕ} (inside : start.toNat + length ≤ 64)
    (above : n < 2 ^ start.toNat) (hvalue : value < 2 ^ length) :
    natOfBytes (insertBits record start length value) = n + value * 2 ^ start.toNat := by
  subst hn
  rw [natOfBytes_insertBits (by omega) above, Nat.mod_eq_of_lt hvalue, Nat.mul_comm]

/-- The number of a record has the digits of the six numbers. -/
theorem natOfBytes_packed {id positive negative sampling period interval : ℕ}
    (hid : id < 2 ^ 16) (hpositive : positive < 2 ^ 12) (hnegative : negative < 2 ^ 12)
    (hsampling : sampling < 2 ^ 8) (hperiod : period < 2 ^ 8) (hinterval : interval < 2 ^ 8) :
    natOfBytes (packed id positive negative sampling period interval) =
      id + positive * 2 ^ 16 + negative * 2 ^ 28 + sampling * 2 ^ 40 + period * 2 ^ 48 +
        interval * 2 ^ 56 := by
  have blank : natOfBytes (List.replicate fullLength 0) = 0 := by decide
  -- from the last field down; each number stays below the first bit of the next field
  refine natOfBytes_add_field (by simp [fullLength]) ?_ (by decide) ?_ hinterval
  · refine natOfBytes_add_field (by simp [fullLength]) ?_ (by decide) ?_ hperiod
    · refine natOfBytes_add_field (by simp [fullLength]) ?_ (by decide) ?_ hsampling
      · refine natOfBytes_add_field (by simp [fullLength]) ?_ (by decide) ?_ hnegative
        · refine natOfBytes_add_field (by simp [fullLength]) ?_ (by decide) hid hpositive
          have first := natOfBytes_add_field rfl blank (show idBit.toNat + 16 ≤ 64 by decide)
            (by decide) hid
          simpa [idBit] using first
        · change _ < 2 ^ 28
          omega
      · change _ < 2 ^ 40
        omega
    · change _ < 2 ^ 48
      omega
  · change _ < 2 ^ 56
    omega

/-! ### The fields of a record -/

/-- A field is read by dividing the fields before it off. -/
theorem extractBits_fields (record : List UInt8) :
    extractBits record idBit 16 = natOfBytes record % 2 ^ 16 ∧
      extractBits record positiveBit 12 = natOfBytes record / 2 ^ 16 % 2 ^ 12 ∧
      extractBits record negativeBit 12 = natOfBytes record / 2 ^ 28 % 2 ^ 12 ∧
      extractBits record samplingBit 8 = natOfBytes record / 2 ^ 40 % 2 ^ 8 ∧
      extractBits record periodBit 8 = natOfBytes record / 2 ^ 48 % 2 ^ 8 ∧
      extractBits record intervalBit 8 = natOfBytes record / 2 ^ 56 % 2 ^ 8 := by
  refine ⟨?_, extractBits_eq .., extractBits_eq .., extractBits_eq .., extractBits_eq ..,
    extractBits_eq ..⟩
  rw [extractBits_eq]
  exact congrArg (· % 2 ^ 16) (Nat.div_one _)

/-- The numbers of a record are read from its fields. -/
theorem extractBits_packed {id positive negative sampling period interval : ℕ}
    (hid : id < 2 ^ 16) (hpositive : positive < 2 ^ 12) (hnegative : negative < 2 ^ 12)
    (hsampling : sampling < 2 ^ 8) (hperiod : period < 2 ^ 8) (hinterval : interval < 2 ^ 8) :
    let record := packed id positive negative sampling period interval
    extractBits record idBit 16 = id ∧ extractBits record positiveBit 12 = positive ∧
      extractBits record negativeBit 12 = negative ∧ extractBits record samplingBit 8 = sampling ∧
      extractBits record periodBit 8 = period ∧ extractBits record intervalBit 8 = interval := by
  intro record
  have number := natOfBytes_packed hid hpositive hnegative hsampling hperiod hinterval
  obtain ⟨fid, fpositive, fnegative, fsampling, fperiod, finterval⟩ := extractBits_fields record
  rw [fid, fpositive, fnegative, fsampling, fperiod, finterval, number]
  omega

/-- A record of eight bytes is its six fields. -/
theorem packed_extractBits (hlength : record.length = 8) :
    packed (extractBits record idBit 16) (extractBits record positiveBit 12)
      (extractBits record negativeBit 12) (extractBits record samplingBit 8)
      (extractBits record periodBit 8) (extractBits record intervalBit 8) = record := by
  have whole : natOfBytes record < 2 ^ 64 := by
    have small := natOfBytes_lt record
    rwa [hlength] at small
  apply natOfBytes_injective (by rw [length_packed, hlength])
  rw [natOfBytes_packed (extractBits_lt ..) (extractBits_lt ..) (extractBits_lt ..)
    (extractBits_lt ..) (extractBits_lt ..) (extractBits_lt ..)]
  obtain ⟨fid, fpositive, fnegative, fsampling, fperiod, finterval⟩ := extractBits_fields record
  rw [fid, fpositive, fnegative, fsampling, fperiod, finterval]
  omega

/-! ### Writing a descriptor -/

theorem encode_of_tolerances {positive negative : ℕ}
    (hpositive : encodeTolerance body.positiveTolerance = .ok positive)
    (hnegative : encodeTolerance body.negativeTolerance = .ok negative) :
    encode ⟨id, some body⟩ =
      .ok (packed id.toNat positive negative body.sampling.code.toNat
        body.measurementPeriod.code.toNat body.updateInterval.code.toNat) := by
  simp only [encode, hpositive, hnegative]
  rfl

theorem encode_of_positive_refused {fault : Fault}
    (hpositive : encodeTolerance body.positiveTolerance = .error fault) :
    encode ⟨id, some body⟩ = .error (.inChannel 1 "positive_tolerance" fault) := by
  simp only [encode, hpositive]
  rfl

/-- The negative tolerance is refused after the positive one has a code. -/
theorem encode_of_negative_refused {positive : ℕ} {fault : Fault}
    (hpositive : encodeTolerance body.positiveTolerance = .ok positive)
    (hnegative : encodeTolerance body.negativeTolerance = .error fault) :
    encode ⟨id, some body⟩ = .error (.inChannel 2 "negative_tolerance" fault) := by
  simp only [encode, hpositive, hnegative]
  rfl

theorem exists_encode_iff :
    (∃ record, encode ⟨id, some body⟩ = .ok record) ↔
      body.positiveTolerance.IsPercentage ∧ body.negativeTolerance.IsPercentage := by
  by_cases hpositive : body.positiveTolerance.IsPercentage
  · have positive := encodeTolerance_of_isPercentage hpositive
    by_cases hnegative : body.negativeTolerance.IsPercentage
    · have negative := encodeTolerance_of_isPercentage hnegative
      exact iff_of_true ⟨_, encode_of_tolerances positive negative⟩ ⟨hpositive, hnegative⟩
    · have refused := encodeTolerance_of_not hnegative
      simp [encode_of_negative_refused positive refused, hnegative]
  · have refused := encodeTolerance_of_not hpositive
    simp [encode_of_positive_refused refused, hpositive]

/-! ### Reading a record -/

theorem decodeBody_eq_ok_iff :
    decodeBody record = .ok body ↔
      decodeTolerance (extractBits record positiveBit 12) = .ok body.positiveTolerance ∧
        decodeTolerance (extractBits record negativeBit 12) = .ok body.negativeTolerance ∧
        Sampling.ofCode (UInt8.ofNat (extractBits record samplingBit 8)) = .ok body.sampling ∧
        UInt8.ofNat (extractBits record periodBit 8) = body.measurementPeriod.code ∧
        UInt8.ofNat (extractBits record intervalBit 8) = body.updateInterval.code := by
  obtain ⟨positive, negative, sampling, ⟨period⟩, ⟨interval⟩⟩ := body
  rw [decodeBody]
  cases decodeTolerance (extractBits record positiveBit 12) with
  | error fault => simp [bind, Except.bind, Except.mapError]
  | ok positive' =>
      cases decodeTolerance (extractBits record negativeBit 12) with
      | error fault => simp [bind, Except.bind, Except.mapError]
      | ok negative' =>
          cases Sampling.ofCode (UInt8.ofNat (extractBits record samplingBit 8)) with
          | error fault => simp [bind, Except.bind, Except.mapError]
          | ok sampling' => simp [bind, Except.bind, Except.mapError, pure, Except.pure]

/-- A record of eight bytes is read as the descriptor of its body. -/
theorem decode_of_length (hlength : record.length = 8) :
    decode record =
      (decodeBody record).map fun body =>
        ⟨UInt16.ofNat (extractBits record idBit 16), some body⟩ := by
  simp [decode, hlength, shortLength, fullLength]

/-- The sixth byte of a record is the code of its sampling function. -/
theorem extractBits_samplingBit {code : UInt8} (h : record[5]? = some code) :
    extractBits record samplingBit 8 = code.toNat := by
  rw [(extractBits_fields record).2.2.2.1]
  exact natOfBytes_div_mod h

/-- A field of twelve bits has a percentage, which has the code of the field. -/
theorem exists_decodeTolerance_extractBits (record : List UInt8) (start : UInt16) :
    ∃ percent, decodeTolerance (extractBits record start 12) = .ok percent ∧
      encodeTolerance percent = .ok (extractBits record start 12) :=
  exists_decodeTolerance (Nat.le_of_lt_succ (extractBits_lt record start 12))

theorem exists_decodeBody {code : UInt8} (h : record[5]? = some code) (small : code.toNat ≤ 7) :
    ∃ body, decodeBody record = .ok body := by
  obtain ⟨positive, hpositive, -⟩ := exists_decodeTolerance_extractBits record positiveBit
  obtain ⟨negative, hnegative, -⟩ := exists_decodeTolerance_extractBits record negativeBit
  obtain ⟨sampling, hsampling⟩ := Sampling.exists_ofCode small
  rw [← code.ofNat_toNat, ← extractBits_samplingBit h] at hsampling
  exact ⟨⟨positive, negative, sampling, ⟨_⟩, ⟨_⟩⟩,
    decodeBody_eq_ok_iff.2 ⟨hpositive, hnegative, hsampling, rfl, rfl⟩⟩

/-- Any other code of a sampling function is refused; the tolerances never are. -/
theorem decodeBody_eq_error {code : UInt8} (h : record[5]? = some code) (large : 7 < code.toNat) :
    decodeBody record = .error (.inChannel 3 "sampling" (.reservedCode code.toNat)) := by
  obtain ⟨positive, hpositive, -⟩ := exists_decodeTolerance_extractBits record positiveBit
  obtain ⟨negative, hnegative, -⟩ := exists_decodeTolerance_extractBits record negativeBit
  have refused := Sampling.ofCode_eq_error large
  rw [decodeBody, hpositive, hnegative, extractBits_samplingBit h, code.ofNat_toNat, refused]
  rfl

/-! ### There and back -/

theorem encode_of_decodeBody (hlength : record.length = 8) (h : decodeBody record = .ok body) :
    encode ⟨UInt16.ofNat (extractBits record idBit 16), some body⟩ = .ok record := by
  obtain ⟨hpositive, hnegative, hsampling, hperiod, hinterval⟩ := decodeBody_eq_ok_iff.1 h
  have idCode :
      (UInt16.ofNat (extractBits record idBit 16)).toNat = extractBits record idBit 16 := by
    rw [UInt16.toNat_ofNat']
    exact Nat.mod_eq_of_lt (extractBits_lt record idBit 16)
  -- a field of a byte is the number of the code that it is read as
  have byteCode {start : UInt16} {code : UInt8}
      (same : UInt8.ofNat (extractBits record start 8) = code) :
      code.toNat = extractBits record start 8 := by
    rw [← same, UInt8.toNat_ofNat']
    exact Nat.mod_eq_of_lt (extractBits_lt record start 8)
  rw [encode_of_tolerances (encodeTolerance_of_decodeTolerance hpositive)
    (encodeTolerance_of_decodeTolerance hnegative), idCode,
    byteCode (Sampling.ofCode_eq_ok_iff.1 hsampling).symm, byteCode hperiod, byteCode hinterval,
    packed_extractBits hlength]

theorem decode_of_short_length (hlength : record.length = 2) :
    decode record = .ok ⟨UInt16.ofNat (natOfBytes record), none⟩ := by
  have whole : natOfBytes record < 2 ^ 16 := by
    have small := natOfBytes_lt record
    rwa [hlength] at small
  have id : extractBits record idBit 16 = natOfBytes record := by
    rw [(extractBits_fields record).1, Nat.mod_eq_of_lt whole]
  simp [decode, shortLength, hlength, id]

theorem encode_natOfBytes (hlength : record.length = 2) :
    encode ⟨UInt16.ofNat (natOfBytes record), none⟩ = .ok record := by
  have whole : natOfBytes record < 2 ^ 16 := by
    have small := natOfBytes_lt record
    rwa [hlength] at small
  rw [encode, UInt16.toNat_ofNat', Nat.mod_eq_of_lt whole, shortLength, ← hlength,
    bytesOfNat_natOfBytes]

theorem encode_of_decode {descriptor : SensorDescriptor} (h : decode record = .ok descriptor) :
    encode descriptor = .ok record := by
  by_cases short : record.length = 2
  · obtain rfl := Except.ok.inj ((decode_of_short_length short).symm.trans h)
    exact encode_natOfBytes short
  · by_cases full : record.length = 8
    · rw [decode_of_length full] at h
      cases hbody : decodeBody record with
      | error fault => simp [hbody, Except.map] at h
      | ok body =>
          obtain rfl : _ = descriptor := by simpa [hbody, Except.map] using h
          exact encode_of_decodeBody full hbody
    · simp [decode, shortLength, fullLength, short, full] at h

/-- The tolerances of a record have the codes of its two fields again. -/
theorem tolerances_of_decode (h : decode record = .ok ⟨id, some body⟩) :
    encodeTolerance body.positiveTolerance = .ok (extractBits record positiveBit 12) ∧
      encodeTolerance body.negativeTolerance = .ok (extractBits record negativeBit 12) := by
  by_cases short : record.length = 2
  · simp [decode_of_short_length short] at h
  · by_cases full : record.length = 8
    · rw [decode_of_length full] at h
      cases hbody : decodeBody record with
      | error fault => simp [hbody, Except.map] at h
      | ok read =>
          obtain ⟨-, rfl⟩ : _ ∧ read = body := by simpa [hbody, Except.map] using h
          obtain ⟨hpositive, hnegative, -⟩ := decodeBody_eq_ok_iff.1 hbody
          exact ⟨encodeTolerance_of_decodeTolerance hpositive,
            encodeTolerance_of_decodeTolerance hnegative⟩
    · simp [decode, shortLength, fullLength, short, full] at h

/-- **Every record is refused or comes back.**  A record is read when it has two bytes, or eight of
which the sixth is the code of a sampling function, and then it is written again as the same bytes.
Any other record of eight bytes is refused for its sampling function, and any other record for its
length.  The tolerances of a record are percentages with the codes that it holds, and it holds any
code of twelve bits in either place. -/
theorem decode_record_cases (record : List UInt8) :
    ((∃ descriptor, decode record = .ok descriptor) ↔
      record.length = 2 ∨
        record.length = 8 ∧ ∃ code, record[5]? = some code ∧ code.toNat ≤ 7) ∧
      (∀ descriptor, decode record = .ok descriptor → encode descriptor = .ok record) ∧
      (∀ code, record.length = 8 → record[5]? = some code → 7 < code.toNat →
        decode record = .error (.inChannel 3 "sampling" (.reservedCode code.toNat))) ∧
      (record.length ≠ 2 → record.length ≠ 8 →
        decode record = .error (.wrongLength 8 record.length)) ∧
      (∀ id body, decode record = .ok ⟨id, some body⟩ →
        body.positiveTolerance.IsPercentage ∧ body.negativeTolerance.IsPercentage ∧
          encodeTolerance body.positiveTolerance = .ok (extractBits record positiveBit 12) ∧
          encodeTolerance body.negativeTolerance = .ok (extractBits record negativeBit 12)) ∧
      ∀ code < 2 ^ 12,
        (∃ percent, decodeTolerance code = .ok percent ∧ percent.IsPercentage ∧
          encodeTolerance percent = .ok code) ∧
        (record.length = 8 → ∀ start ∈ [positiveBit, negativeBit],
          extractBits (insertBits record start 12 code) start 12 = code) := by
  have refused (code : UInt8) (full : record.length = 8) (h : record[5]? = some code)
      (large : 7 < code.toNat) :
      decode record = .error (.inChannel 3 "sampling" (.reservedCode code.toNat)) := by
    rw [decode_of_length full, decodeBody_eq_error h large]
    rfl
  have wrong (short : record.length ≠ 2) (full : record.length ≠ 8) :
      decode record = .error (.wrongLength 8 record.length) := by
    simp [decode, shortLength, fullLength, short, full]
  refine ⟨⟨?_, ?_⟩, fun _ => encode_of_decode, refused, wrong, ?_, ?_⟩
  · rintro ⟨descriptor, h⟩
    by_contra unread
    rw [not_or] at unread
    obtain ⟨short, unread⟩ := unread
    by_cases full : record.length = 8
    · have sixth : record[5]? = some record[5] := List.getElem?_eq_getElem (by omega)
      have large : 7 < record[5].toNat := by
        by_contra small
        exact unread ⟨full, _, sixth, by omega⟩
      cases h.symm.trans (refused _ full sixth large)
    · cases h.symm.trans (wrong short full)
  · rintro (short | ⟨full, code, sixth, small⟩)
    · exact ⟨_, decode_of_short_length short⟩
    · obtain ⟨body, hbody⟩ := exists_decodeBody sixth small
      rw [decode_of_length full, hbody]
      exact ⟨_, rfl⟩
  · intro id body h
    obtain ⟨positive, negative⟩ := tolerances_of_decode h
    exact ⟨(encodeTolerance_eq_ok_iff.1 positive).1, (encodeTolerance_eq_ok_iff.1 negative).1,
      positive, negative⟩
  · intro code hcode
    obtain ⟨percent, decoded, encoded⟩ := exists_decodeTolerance (Nat.le_of_lt_succ hcode)
    refine ⟨⟨percent, decoded, (encodeTolerance_eq_ok_iff.1 encoded).1, encoded⟩, ?_⟩
    intro full start member
    have inside : start.toNat + 12 ≤ 40 := by
      rcases List.mem_pair.1 member with rfl | rfl <;> decide
    rw [extractBits_insertBits (by omega), Nat.mod_eq_of_lt hcode]

/-- The record of six numbers is read as the descriptor that they are the codes of. -/
theorem decode_packed (id : UInt16) {positive negative : ℕ}
    {positiveTolerance negativeTolerance : Quantity}
    (smallPositive : positive < 2 ^ 12) (smallNegative : negative < 2 ^ 12)
    (hpositive : decodeTolerance positive = .ok positiveTolerance)
    (hnegative : decodeTolerance negative = .ok negativeTolerance)
    (sampling : Sampling) (measurementPeriod updateInterval : Period) :
    decode (packed id.toNat positive negative sampling.code.toNat measurementPeriod.code.toNat
        updateInterval.code.toNat) =
      .ok ⟨id, some ⟨positiveTolerance, negativeTolerance, sampling, measurementPeriod,
        updateInterval⟩⟩ := by
  obtain ⟨fid, fpositive, fnegative, fsampling, fperiod, finterval⟩ := extractBits_packed
    id.toNat_lt smallPositive smallNegative sampling.code.toNat_lt measurementPeriod.code.toNat_lt
    updateInterval.code.toNat_lt
  have read : decodeBody (packed id.toNat positive negative sampling.code.toNat
        measurementPeriod.code.toNat updateInterval.code.toNat) =
      .ok ⟨positiveTolerance, negativeTolerance, sampling, measurementPeriod, updateInterval⟩ := by
    rw [decodeBody_eq_ok_iff, fpositive, fnegative, fsampling, fperiod, finterval]
    simp [hpositive, hnegative]
  rw [decode_of_length (length_packed ..), read, fid, UInt16.ofNat_toNat]
  rfl

/-- The record of a descriptor with a body: eight bytes, whose number has the fields of the
descriptor as its digits, with the nearest codes for the two tolerances.  It is read as a descriptor
with the same fields and tolerances within half a step and half a millionth, which has the same
record. -/
structure Packs (id : UInt16) (body : SensorBody) (record : List UInt8) : Prop where
  length : record.length = 8
  word : ∃ positive negative,
    NearestTolerance body.positiveTolerance positive ∧
      NearestTolerance body.negativeTolerance negative ∧
      natOfBytes record = id.toNat + positive * 2 ^ 16 + negative * 2 ^ 28 +
        body.sampling.code.toNat * 2 ^ 40 + body.measurementPeriod.code.toNat * 2 ^ 48 +
        body.updateInterval.code.toNat * 2 ^ 56
  decoded : ∃ result, decode record = .ok ⟨id, some result⟩ ∧
    result.sampling = body.sampling ∧ result.measurementPeriod = body.measurementPeriod ∧
    result.updateInterval = body.updateInterval ∧
    |(result.positiveTolerance.micros : ℚ) - body.positiveTolerance.micros| ≤
      (toleranceStep + 1) / 2 ∧
    |(result.negativeTolerance.micros : ℚ) - body.negativeTolerance.micros| ≤
      (toleranceStep + 1) / 2 ∧
    encode ⟨id, some result⟩ = .ok record

theorem packs_of_encode (h : encode ⟨id, some body⟩ = .ok record) : Packs id body record := by
  obtain ⟨hpositive, hnegative⟩ := exists_encode_iff.1 ⟨record, h⟩
  have positive := nearestTolerance_toleranceCode hpositive
  have negative := nearestTolerance_toleranceCode hnegative
  have encodedPositive := encodeTolerance_of_isPercentage hpositive
  have encodedNegative := encodeTolerance_of_isPercentage hnegative
  obtain rfl := Except.ok.inj ((encode_of_tolerances encodedPositive encodedNegative).symm.trans h)
  have smallPositive := Nat.lt_succ_of_le positive.le_max
  have smallNegative := Nat.lt_succ_of_le negative.le_max
  refine ⟨length_packed .., ⟨_, _, positive, negative, natOfBytes_packed id.toNat_lt smallPositive
    smallNegative (UInt8.toNat_lt _) (UInt8.toNat_lt _) (UInt8.toNat_lt _)⟩, ?_⟩
  -- the tolerances become those of their codes, and all else stays
  obtain ⟨positiveResult, decodedPositive, -⟩ := exists_decodeTolerance positive.le_max
  obtain ⟨negativeResult, decodedNegative, -⟩ := exists_decodeTolerance negative.le_max
  have decoded := decode_packed id smallPositive smallNegative decodedPositive decodedNegative
    body.sampling body.measurementPeriod body.updateInterval
  exact ⟨_, decoded, rfl, rfl, rfl, abs_sub_le_toleranceStep encodedPositive decodedPositive,
    abs_sub_le_toleranceStep encodedNegative decodedNegative, encode_of_decode decoded⟩

/-- **Every descriptor is refused or comes back.**  Without a body it is the two bytes of its
identifier.  With a body it is written exactly when both tolerances are percentages; otherwise the
first that is none is refused, under its place and its name.  The record has the fields as its
digits, and is read as the same descriptor within half a step and half a millionth. -/
theorem encode_word_cases (id : UInt16) :
    (encode ⟨id, none⟩ = .ok [UInt8.ofNat (id.toNat % 256), UInt8.ofNat (id.toNat / 256)] ∧
      decode [UInt8.ofNat (id.toNat % 256), UInt8.ofNat (id.toNat / 256)] = .ok ⟨id, none⟩) ∧
    ∀ body : SensorBody,
      ((∃ record, encode ⟨id, some body⟩ = .ok record) ↔
        body.positiveTolerance.IsPercentage ∧ body.negativeTolerance.IsPercentage) ∧
      (¬ body.positiveTolerance.IsPercentage →
        encode ⟨id, some body⟩ = .error (.inChannel 1 "positive_tolerance"
          (.outOfRange body.positiveTolerance .zero (.ofWhole 100)))) ∧
      (body.positiveTolerance.IsPercentage → ¬ body.negativeTolerance.IsPercentage →
        encode ⟨id, some body⟩ = .error (.inChannel 2 "negative_tolerance"
          (.outOfRange body.negativeTolerance .zero (.ofWhole 100)))) ∧
      ∀ record, encode ⟨id, some body⟩ = .ok record → Packs id body record := by
  constructor
  · have high : id.toNat / 256 % 256 = id.toNat / 256 := by
      have := id.toNat_lt
      omega
    have bytes : [UInt8.ofNat (id.toNat % 256), UInt8.ofNat (id.toNat / 256)] =
        bytesOfNat shortLength id.toNat := by
      rw [shortLength, bytesOfNat, bytesOfNat, bytesOfNat, high]
    have hlength : (bytesOfNat shortLength id.toNat).length = 2 := length_bytesOfNat ..
    have small : id.toNat < twoPow (8 * shortLength) := id.toNat_lt
    rw [bytes, decode_of_short_length hlength, natOfBytes_bytesOfNat, Nat.mod_eq_of_lt small,
      UInt16.ofNat_toNat]
    exact ⟨rfl, rfl⟩
  · intro body
    refine ⟨exists_encode_iff, ?_, ?_, fun _ => packs_of_encode⟩
    · intro outside
      exact encode_of_positive_refused (encodeTolerance_of_not outside)
    · intro inside outside
      exact encode_of_negative_refused (encodeTolerance_of_isPercentage inside)
        (encodeTolerance_of_not outside)

end SensorDescriptor

end DeviceProperty
