/-
**Values of properties.**

The channels of a registered property have formats of the catalogue, of whole bytes.  Such a record
is refused for its length or for a reserved code, and every other record is decoded and encoded
again to the same bytes.  From the other side, the readings of an encoded record come back within
half a step and half a millionth, and are encoded again to the same bytes: a second pass changes
nothing.

A record that cannot be encoded or decoded is answered with one fault.  Decoding blames the data,
always; encoding blames the caller for a state without a code, and for nothing else.  In a
registered property a quantity is refused only when it is out of bounds, and the fault reports it
together with the bounds.

Main definitions:

* `DeviceProperty.Layout.Malformed` — a wrong length, or a reserved code in some field.

Main results:

* `DeviceProperty.Layout.decode_cases` — a record is refused exactly when it is malformed;
* `DeviceProperty.Property.decode_total` — **every record of a property is refused or comes back**;
* `DeviceProperty.Property.decode_encode_within_step` — **readings of a property come back within
  half a step**;
* `DeviceProperty.Layout.isRangeFault_of_encode`, `DeviceProperty.Layout.isRangeFault_of_decode` —
  who is at fault;
* `DeviceProperty.Layout.answers_with_first_fault` — **the answer to a record that is refused**.
-/

import Mathlib
import DeviceProperty.Proofs.Format.Ordinary
import DeviceProperty.Proofs.Layout.Record
import DeviceProperty.Property

set_option relaxedAutoImplicit false
set_option autoImplicit false

namespace DeviceProperty

/-! ### Records of lossless formats -/

namespace Layout

variable {layout : Layout}

/-- A record of the wrong length, or with a reserved code in some field. -/
def Malformed (layout : Layout) (bytes : List UInt8) : Prop :=
  bytes.length ≠ layout.byteCount ∨
    ∃ (i : ℕ) (channel : Channel), layout.channels[i]? = some channel ∧
      ∃ range ∈ channel.format.invalid,
        range.contains (codeAt layout.channels i channel bytes) = true

theorem encode_of_reads (lossless : ∀ channel ∈ layout.channels, channel.format.Lossless)
    {codes : List ℤ} {readings : List Reading}
    (read : Fieldwise Reads layout.channels codes readings) :
    layout.encode readings = .ok (joinCodes layout.channels codes) := by
  have written : Fieldwise Writes layout.channels readings codes := by
    apply read.swap
    intro channel member code reading h
    exact (lossless channel member).encode_of_decode h
  exact encode_eq_ok_iff.2 ⟨codes, written, rfl⟩

theorem malformed_of_decode_eq_error
    (lossless : ∀ channel ∈ layout.channels, channel.format.Lossless)
    {bytes : List UInt8} {fault : Fault} (hlength : bytes.length = layout.byteCount)
    (h : layout.decode bytes = .error fault) :
    layout.Malformed bytes ∧ fault.isRangeFault = true := by
  rw [Layout.decode, if_pos hlength] at h
  obtain ⟨i, channel, cause, first, rfl⟩ := stepFields_eq_error_iff.1 h
  have hi := first.place
  obtain ⟨code, hcode, refused⟩ := first.fails
  obtain rfl := Format.eq_reservedCode_of_decode refused
  refine ⟨.inr ⟨i, channel, hi, ?_⟩, rfl⟩
  rw [getElem?_splitCodes, hi, Option.map_some, Option.some_inj] at hcode
  subst hcode
  -- a code of the width that is not read is a reserved one
  have lossless := lossless channel (List.mem_of_getElem? hi)
  cases valid : channel.format.isInvalidCode (codeAt layout.channels i channel bytes) with
  | true => exact List.any_eq_true.1 valid
  | false =>
      have fits : channel.format.width.fits (codeAt layout.channels i channel bytes) = true :=
        Field.fits_read lossless.consistent.readable _
      obtain ⟨reading, read⟩ := lossless.exists_decode fits valid
      cases read.symm.trans refused

theorem not_malformed_of_decode {bytes : List UInt8} {readings : List Reading}
    (h : layout.decode bytes = .ok readings) : ¬ layout.Malformed bytes := by
  obtain ⟨hlength, read⟩ := decode_eq_ok_iff.1 h
  rintro (wrong | ⟨i, channel, hi, range, hrange, inside⟩)
  · exact wrong hlength
  · obtain ⟨code, reading, hcode, -, decoded⟩ := read.get hi
    rw [getElem?_splitCodes, hi, Option.map_some, Option.some_inj] at hcode
    subst hcode
    have invalid : channel.format.isInvalidCode (codeAt layout.channels i channel bytes) = true :=
      List.any_eq_true.2 ⟨range, hrange, inside⟩
    have refused := Format.decode_of_isInvalidCode invalid
    cases refused.symm.trans decoded

/-- A record is refused exactly when it is malformed, and otherwise comes back from its readings. -/
theorem decode_cases (lossless : ∀ channel ∈ layout.channels, channel.format.Lossless)
    (aligned : ∀ channel ∈ layout.channels, channel.format.width.bits % 8 = 0)
    (bytes : List UInt8) :
    (layout.Malformed bytes ∧
        ∃ fault, layout.decode bytes = .error fault ∧ fault.isRangeFault = true) ∨
      (¬ layout.Malformed bytes ∧ ∃ readings, layout.decode bytes = .ok readings ∧
        readings.length = layout.channelCount ∧ layout.encode readings = .ok bytes) := by
  by_cases hlength : bytes.length = layout.byteCount
  · cases hdecode : layout.decode bytes with
    | error fault =>
        obtain ⟨malformed, outOfRange⟩ := malformed_of_decode_eq_error lossless hlength hdecode
        exact .inl ⟨malformed, fault, rfl, outOfRange⟩
    | ok readings =>
        obtain ⟨-, read⟩ := decode_eq_ok_iff.1 hdecode
        have whole : ∀ channel ∈ layout.channels,
            channel.format.width.bits % 8 = 0 ∧ channel.format.width.Readable := by
          intro channel member
          exact ⟨aligned channel member, (lossless channel member).consistent.readable⟩
        refine .inr ⟨not_malformed_of_decode hdecode, readings, rfl, length_decode hdecode, ?_⟩
        rw [encode_of_reads lossless read, joinCodes_splitCodes whole hlength]
  · have refused : layout.decode bytes = .error (.wrongLength layout.byteCount bytes.length) := by
      rw [Layout.decode, if_neg hlength]
    exact .inl ⟨.inl hlength, _, refused, rfl⟩

end Layout

/-! ### Values of properties -/

namespace Property

variable {id : UInt16} {layout : Layout}

/-- The channels of a registered property have formats of the catalogue, of whole bytes. -/
theorem format_of_layout? (registered : layout? id = some layout) {channel : Channel}
    (member : channel ∈ layout.channels) :
    channel.format ∈ Format.catalogue ∧ channel.format.width.bits % 8 = 0 := by
  have checks : ∀ property ∈ table, ∀ channel ∈ property.layout.channels,
      channel.format ∈ Format.catalogue ∧ channel.format.width.bits % 8 = 0 := by
    decide +kernel
  obtain ⟨property, found, rfl⟩ := Option.map_eq_some_iff.1 registered
  exact checks property (mem_of_find? found).1 channel member

theorem lossless_of_layout? (registered : layout? id = some layout) :
    ∀ channel ∈ layout.channels, channel.format.Lossless := by
  intro channel member
  exact Format.lossless_of_mem_catalogue (format_of_layout? registered member).1

theorem layoutOf_eq_ok_iff : layoutOf id = .ok layout ↔ layout? id = some layout := by
  rw [layoutOf]
  cases layout? id <;> simp

theorem encode_eq_of_layout? (registered : layout? id = some layout) (readings : List Reading) :
    encode id readings = layout.encode readings := by
  simp only [encode, layoutOf, registered]
  rfl

theorem decode_eq_of_layout? (registered : layout? id = some layout) (bytes : List UInt8) :
    decode id bytes = layout.decode bytes := by
  simp only [decode, layoutOf, registered]
  rfl

/-- **Every record of a property is refused or comes back.**  It is refused, as out of range,
exactly when its length is wrong or some field holds a reserved code; any other record is decoded to
one reading for every channel, and the readings are encoded again as the same bytes. -/
theorem decode_total (registered : layout? id = some layout) (bytes : List UInt8) :
    (layout.Malformed bytes ∧
        ∃ fault, decode id bytes = .error fault ∧ fault.isRangeFault = true) ∨
      (¬ layout.Malformed bytes ∧ ∃ readings, decode id bytes = .ok readings ∧
        readings.length = layout.channelCount ∧ encode id readings = .ok bytes) := by
  simp only [decode_eq_of_layout? registered, encode_eq_of_layout? registered]
  apply Layout.decode_cases (lossless_of_layout? registered)
  intro channel member
  exact (format_of_layout? registered member).2

/-- Five degrees below zero, from six o'clock to an unknown time. -/
theorem decode_total_temperature_in_a_period :
    ∃ readings, decode 0x0001 [0xF6, 0x3C, 0xFF] = .ok readings ∧ readings.length = 3 ∧
      encode 0x0001 readings = .ok [0xF6, 0x3C, 0xFF] := by
  have registered : layout? 0x0001 = some .temperature8InAPeriodOfDay := by rfl
  have read : decode 0x0001 [0xF6, 0x3C, 0xFF] =
      .ok [.normal ⟨-5000000, by decide⟩, .normal ⟨6000000, by decide⟩, .unknown] := by
    rfl
  rcases decode_total registered [0xF6, 0x3C, 0xFF] with
    ⟨-, fault, refused, -⟩ | ⟨-, readings, decoded, length, encoded⟩
  · cases read.symm.trans refused
  · exact ⟨readings, decoded, length, encoded⟩

/-- **Readings of a property come back within half a step.**  The record has the length of its
layout and is decoded to one reading for every channel, which `Format.Settles` relates to the
reading that was written; a second pass gives the same record. -/
theorem decode_encode_within_step (registered : layout? id = some layout) {readings : List Reading}
    {bytes : List UInt8} (encoded : encode id readings = .ok bytes) :
    bytes.length = layout.byteCount ∧
      ∃ results, decode id bytes = .ok results ∧ results.length = layout.channelCount ∧
        (∀ (i : ℕ) (channel : Channel), layout.channels[i]? = some channel →
          ∃ reading result, readings[i]? = some reading ∧ results[i]? = some result ∧
            channel.format.Settles reading result) ∧
        encode id results = .ok bytes := by
  simp only [decode_eq_of_layout? registered, encode_eq_of_layout? registered] at encoded ⊢
  have lossless := lossless_of_layout? registered
  obtain ⟨codes, written, rfl⟩ := Layout.encode_eq_ok_iff.1 encoded
  obtain ⟨results, decoded, read⟩ :=
    Layout.decode_of_encode (fun channel member => (lossless channel member).consistent) written
  refine ⟨Layout.length_encode encoded, results, decoded, read.length_right, ?_,
    Layout.encode_of_reads lossless read⟩
  intro i channel hi
  obtain ⟨reading, code, result, hreading, hresult, hwritten, hread⟩ := written.get_next read hi
  have known := (format_of_layout? registered (List.mem_of_getElem? hi)).1
  exact ⟨reading, result, hreading, hresult, Format.settles_of_mem_catalogue known hwritten hread⟩

/-- The three powers of a range, one below zero and one between two steps. -/
theorem decode_encode_within_step_power_specification :
    ∃ results, decode 0x0016 [0xFF, 0xFF, 0xFF, 0x7B, 0x00, 0x00, 0xFF, 0xFF, 0xFF] = .ok results ∧
      results.length = 3 ∧
      encode 0x0016 results = .ok [0xFF, 0xFF, 0xFF, 0x7B, 0x00, 0x00, 0xFF, 0xFF, 0xFF] := by
  have registered : layout? 0x0016 = some .powerSpecification := by rfl
  have written : encode 0x0016
      [.normal ⟨-1, by decide⟩, .normal ⟨12340000, by decide⟩, .saturated] =
        .ok [0xFF, 0xFF, 0xFF, 0x7B, 0x00, 0x00, 0xFF, 0xFF, 0xFF] := by
    rfl
  obtain ⟨-, results, decoded, length, -, again⟩ := decode_encode_within_step registered written
  exact ⟨results, decoded, length, again⟩

end Property

/-! ### Readings without a code -/

namespace Format

variable {format : Format} {fault : Fault}

/-- A reading is not written for one of two reasons: a quantity, for lying out of bounds or past
the limits of the arithmetic, and a special state, for having no code. -/
theorem cases_of_encode_eq_error {reading : Reading} (h : format.encode reading = .error fault) :
    (∃ quantity, reading = .normal quantity ∧ fault = format.outOfRangeFault quantity) ∨
      ∃ state, reading = .ofState state ∧ fault = .unsupportedState state := by
  rcases reading.eq_ofState_or_eq_normal with ⟨state, rfl⟩ | ⟨quantity, rfl⟩
  · have classified : format.classifyReading (.ofState state) = format.classifyState state := by
      cases state <;> rfl
    rw [encode, classified, classifyState] at h
    cases hcode : format.sentinelCode? state with
    | some code => simp [hcode] at h
    | none => exact .inr ⟨state, rfl, by simpa [hcode, eq_comm] using h⟩
  · refine .inl ⟨quantity, rfl, ?_⟩
    simp only [encode, classifyReading, classifyQuantity] at h
    cases hdomain : format.inDomain quantity with
    | true =>
        cases hcode : format.codeOfQuantity? quantity <;>
          simp_all [codeOfQuantity, Except.map]
    | false =>
        cases hpolicy : format.outOfRange with
        | reject => simpa [hdomain, hpolicy, eq_comm] using h
        | sentinel state =>
            cases hcode : format.sentinelCode? state <;> simp_all

/-- In a lossless format a quantity that is not written is out of bounds. -/
theorem Lossless.outside_of_encode_eq_error (lossless : format.Lossless) {quantity : Quantity}
    (h : format.encode (.normal quantity) = .error fault) :
    quantity < format.least ∨ format.greatest < quantity := by
  by_contra inside
  simp only [not_or, Quantity.not_lt_iff_le] at inside
  have hdomain := lossless.invertible.inDomain_iff_bounds.2 inside
  obtain ⟨code, written⟩ := lossless.invertible.exists_encode lossless.consistent hdomain
  cases written.symm.trans h

end Format

namespace Layout

variable {layout : Layout} {fault : Fault}

/-! ### Data and callers -/

/-- Encoding blames the caller for a state without a code, and otherwise the data. -/
theorem isRangeFault_of_encode {readings : List Reading}
    (h : layout.encode readings = .error fault) :
    fault.isRangeFault = false ↔ ∃ state, fault.root = .unsupportedState state := by
  have answer := layout.recordAnswer_encode readings
  by_cases counted : readings.length = layout.channelCount
  · obtain ⟨i, channel, cause, first, rfl⟩ := (answer.first counted fault).1 h
    obtain ⟨reading, -, refused⟩ := first.fails
    rcases Format.cases_of_encode_eq_error refused with ⟨quantity, -, rfl⟩ | ⟨state, -, rfl⟩
    · simp [Format.outOfRangeFault, Fault.isRangeFault, Fault.root]
    · simp [Fault.isRangeFault, Fault.root]
  · obtain rfl := Except.error.inj (h.symm.trans (answer.shape.2 counted))
    simp [Fault.isRangeFault, Fault.root]

theorem isRangeFault_of_decode {bytes : List UInt8} (h : layout.decode bytes = .error fault) :
    fault.isRangeFault = true := by
  have answer := layout.recordAnswer_decode bytes
  by_cases whole : bytes.length = layout.byteCount
  · obtain ⟨i, channel, cause, first, rfl⟩ := (answer.first whole fault).1 h
    obtain ⟨code, -, refused⟩ := first.fails
    obtain rfl := Format.eq_reservedCode_of_decode refused
    rfl
  · obtain rfl := Except.error.inj (h.symm.trans (answer.shape.2 whole))
    rfl

/-- A fault about a quantity comes from the first field that fails, and reports its reading. -/
theorem reports_of_encode {readings : List Reading} {quantity least greatest : Quantity}
    (h : layout.encode readings = .error fault)
    (hroot : fault.root = .outOfRange quantity least greatest) :
    ∃ (i : ℕ) (channel : Channel), layout.channels[i]? = some channel ∧
      readings[i]? = some (.normal quantity) ∧
      fault = .inChannel i channel.name (.outOfRange quantity least greatest) ∧
      channel.format.encode (.normal quantity) = .error (.outOfRange quantity least greatest) ∧
      least = channel.format.least ∧ greatest = channel.format.greatest := by
  have answer := layout.recordAnswer_encode readings
  by_cases counted : readings.length = layout.channelCount
  · obtain ⟨i, channel, cause, first, rfl⟩ := (answer.first counted fault).1 h
    obtain ⟨reading, hreading, refused⟩ := first.fails
    rcases Format.cases_of_encode_eq_error refused with ⟨quantity, rfl, rfl⟩ | ⟨state, -, rfl⟩
    · obtain ⟨rfl, rfl, rfl⟩ := Fault.outOfRange.inj hroot
      exact ⟨i, channel, first.place, hreading, rfl, refused, rfl, rfl⟩
    · cases hroot
  · obtain rfl := Except.error.inj (h.symm.trans (answer.shape.2 counted))
    cases hroot

/-- **The answer to a record that is refused.**  Encoding answers with the number of readings
whenever it is wrong, whatever the readings are, and else with the first one that has no code;
decoding answers with the length of the record whenever it is wrong, and else with the first code
that is not read, each where its field begins; a record without a fault has an answer.  Decoding
always blames the data, and encoding does, unless a state has no code.  In a registered property a
fault about a quantity reports the reading of its field, which lies outside the bounds that it
names. -/
theorem answers_with_first_fault (layout : Layout) (readings : List Reading) (bytes : List UInt8) :
    (RecordAnswer Format.encode layout.channels readings (readings.length = layout.channelCount)
        (.wrongCount layout.channelCount readings.length) (layout.encode readings) ∧
      ∀ fault, layout.encode readings = .error fault →
        (fault.isRangeFault = false ↔ ∃ state, fault.root = .unsupportedState state)) ∧
    (RecordAnswer Format.decode layout.channels (layout.fieldCodes bytes)
        (bytes.length = layout.byteCount) (.wrongLength layout.byteCount bytes.length)
        (layout.decode bytes) ∧
      (∀ results, layout.decode bytes = .ok results → results.length = layout.channelCount) ∧
      ∀ fault, layout.decode bytes = .error fault → fault.isRangeFault = true) ∧
    ∀ id fault quantity least greatest, Property.layout? id = some layout →
      Property.encode id readings = .error fault →
      fault.root = .outOfRange quantity least greatest →
        ∃ (i : ℕ) (channel : Channel), layout.channels[i]? = some channel ∧
          readings[i]? = some (.normal quantity) ∧
          fault = .inChannel i channel.name (.outOfRange quantity least greatest) ∧
          least = channel.format.least ∧ greatest = channel.format.greatest ∧
          (quantity < least ∨ greatest < quantity) := by
  refine ⟨⟨layout.recordAnswer_encode readings, fun _ => isRangeFault_of_encode⟩,
    ⟨layout.recordAnswer_decode bytes, fun _ => length_decode, fun _ => isRangeFault_of_decode⟩, ?_⟩
  intro id fault quantity least greatest registered refused hroot
  rw [Property.encode_eq_of_layout? registered] at refused
  obtain ⟨i, channel, hi, hreading, named, cause, rfl, rfl⟩ := reports_of_encode refused hroot
  have lossless := Property.lossless_of_layout? registered channel (List.mem_of_getElem? hi)
  exact ⟨i, channel, hi, hreading, named, rfl, rfl, lossless.outside_of_encode_eq_error cause⟩

/-- A share and two illuminances in seven bytes.  Of three readings without a code the first one is
reported, and an illuminance below zero under its own place, when the share before it passes.
Readings of the wrong number, a record with a reserved share, and one without bytes are refused; a
record of readings that pass is written, and read as three readings.  Unlike all these, a truth
value that is unknown is a mistake of the caller. -/
theorem answers_with_first_fault_illuminance_range :
    Property.layout? 0x0062 = some .percentage8IlluminanceRange ∧
      Property.encode 0x0062 [.normal (.ofWhole 101), .unknown, .normal (.ofWhole (-1))] =
        .error (.inChannel 0 "percentage" (.outOfRange (.ofWhole 101) .zero (.ofWhole 100))) ∧
      (Quantity.ofWhole 101 < .zero ∨ Quantity.ofWhole 100 < .ofWhole 101) ∧
      percentage8IlluminanceRange.encode
          [.normal (.ofWhole 50), .normal (.ofWhole (-1)), .normal (.ofWhole (-2))] =
        .error (.inChannel 1 "min" (.outOfRange (.ofWhole (-1)) .zero (.ofParts 167772 140000))) ∧
      (∃ channel cause, FirstFault Format.encode percentage8IlluminanceRange.channels
        [.normal (.ofWhole 50), .normal (.ofWhole (-1)), .normal (.ofWhole (-2))] 1 channel cause) ∧
      percentage8IlluminanceRange.encode [.unknown] = .error (.wrongCount 3 1) ∧
      (∃ fault, percentage8IlluminanceRange.decode [201, 0, 0, 0, 0, 0, 0] = .error fault ∧
        fault = .inChannel 0 "percentage" (.reservedCode 201) ∧ fault.isRangeFault = true) ∧
      percentage8IlluminanceRange.decode [] = .error (.wrongLength 7 0) ∧
      (∃ results, percentage8IlluminanceRange.decode [100, 0, 0, 0, 100, 0, 0] = .ok results ∧
        results.length = 3) ∧
      ∃ fault, (Layout.single .boolean).encode [.unknown] = .error fault ∧
        fault.isRangeFault = false := by
  have registered : Property.layout? 0x0062 = some .percentage8IlluminanceRange := by rfl
  have refused :
      Property.encode 0x0062 [.normal (.ofWhole 101), .unknown, .normal (.ofWhole (-1))] =
        .error (.inChannel 0 "percentage" (.outOfRange (.ofWhole 101) .zero (.ofWhole 100))) := by
    rfl
  obtain ⟨-, -, quantities⟩ := answers_with_first_fault .percentage8IlluminanceRange
    [.normal (.ofWhole 101), .unknown, .normal (.ofWhole (-1))] []
  obtain ⟨-, -, -, -, -, -, -, outside⟩ := quantities _ _ _ _ _ registered refused rfl
  have second :
      percentage8IlluminanceRange.encode
          [.normal (.ofWhole 50), .normal (.ofWhole (-1)), .normal (.ofWhole (-2))] =
        .error (.inChannel 1 "min" (.outOfRange (.ofWhole (-1)) .zero (.ofParts 167772 140000))) :=
    by rfl
  obtain ⟨⟨encoding, -⟩, -⟩ := answers_with_first_fault .percentage8IlluminanceRange
    [.normal (.ofWhole 50), .normal (.ofWhole (-1)), .normal (.ofWhole (-2))] []
  obtain ⟨i, channel, cause, first, same⟩ := (encoding.first rfl _).1 second
  obtain ⟨rfl, -, -⟩ := Fault.inChannel.inj same
  obtain ⟨⟨counting, -⟩, lengths, -⟩ :=
    answers_with_first_fault .percentage8IlluminanceRange [.unknown] []
  have reserved : percentage8IlluminanceRange.decode [201, 0, 0, 0, 0, 0, 0] =
      .error (.inChannel 0 "percentage" (.reservedCode 201)) := by
    decide
  obtain ⟨-, ⟨-, -, blame⟩, -⟩ := answers_with_first_fault .percentage8IlluminanceRange []
    [201, 0, 0, 0, 0, 0, 0]
  obtain ⟨-, ⟨decoding, count, -⟩, -⟩ := answers_with_first_fault .percentage8IlluminanceRange []
    [100, 0, 0, 0, 100, 0, 0]
  have read : percentage8IlluminanceRange.decode [100, 0, 0, 0, 100, 0, 0] =
      .ok [.normal (.ofWhole 50), .normal .zero, .normal (.ofWhole 1)] := by
    decide
  have unsupported : (Layout.single .boolean).encode [.unknown] =
      .error (.inChannel 0 "value" (.unsupportedState .unknown)) := by
    rfl
  obtain ⟨⟨-, caller⟩, -⟩ := answers_with_first_fault (.single .boolean) [.unknown] []
  exact ⟨registered, refused, outside, second, ⟨channel, cause, first⟩,
    counting.shape.2 (by decide), ⟨_, reserved, rfl, blame _ reserved⟩,
    lengths.1.shape.2 (by decide), ⟨_, read, count _ read⟩,
    _, unsupported, (caller _ unsupported).2 ⟨_, rfl⟩⟩

end Layout

end DeviceProperty
