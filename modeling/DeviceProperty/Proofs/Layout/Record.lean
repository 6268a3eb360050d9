/-
**Records of consistent formats.**

A record is the bytes of its fields, one after another.  The bytes of a field depend on its own
reading only, so fields do not disturb one another; the bits above the width of a field are written
clear and are read over; and what is written is read again, field by field.  This holds for every
list of channels with consistent formats, whatever their widths.

Appending a record checks the room for all of its bytes at once, before the first field is written.
The fields themselves are written one after another, and each needs room of its own.  The one check
is exact: no field of a record that passes it is left without room.

Main definitions:

* `DeviceProperty.Layout.FieldAt` — the bytes at a place of a record are those of one reading;
* `DeviceProperty.Buffer.put?`, `DeviceProperty.Buffer.putFields?` — writing one field, and the
  fields of a record, as long as there is room for each.

Main results:

* `DeviceProperty.Layout.fieldAt_of_encode` — every place of an encoded record holds its field;
* `DeviceProperty.Layout.decode_of_encode` — an encoded record is decoded field by field;
* `DeviceProperty.Layout.encode_decode_fields` — **the fields of a record stand side by side**;
* `DeviceProperty.Buffer.putFields?_eq_some_iff` — **the fields find room exactly when the record
  does**;
* `DeviceProperty.Layout.encodeInto_cases` — the three ends of a call.
-/

import Mathlib
import DeviceProperty.Proofs.Format.RoundTrip
import DeviceProperty.Proofs.Layout.Fieldwise

set_option relaxedAutoImplicit false
set_option autoImplicit false

namespace DeviceProperty

theorem Format.Consistent.readable {format : Format} (consistent : format.Consistent) :
    format.width.Readable :=
  .of_le consistent.bits_pos (consistent.bits_le.trans (by decide))

theorem offset_add_byteCount_le {channels : List Channel} {i : ℕ} {channel : Channel}
    (hi : channels[i]? = some channel) :
    offset channels i + channel.format.byteCount ≤ totalBytes channels := by
  induction channels generalizing i with
  | nil => simp at hi
  | cons first channels ih =>
      cases i with
      | zero =>
          obtain rfl := Option.some.inj hi
          simp
      | succ i =>
          have later := ih hi
          rw [offset_cons_succ, totalBytes_cons]
          omega

namespace Layout

variable {layout : Layout}

/-! ### One field -/

/-- The bytes at place `i` of a record are those of the reading at place `i`, whatever stands in
the other places. -/
structure FieldAt (layout : Layout) (readings : List Reading) (bytes : List UInt8) (i : ℕ)
    (channel : Channel) : Prop where
  size : (segment layout.channels i channel bytes).length = (channel.format.width.bits + 7) / 8
  content : ∃ reading code, readings[i]? = some reading ∧ channel.format.encode reading = .ok code ∧
    segment layout.channels i channel bytes = Field.write channel.format.width.bits code
  own : ∀ others otherBytes, layout.encode others = .ok otherBytes → others[i]? = readings[i]? →
    segment layout.channels i channel otherBytes = segment layout.channels i channel bytes
  undisturbed : ∀ j other reading code, j ≠ i → layout.channels[j]? = some other →
    other.format.encode reading = .ok code →
      ∃ changed, layout.encode (readings.set j reading) = .ok changed ∧
        segment layout.channels i channel changed = segment layout.channels i channel bytes
  padding : ∀ position, channel.format.width.bits ≤ position →
    bitOf (segment layout.channels i channel bytes) position = false

/-- The bytes at a place of a record hold the code of the reading at that place. -/
theorem segment_of_encode {readings : List Reading} {bytes : List UInt8} {i : ℕ} {channel : Channel}
    (encoded : layout.encode readings = .ok bytes) (hi : layout.channels[i]? = some channel) :
    ∃ reading code, readings[i]? = some reading ∧ channel.format.encode reading = .ok code ∧
      segment layout.channels i channel bytes = Field.write channel.format.width.bits code := by
  obtain ⟨codes, fieldwise, rfl⟩ := encode_eq_ok_iff.1 encoded
  obtain ⟨reading, code, hreading, hcode, written⟩ := fieldwise.get hi
  exact ⟨reading, code, hreading, written, segment_joinCodes fieldwise.length_right hi hcode⟩

/-- Two records with the same reading at a place have the same bytes there. -/
theorem segment_eq_of_getElem?_eq {readings others : List Reading} {bytes otherBytes : List UInt8}
    {i : ℕ} {channel : Channel} (encoded : layout.encode readings = .ok bytes)
    (otherEncoded : layout.encode others = .ok otherBytes)
    (hi : layout.channels[i]? = some channel) (same : others[i]? = readings[i]?) :
    segment layout.channels i channel otherBytes = segment layout.channels i channel bytes := by
  -- both segments are the code of the one reading at the place
  obtain ⟨reading, code, hreading, written, content⟩ := segment_of_encode encoded hi
  obtain ⟨other, otherCode, hother, otherWritten, otherContent⟩ := segment_of_encode otherEncoded hi
  obtain rfl : other = reading := Option.some.inj (hother.symm.trans (same.trans hreading))
  obtain rfl : otherCode = code := Except.ok.inj (otherWritten.symm.trans written)
  rw [content, otherContent]

theorem exists_encode_set {readings : List Reading} {bytes : List UInt8} {j : ℕ} {channel : Channel}
    {reading : Reading} {code : ℤ} (encoded : layout.encode readings = .ok bytes)
    (hj : layout.channels[j]? = some channel) (written : channel.format.encode reading = .ok code) :
    ∃ changed, layout.encode (readings.set j reading) = .ok changed := by
  obtain ⟨codes, fieldwise, -⟩ := encode_eq_ok_iff.1 encoded
  exact ⟨_, encode_eq_ok_iff.2 ⟨codes.set j code, fieldwise.set hj written, rfl⟩⟩

theorem fieldAt_of_encode {readings : List Reading} {bytes : List UInt8} {i : ℕ} {channel : Channel}
    (encoded : layout.encode readings = .ok bytes) (hi : layout.channels[i]? = some channel) :
    layout.FieldAt readings bytes i channel := by
  obtain ⟨reading, code, hreading, written, content⟩ := segment_of_encode encoded hi
  refine ⟨?_, ⟨reading, code, hreading, written, content⟩, ?_, ?_, ?_⟩
  · rw [content, Field.length_write, Field.byteCount]
  · intro others otherBytes otherEncoded same
    exact segment_eq_of_getElem?_eq encoded otherEncoded hi same
  · intro j other newReading newCode distinct hj newWritten
    obtain ⟨changed, hchanged⟩ := exists_encode_set encoded hj newWritten
    refine ⟨changed, hchanged, segment_eq_of_getElem?_eq encoded hchanged hi ?_⟩
    exact List.getElem?_set_ne distinct
  · intro position above
    rw [content, Field.bitOf_write_of_le above]

/-! ### Reading a record -/

/-- An encoded record is decoded, field by field: every reading becomes what its own code is read
as. -/
theorem decode_of_encode (consistent : ∀ channel ∈ layout.channels, channel.format.Consistent)
    {readings : List Reading} {codes : List ℤ}
    (written : Fieldwise Writes layout.channels readings codes) :
    ∃ results, layout.decode (joinCodes layout.channels codes) = .ok results ∧
      Fieldwise Reads layout.channels codes results := by
  have decodes : ∀ channel ∈ layout.channels, ∀ reading code, Writes channel reading code →
      ∃ result, Reads channel code result := by
    intro channel member reading code h
    exact (consistent channel member).exists_decode_of_encode h
  obtain ⟨results, read⟩ := written.exists_next decodes
  have split : splitCodes layout.channels (joinCodes layout.channels codes) = codes := by
    apply splitCodes_joinCodes written
    · intro channel member
      exact (consistent channel member).readable
    · -- what is read fits, so what is written does
      intro channel member reading code h
      obtain ⟨result, hresult⟩ := decodes channel member reading code h
      exact (Format.decode_eq_ok_iff.1 hresult).1.1
  refine ⟨results, decode_eq_ok_iff.2 ⟨length_joinCodes written.length_right, ?_⟩, read⟩
  rwa [split]

/-- Padding is read over: two records of the right length that agree on the bits below the width of
every field are decoded alike. -/
theorem decode_congr (consistent : ∀ channel ∈ layout.channels, channel.format.Consistent)
    {left right : List UInt8} (hleft : left.length = layout.byteCount)
    (hright : right.length = layout.byteCount)
    (agree : ∀ (i : ℕ) (channel : Channel), layout.channels[i]? = some channel →
      ∀ position < channel.format.width.bits,
        bitOf (segment layout.channels i channel left) position =
          bitOf (segment layout.channels i channel right) position) :
    layout.decode left = layout.decode right := by
  have split : splitCodes layout.channels left = splitCodes layout.channels right := by
    apply List.ext_getElem?
    intro i
    rw [getElem?_splitCodes, getElem?_splitCodes]
    cases hi : layout.channels[i]? with
    | none => simp only [Option.map_none]
    | some channel =>
        have member := List.mem_of_getElem? hi
        simp only [Option.map_some, Option.some_inj]
        apply Field.read_congr (consistent channel member).readable
        intro position below
        have inside : position < 8 * channel.format.byteCount := by
          rw [Format.byteCount, Width.byteCount, Field.byteCount]; omega
        have same := agree i channel hi position below
        rwa [segment, segment, bitOf_take inside, bitOf_take inside] at same
  rw [Layout.decode, Layout.decode, hleft, hright, split]

/-- **The fields of a record stand side by side.**  In an encoded record every field has its own
bytes, at the sum of the sizes before it, which depend on its own reading only and are clear above
its width; the record is decoded, and every reading becomes what its own code is read as.  Records
that differ in padding only are decoded alike. -/
theorem encode_decode_fields
    (consistent : ∀ channel ∈ layout.channels, channel.format.tableFaults = []) :
    (∀ (readings : List Reading) (bytes : List UInt8), layout.encode readings = .ok bytes →
      bytes.length = layout.byteCount ∧
        (∀ (i : ℕ) (channel : Channel), layout.channels[i]? = some channel →
          offset layout.channels i + channel.format.byteCount ≤ bytes.length ∧
            layout.FieldAt readings bytes i channel) ∧
        ∃ results, layout.decode bytes = .ok results ∧ results.length = layout.channelCount ∧
          ∀ (i : ℕ) (channel : Channel), layout.channels[i]? = some channel →
            ∃ reading code result, readings[i]? = some reading ∧ results[i]? = some result ∧
              channel.format.encode reading = .ok code ∧ channel.format.decode code = .ok result) ∧
      ∀ left right : List UInt8,
        left.length = layout.byteCount → right.length = layout.byteCount →
        (∀ (i : ℕ) (channel : Channel), layout.channels[i]? = some channel →
          ∀ position < channel.format.width.bits,
            bitOf (segment layout.channels i channel left) position =
              bitOf (segment layout.channels i channel right) position) →
        layout.decode left = layout.decode right := by
  have consistent : ∀ channel ∈ layout.channels, channel.format.Consistent := by
    intro channel member
    exact Format.tableFaults_eq_nil_iff.1 (consistent channel member)
  constructor
  · intro readings bytes encoded
    have length := length_encode encoded
    refine ⟨length, ?_, ?_⟩
    · intro i channel hi
      rw [length]
      exact ⟨offset_add_byteCount_le hi, fieldAt_of_encode encoded hi⟩
    · obtain ⟨codes, written, rfl⟩ := encode_eq_ok_iff.1 encoded
      obtain ⟨results, decoded, read⟩ := decode_of_encode consistent written
      refine ⟨results, decoded, read.length_right, ?_⟩
      intro i channel hi
      exact written.get_next read hi
  · intro left right hleft hright agree
    exact decode_congr consistent hleft hright agree

/-- Twelve bits beside a signed field. -/
def toleranceDistance : Layout :=
  ⟨"tolerance_distance", [⟨"tolerance", .tolerance⟩, ⟨"distance", .chromaticDistance⟩]⟩

/-- The two fields take two bytes each.  The four bits above the first one are written clear, the
second one begins behind them, and a record that has them set is read as the same readings. -/
theorem encode_decode_fields_tolerance_distance :
    ∃ readings results,
      toleranceDistance.encode readings = .ok [0x34, 0x02, 0xFE, 0xFF] ∧
      offset toleranceDistance.channels 1 = 2 ∧
      toleranceDistance.FieldAt readings [0x34, 0x02, 0xFE, 0xFF] 1
        ⟨"distance", .chromaticDistance⟩ ∧
      (∀ position, 12 ≤ position → bitOf (segment toleranceDistance.channels 0
        ⟨"tolerance", .tolerance⟩ [0x34, 0x02, 0xFE, 0xFF]) position = false) ∧
      toleranceDistance.decode [0x34, 0x02, 0xFE, 0xFF] = .ok results ∧
      toleranceDistance.decode [0x34, 0xF2, 0xFE, 0xFF] = .ok results ∧
      results.length = 2 := by
  have encoded : toleranceDistance.encode
      [.normal ⟨13772894, by decide⟩, .normal ⟨-20, by decide⟩] =
        .ok [0x34, 0x02, 0xFE, 0xFF] := by
    rfl
  obtain ⟨records, padding⟩ := @encode_decode_fields toleranceDistance (by decide)
  obtain ⟨-, fields, results, decoded, length, -⟩ := records _ _ encoded
  refine ⟨_, results, encoded, rfl, (fields 1 _ rfl).2, (fields 0 _ rfl).2.padding, decoded, ?_,
    length⟩
  rw [← decoded]
  apply padding _ _ rfl rfl
  intro i channel hi
  match i, hi with
  | 0, hi => obtain rfl := Option.some.inj hi; decide
  | 1, hi => obtain rfl := Option.some.inj hi; decide

end Layout

/-! ### Room -/

namespace Buffer

variable {buffer after : Buffer}

def HasRoom (buffer : Buffer) (count : ℕ) : Prop := ∀ room ∈ buffer.room?, count ≤ room

instance (buffer : Buffer) (count : ℕ) : Decidable (buffer.HasRoom count) :=
  inferInstanceAs (Decidable (∀ room ∈ buffer.room?, count ≤ room))

/-- The field of a code at the end of a buffer, if there is room for its bytes. -/
def put? (buffer : Buffer) (bits : ℕ) (code : ℤ) : Option Buffer :=
  if buffer.HasRoom (Field.byteCount bits) then some (buffer.append (Field.write bits code))
  else none

/-- The fields of codes at the end of a buffer, one after another, if there is room for each. -/
def putFields? (buffer : Buffer) : List Channel → List ℤ → Option Buffer
  | channel :: channels, code :: codes => do
      let next ← buffer.put? channel.format.width.bits code
      next.putFields? channels codes
  | _, _ => some buffer

@[simp] theorem append_nil (buffer : Buffer) : buffer.append [] = buffer := by
  simp [append]

theorem append_append (buffer : Buffer) (first second : List UInt8) :
    (buffer.append first).append second = buffer.append (first ++ second) := by
  simp [append]

/-- Bytes that are appended take their number from the room. -/
theorem hasRoom_append_iff {bytes : List UInt8} (h : buffer.HasRoom bytes.length) (count : ℕ) :
    (buffer.append bytes).HasRoom count ↔ buffer.HasRoom (bytes.length + count) := by
  simp only [HasRoom, room?, append, Option.mem_map, forall_exists_index, and_imp,
    forall_apply_eq_imp_iff₂, List.length_append] at h ⊢
  constructor
  · intro room capacity hcapacity
    have := room capacity hcapacity
    have := h capacity hcapacity
    omega
  · intro room capacity hcapacity
    have := room capacity hcapacity
    omega

/-- **The fields find room exactly when the record does**, and then they are the record. -/
theorem putFields?_eq_some_iff {channels : List Channel} {codes : List ℤ}
    (hlength : codes.length = channels.length) :
    buffer.putFields? channels codes = some after ↔
      buffer.HasRoom (totalBytes channels) ∧ after = buffer.append (joinCodes channels codes) := by
  induction channels generalizing buffer codes with
  | nil =>
      obtain rfl := List.length_eq_zero_iff.1 hlength
      have room : buffer.HasRoom 0 := fun _ _ => Nat.zero_le _
      simp [putFields?, joinCodes, room, eq_comm]
  | cons channel channels ih =>
      obtain ⟨code, codes, rfl⟩ := List.exists_cons_of_length_eq_add_one hlength
      have size : (Field.write channel.format.width.bits code).length = channel.format.byteCount :=
        Field.length_write ..
      rw [putFields?, joinCodes, totalBytes_cons, put?, ← append_append]
      by_cases room : buffer.HasRoom (Field.byteCount channel.format.width.bits)
      · -- the room for the rest is what the first field leaves
        have first : buffer.HasRoom (Field.write channel.format.width.bits code).length := by
          rw [size]; exact room
        have rest := hasRoom_append_iff first (totalBytes channels)
        rw [size] at rest
        rw [if_pos room, ← rest]
        exact ih (by simpa using hlength)
      · have none : ¬ buffer.HasRoom (channel.format.byteCount + totalBytes channels) := by
          intro enough
          exact room fun free hfree => (Nat.le_add_right _ _).trans (enough free hfree)
        simp [room, none]

end Buffer

namespace Layout

variable {layout : Layout} {readings : List Reading} {buffer : Buffer}

/-- The three ends of a call: the fault of the record itself, whatever the room; the record at the
end of the buffer; or, for want of room, a fault with the bytes that it takes and the room. -/
theorem encodeInto_cases (layout : Layout) (readings : List Reading) (buffer : Buffer) :
    (∃ fault, layout.encode readings = .error fault ∧
        layout.encodeInto readings buffer = .error fault) ∨
      (∃ record, layout.encode readings = .ok record ∧ buffer.HasRoom layout.byteCount ∧
        layout.encodeInto readings buffer = .ok (buffer.append record)) ∨
      ∃ record room, layout.encode readings = .ok record ∧ buffer.room? = some room ∧
        room < layout.byteCount ∧
        layout.encodeInto readings buffer = .error (.wrongLength layout.byteCount room) := by
  cases hcodes : layout.codes readings with
  | error fault =>
      refine .inl ⟨fault, ?_, ?_⟩
      · simp [encode, hcodes, Except.map]
      · simp [encodeInto, hcodes, bind, Except.bind]
  | ok codes =>
      have encoded : layout.encode readings = .ok (joinCodes layout.channels codes) := by
        simp [encode, hcodes, Except.map]
      by_cases room : buffer.HasRoom layout.byteCount
      · exact .inr (.inl ⟨_, encoded, room, encodeInto_eq_ok_iff.2 ⟨room, _, encoded, rfl⟩⟩)
      · simp only [Buffer.HasRoom, not_forall, not_le] at room
        obtain ⟨free, hfree, short⟩ := room
        refine .inr (.inr ⟨_, free, encoded, hfree, short, ?_⟩)
        have refused : buffer.reserve layout.byteCount =
            .error (.wrongLength layout.byteCount free) := by
          rw [Buffer.reserve, hfree]
          simp [short]
        simp [encodeInto, hcodes, refused, bind, Except.bind]

end Layout

end DeviceProperty
