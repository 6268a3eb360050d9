/-
**Records: from readings to bytes and back.**

The value of a property is a record of one or more channels, each a field of some format under a
name.  The fields follow one another without gaps, so the length of a record is the sum of the
bytes of its fields.

Encoding turns every reading into the code of its field before the first byte is written, so a
fault in any field leaves no trace; the number of readings is checked before any of them.  A record
is appended to a buffer whole or not at all: the room for all of its bytes is checked between the
codes and the bytes.  Decoding checks the length of the record first and then reads field after
field.  Either way the first fault, in the order of the channels, is the answer, under the place and
the name of its channel.

Main definitions:

* `DeviceProperty.Channel`, `DeviceProperty.Layout` — a named field, and a named list of them;
* `DeviceProperty.stepFields` — one step in each of a list of fields, up to the first fault;
* `DeviceProperty.splitCodes`, `DeviceProperty.joinCodes` — the codes of a record, and the record;
* `DeviceProperty.Layout.encode`, `DeviceProperty.Layout.decode` — a record;
* `DeviceProperty.Buffer`, `DeviceProperty.Layout.encodeInto` — appending to a buffer;
* `DeviceProperty.Layout.codesHalt`, `DeviceProperty.Layout.joinHalts`,
  `DeviceProperty.Layout.decodeHalts` — where these break off.

Main results:

* `DeviceProperty.Layout.encodeInto_eq_ok_iff` — a record is appended exactly when it can be
  encoded and there is room for it.
-/

import DeviceProperty.Format.Codec

set_option relaxedAutoImplicit false
set_option autoImplicit false

namespace DeviceProperty

/-- A field of a record, under a name. -/
structure Channel where
  name : String
  format : Format
deriving DecidableEq, Repr

/-- The fields of a record, in the order in which they are written. -/
structure Layout where
  name : String
  channels : List Channel
deriving DecidableEq, Repr

/-- The bytes that a list of fields takes. -/
def totalBytes : List Channel → Nat
  | [] => 0
  | channel :: rest => channel.format.byteCount + totalBytes rest

@[simp] theorem totalBytes_nil : totalBytes [] = 0 := rfl

@[simp] theorem totalBytes_cons (channel : Channel) (rest : List Channel) :
    totalBytes (channel :: rest) = channel.format.byteCount + totalBytes rest := rfl

namespace Layout

/-- The bytes of a record. -/
def byteCount (layout : Layout) : Nat := totalBytes layout.channels

/-- The number of fields of a record. -/
def channelCount (layout : Layout) : Nat := layout.channels.length

/-- The record of one field, which has the name of its format. -/
def single (format : Format) : Layout := ⟨format.name, [⟨"value", format⟩]⟩

end Layout

/-! ### Documents -/

def Channel.toDocument (channel : Channel) : Document :=
  .object [("name", .string channel.name), ("format", channel.format.toDocument)]

def Layout.toDocument (layout : Layout) : Document :=
  .object [
    ("name", .string layout.name),
    ("channels", .array (layout.channels.map Channel.toDocument))]

/-! ### Codes of a list of fields -/

/-- The results of one step in each of the fields from place `index` on, or the first fault under
its place and the name of its channel. -/
def stepFields {α β : Type} (step : Format → α → Except Fault β) (index : Nat) :
    List Channel → List α → Except Fault (List β)
  | channel :: channels, a :: as =>
      match step channel.format a with
      | .error fault => .error (.inChannel index channel.name fault)
      | .ok b => (stepFields step (index + 1) channels as).map (b :: ·)
  | _, _ => .ok []

/-- The codes of readings in the fields from place `index` on, or the first fault. -/
def encodeCodes (index : Nat) (channels : List Channel) (readings : List Reading) :
    Except Fault (List Int) := stepFields Format.encode index channels readings

/-- The readings of codes in the fields from place `index` on, or the first fault. -/
def decodeCodes (index : Nat) (channels : List Channel) (codes : List Int) :
    Except Fault (List Reading) := stepFields Format.decode index channels codes

theorem length_stepFields {α β : Type} {step : Format → α → Except Fault β} {index : Nat}
    {channels : List Channel} {as : List α} {bs : List β} (hlength : as.length = channels.length)
    (h : stepFields step index channels as = .ok bs) : bs.length = channels.length := by
  induction channels generalizing index as bs with
  | nil => cases as <;> simp_all [stepFields]
  | cons channel channels ih =>
      cases as with
      | nil => simp at hlength
      | cons a as =>
          simp only [stepFields] at h
          split at h
          · simp at h
          · cases hrest : stepFields step (index + 1) channels as with
            | error fault => simp [hrest, Except.map] at h
            | ok rest =>
                simp only [hrest, Except.map, Except.ok.injEq] at h
                subst h
                simp [ih (by simpa using hlength) hrest]

/-- Whether a step in one of the fields breaks off, with no fault in the fields before it. -/
def stepsHalt {α β : Type} (halts : Format → α → Bool) (step : Format → α → Except Fault β) :
    List Channel → List α → Bool
  | channel :: channels, a :: as =>
      halts channel.format a ||
        (step channel.format a).isOk && stepsHalt halts step channels as
  | _, _ => false

/-! ### Codes and bytes -/

/-- The bytes of codes, field after field. -/
def joinCodes : List Channel → List Int → List UInt8
  | channel :: channels, code :: codes =>
      Field.write channel.format.width.bits code ++ joinCodes channels codes
  | _, _ => []

/-- The codes held by bytes, field after field. -/
def splitCodes : List Channel → List UInt8 → List Int
  | [], _ => []
  | channel :: channels, bytes =>
      let width := channel.format.width
      Field.read width.bits width.signed bytes :: splitCodes channels (bytes.drop width.byteCount)

theorem length_joinCodes {channels : List Channel} {codes : List Int}
    (h : codes.length = channels.length) :
    (joinCodes channels codes).length = totalBytes channels := by
  induction channels generalizing codes with
  | nil => cases codes <;> simp_all [joinCodes]
  | cons channel channels ih =>
      cases codes with
      | nil => simp at h
      | cons code codes =>
          simp [joinCodes, ih (by simpa using h), Format.byteCount, Width.byteCount]

@[simp] theorem length_splitCodes (channels : List Channel) (bytes : List UInt8) :
    (splitCodes channels bytes).length = channels.length := by
  induction channels generalizing bytes with
  | nil => rfl
  | cons channel channels ih => simp [splitCodes, ih]

/-! ### Records -/

namespace Layout

/-- The codes of a list of readings, one for every channel. -/
def codes (layout : Layout) (readings : List Reading) : Except Fault (List Int) :=
  if readings.length = layout.channelCount then encodeCodes 0 layout.channels readings
  else .error (.wrongCount layout.channelCount readings.length)

def codesHalt (layout : Layout) (readings : List Reading) : Bool :=
  readings.length = layout.channelCount &&
    stepsHalt Format.encodeHalts Format.encode layout.channels readings

def joinHalts (layout : Layout) : Bool :=
  layout.channels.any fun channel => Field.writeHalts channel.format.width.bits

/-- The record of a list of readings. -/
def encode (layout : Layout) (readings : List Reading) : Except Fault (List UInt8) :=
  (layout.codes readings).map (joinCodes layout.channels)

/-- The readings of a record. -/
def decode (layout : Layout) (bytes : List UInt8) : Except Fault (List Reading) :=
  if bytes.length = layout.byteCount then
    decodeCodes 0 layout.channels (splitCodes layout.channels bytes)
  else .error (.wrongLength layout.byteCount bytes.length)

def decodeHalts (layout : Layout) (bytes : List UInt8) : Bool :=
  bytes.length = layout.byteCount &&
    stepsHalt Format.decodeHalts Format.decode layout.channels (splitCodes layout.channels bytes)

theorem length_codes {layout : Layout} {readings : List Reading} {codes : List Int}
    (h : layout.codes readings = .ok codes) : codes.length = layout.channelCount := by
  simp only [Layout.codes] at h
  split at h
  · next hcount => exact length_stepFields hcount h
  · simp at h

theorem length_encode {layout : Layout} {readings : List Reading} {bytes : List UInt8}
    (h : layout.encode readings = .ok bytes) : bytes.length = layout.byteCount := by
  simp only [Layout.encode] at h
  cases hcodes : layout.codes readings with
  | error fault => simp [hcodes, Except.map] at h
  | ok codes =>
      simp only [hcodes, Except.map, Except.ok.injEq] at h
      subst h
      exact length_joinCodes (length_codes hcodes)

theorem length_decode {layout : Layout} {bytes : List UInt8} {readings : List Reading}
    (h : layout.decode bytes = .ok readings) : readings.length = layout.channelCount := by
  simp only [Layout.decode] at h
  split at h
  · exact length_stepFields (by simp) h
  · simp at h

end Layout

/-! ### Buffers -/

/-- Bytes collected by a caller, and the number that they may reach. -/
structure Buffer where
  contents : List UInt8
  capacity : Option Nat
deriving DecidableEq, Repr

namespace Buffer

/-- The bytes that may still be added; nothing for a buffer without a limit. -/
def room? (buffer : Buffer) : Option Nat := buffer.capacity.map (· - buffer.contents.length)

/-- A buffer with more bytes at its end. -/
def append (buffer : Buffer) (bytes : List UInt8) : Buffer :=
  { buffer with contents := buffer.contents ++ bytes }

/-- Whether there is room for a number of bytes. -/
def reserve (buffer : Buffer) (count : Nat) : Except Fault Unit :=
  match buffer.room? with
  | none => .ok ()
  | some room => if room < count then .error (.wrongLength count room) else .ok ()

theorem reserve_eq_ok_iff {buffer : Buffer} {count : Nat} :
    buffer.reserve count = .ok () ↔ ∀ room ∈ buffer.room?, count ≤ room := by
  simp only [reserve]
  cases buffer.room? with
  | none => simp
  | some room =>
      by_cases h : room < count
      · simp [h]
      · simp [h]; omega

end Buffer

/-- A buffer with the record of a list of readings at its end. -/
def Layout.encodeInto (layout : Layout) (readings : List Reading) (buffer : Buffer) :
    Except Fault Buffer := do
  let codes ← layout.codes readings
  buffer.reserve layout.byteCount
  return buffer.append (joinCodes layout.channels codes)

theorem Layout.encodeInto_eq_ok_iff {layout : Layout} {readings : List Reading}
    {buffer after : Buffer} :
    layout.encodeInto readings buffer = .ok after ↔
      (∀ room ∈ buffer.room?, layout.byteCount ≤ room) ∧
        ∃ bytes, layout.encode readings = .ok bytes ∧ after = buffer.append bytes := by
  rw [← Buffer.reserve_eq_ok_iff]
  cases hcodes : layout.codes readings with
  | error fault => simp [encodeInto, encode, hcodes, bind, Except.bind, Except.map]
  | ok codes =>
      cases hroom : buffer.reserve layout.byteCount with
      | error fault => simp [encodeInto, hcodes, hroom, bind, Except.bind]
      | ok _ =>
          simp [encodeInto, encode, hcodes, hroom, bind, Except.bind, pure, Except.pure,
            Except.map, eq_comm]

end DeviceProperty
