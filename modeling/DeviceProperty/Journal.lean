/-
**What is reported about records.**

Every record that is encoded or decoded is reported once, with its layout, the number of its
channels and the number of its bytes.  The report is made when the record is complete: an operation
that ends in a fault, or that breaks off, has made none.  Operations that report carry their events
beside their outcome, in order, so that what a run of them reports can be read off its calls.

A caller encodes and decodes records directly by a layout, or values of properties by an
identifier.

Main definitions:

* `DeviceProperty.Event` — a report;
* `DeviceProperty.Journaled` — an outcome with the events on the way to it;
* `DeviceProperty.Journaled.encode`, `DeviceProperty.Journaled.encodeInto`,
  `DeviceProperty.Journaled.decode` — the operations on records, with their reports;
* `DeviceProperty.Call`, `DeviceProperty.CallResult` — a call, and what it answers;
* `DeviceProperty.Call.perform`, `DeviceProperty.Call.reports` — performing a call, and everything
  that a list of calls reports.
-/

import DeviceProperty.Property

set_option relaxedAutoImplicit false
set_option autoImplicit false

namespace DeviceProperty

/-! ### Events -/

/-- Which way a record went. -/
inductive Direction where
  | encoded
  | decoded
deriving DecidableEq, Repr

/-- A report about a record. -/
structure Event where
  direction : Direction
  layout : String
  channels : Nat
  bytes : Nat
deriving DecidableEq, Repr

/-- The wording of a report. -/
def Event.message (event : Event) : String :=
  match event.direction with
  | .encoded => "Encoded property value"
  | .decoded => "Decoded property value"

/-- The report about a record of a layout with `channels` fields. -/
def Layout.event (layout : Layout) (direction : Direction) (channels : Nat) : Event :=
  ⟨direction, layout.name, channels, layout.byteCount⟩

/-! ### Outcomes with their reports -/

/-- The outcome of an operation, and what was reported on the way to it. -/
structure Journaled (α : Type) where
  outcome : Outcome α
  events : List Event

namespace Journaled

variable {α β : Type}

/-- An outcome without a report. -/
def silent (outcome : Outcome α) : Journaled α := ⟨outcome, []⟩

def note (event : Event) : Journaled Unit := ⟨.ok (), [event]⟩

/-- One operation after another.  The second one is reached from a value only. -/
protected def bind (first : Journaled α) (next : α → Journaled β) : Journaled β :=
  match first.outcome with
  | .ok value => ⟨(next value).outcome, first.events ++ (next value).events⟩
  | .error fault => ⟨.error fault, first.events⟩
  | .halted => ⟨.halted, first.events⟩

instance : Monad Journaled where
  pure value := silent (.ok value)
  bind := Journaled.bind

/-! ### Records -/

/-- Finding the codes of a record. -/
def codes (layout : Layout) (readings : List Reading) : Journaled (List Int) :=
  silent (.guarded (layout.codesHalt readings) (layout.codes readings))

/-- Writing the codes of a record, with its report. -/
def join (layout : Layout) (codes : List Int) : Journaled (List UInt8) := do
  let record ← silent (.guarded layout.joinHalts (.ok (joinCodes layout.channels codes)))
  note (layout.event .encoded codes.length)
  return record

/-- Encoding a record, with its report. -/
def encode (layout : Layout) (readings : List Reading) : Journaled (List UInt8) := do
  join layout (← codes layout readings)

/-- Appending a record, with its report.  The room is looked at between the codes and the bytes. -/
def encodeInto (layout : Layout) (readings : List Reading) (buffer : Buffer) :
    Journaled Buffer := do
  let codes ← codes layout readings
  silent (.guarded false (buffer.reserve layout.byteCount))
  return buffer.append (← join layout codes)

/-- Decoding a record, with its report. -/
def decode (layout : Layout) (bytes : List UInt8) : Journaled (List Reading) := do
  let readings ← silent (.guarded (layout.decodeHalts bytes) (layout.decode bytes))
  note (layout.event .decoded readings.length)
  return readings

def layoutOf (id : UInt16) : Journaled Layout := silent (.guarded false (Property.layoutOf id))

end Journaled

/-! ### Calls -/

/-- A call of a caller. -/
inductive Call where
  | encode (layout : Layout) (readings : List Reading)
  | encodeInto (layout : Layout) (readings : List Reading) (buffer : Buffer)
  | decode (layout : Layout) (bytes : List UInt8)
  | encodeProperty (id : UInt16) (readings : List Reading)
  | decodeProperty (id : UInt16) (bytes : List UInt8)

/-- What a call answers. -/
inductive CallResult where
  | bytes (bytes : List UInt8)
  | buffer (buffer : Buffer)
  | readings (readings : List Reading)
deriving DecidableEq, Repr

namespace Call

def perform : Call → Journaled CallResult
  | encode layout readings => .bytes <$> Journaled.encode layout readings
  | encodeInto layout readings buffer => .buffer <$> Journaled.encodeInto layout readings buffer
  | decode layout bytes => .readings <$> Journaled.decode layout bytes
  | encodeProperty id readings => do
      let layout ← Journaled.layoutOf id
      .bytes <$> Journaled.encode layout readings
  | decodeProperty id bytes => do
      let layout ← Journaled.layoutOf id
      .readings <$> Journaled.decode layout bytes

/-- What a list of calls reports. -/
def reports (calls : List Call) : List Event := calls.flatMap fun call => call.perform.events

end Call

end DeviceProperty
