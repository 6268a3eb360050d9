/-
**A working session on a buffer.**

A session works on one buffer: it appends records and fields to the end, reads fields one after
another from a read position, reads records from any place, and reads and writes ranges of bits.
Only appending a record looks at the limit of the buffer.  A step that breaks off ends the session.

Main definitions:

* `DeviceProperty.Session` — a buffer with a read position;
* `DeviceProperty.Step`, `DeviceProperty.StepResult` — a step, and what it answers;
* `DeviceProperty.Session.perform`, `DeviceProperty.Session.run` — one step, and a list of them.
-/

import DeviceProperty.Journal

set_option relaxedAutoImplicit false
set_option autoImplicit false

namespace DeviceProperty

/-- A buffer with a read position. -/
structure Session where
  buffer : Buffer
  position : Nat
deriving DecidableEq, Repr

/-- A step of a session. -/
inductive Step where
  /-- Append a record. -/
  | encodeInto (layout : Layout) (readings : List Reading)
  /-- Read a record of `count` bytes from place `start`. -/
  | decode (layout : Layout) (start count : Nat)
  /-- Append a field. -/
  | putField (code : Int) (bits : Nat)
  /-- Read the field at the read position, and move past it. -/
  | getField (bits : Nat) (signed : Bool)
  /-- Write a range of bits. -/
  | insertBits (start : UInt16) (length value : Nat)
  /-- Read a range of bits. -/
  | extractBits (start : UInt16) (length : Nat)
  /-- Drop the bytes from place `length` on. -/
  | truncate (length : Nat)
  /-- Move the read position. -/
  | seek (position : Nat)

/-- What a step answers. -/
inductive StepResult where
  | done
  | readings (readings : List Reading)
  | code (code : Int)
  | bits (value : Nat)
deriving DecidableEq, Repr

namespace Session

/-- The session with other bytes in its buffer. -/
def withContents (session : Session) (contents : List UInt8) : Session :=
  { session with buffer := { session.buffer with contents } }

/-- Whether the bytes from the read position on are fewer than those of a field. -/
def isShortOf (session : Session) (bits : Nat) : Bool :=
  session.buffer.contents.length < session.position + Field.byteCount bits

/-- The answer to a step without faults, with the session after it; or breaking off, which leaves
the session alone. -/
def answered (session : Session) : Option (StepResult × Session) → Journaled StepResult × Session
  | some (result, after) => (pure result, after)
  | none => (Journaled.silent .halted, session)

/-- One step: its answer with its reports, and the session after it.  A fault changes nothing. -/
def perform (session : Session) : Step → Journaled StepResult × Session
  | .encodeInto layout readings =>
      let appended := Journaled.encodeInto layout readings session.buffer
      match appended.outcome with
      | .ok buffer => ((fun _ => .done) <$> appended, { session with buffer })
      | .error _ | .halted => ((fun _ => .done) <$> appended, session)
  | .decode layout start count =>
      let bytes := (session.buffer.contents.drop start).take count
      (.readings <$> Journaled.decode layout bytes, session)
  | .putField code bits => session.answered <|
      if Field.writeHalts bits then none
      else some (.done, session.withContents (session.buffer.contents ++ Field.write bits code))
  | .getField bits signed => session.answered <|
      if Field.readHalts bits signed || session.isShortOf bits then none
      else
        let code := Field.read bits signed (session.buffer.contents.drop session.position)
        some (.code code, { session with position := session.position + Field.byteCount bits })
  | .insertBits start length value => session.answered <| do
      let contents ← insertBits? session.buffer.contents start length value
      return (.done, session.withContents contents)
  | .extractBits start length => session.answered <| do
      let value ← extractBits? session.buffer.contents start length
      return (.bits value, session)
  | .truncate length =>
      (pure .done, session.withContents (session.buffer.contents.take length))
  | .seek position => (pure .done, { session with position })

/-- A list of steps, each with its answer and the session after it, up to one that breaks off. -/
def run (session : Session) : List Step → List (Journaled StepResult × Session)
  | [] => []
  | step :: steps =>
      let after := session.perform step
      match after.1.outcome with
      | .ok _ | .error _ => after :: run after.2 steps
      | .halted => [after]

end Session

end DeviceProperty
