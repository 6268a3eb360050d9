/-
**Readings as documents.**

In a document a quantity or a reading is the string of its text, and a special state the string of
its word.  Reading them back refuses every document that is not a string, and every string that is
not such a text; a list of readings stops at its first fault.

Main definitions:

* `DeviceProperty.Quantity.toDocument`, `DeviceProperty.Reading.toDocument`,
  `DeviceProperty.State.toDocument` — writing;
* `DeviceProperty.DocumentFault` — why a document is refused;
* `DeviceProperty.Quantity.ofDocument`, `DeviceProperty.Reading.ofDocument`,
  `DeviceProperty.Reading.listOfDocument`, `DeviceProperty.State.ofDocument` — reading.
-/

import DeviceProperty.Document
import DeviceProperty.Fault

set_option relaxedAutoImplicit false
set_option autoImplicit false

namespace DeviceProperty

/-! ### Writing -/

def Quantity.toDocument (quantity : Quantity) : Document := .string quantity.text

def Reading.toDocument (reading : Reading) : Document := .string reading.text

def State.toDocument (state : State) : Document := .string state.word

/-! ### Faults -/

/-- The reasons a document is refused. -/
inductive DocumentFault where
  /-- A document of the wrong kind, and what was expected in its place. -/
  | wrongKind (found : Document) (expected : String)
  /-- An object with no member, or more than one, in the place of a word. -/
  | notOneMember
  /-- A string that is not the word of a special state. -/
  | unknownWord (word : String)
  /-- A string that is not the text of a reading. -/
  | unreadable (fault : Fault)

def DocumentFault.message : DocumentFault → String
  | wrongKind found expected => "invalid type: " ++ found.kindText ++ ", expected " ++ expected
  | notOneMember => "invalid value: map, expected map with a single key"
  | unknownWord word =>
      "unknown variant `" ++ word ++ "`, expected `" ++ State.unknown.word ++ "` or `" ++
        State.saturated.word ++ "`"
  | unreadable fault => fault.message

/-! ### Reading -/

/-- The string that a document is. -/
def Document.asString : Document → Except DocumentFault String
  | .string value => .ok value
  | other => .error (.wrongKind other "a string")

/-- The quantity that a document stands for. -/
def Quantity.ofDocument (document : Document) : Except DocumentFault Quantity := do
  let text ← document.asString
  (Quantity.ofText text).mapError .unreadable

/-- The reading that a document stands for. -/
def Reading.ofDocument (document : Document) : Except DocumentFault Reading := do
  let text ← document.asString
  (Reading.ofText text).mapError .unreadable

/-- The readings that an array stands for, up to the first fault. -/
def Reading.listOfDocument : Document → Except DocumentFault (List Reading)
  | .array elements => elements.mapM Reading.ofDocument
  | other => .error (.wrongKind other "a sequence")

/-- The special state that a word names. -/
def State.ofWord (word : String) : Except DocumentFault State :=
  if word = State.unknown.word then .ok .unknown
  else if word = State.saturated.word then .ok .saturated
  else .error (.unknownWord word)

/-- The special state that a document stands for: its word, or an object whose only member is that
word with nothing in it. -/
def State.ofDocument : Document → Except DocumentFault State
  | .string word => State.ofWord word
  | .object [(word, content)] => do
      let state ← State.ofWord word
      match content with
      | .null => .ok state
      | other => .error (.wrongKind other "unit")
  | .object _ => .error .notOneMember
  | other => .error (.wrongKind other "string or map")

/-- A list of readings as a document. -/
def Reading.listToDocument (readings : List Reading) : Document :=
  .array (readings.map Reading.toDocument)

end DeviceProperty
