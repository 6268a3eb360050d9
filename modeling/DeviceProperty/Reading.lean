/-
**Readings.**

One field of a property holds a quantity or one of two special states: the value is not known, or
it is at or above the largest quantity the field can express.  A normal reading is written as its
quantity and a special state as its word.  The words are read in any mixture of ASCII capitals and
small letters; every other text is read as a quantity, and a fault shows the text without the white
space around it.

Main definitions:

* `DeviceProperty.State`, `DeviceProperty.Reading` — the special states, and readings;
* `DeviceProperty.Reading.text`, `DeviceProperty.Reading.parse` — writing and reading.
-/

import DeviceProperty.Quantity

set_option relaxedAutoImplicit false
set_option autoImplicit false

namespace DeviceProperty

/-- A special state of a field. -/
inductive State where
  /-- The value is not known, or does not apply. -/
  | unknown
  /-- The value is at or above the largest quantity of the field. -/
  | saturated
deriving DecidableEq, Repr

/-- The word for a special state. -/
def State.word : State → String
  | .unknown => "unknown"
  | .saturated => "saturated"

instance : ToString State := ⟨State.word⟩

/-- The value of one field of a property. -/
inductive Reading where
  | normal (quantity : Quantity)
  | saturated
  | unknown
deriving DecidableEq, Repr

namespace Reading

/-- The reading that stands for a special state. -/
def ofState : State → Reading
  | .unknown => .unknown
  | .saturated => .saturated

def state? : Reading → Option State
  | .normal _ => none
  | .saturated => some .saturated
  | .unknown => some .unknown

def quantity? : Reading → Option Quantity
  | .normal quantity => some quantity
  | _ => none

def isSpecial (reading : Reading) : Bool := reading.state?.isSome

theorem ofState_ne_normal (state : State) (quantity : Quantity) :
    ofState state ≠ .normal quantity := by
  cases state <;> simp [ofState]

/-! ### Text -/

/-- A reading in characters. -/
def render : Reading → List Char
  | .normal quantity => quantity.render
  | .saturated => State.saturated.word.toList
  | .unknown => State.unknown.word.toList

def text (reading : Reading) : String := String.ofList reading.render

instance : ToString Reading := ⟨text⟩

/-- Whether a text is a word, up to the case of ASCII letters. -/
def isWord (word : String) (text : List Char) : Bool := text.map Char.toLower = word.toList

/-- The reading that a text without white space around it stands for. -/
def readTrimmed (text : List Char) : Except Quantity.TextFault Reading :=
  if isWord State.unknown.word text then .ok .unknown
  else if isWord State.saturated.word text then .ok .saturated
  else (Quantity.read text).map .normal

/-- The reading that a text stands for. -/
def read (text : List Char) : Except Quantity.TextFault Reading := readTrimmed (trimBlank text)

/-- The reading that a text stands for, or what is wrong with the text inside its white space. -/
def parse (text : String) : Except String Reading :=
  (read text.toList).mapError (·.message (String.ofList (trimBlank text.toList)))

end Reading

end DeviceProperty
