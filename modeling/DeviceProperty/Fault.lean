/-
**What can go wrong.**

Every operation of the codec answers with a result or with one fault.  A fault inside a record
names the channel it belongs to, and a fault inside a channel keeps its cause.  Where a number
leaves the range of its word, or a check that has no fault fails, an operation breaks off and
answers nothing.

Main definitions:

* `DeviceProperty.Fault` — the causes;
* `DeviceProperty.Fault.message` — the wording;
* `DeviceProperty.Fault.isRangeFault` — whether data, and not the caller, is at fault;
* `DeviceProperty.Fault.root` — the cause under all channels;
* `DeviceProperty.Outcome` — what comes of an operation that may break off.
-/

import DeviceProperty.Reading

set_option relaxedAutoImplicit false
set_option autoImplicit false

namespace DeviceProperty

/-- The reasons an operation fails. -/
inductive Fault where
  /-- A quantity outside the bounds of its format. -/
  | outOfRange (quantity least greatest : Quantity)
  /-- A wire code that its format reserves. -/
  | reservedCode (code : Int)
  /-- A record of the wrong number of bytes. -/
  | wrongLength (expected actual : Nat)
  /-- A list of readings that does not match the channels of its layout. -/
  | wrongCount (expected actual : Nat)
  /-- A special state for which the format has no code. -/
  | unsupportedState (state : State)
  /-- A fault in one channel of a record. -/
  | inChannel (index : Nat) (name : String) (cause : Fault)
  /-- An identifier that no property has. -/
  | unknownProperty (id : UInt16)
  /-- A text that is no reading, with what is wrong with it. -/
  | unreadable (reason : String)
deriving DecidableEq, Repr

namespace Fault

/-- A property identifier with four hexadecimal digits. -/
def idText (id : UInt16) : String :=
  "0x" ++ String.ofList (List.leftpad 4 '0' (Nat.toDigits 16 id.toNat))

def message : Fault → String
  | outOfRange quantity least greatest =>
      "Value " ++ quantity.text ++ " out of range [" ++ least.text ++ ", " ++ greatest.text ++ "]"
  | reservedCode code => "Raw code " ++ toString code ++ " is reserved"
  | wrongLength expected actual =>
      "Length mismatch: expected " ++ toString expected ++ " bytes, got " ++ toString actual
  | wrongCount expected actual =>
      "Channel count mismatch: expected " ++ toString expected ++ ", got " ++ toString actual
  | unsupportedState state => "Format has no code for the " ++ state.word ++ " state"
  | inChannel index name cause =>
      "Channel " ++ toString index ++ " (" ++ name ++ "): " ++ cause.message
  | unknownProperty id => "Unknown property: " ++ idText id
  | unreadable reason => "Parse error: " ++ reason

/-- Whether the data is at fault: a value, a code, a length or a count out of range.  A state
without a code, an unknown property and an unreadable text are mistakes of the caller. -/
def isRangeFault : Fault → Bool
  | outOfRange .. | reservedCode _ | wrongLength .. | wrongCount .. => true
  | inChannel _ _ cause => cause.isRangeFault
  | unsupportedState _ | unknownProperty _ | unreadable _ => false

/-- The cause under all channels. -/
def root : Fault → Fault
  | inChannel _ _ cause => cause.root
  | fault => fault

@[simp] theorem root_inChannel (index : Nat) (name : String) (cause : Fault) :
    (inChannel index name cause).root = cause.root := rfl

@[simp] theorem isRangeFault_inChannel (index : Nat) (name : String) (cause : Fault) :
    (inChannel index name cause).isRangeFault = cause.isRangeFault := rfl

end Fault

/-- What comes of an operation that may break off. -/
inductive Outcome (α : Type) where
  | ok (value : α)
  | error (fault : Fault)
  /-- No answer at all. -/
  | halted
deriving DecidableEq, Repr

namespace Outcome

variable {α β : Type}

def isOk : Outcome α → Bool
  | ok _ => true
  | error _ => false
  | halted => false

/-- What is done with a value leaves the other outcomes alone. -/
def map (f : α → β) : Outcome α → Outcome β
  | ok value => ok (f value)
  | error fault => error fault
  | halted => halted

/-- The outcome of an operation that answers unless it breaks off. -/
def guarded (halts : Bool) (answer : Except Fault α) : Outcome α :=
  if halts then halted
  else match answer with
    | .ok value => ok value
    | .error fault => error fault

@[simp] theorem guarded_true (answer : Except Fault α) : guarded true answer = halted := rfl

@[simp] theorem guarded_false_ok (value : α) :
    guarded false (.ok value : Except Fault α) = ok value := rfl

@[simp] theorem guarded_false_error (fault : Fault) :
    guarded false (.error fault : Except Fault α) = error fault := rfl

@[simp] theorem guarded_eq_halted_iff {halts : Bool} {answer : Except Fault α} :
    guarded halts answer = halted ↔ halts = true := by
  cases halts <;> cases answer <;> simp [guarded]

theorem map_guarded (f : α → β) (halts : Bool) (answer : Except Fault α) :
    (guarded halts answer).map f = guarded halts (answer.map f) := by
  cases halts <;> cases answer <;> rfl

end Outcome

/-- The quantity that a text stands for. -/
def Quantity.ofText (text : String) : Except Fault Quantity :=
  (Quantity.parse text).mapError .unreadable

/-- The reading that a text stands for. -/
def Reading.ofText (text : String) : Except Fault Reading :=
  (Reading.parse text).mapError .unreadable

end DeviceProperty
