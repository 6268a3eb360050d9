/-
**One field: from reading to code and back.**

The number of codes in a millionth is a fraction fixed by the multiplier and the two exponents of a
format.  Quantities become codes, and codes quantities, by one multiplication and one rounded
division of whole numbers, with nothing lost in between.  The numbers have 128 bits; a numerator or
denominator that would need more is replaced by the largest such number, and a product that would
need more is a fault.

A code that the width cannot carry, or that lies in a reserved range, is invalid; else a code that
is a sentinel stands for its state; every other code is ordinary.  A special state needs a sentinel
of its own.  A quantity between the bounds of the format becomes the nearest code; for any other
quantity the policy of the format decides between a sentinel and a fault.

Main definitions:

* `DeviceProperty.Scale`, `DeviceProperty.Format.scale` — codes per millionth;
* `DeviceProperty.Format.quantityOfCode`, `DeviceProperty.Format.codeOfQuantity` — the quantity of
  an ordinary code, and the code of a quantity;
* `DeviceProperty.Format.least`, `DeviceProperty.Format.greatest`,
  `DeviceProperty.Format.inDomain` — the bounds of a format, and lying between them;
* `DeviceProperty.Format.classifyCode`, `DeviceProperty.Format.classifyReading` — what a code is,
  and what becomes of a reading;
* `DeviceProperty.Format.encode`, `DeviceProperty.Format.decode` — the two directions;
* `DeviceProperty.Format.encodeHalts`, `DeviceProperty.Format.decodeHalts` — where they break off.
-/

import DeviceProperty.Fault
import DeviceProperty.Format.Basic

set_option relaxedAutoImplicit false
set_option autoImplicit false

namespace DeviceProperty

/-- Codes per millionth, as a fraction. -/
structure Scale where
  num : Int
  den : Int
deriving DecidableEq, Repr

namespace Scale

/-- Whether the fraction and its inverse are positive numbers. -/
def isPositive (scale : Scale) : Bool := 0 < scale.num && 0 < scale.den

/-- Dividing the scale by `base ^ exponent`, that is multiplying the quantity of every code by it.
A negative exponent multiplies the numerator instead of the denominator. -/
def coarsen (scale : Scale) (base : Nat) (exponent : Int) : Scale :=
  let power := cappedPow base exponent.natAbs
  if exponent < 0 then { scale with num := clamp128 (scale.num * power) }
  else { scale with den := clamp128 (scale.den * power) }

end Scale

namespace Format

def scale (format : Format) : Scale :=
  let plain : Scale :=
    { num := format.multiplier.den, den := format.multiplier.num * microsPerUnit }
  (plain.coarsen 10 format.decimalExponent).coarsen 2 format.binaryExponent

/-- The number of millionths of an ordinary code, if it can be computed and is in range. -/
def quantityOfCode? (format : Format) (code : Int) : Option Quantity :=
  let scale := format.scale
  if scale.isPositive then do
    let scaled ← product? code scale.den
    Quantity.ofMicros? (roundDiv scaled scale.num)
  else none

/-- The quantity of an ordinary code.  A code without one counts as reserved. -/
def quantityOfCode (format : Format) (code : Int) : Except Fault Quantity :=
  match format.quantityOfCode? code with
  | some quantity => .ok quantity
  | none => .error (.reservedCode code)

/-- The smallest quantity of a format; zero where it has none. -/
def least (format : Format) : Quantity := (format.quantityOfCode? format.minCode).getD .zero

/-- The largest quantity of a format; zero where it has none. -/
def greatest (format : Format) : Quantity := (format.quantityOfCode? format.maxCode).getD .zero

/-- The fault of a quantity that has no code. -/
def outOfRangeFault (format : Format) (quantity : Quantity) : Fault :=
  .outOfRange quantity format.least format.greatest

/-- The code nearest to a quantity, if it can be computed and is in range. -/
def codeOfQuantity? (format : Format) (quantity : Quantity) : Option Int :=
  let scale := format.scale
  if scale.isPositive then do
    let scaled ← product? quantity.micros scale.num
    let code := roundDiv scaled scale.den
    if Fits64 code then some code else none
  else none

/-- The code nearest to a quantity. -/
def codeOfQuantity (format : Format) (quantity : Quantity) : Except Fault Int :=
  match format.codeOfQuantity? quantity with
  | some code => .ok code
  | none => .error (format.outOfRangeFault quantity)

end Format

/-! ### Codes -/

/-- What a code is to a format. -/
inductive CodeClass where
  /-- A code with a quantity. -/
  | ordinary (code : Int)
  /-- A code that stands for a special state. -/
  | sentinel (state : State)
  /-- A code that is reserved, or that the field cannot carry. -/
  | invalid
deriving DecidableEq, Repr

namespace Format

/-- What a code is.  Reserved ranges come before sentinels, and sentinels before the domain. -/
def classifyCode (format : Format) (code : Int) : CodeClass :=
  if !format.width.fits code || format.isInvalidCode code then .invalid
  else match format.sentinelState? code with
    | some state => .sentinel state
    | none => .ordinary code

def decode (format : Format) (code : Int) : Except Fault Reading :=
  match format.classifyCode code with
  | .invalid => .error (.reservedCode code)
  | .sentinel state => .ok (.ofState state)
  | .ordinary code => (format.quantityOfCode code).map .normal

end Format

/-! ### Readings -/

/-- What becomes of a reading in a format. -/
inductive ReadingClass where
  /-- A quantity between the bounds, written by the scale. -/
  | inDomain (quantity : Quantity)
  /-- A reading written as a sentinel. -/
  | sentinel (code : Int)
  /-- A quantity that has no code. -/
  | outOfRange (quantity : Quantity)
  /-- A special state that has no code. -/
  | unsupported (state : State)
deriving DecidableEq, Repr

namespace Format

/-- Whether a quantity lies between the quantities of the smallest and the largest ordinary code.
A format that has no such quantities has an empty domain. -/
def inDomain (format : Format) (quantity : Quantity) : Bool :=
  match format.quantityOfCode? format.minCode, format.quantityOfCode? format.maxCode with
  | some least, some greatest => least ≤ quantity && quantity ≤ greatest
  | _, _ => false

/-- What becomes of a quantity. -/
def classifyQuantity (format : Format) (quantity : Quantity) : ReadingClass :=
  if format.inDomain quantity then .inDomain quantity
  else match format.outOfRange with
    | .reject => .outOfRange quantity
    | .sentinel state => match format.sentinelCode? state with
      | some code => .sentinel code
      | none => .outOfRange quantity

/-- What becomes of a special state. -/
def classifyState (format : Format) (state : State) : ReadingClass :=
  match format.sentinelCode? state with
  | some code => .sentinel code
  | none => .unsupported state

/-- What becomes of a reading. -/
def classifyReading (format : Format) : Reading → ReadingClass
  | .normal quantity => format.classifyQuantity quantity
  | .saturated => format.classifyState .saturated
  | .unknown => format.classifyState .unknown

/-- The nearest ordinary code.  A bound is rounded to a millionth, so a quantity in the domain may
lie a fraction of a millionth beyond the exact bound. -/
def clampCode (format : Format) (code : Int) : Int := min (max code format.minCode) format.maxCode

/-- The code of a reading. -/
def encode (format : Format) (reading : Reading) : Except Fault Int :=
  match format.classifyReading reading with
  | .inDomain quantity => (format.codeOfQuantity quantity).map format.clampCode
  | .sentinel code => .ok code
  | .outOfRange quantity => .error (format.outOfRangeFault quantity)
  | .unsupported state => .error (.unsupportedState state)

/-! ### Breaking off -/

/-- Whether encoding breaks off: there is no nearest code between bounds the wrong way round. -/
def encodeHalts (format : Format) (reading : Reading) : Bool :=
  match format.classifyReading reading with
  | .inDomain quantity => (format.codeOfQuantity quantity).isOk && format.maxCode < format.minCode
  | .sentinel _ => false
  | .outOfRange _ => false
  | .unsupported _ => false

/-- Whether reading a field and decoding its code breaks off. -/
def decodeHalts (format : Format) (code : Int) : Bool :=
  Field.readHalts format.width.bits format.width.signed || format.width.fitsHalts code

end Format

end DeviceProperty
