/-
**Formats of single fields.**

A format says how one field of a property is laid out and what its codes mean.  A field has a
width in bits and a sign; the quantity of an ordinary code is the code times
`multiplier * 10 ^ decimalExponent * 2 ^ binaryExponent`; ordinary codes run from `minCode` to
`maxCode`.  Beside them a format may reserve ranges of codes that no reader accepts, and single
codes that stand for a special state.  A policy says what becomes of a quantity out of bounds.

Main definitions:

* `DeviceProperty.Width` — bits and sign of a field, with the codes it can carry;
* `DeviceProperty.CodeRange`, `DeviceProperty.Sentinel`, `DeviceProperty.OverflowPolicy` — reserved
  codes;
* `DeviceProperty.Format` — a format, with queries on its codes;
* `DeviceProperty.Format.resolution` — the quantity of one step of the code, for display;
* `DeviceProperty.Format.toDocument` — a format as a document, and its parts as documents.
-/

import DeviceProperty.Number.Float
import DeviceProperty.Reading.Document
import DeviceProperty.Wire

set_option relaxedAutoImplicit false
set_option autoImplicit false

namespace DeviceProperty

/-! ### Widths -/

/-- Bits and sign of a field. -/
structure Width where
  bits : Nat
  signed : Bool
deriving DecidableEq, Repr

namespace Width

/-- The smallest code a field can carry. -/
def minCode (width : Width) : Int := if width.signed then -twoPow (width.bits - 1) else 0

/-- The largest code a field can carry. -/
def maxCode (width : Width) : Int :=
  if width.signed then twoPow (width.bits - 1) - 1 else twoPow width.bits - 1

/-- Whether a field can carry a code. -/
def fits (width : Width) (code : Int) : Bool := width.minCode ≤ code && code ≤ width.maxCode

/-- The bytes a field takes. -/
def byteCount (width : Width) : Nat := Field.byteCount width.bits

/-- Whether finding the codes of a field breaks off: they are counted in 64-bit signed numbers, as a
power of two without one. -/
def limitsHalt (width : Width) : Bool :=
  if width.signed then width.bits = 0 || 63 < width.bits else 62 < width.bits

/-- Whether comparing a code with those of a field breaks off.  Below zero the largest code of a
field without a sign is not looked for. -/
def fitsHalts (width : Width) (code : Int) : Bool :=
  width.limitsHalt && (width.signed || 0 ≤ code)

def unsigned (bits : Nat) : Width := ⟨bits, false⟩

def twosComplement (bits : Nat) : Width := ⟨bits, true⟩

theorem fits_iff {width : Width} {code : Int} :
    width.fits code = true ↔ width.minCode ≤ code ∧ code ≤ width.maxCode := by
  simp [fits]

end Width

/-! ### Reserved codes -/

/-- A fraction that scales the codes of a format. -/
structure Multiplier where
  num : Nat
  den : Nat
deriving DecidableEq, Repr

/-- The codes from `first` to `last`. -/
structure CodeRange where
  first : Int
  last : Int
deriving DecidableEq, Repr

namespace CodeRange

/-- The range of one code. -/
def single (code : Int) : CodeRange := ⟨code, code⟩

/-- Whether a code lies in the range. -/
def contains (range : CodeRange) (code : Int) : Bool := range.first ≤ code && code ≤ range.last

end CodeRange

/-- A code that stands for a special state. -/
structure Sentinel where
  code : Int
  state : State
deriving DecidableEq, Repr

/-- What becomes of a quantity out of bounds. -/
inductive OverflowPolicy where
  /-- It is refused. -/
  | reject
  /-- It is written as the code of a special state. -/
  | sentinel (state : State)
deriving DecidableEq, Repr

/-! ### Formats -/

/-- The layout of one field and the meaning of its codes. -/
structure Format where
  name : String
  width : Width
  multiplier : Multiplier
  decimalExponent : Int
  binaryExponent : Int
  minCode : Int
  maxCode : Int
  invalid : List CodeRange
  sentinels : List Sentinel
  outOfRange : OverflowPolicy
deriving DecidableEq, Repr

namespace Format

/-- The format whose codes are whole units, with every code of the width ordinary. -/
def plain (name : String) (width : Width) : Format :=
  { name
    width
    multiplier := ⟨1, 1⟩
    decimalExponent := 0
    binaryExponent := 0
    minCode := width.minCode
    maxCode := width.maxCode
    invalid := []
    sentinels := []
    outOfRange := .reject }

/-- The bytes a field of the format takes. -/
def byteCount (format : Format) : Nat := format.width.byteCount

/-- The code that stands for a special state, the first one declared. -/
def sentinelCode? (format : Format) (state : State) : Option Int :=
  (format.sentinels.find? (·.state = state)).map (·.code)

/-- The special state that a code stands for, the first one declared. -/
def sentinelState? (format : Format) (code : Int) : Option State :=
  (format.sentinels.find? (·.code = code)).map (·.state)

/-- Whether a code is reserved from every use. -/
def isInvalidCode (format : Format) (code : Int) : Bool := format.invalid.any (·.contains code)

/-- Whether a code is ordinary. -/
def isDomainCode (format : Format) (code : Int) : Bool :=
  format.minCode ≤ code && code ≤ format.maxCode

/-- The sentinels whose code is ordinary too.  Such a code reads as the special state, so the
quantity with that code does not come back. -/
def ambiguousSentinels (format : Format) : List Sentinel :=
  format.sentinels.filter fun sentinel => format.isDomainCode sentinel.code

theorem sentinelCode?_mem {format : Format} {state : State} {code : Int}
    (h : format.sentinelCode? state = some code) : ⟨code, state⟩ ∈ format.sentinels := by
  simp only [sentinelCode?, Option.map_eq_some_iff] at h
  obtain ⟨⟨code', state'⟩, found, rfl⟩ := h
  have same := List.find?_some found
  simp only [decide_eq_true_eq] at same
  exact same ▸ List.mem_of_find?_eq_some found

theorem sentinelState?_mem {format : Format} {state : State} {code : Int}
    (h : format.sentinelState? code = some state) : ⟨code, state⟩ ∈ format.sentinels := by
  simp only [sentinelState?, Option.map_eq_some_iff] at h
  obtain ⟨⟨code', state'⟩, found, rfl⟩ := h
  have same := List.find?_some found
  simp only [decide_eq_true_eq] at same
  exact same ▸ List.mem_of_find?_eq_some found

/-! ### Display -/

/-- The quantity of one step of the code, for display. -/
def resolution (format : Format) : Float :=
  Float.ofNat format.multiplier.num / Float.ofNat format.multiplier.den *
    intPower 10 format.decimalExponent * intPower 2 format.binaryExponent

end Format

/-! ### Documents -/

def Width.toDocument (width : Width) : Document :=
  .object [("bits", .ofNat width.bits), ("signed", .boolean width.signed)]

def Multiplier.toDocument (multiplier : Multiplier) : Document :=
  .object [("num", .ofNat multiplier.num), ("den", .ofNat multiplier.den)]

def CodeRange.toDocument (range : CodeRange) : Document :=
  .object [("start", .integer range.first), ("end", .integer range.last)]

def Sentinel.toDocument (sentinel : Sentinel) : Document :=
  .object [("raw", .integer sentinel.code), ("kind", sentinel.state.toDocument)]

/-- A policy is a word, or an object around the state it writes. -/
def OverflowPolicy.toDocument : OverflowPolicy → Document
  | .reject => .string "reject"
  | .sentinel state => .object [("sentinel", state.toDocument)]

def Format.toDocument (format : Format) : Document :=
  .object [
    ("name", .string format.name),
    ("width", format.width.toDocument),
    ("multiplier", format.multiplier.toDocument),
    ("decimal_exponent", .integer format.decimalExponent),
    ("binary_exponent", .integer format.binaryExponent),
    ("min_raw", .integer format.minCode),
    ("max_raw", .integer format.maxCode),
    ("invalid", .array (format.invalid.map CodeRange.toDocument)),
    ("sentinels", .array (format.sentinels.map Sentinel.toDocument)),
    ("out_of_range", format.outOfRange.toDocument)]

end DeviceProperty
