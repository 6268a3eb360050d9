/-
**Quantities in millionths.**

A measured quantity is a signed decimal number with six digits after the point, held as a whole
number of millionths in the 64-bit range.  The range is part of the type.  Building a quantity from
a whole part and millionths multiplies and adds, and each of the two steps stops at the end of the
range.

A quantity is written as a sign, the whole number of units and, unless it is whole, a point and the
millionths without their trailing zeros.  Reading accepts more: white space around the number, a
plus sign, leading zeros, an absent whole part or an absent fraction — but never both — and up to
six digits after the point.

Main definitions:

* `DeviceProperty.Quantity` — a number of millionths;
* `DeviceProperty.Quantity.ofMicros?`, `DeviceProperty.Quantity.clamped` — a quantity from a number
  of millionths, refused or stopped outside the range;
* `DeviceProperty.Quantity.ofParts`, `DeviceProperty.Quantity.wholePart`,
  `DeviceProperty.Quantity.fraction` — a quantity from two parts, and its parts;
* `DeviceProperty.Quantity.toFloat`, `DeviceProperty.Quantity.ofFloat?` — floating point numbers;
* `DeviceProperty.Quantity.text`, `DeviceProperty.Quantity.parse` — writing and reading;
* `DeviceProperty.Quantity.TextFault` — the four reasons a text is no quantity.
-/

import DeviceProperty.Number.Float
import DeviceProperty.Text

set_option relaxedAutoImplicit false
set_option autoImplicit false

namespace DeviceProperty

/-- Millionths in a whole unit. -/
abbrev microsPerUnit : Int := 1000000

/-- Digits after the point. -/
abbrev fractionDigits : Nat := 6

/-- A signed decimal quantity, as a number of millionths in the 64-bit range. -/
structure Quantity where
  micros : Int
  fits : Fits64 micros := by decide
deriving DecidableEq, Repr

namespace Quantity

theorem ext {p q : Quantity} (h : p.micros = q.micros) : p = q := by
  cases p; cases q; simp_all

/-! ### Building quantities -/

/-- A quantity of `micros` millionths, if that number is in the range. -/
def ofMicros? (micros : Int) : Option Quantity :=
  if h : Fits64 micros then some ⟨micros, h⟩ else none

/-- The quantity nearest to `micros` millionths. -/
def clamped (micros : Int) : Quantity := ⟨clamp64 micros, fits64_clamp64 micros⟩

theorem ofMicros?_micros (q : Quantity) : ofMicros? q.micros = some q := by
  simp [ofMicros?, q.fits]

theorem ofMicros?_eq_some_iff {micros : Int} {q : Quantity} :
    ofMicros? micros = some q ↔ q.micros = micros := by
  constructor
  · intro h
    simp only [ofMicros?] at h
    split at h <;> simp_all
    exact (congrArg Quantity.micros h).symm
  · rintro rfl; exact ofMicros?_micros q

/-- Nothing of the quantity measured. -/
def zero : Quantity := ⟨0, by decide⟩

/-- The quantity `whole + micros / 1000000`.  The whole part is brought to millionths first and
stops at the end of the range, and so does the sum. -/
def ofParts (whole micros : Int) : Quantity :=
  clamped (clamp64 (whole * microsPerUnit) + micros)

/-- A whole number of units. -/
def ofWhole (whole : Int) : Quantity := ofParts whole 0

/-! ### Order -/

/-- The order of quantities is the order of their millionths. -/
instance : LE Quantity := ⟨fun p q => p.micros ≤ q.micros⟩

instance : LT Quantity := ⟨fun p q => p.micros < q.micros⟩

instance (p q : Quantity) : Decidable (p ≤ q) := inferInstanceAs (Decidable (p.micros ≤ q.micros))

instance (p q : Quantity) : Decidable (p < q) := inferInstanceAs (Decidable (p.micros < q.micros))

instance : Ord Quantity := ⟨fun p q => compare p.micros q.micros⟩

theorem le_iff_micros_le {p q : Quantity} : p ≤ q ↔ p.micros ≤ q.micros := Iff.rfl

theorem not_lt_iff_le {p q : Quantity} : ¬ p < q ↔ q ≤ p := Int.not_lt

/-! ### Taking quantities apart -/

/-- The greatest whole number of units that is not above the quantity. -/
def wholePart (q : Quantity) : Int := q.micros / microsPerUnit

/-- The millionths of the quantity above its whole part. -/
def fraction (q : Quantity) : Nat := (q.micros % microsPerUnit).toNat

def isNegative (q : Quantity) : Bool := q.micros < 0

theorem wholePart_fraction (q : Quantity) :
    q.wholePart * microsPerUnit + q.fraction = q.micros ∧ (q.fraction : Int) < microsPerUnit := by
  simp only [wholePart, fraction, microsPerUnit]
  omega

/-! ### Floating point numbers -/

def toFloat (q : Quantity) : Float := Float.ofInt q.micros / Float.ofInt microsPerUnit

/-- The quantity nearest to a floating point number. -/
def ofFloat? (x : Float) : Option Quantity := do
  let micros ← nearestInt? (x * Float.ofInt microsPerUnit)
  ofMicros? micros

/-! ### Writing -/

/-- A text without its trailing zeros. -/
def dropTrailingZeros (digits : List Char) : List Char :=
  (digits.reverse.dropWhile (· = '0')).reverse

/-- A number of millionths below a whole unit, as it stands after the whole part. -/
def renderFraction (fraction : Nat) : List Char :=
  if fraction = 0 then []
  else '.' :: dropTrailingZeros (List.leftpad fractionDigits '0' (Nat.toDigits 10 fraction))

/-- A quantity in decimal. -/
def render (q : Quantity) : List Char :=
  let magnitude := q.micros.natAbs
  let unit := microsPerUnit.toNat
  (if q.isNegative then ['-'] else []) ++ Nat.toDigits 10 (magnitude / unit) ++
    renderFraction (magnitude % unit)

def text (q : Quantity) : String := String.ofList q.render

instance : ToString Quantity := ⟨text⟩

/-! ### Reading -/

/-- The reasons a text is no quantity. -/
inductive TextFault where
  /-- There is no digit and no point with a digit beside it. -/
  | empty
  /-- There is something other than a digit where a digit belongs. -/
  | malformed
  /-- There are more digits after the point than a quantity holds. -/
  | tooFine
  /-- The number is outside the range of quantities. -/
  | tooLarge
deriving DecidableEq, Repr

/-- What is said about a text that is no quantity; the text is shown in quotes. -/
def TextFault.message (fault : TextFault) (text : String) : String :=
  let reason := match fault with
    | .empty => "empty number"
    | .malformed => "invalid number"
    | .tooFine => "more than " ++ toString fractionDigits ++ " fractional digits"
    | .tooLarge => "number too large"
  reason ++ ": " ++ quoted text

/-- The sign in front of a number, and what follows it.  The flag is set for a minus sign. -/
def splitSign : List Char → Bool × List Char
  | '-' :: rest => (true, rest)
  | '+' :: rest => (false, rest)
  | rest => (false, rest)

/-- What stands before the first point and what stands after it. -/
def splitPoint (body : List Char) : List Char × List Char :=
  (body.takeWhile (· ≠ '.'), (body.dropWhile (· ≠ '.')).drop 1)

/-- The millionths that digits before and after the point stand for. -/
def decimalMicros (whole fraction : List Char) : Nat :=
  Nat.ofDigitChars 10 whole 0 * microsPerUnit.toNat +
    Nat.ofDigitChars 10 (List.rightpad fractionDigits '0' fraction) 0

/-- The quantity that a text without white space around it stands for. -/
def readTrimmed (text : List Char) : Except TextFault Quantity :=
  let (negative, body) := splitSign text
  let (whole, fraction) := splitPoint body
  if whole = [] ∧ fraction = [] then .error .empty
  else if ¬(whole ++ fraction).all Char.isDigit then .error .malformed
  else if fractionDigits < fraction.length then .error .tooFine
  else
    let magnitude : Int := decimalMicros whole fraction
    if h : magnitude ≤ max64 then
      .ok ⟨if negative then -magnitude else magnitude, by
        simp only [Fits64, min64, max64] at *; split <;> omega⟩
    else .error .tooLarge

/-- The quantity that a text stands for. -/
def read (text : List Char) : Except TextFault Quantity := readTrimmed (trimBlank text)

/-- The quantity that a text stands for, or what is wrong with the text. -/
def parse (text : String) : Except String Quantity :=
  (read text.toList).mapError (·.message text)

end Quantity

end DeviceProperty
