/-
**Floating point numbers, exactly.**

A 64-bit floating point word is a sign, eleven bits of exponent and fifty-two bits of fraction.
Everything this library says about such a word is computed from the exact value
`± mantissa * 2 ^ exponent`, so that nothing depends on how a text is produced elsewhere.

Two texts are written.  Scientific notation has a fixed number of places, rounded once, with a tie
going to the even digit.  The shortest decimal is the one with the fewest digits inside the interval
of real numbers that round to the word, and of those the one nearest to the exact value; the search
compares exact fractions and tries one digit, two digits and so on, and seventeen always suffice.

Main definitions:

* `DeviceProperty.FloatValue`, `DeviceProperty.FloatValue.ofFloat` — a word, taken apart;
* `DeviceProperty.nearestInt?` — the nearest integer, ties away from zero;
* `DeviceProperty.intPower` — a power with an integer exponent, by repeated squaring;
* `DeviceProperty.scientific` — scientific notation;
* `DeviceProperty.Grid.hit?` — the multiple of a power of ten nearest to a word, if it reads back;
* `DeviceProperty.shortestDecimal`, `DeviceProperty.shortestText` — the shortest decimal.
-/

import DeviceProperty.Number.Basic

set_option relaxedAutoImplicit false
set_option autoImplicit false

namespace DeviceProperty

/-- A floating point word taken apart.  A finite word stands for `± mantissa * 2 ^ exponent`. -/
inductive FloatValue where
  | nan
  | infinite (negative : Bool)
  | finite (negative : Bool) (mantissa : Nat) (exponent : Int)
deriving Repr, DecidableEq

namespace FloatValue

/-! ### Taking a word apart -/

/-- The bits of the fraction. -/
def fractionBits : Nat := 52

/-- The exponent of the smallest positive word, and of every word without a leading bit. -/
def leastExponent : Int := -1074

/-- The sign, fraction and exponent of a floating point word.  The exponent field `0` marks words
without a leading bit, the field of all ones the infinities and the words that are no number. -/
def ofFloat (x : Float) : FloatValue :=
  let bits := x.toBits.toNat
  let negative := bits.testBit 63
  let field := bits / twoPow fractionBits % 2048
  let fraction := bits % twoPow fractionBits
  if field = 2047 then
    if fraction = 0 then .infinite negative else .nan
  else if field = 0 then .finite negative fraction leastExponent
  else .finite negative (fraction + twoPow fractionBits) (leastExponent + (field - 1 : Nat))

/-- The fraction `mantissa * 2 ^ exponent` as numerator and denominator. -/
def magnitude (mantissa : Nat) (exponent : Int) : Nat × Nat :=
  (mantissa * twoPow exponent.toNat, twoPow (-exponent).toNat)

end FloatValue

/-! ### The nearest integer -/

/-- The integer nearest to a finite word, ties away from zero. -/
def nearestInt? (x : Float) : Option Int :=
  match FloatValue.ofFloat x with
  | .finite negative mantissa exponent =>
      let (num, den) := FloatValue.magnitude mantissa exponent
      some (if negative then -roundDiv num den else roundDiv num den)
  | _ => none

/-! ### Powers -/

/-- `result * x ^ n` by squaring `x` once for every binary digit of `n`. -/
def squarePower (x : Float) (n : Nat) (result : Float) : Float :=
  if n = 0 then result
  else squarePower (x * x) (n / 2) (if n % 2 = 1 then result * x else result)
termination_by n
decreasing_by omega

/-- `x ^ n`.  A negative power is the reciprocal of the positive one. -/
def intPower (x : Float) (n : Int) : Float :=
  let power := squarePower x n.natAbs 1
  if n < 0 then 1 / power else power

/-! ### Scientific notation -/

/-- The integer `e` with `10 ^ e ≤ num / den < 10 ^ (e + 1)`, for a positive fraction. -/
def decimalExponent (num den : Nat) : Int :=
  if den ≤ num then (Nat.toDigits 10 (num / den)).length - 1
  else -((Nat.toDigits 10 ((den - 1) / num)).length : Int)

/-- `num / den` times `10 ^ shift`, rounded to a natural number, ties to even. -/
def shiftedDecimal (num den : Nat) (shift : Int) : Nat :=
  roundDivEven (num * tenPow shift.toNat) (den * tenPow (-shift).toNat)

/-- The digits of a fraction with `places` of them after the first, and the exponent of the first.
Rounding up to a power of ten moves the exponent. -/
def significant (places num den : Nat) : Nat × Int :=
  let exponent := decimalExponent num den
  let digits := shiftedDecimal num den (places - exponent)
  if digits = tenPow (places + 1) then (tenPow places, exponent + 1) else (digits, exponent)

/-- A whole number of `places + 1` digits with a point after the first. -/
def pointAfterFirst (digits : Nat) : List Char :=
  match Nat.toDigits 10 digits with
  | first :: second :: rest => first :: '.' :: second :: rest
  | short => short

/-- Scientific notation with `places` digits after the point: `1.52587891e-5`.  Zero has the
exponent `0`, and the words that are not finite are `inf` and `NaN`. -/
def scientific (places : Nat) (x : Float) : String :=
  let signed (negative : Bool) (text : String) : String := if negative then "-" ++ text else text
  match FloatValue.ofFloat x with
  | .nan => "NaN"
  | .infinite negative => signed negative "inf"
  | .finite negative 0 _ =>
      signed negative (String.ofList ('0' :: '.' :: List.replicate places '0') ++ "e0")
  | .finite negative mantissa exponent =>
      let (num, den) := FloatValue.magnitude mantissa exponent
      let (digits, power) := significant places num den
      signed negative (String.ofList (pointAfterFirst digits) ++ "e" ++ toString power)

/-! ### Multiples of a power of ten -/

/-- A positive word measured against the multiples of `10 ^ power`.  The word is `value / unit` of
them, and the numbers that round to it lie from `low / unit` to `high / unit`, ends included when
`closed`. -/
structure Grid where
  power : Int
  unit : Nat
  value : Nat
  low : Nat
  high : Nat
  closed : Bool

namespace Grid

/-- The multiples of `10 ^ power` as seen from `mantissa * 2 ^ exponent`.  Half the gap to the
next word belongs to this word on both sides, except that the gap below a power of two is only
half as wide.  All lengths are in quarters of a unit of the last place. -/
def of (mantissa : Nat) (exponent power : Int) : Grid :=
  let quarter := exponent - 2
  let scale := twoPow quarter.toNat * tenPow (-power).toNat
  let below :=
    if mantissa = twoPow FloatValue.fractionBits ∧ FloatValue.leastExponent < exponent then 1 else 2
  { power
    unit := tenPow power.toNat * twoPow (-quarter).toNat
    value := 4 * mantissa * scale
    low := (4 * mantissa - below) * scale
    high := (4 * mantissa + 2) * scale
    closed := mantissa % 2 = 0 }

/-- Whether the `n`-th multiple reads back as the word. -/
def readsBack (g : Grid) (n : Nat) : Bool :=
  if g.closed then g.low ≤ n * g.unit && n * g.unit ≤ g.high
  else g.low < n * g.unit && n * g.unit < g.high

/-- The multiple nearest to the word among those that read back; only the two neighbours of the
word can be it. -/
def hit? (g : Grid) : Option Nat :=
  let below := g.value / g.unit
  match g.readsBack below, g.readsBack (below + 1) with
  | true, true => some (roundDivEven g.value g.unit)
  | true, false => some below
  | false, true => some (below + 1)
  | false, false => none

end Grid

/-! ### The shortest decimal -/

/-- Digits and exponent of the shortest decimal of `mantissa * 2 ^ exponent`, for a positive
mantissa.  The search starts one place above the first digit, where the only candidate is the next
power of ten. -/
def shortestDecimal (mantissa : Nat) (exponent : Int) : Nat × Int :=
  let (num, den) := FloatValue.magnitude mantissa exponent
  let first := decimalExponent num den
  let attempt (more : Nat) : Option (Nat × Int) :=
    let power := first + 1 - more
    (Grid.of mantissa exponent power).hit?.map fun digits => (digits, power)
  ((List.range 18).findSome? attempt).getD (0, 0)

/-! ### Two notations -/

/-- `digits * 10 ^ power` written out, with at least one digit on each side of the point: `1.5`,
`100.0`, `0.00001`. -/
def positional (digits : Nat) (power : Int) : List Char :=
  let text := Nat.toDigits 10 digits
  if 0 ≤ power then text ++ List.replicate power.toNat '0' ++ ['.', '0']
  else
    let places := (-power).toNat
    let padded := List.leftpad (places + 1) '0' text
    padded.take (padded.length - places) ++ '.' :: padded.drop (padded.length - places)

/-- An exponent with its sign, which is never left out: `+16`, `-6`. -/
def signedExponent (exponent : Int) : List Char :=
  (if exponent < 0 then '-' else '+') :: Nat.toDigits 10 exponent.natAbs

/-- The decimal of these `digits` with the first of them worth `10 ^ place`, as one digit, the
others after a point, and the place: `1.5e-6`.  A single digit has no point: `1e+16`. -/
def exponential (digits : Nat) (place : Int) : List Char :=
  pointAfterFirst digits ++ 'e' :: signedExponent place

/-- Whether a number is written out when its first digit is worth `10 ^ place`: from a hundred
thousandth up to, but not including, ten quadrillions. -/
def isWrittenOut (place : Int) : Bool := -5 ≤ place && place < 16

/-- `digits * 10 ^ power` in the notation that the place of its first digit calls for. -/
def decimalText (digits : Nat) (power : Int) : List Char :=
  let place := power + (Nat.toDigits 10 digits).length - 1
  if isWrittenOut place then positional digits power else exponential digits place

/-- The shortest text of a floating point number that reads back, with a sign for every negative
number, zero included: `1.5`, `-0.0`, `1e+16`. -/
def shortestText (x : Float) : String :=
  let signed (negative : Bool) (text : List Char) : String :=
    String.ofList (if negative then '-' :: text else text)
  match FloatValue.ofFloat x with
  | .nan => "NaN"
  | .infinite negative => signed negative "inf".toList
  | .finite negative 0 _ => signed negative ['0', '.', '0']
  | .finite negative mantissa exponent =>
      let (digits, power) := shortestDecimal mantissa exponent
      signed negative (decimalText digits power)

end DeviceProperty
