/-
**Checking a format.**

The numbers of a format are written down by hand, and they have to agree with one another: the
domain and the reserved codes must fit the field, reserved ranges must keep clear of the domain,
and a sentinel must be the only meaning of its code.  The check reports every disagreement, in the
order of the fields; a width that no field has is reported alone, since nothing else can be judged.

Main definitions:

* `DeviceProperty.TableFault` — a disagreement, and its wording;
* `DeviceProperty.Format.tableFaults` — all disagreements of a format.
-/

import DeviceProperty.Format.Basic

set_option relaxedAutoImplicit false
set_option autoImplicit false

namespace DeviceProperty

/-- The widest field of a record. -/
def maxFieldBits : Nat := 32

/-- The largest decimal exponent in absolute value. -/
def maxDecimalExponent : Nat := 18

/-- The largest binary exponent in absolute value. -/
def maxBinaryExponent : Nat := 62

/-! ### Disagreements -/

/-- A disagreement among the numbers of a format. -/
inductive TableFault where
  | unsupportedWidth (bits : Nat)
  | exponentOutOfRange
  | multiplierNotPositive
  | emptyDomain
  | domainExceedsWidth
  | malformedInvalidRange (range : CodeRange)
  | invalidRangeOverlapsDomain (range : CodeRange)
  | sentinelExceedsWidth (code : Int)
  | sentinelInvalid (code : Int)
  | duplicateSentinel (code : Int)
  | policyWithoutSentinel (state : State)
deriving DecidableEq, Repr

/-- A range of codes, in a message about it. -/
def CodeRange.text (range : CodeRange) : String :=
  "RawRange \x7b start: " ++ toString range.first ++ ", end: " ++ toString range.last ++ " \x7d"

/-- What is said about a disagreement. -/
def TableFault.message : TableFault → String
  | unsupportedWidth bits => "unsupported width " ++ toString bits ++ " bits"
  | exponentOutOfRange => "exponent out of supported range"
  | multiplierNotPositive => "multiplier must be positive"
  | emptyDomain => "empty domain"
  | domainExceedsWidth => "domain exceeds field width"
  | malformedInvalidRange range => "malformed invalid range " ++ range.text
  | invalidRangeOverlapsDomain range => "invalid range " ++ range.text ++ " overlaps domain"
  | sentinelExceedsWidth code => "sentinel " ++ toString code ++ " exceeds field width"
  | sentinelInvalid code => "sentinel " ++ toString code ++ " is also invalid"
  | duplicateSentinel code => "duplicate sentinel " ++ toString code
  | policyWithoutSentinel state => "out-of-range policy needs a " ++ state.word ++ " sentinel"

/-! ### The check -/

namespace Format

/-- A fault, reported if a condition holds. -/
def whenever (condition : Bool) (fault : TableFault) : List TableFault :=
  if condition then [fault] else []

/-- The faults of a reserved range. -/
def rangeFaults (format : Format) (range : CodeRange) : List TableFault :=
  whenever (range.last < range.first || !format.width.fits range.first ||
      !format.width.fits range.last) (.malformedInvalidRange range) ++
    whenever (range.first ≤ format.maxCode && format.minCode ≤ range.last)
      (.invalidRangeOverlapsDomain range)

/-- The faults of a sentinel. -/
def sentinelFaults (format : Format) (sentinel : Sentinel) : List TableFault :=
  whenever (!format.width.fits sentinel.code) (.sentinelExceedsWidth sentinel.code) ++
    whenever (format.isInvalidCode sentinel.code) (.sentinelInvalid sentinel.code) ++
    whenever (1 < format.sentinels.countP (·.code = sentinel.code))
      (.duplicateSentinel sentinel.code)

/-- The faults of the policy. -/
def policyFaults (format : Format) : List TableFault :=
  match format.outOfRange with
  | .reject => []
  | .sentinel state => whenever (format.sentinelCode? state).isNone (.policyWithoutSentinel state)

/-- The faults of the scale and the domain. -/
def domainFaults (format : Format) : List TableFault :=
  whenever (maxDecimalExponent < format.decimalExponent.natAbs ||
      maxBinaryExponent < format.binaryExponent.natAbs) .exponentOutOfRange ++
    whenever (format.multiplier.num = 0 || format.multiplier.den = 0) .multiplierNotPositive ++
    whenever (format.maxCode < format.minCode) .emptyDomain ++
    whenever (!format.width.fits format.minCode || !format.width.fits format.maxCode)
      .domainExceedsWidth

/-- Every disagreement among the numbers of a format; none in a consistent one. -/
def tableFaults (format : Format) : List TableFault :=
  if format.width.bits = 0 ∨ maxFieldBits < format.width.bits then
    [.unsupportedWidth format.width.bits]
  else
    format.domainFaults ++ format.invalid.flatMap format.rangeFaults ++
      format.sentinels.flatMap format.sentinelFaults ++ format.policyFaults

/-- The disagreements in words, each after the name of the format. -/
def tableMessages (format : Format) : List String :=
  format.tableFaults.map fun fault => format.name ++ ": " ++ fault.message

end Format

end DeviceProperty
