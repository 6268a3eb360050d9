/-
**Sensor descriptors.**

A descriptor tells how a sensor measures a property.  Its record has eight bytes, read as one range
of bits: the identifier of the property, two tolerances of twelve bits each, the sampling function,
the measurement period and the update interval.  A sensor that does not have the property answers
with the identifier alone.

A period is given by one byte: the code `n` stands for `1.1 ^ (n - 64)` seconds, and the code `0`
says that there is no period.  A period as long as a given duration is coded by the nearest of the
codes from `1` to `254`; a tie goes to the lower code.

Main definitions:

* `DeviceProperty.Sampling`, `DeviceProperty.Sampling.ofCode` — sampling functions by their codes;
* `DeviceProperty.Duration` — a length of time in nanoseconds;
* `DeviceProperty.Period`, `DeviceProperty.Period.seconds`, `DeviceProperty.Period.ofDuration` — a
  code, what it stands for, and the code of a duration;
* `DeviceProperty.SensorBody`, `DeviceProperty.SensorDescriptor` — a descriptor;
* `DeviceProperty.SensorDescriptor.encode`, `DeviceProperty.SensorDescriptor.decode` — its record.
-/

import DeviceProperty.Format.Catalogue
import DeviceProperty.Format.Codec
import DeviceProperty.Number.Float
import DeviceProperty.Reading.Document
import DeviceProperty.Wire

set_option relaxedAutoImplicit false
set_option autoImplicit false

namespace DeviceProperty

/-! ### Sampling functions -/

/-- How a sensor derives the value that it reports. -/
inductive Sampling where
  | unspecified
  | instantaneous
  | arithmeticMean
  | rms
  | maximum
  | minimum
  | accumulated
  | count
deriving DecidableEq, Repr

namespace Sampling

/-- The code of a sampling function. -/
def code : Sampling → UInt8
  | unspecified => 0
  | instantaneous => 1
  | arithmeticMean => 2
  | rms => 3
  | maximum => 4
  | minimum => 5
  | accumulated => 6
  | count => 7

def word : Sampling → String
  | unspecified => "unspecified"
  | instantaneous => "instantaneous"
  | arithmeticMean => "arithmetic_mean"
  | rms => "rms"
  | maximum => "maximum"
  | minimum => "minimum"
  | accumulated => "accumulated"
  | count => "count"

/-- Every sampling function, in the order of the codes. -/
def all : List Sampling :=
  [unspecified, instantaneous, arithmeticMean, rms, maximum, minimum, accumulated, count]

/-- The sampling function of a code. -/
def ofCode (code : UInt8) : Except Fault Sampling :=
  match all.find? (·.code = code) with
  | some sampling => .ok sampling
  | none => .error (.reservedCode code.toNat)

@[simp] theorem ofCode_code (sampling : Sampling) : ofCode sampling.code = .ok sampling := by
  cases sampling <;> rfl

theorem ofCode_eq_ok_iff {code : UInt8} {sampling : Sampling} :
    ofCode code = .ok sampling ↔ sampling.code = code := by
  constructor
  · intro h
    simp only [ofCode] at h
    split at h
    · next found hfind =>
        cases h
        simpa using List.find?_some hfind
    · simp at h
  · rintro rfl; exact ofCode_code sampling

end Sampling

/-! ### Durations -/

def nanosPerSecond : Nat := 1000000000

/-- A length of time. -/
structure Duration where
  nanoseconds : Nat
deriving DecidableEq, Repr

namespace Duration

/-- A number of seconds and further nanoseconds. -/
def ofParts (seconds nanoseconds : Nat) : Duration := ⟨seconds * nanosPerSecond + nanoseconds⟩

def wholeSeconds (duration : Duration) : Nat := duration.nanoseconds / nanosPerSecond

/-- The nanoseconds above the whole seconds. -/
def subsecond (duration : Duration) : Nat := duration.nanoseconds % nanosPerSecond

/-- The milliseconds above the whole seconds. -/
def subsecondMillis (duration : Duration) : Nat := duration.subsecond / 1000000

/-- The duration nearest to a number of seconds, ties to the even nanosecond.  A negative number,
or one that is not finite, has no duration and counts as none. -/
def ofSeconds (seconds : Float) : Duration :=
  match FloatValue.ofFloat seconds with
  | .finite false mantissa exponent =>
      let (num, den) := FloatValue.magnitude mantissa exponent
      ⟨roundDivEven (num * nanosPerSecond) den⟩
  | _ => ⟨0⟩

def toSeconds (duration : Duration) : Float :=
  Float.ofNat duration.wholeSeconds + Float.ofNat duration.subsecond / Float.ofNat nanosPerSecond

end Duration

/-! ### Periods -/

/-- The code of a period. -/
structure Period where
  code : UInt8
deriving DecidableEq, Repr

namespace Period

def notApplicable : Period := ⟨0⟩

def isApplicable (period : Period) : Bool := period.code ≠ 0

/-- The code of one second. -/
def bias : Int := 64

/-- The largest code that is given to a duration. -/
def maxCode : Nat := 254

/-- The length of a period in seconds. -/
def seconds (period : Period) : Float :=
  if period.isApplicable then intPower 1.1 (period.code.toNat - bias) else 0

def duration (period : Period) : Duration := Duration.ofSeconds period.seconds

/-- How far the length of a period is from a number of seconds. -/
def distance (period : Period) (target : Float) : Float := (period.seconds - target).abs

/-- Of two periods the one nearer to a number of seconds, and the first one of two equally near. -/
def nearer (target : Float) (first second : Period) : Period :=
  if second.distance target < first.distance target then second else first

/-- The period nearest to a duration. -/
def ofDuration (duration : Duration) : Period :=
  if duration.nanoseconds = 0 then notApplicable
  else
    let codes := (List.range (maxCode - 1)).map fun n => (⟨UInt8.ofNat (n + 2)⟩ : Period)
    codes.foldl (nearer duration.toSeconds) ⟨1⟩

end Period

/-! ### Descriptors -/

/-- How a sensor measures a property.  Tolerances are percentages. -/
structure SensorBody where
  positiveTolerance : Quantity
  negativeTolerance : Quantity
  sampling : Sampling
  measurementPeriod : Period
  updateInterval : Period
deriving DecidableEq, Repr

/-- The descriptor of one property of a sensor, without a body if the sensor does not have it. -/
structure SensorDescriptor where
  propertyId : UInt16
  body : Option SensorBody
deriving DecidableEq, Repr

/-! ### Tolerances -/

/-- The code of a tolerance. -/
def encodeTolerance (percent : Quantity) : Except Fault Nat :=
  (Format.tolerance.encode (.normal percent)).map Int.toNat

/-- The tolerance of a code. -/
def decodeTolerance (code : Nat) : Except Fault Quantity :=
  match Format.tolerance.decode code with
  | .ok (.normal percent) => .ok percent
  | .ok _ => .error (.reservedCode code)
  | .error fault => .error fault

namespace SensorDescriptor

/-! ### The record -/

/-- The bytes of a descriptor with a body. -/
def fullLength : Nat := 8

/-- The bytes of a descriptor without a body. -/
def shortLength : Nat := 2

/-- The first bit of the property identifier, which has 16. -/
def idBit : UInt16 := 0

/-- The first bit of the positive tolerance, which has twelve. -/
def positiveBit : UInt16 := 16

/-- The first bit of the negative tolerance, which has twelve. -/
def negativeBit : UInt16 := 28

/-- The first bit of the sampling function, which has eight. -/
def samplingBit : UInt16 := 40

/-- The first bit of the measurement period, which has eight. -/
def periodBit : UInt16 := 48

/-- The first bit of the update interval, which has eight. -/
def intervalBit : UInt16 := 56

/-- The record of a descriptor. -/
def encode (descriptor : SensorDescriptor) : Except Fault (List UInt8) :=
  let id := descriptor.propertyId.toNat
  match descriptor.body with
  | none => .ok (bytesOfNat shortLength id)
  | some body => do
      let positive ← (encodeTolerance body.positiveTolerance).mapError
        (.inChannel 1 "positive_tolerance")
      let negative ← (encodeTolerance body.negativeTolerance).mapError
        (.inChannel 2 "negative_tolerance")
      let blank := List.replicate fullLength (0 : UInt8)
      let record := insertBits blank idBit 16 id
      let record := insertBits record positiveBit 12 positive
      let record := insertBits record negativeBit 12 negative
      let record := insertBits record samplingBit 8 body.sampling.code.toNat
      let record := insertBits record periodBit 8 body.measurementPeriod.code.toNat
      return insertBits record intervalBit 8 body.updateInterval.code.toNat

/-- The body of a descriptor from its record. -/
def decodeBody (record : List UInt8) : Except Fault SensorBody := do
  let positiveTolerance ← (decodeTolerance (extractBits record positiveBit 12)).mapError
    (.inChannel 1 "positive_tolerance")
  let negativeTolerance ← (decodeTolerance (extractBits record negativeBit 12)).mapError
    (.inChannel 2 "negative_tolerance")
  let sampling ← (Sampling.ofCode (UInt8.ofNat (extractBits record samplingBit 8))).mapError
    (.inChannel 3 "sampling")
  return {
    positiveTolerance
    negativeTolerance
    sampling
    measurementPeriod := ⟨UInt8.ofNat (extractBits record periodBit 8)⟩
    updateInterval := ⟨UInt8.ofNat (extractBits record intervalBit 8)⟩ }

/-- The descriptor of a record. -/
def decode (record : List UInt8) : Except Fault SensorDescriptor :=
  let propertyId := UInt16.ofNat (extractBits record idBit 16)
  if record.length = shortLength then .ok ⟨propertyId, none⟩
  else if record.length = fullLength then
    (decodeBody record).map fun body => ⟨propertyId, some body⟩
  else .error (.wrongLength fullLength record.length)

/-! ### Documents -/

/-- A body, member by member. -/
def bodyDocument (body : SensorBody) : Document :=
  .object [
    ("positive_tolerance", body.positiveTolerance.toDocument),
    ("negative_tolerance", body.negativeTolerance.toDocument),
    ("sampling", .string body.sampling.word),
    ("measurement_period", .ofNat body.measurementPeriod.code.toNat),
    ("update_interval", .ofNat body.updateInterval.code.toNat)]

def toDocument (descriptor : SensorDescriptor) : Document :=
  .object [
    ("property_id", .ofNat descriptor.propertyId.toNat),
    ("body", (descriptor.body.map bodyDocument).getD .null)]

end SensorDescriptor

end DeviceProperty
