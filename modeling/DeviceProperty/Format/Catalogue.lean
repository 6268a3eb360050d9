/-
**The formats of the device property catalogue.**

One format for every kind of measurement that a device property carries, and the format of the
tolerances in a sensor descriptor.  The comments give the unit and the step of a format where the
name does not.

Main definitions:

* `DeviceProperty.Format.catalogue` — every format, in catalogue order;
* `DeviceProperty.Format.byName?` — the format of a name, with its place in the catalogue.
-/

import DeviceProperty.Format.Basic

set_option relaxedAutoImplicit false
set_option autoImplicit false

namespace DeviceProperty

namespace Format

/-! ### Common reserved codes -/

/-- The largest code of an unsigned field stands for an unknown value. -/
def topUnknown (bits : Nat) : List Sentinel := [⟨twoPow bits - 1, .unknown⟩]

/-- The largest code of an unsigned field stands for a saturated value. -/
def topSaturated (bits : Nat) : List Sentinel := [⟨twoPow bits - 1, .saturated⟩]

/-- The two largest codes of an unsigned field stand for a saturated and an unknown value. -/
def topSaturatedUnknown (bits : Nat) : List Sentinel :=
  [⟨twoPow bits - 2, .saturated⟩, ⟨twoPow bits - 1, .unknown⟩]

/-! ### Shares, truth values, counts -/

/-- A percentage in steps of one half. -/
def percentage8 : Format :=
  { plain "percentage_8" (.unsigned 8) with
    binaryExponent := -1
    maxCode := 200
    invalid := [⟨201, 254⟩]
    sentinels := topUnknown 8 }

def boolean : Format :=
  { plain "boolean" (.unsigned 8) with
    maxCode := 1
    invalid := [⟨2, 255⟩] }

/-- A count up to 65534. -/
def count16 : Format :=
  { plain "count_16" (.unsigned 16) with
    maxCode := 0xFFFE
    sentinels := topUnknown 16 }

/-- A count up to 16777214. -/
def count24 : Format :=
  { plain "count_24" (.unsigned 24) with
    maxCode := 0xFFFFFE
    sentinels := topUnknown 24 }

/-- A level without a unit. -/
def genericLevel : Format := plain "generic_level" (.unsigned 16)

/-- A perceived lightness without a unit. -/
def perceivedLightness : Format := plain "perceived_lightness" (.unsigned 16)

/-! ### Time -/

def timeSecond16 : Format :=
  { plain "time_second_16" (.unsigned 16) with
    maxCode := 0xFFFE
    sentinels := topUnknown 16 }

def timeHour24 : Format :=
  { plain "time_hour_24" (.unsigned 24) with
    maxCode := 0xFFFFFE
    sentinels := topUnknown 24 }

/-- A time of day in tenths of an hour. -/
def timeDecihour8 : Format :=
  { plain "time_decihour_8" (.unsigned 8) with
    decimalExponent := -1
    maxCode := 240
    invalid := [⟨241, 254⟩]
    sentinels := topUnknown 8 }

/-- A time in milliseconds. -/
def timeMillisecond24 : Format :=
  { plain "time_millisecond_24" (.unsigned 24) with
    decimalExponent := -3
    maxCode := 0xFFFFFE
    sentinels := topUnknown 24 }

/-! ### Light -/

/-- A coordinate of a colour, in steps of a 65536th. -/
def chromaticityCoordinate : Format :=
  { plain "chromaticity_coordinate" (.unsigned 16) with
    binaryExponent := -16 }

/-- An illuminance in hundredths of a lux. -/
def illuminance : Format :=
  { plain "illuminance" (.unsigned 24) with
    decimalExponent := -2
    maxCode := 0xFFFFFE
    sentinels := topSaturated 24 }

/-- A colour temperature in kelvins, from 800 on. -/
def correlatedColorTemperature : Format :=
  { plain "correlated_color_temperature" (.unsigned 16) with
    minCode := 800
    maxCode := 0xFFFE
    invalid := [⟨0, 799⟩]
    sentinels := topUnknown 16 }

/-- A luminous flux in lumens. -/
def luminousFlux : Format :=
  { plain "luminous_flux" (.unsigned 16) with
    maxCode := 0xFFFE
    sentinels := topUnknown 16 }

/-- A distance from the Planckian locus, up to 0.05 to either side, in steps of a hundred
thousandth.  The code `-1` stands for an unknown value although it lies in the domain. -/
def chromaticDistance : Format :=
  { plain "chromatic_distance" (.twosComplement 16) with
    decimalExponent := -5
    minCode := -5000
    maxCode := 5000
    invalid := [⟨-32768, -5001⟩, ⟨5001, 32767⟩]
    sentinels := [⟨-1, .unknown⟩] }

/-- A luminous efficacy in tenths of a lumen per watt, up to 1800. -/
def luminousEfficacy : Format :=
  { plain "luminous_efficacy" (.unsigned 16) with
    decimalExponent := -1
    maxCode := 18000
    invalid := [⟨18001, 0xFFFE⟩]
    sentinels := topUnknown 16 }

def luminousEnergy : Format :=
  { plain "luminous_energy" (.unsigned 24) with
    maxCode := 0xFFFFFE
    sentinels := topUnknown 24 }

def luminousExposure : Format :=
  { plain "luminous_exposure" (.unsigned 24) with
    maxCode := 0xFFFFFE
    sentinels := topUnknown 24 }

/-- A luminous intensity in candelas. -/
def luminousIntensity : Format :=
  { plain "luminous_intensity" (.unsigned 16) with
    maxCode := 0xFFFE
    sentinels := topUnknown 16 }

/-! ### Power and energy -/

/-- A power in tenths of a watt.  A quantity out of bounds, negative ones included, is written as
saturated, so encoding never refuses one. -/
def power : Format :=
  { plain "power" (.unsigned 24) with
    decimalExponent := -1
    maxCode := 0xFFFFFE
    sentinels := topSaturated 24
    outOfRange := .sentinel .saturated }

/-- An apparent power in tenths of a volt-ampere. -/
def apparentPower : Format :=
  { plain "apparent_power" (.unsigned 24) with
    decimalExponent := -1
    maxCode := 0xFFFFFD
    sentinels := topSaturatedUnknown 24 }

/-- An energy in kilowatt hours. -/
def energy : Format :=
  { plain "energy" (.unsigned 24) with
    maxCode := 0xFFFFFD
    sentinels := topSaturatedUnknown 24 }

/-- An energy in watt hours, as thousandths of a kilowatt hour. -/
def energy32 : Format :=
  { plain "energy_32" (.unsigned 32) with
    decimalExponent := -3
    maxCode := 0xFFFFFFFD
    sentinels := topSaturatedUnknown 32 }

/-- An apparent energy in thousandths of a kilovolt-ampere hour. -/
def apparentEnergy32 : Format :=
  { plain "apparent_energy_32" (.unsigned 32) with
    decimalExponent := -3
    maxCode := 0xFFFFFFFD
    sentinels := topSaturatedUnknown 32 }

/-- The cosine of a phase angle, in hundredths. -/
def cosOfTheAngle : Format :=
  { plain "cos_of_the_angle" (.twosComplement 8) with
    decimalExponent := -2
    minCode := -100
    maxCode := 100
    invalid := [⟨-128, -101⟩, ⟨101, 126⟩]
    sentinels := [⟨127, .unknown⟩] }

/-! ### Environment and electricity -/

/-- A temperature in halves of a degree Celsius. -/
def temperature8 : Format :=
  { plain "temperature_8" (.twosComplement 8) with
    binaryExponent := -1
    maxCode := 126
    sentinels := [⟨127, .unknown⟩] }

/-- A temperature in hundredths of a degree Celsius, not below absolute zero. -/
def temperature : Format :=
  { plain "temperature" (.twosComplement 16) with
    decimalExponent := -2
    minCode := -27315
    invalid := [⟨-32767, -27316⟩]
    sentinels := [⟨-32768, .unknown⟩] }

/-- A voltage in steps of a 64th of a volt, up to 1022. -/
def voltage : Format :=
  { plain "voltage" (.unsigned 16) with
    binaryExponent := -6
    maxCode := 65408
    invalid := [⟨65409, 0xFFFE⟩]
    sentinels := topUnknown 16 }

/-- A current in hundredths of an ampere. -/
def electricCurrent : Format :=
  { plain "electric_current" (.unsigned 16) with
    decimalExponent := -2
    maxCode := 0xFFFE
    sentinels := topUnknown 16 }

/-- A relative humidity in hundredths of a percent. -/
def humidity : Format :=
  { plain "humidity" (.unsigned 16) with
    decimalExponent := -2
    maxCode := 10000
    invalid := [⟨10001, 0xFFFE⟩]
    sentinels := topUnknown 16 }

/-- A concentration of carbon dioxide in parts per million. -/
def co2Concentration : Format :=
  { plain "co2_concentration" (.unsigned 16) with
    maxCode := 0xFFFD
    sentinels := topSaturatedUnknown 16 }

/-- A pressure in tenths of a pascal. -/
def pressure : Format :=
  { plain "pressure" (.unsigned 32) with
    decimalExponent := -1
    maxCode := 0xFFFFFFFE
    sentinels := topUnknown 32 }

/-! ### Sensor descriptors -/

/-- A tolerance of a sensor, in steps of a 4095th of the whole. -/
def tolerance : Format :=
  { plain "tolerance" (.unsigned 12) with
    multiplier := ⟨100, 4095⟩ }

/-! ### The catalogue -/

/-- Every format. -/
def catalogue : List Format := [
  percentage8, boolean, count16, count24, genericLevel, perceivedLightness, timeSecond16,
  timeHour24, timeDecihour8, timeMillisecond24, chromaticityCoordinate, illuminance,
  correlatedColorTemperature, luminousFlux, chromaticDistance, luminousEfficacy, luminousEnergy,
  luminousExposure, luminousIntensity, power, apparentPower, energy, energy32, apparentEnergy32,
  cosOfTheAngle, temperature8, temperature, voltage, electricCurrent, humidity, co2Concentration,
  pressure, tolerance]

/-- The format of a name, and its place in the catalogue. -/
def byName? (name : String) : Option (Nat × Format) := do
  let index ← catalogue.findIdx? (·.name = name)
  let format ← catalogue[index]?
  return (index, format)

end Format

end DeviceProperty
