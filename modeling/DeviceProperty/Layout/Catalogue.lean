/-
**The layouts of the device property catalogue.**

Records of several channels come first; beside them every format of the catalogue, the tolerance of
sensor descriptors apart, has a record of one channel under its own name.

Main definitions:

* `DeviceProperty.Layout.compounds` — the records of several channels;
* `DeviceProperty.Layout.singles` — the records of one channel;
* `DeviceProperty.Layout.byName?` — the layout of a name.
-/

import DeviceProperty.Format.Catalogue
import DeviceProperty.Layout.Codec

set_option relaxedAutoImplicit false
set_option autoImplicit false

namespace DeviceProperty

namespace Layout

/-! ### Records of several channels -/

/-- A colour as two coordinates. -/
def chromaticityCoordinates : Layout :=
  ⟨"chromaticity_coordinates", [
    ⟨"x", Format.chromaticityCoordinate⟩,
    ⟨"y", Format.chromaticityCoordinate⟩]⟩

def luminousFluxRange : Layout :=
  ⟨"luminous_flux_range", [
    ⟨"min", Format.luminousFlux⟩,
    ⟨"max", Format.luminousFlux⟩]⟩

def percentage8IlluminanceRange : Layout :=
  ⟨"percentage_8_illuminance_range", [
    ⟨"percentage", Format.percentage8⟩,
    ⟨"min", Format.illuminance⟩,
    ⟨"max", Format.illuminance⟩]⟩

/-- The bounds of a power and its typical value. -/
def powerSpecification : Layout :=
  ⟨"power_specification", [
    ⟨"min", Format.power⟩,
    ⟨"typical", Format.power⟩,
    ⟨"max", Format.power⟩]⟩

def energyInAPeriodOfDay : Layout :=
  ⟨"energy_in_a_period_of_day", [
    ⟨"energy", Format.energy⟩,
    ⟨"start_time", Format.timeDecihour8⟩,
    ⟨"end_time", Format.timeDecihour8⟩]⟩

def relativeRuntimeInAGenericLevelRange : Layout :=
  ⟨"relative_runtime_in_a_generic_level_range", [
    ⟨"percentage", Format.percentage8⟩,
    ⟨"min", Format.genericLevel⟩,
    ⟨"max", Format.genericLevel⟩]⟩

def percentage8TemperatureRange : Layout :=
  ⟨"percentage_8_temperature_range", [
    ⟨"percentage", Format.percentage8⟩,
    ⟨"min", Format.temperature⟩,
    ⟨"max", Format.temperature⟩]⟩

def percentage8CctRange : Layout :=
  ⟨"percentage_8_cct_range", [
    ⟨"percentage", Format.percentage8⟩,
    ⟨"min", Format.correlatedColorTemperature⟩,
    ⟨"max", Format.correlatedColorTemperature⟩]⟩

def percentage8CurrentRange : Layout :=
  ⟨"percentage_8_current_range", [
    ⟨"percentage", Format.percentage8⟩,
    ⟨"min", Format.electricCurrent⟩,
    ⟨"max", Format.electricCurrent⟩]⟩

def percentage8VoltageRange : Layout :=
  ⟨"percentage_8_voltage_range", [
    ⟨"percentage", Format.percentage8⟩,
    ⟨"min", Format.voltage⟩,
    ⟨"max", Format.voltage⟩]⟩

def temperatureRange : Layout :=
  ⟨"temperature_range", [
    ⟨"min", Format.temperature⟩,
    ⟨"max", Format.temperature⟩]⟩

def currentRange : Layout :=
  ⟨"current_range", [
    ⟨"min", Format.electricCurrent⟩,
    ⟨"max", Format.electricCurrent⟩]⟩

def voltageRange : Layout :=
  ⟨"voltage_range", [
    ⟨"min", Format.voltage⟩,
    ⟨"max", Format.voltage⟩]⟩

/-- The bounds of a voltage and its typical value. -/
def voltageSpecification : Layout :=
  ⟨"voltage_specification", [
    ⟨"min", Format.voltage⟩,
    ⟨"typical", Format.voltage⟩,
    ⟨"max", Format.voltage⟩]⟩

/-- The bounds of a current and its typical value. -/
def currentSpecification : Layout :=
  ⟨"current_specification", [
    ⟨"min", Format.electricCurrent⟩,
    ⟨"typical", Format.electricCurrent⟩,
    ⟨"max", Format.electricCurrent⟩]⟩

def temperature8InAPeriodOfDay : Layout :=
  ⟨"temperature_8_in_a_period_of_day", [
    ⟨"temperature", Format.temperature8⟩,
    ⟨"start_time", Format.timeDecihour8⟩,
    ⟨"end_time", Format.timeDecihour8⟩]⟩

/-! ### The catalogue -/

/-- The records of several channels. -/
def compounds : List Layout := [
  chromaticityCoordinates, luminousFluxRange, percentage8IlluminanceRange, powerSpecification,
  energyInAPeriodOfDay, relativeRuntimeInAGenericLevelRange, percentage8TemperatureRange,
  percentage8CctRange, percentage8CurrentRange, percentage8VoltageRange, temperatureRange,
  currentRange, voltageRange, voltageSpecification, currentSpecification,
  temperature8InAPeriodOfDay]

/-- The records of one channel. -/
def singles : List Layout :=
  (Format.catalogue.filter (· ≠ Format.tolerance)).map single

/-- The layout of a name. -/
def byName? (name : String) : Option Layout := (compounds ++ singles).find? (·.name = name)

end Layout

end DeviceProperty
