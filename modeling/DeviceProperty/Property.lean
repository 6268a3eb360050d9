/-
**Device properties.**

A device property is a 16-bit identifier with a name and the layout of its value.  The properties
that have a registered layout stand in a table, in the order of their identifiers; the value of a
property is encoded and decoded by the layout registered for its identifier.

Main definitions:

* `DeviceProperty.Property`, `DeviceProperty.Property.table` — a property, and the table;
* `DeviceProperty.Property.find?`, `DeviceProperty.Property.position?` — the property of an
  identifier, and its place in the table;
* `DeviceProperty.Property.layoutOf` — the layout, or the fault of an unknown identifier;
* `DeviceProperty.Property.encode`, `DeviceProperty.Property.decode` — a value;
* `DeviceProperty.Property.catalogueText` — the table as a document on many lines.
-/

import DeviceProperty.Document
import DeviceProperty.Layout.Catalogue
import DeviceProperty.Layout.Codec

set_option relaxedAutoImplicit false
set_option autoImplicit false

namespace DeviceProperty

/-- A property of a device. -/
structure Property where
  id : UInt16
  name : String
  layout : Layout
deriving DecidableEq, Repr

def Property.toDocument (property : Property) : Document :=
  .object [
    ("id", .ofNat property.id.toNat),
    ("name", .string property.name),
    ("layout", property.layout.toDocument)]

namespace Property

/-! ### The table -/

/-- The registered properties. -/
def table : List Property := [
  ⟨0x0001, "Average Ambient Temperature in a Period of Day", .temperature8InAPeriodOfDay⟩,
  ⟨0x0006, "Center Beam Intensity at Full Power", .single .luminousIntensity⟩,
  ⟨0x000D, "Device Energy Use Since Turn On", .single .energy⟩,
  ⟨0x0013, "Device Operating Temperature Range Specification", .temperatureRange⟩,
  ⟨0x0016, "Device Power Range Specification", .powerSpecification⟩,
  ⟨0x0017, "Device Runtime Since Turn On", .single .timeHour24⟩,
  ⟨0x0018, "Device Runtime Warranty", .single .timeHour24⟩,
  ⟨0x001D, "Initial CIE 1931 Chromaticity Coordinates", .chromaticityCoordinates⟩,
  ⟨0x001E, "Initial Correlated Color Temperature", .single .correlatedColorTemperature⟩,
  ⟨0x001F, "Initial Luminous Flux", .single .luminousFlux⟩,
  ⟨0x0020, "Initial Planckian Distance", .single .chromaticDistance⟩,
  ⟨0x0021, "Input Current Range Specification", .currentSpecification⟩,
  ⟨0x0028, "Input Voltage Range Specification", .voltageSpecification⟩,
  ⟨0x002B, "Light Control Ambient LuxLevel On", .single .illuminance⟩,
  ⟨0x002C, "Light Control Ambient LuxLevel Prolong", .single .illuminance⟩,
  ⟨0x002D, "Light Control Ambient LuxLevel Standby", .single .illuminance⟩,
  ⟨0x002E, "Light Control Lightness On", .single .perceivedLightness⟩,
  ⟨0x002F, "Light Control Lightness Prolong", .single .perceivedLightness⟩,
  ⟨0x0030, "Light Control Lightness Standby", .single .perceivedLightness⟩,
  ⟨0x0031, "Light Control Regulator Accuracy", .single .percentage8⟩,
  ⟨0x0036, "Light Control Time Fade", .single .timeMillisecond24⟩,
  ⟨0x0037, "Light Control Time Fade On", .single .timeMillisecond24⟩,
  ⟨0x0038, "Light Control Time Fade Standby Auto", .single .timeMillisecond24⟩,
  ⟨0x0039, "Light Control Time Fade Standby Manual", .single .timeMillisecond24⟩,
  ⟨0x003A, "Light Control Time Occupancy Delay", .single .timeMillisecond24⟩,
  ⟨0x003B, "Light Control Time Prolong", .single .timeMillisecond24⟩,
  ⟨0x003C, "Light Control Time Run On", .single .timeMillisecond24⟩,
  ⟨0x003D, "Lumen Maintenance Factor", .single .percentage8⟩,
  ⟨0x003E, "Luminous Efficacy", .single .luminousEfficacy⟩,
  ⟨0x003F, "Luminous Energy Since Turn On", .single .luminousEnergy⟩,
  ⟨0x0040, "Luminous Exposure", .single .luminousExposure⟩,
  ⟨0x0041, "Luminous Flux Range", .luminousFluxRange⟩,
  ⟨0x0042, "Motion Sensed", .single .percentage8⟩,
  ⟨0x0043, "Motion Threshold", .single .percentage8⟩,
  ⟨0x0046, "Output Current Range", .currentRange⟩,
  ⟨0x0049, "Output Voltage Range", .voltageRange⟩,
  ⟨0x004C, "People Count", .single .count16⟩,
  ⟨0x004D, "Presence Detected", .single .boolean⟩,
  ⟨0x004E, "Present Ambient Light Level", .single .illuminance⟩,
  ⟨0x004F, "Present Ambient Temperature", .single .temperature8⟩,
  ⟨0x0050, "Present CIE 1931 Chromaticity Coordinates", .chromaticityCoordinates⟩,
  ⟨0x0051, "Present Correlated Color Temperature", .single .correlatedColorTemperature⟩,
  ⟨0x0052, "Present Device Input Power", .single .power⟩,
  ⟨0x0053, "Present Device Operating Efficiency", .single .percentage8⟩,
  ⟨0x0054, "Present Device Operating Temperature", .single .temperature⟩,
  ⟨0x0055, "Present Illuminance", .single .illuminance⟩,
  ⟨0x0056, "Present Indoor Ambient Temperature", .single .temperature8⟩,
  ⟨0x0057, "Present Input Current", .single .electricCurrent⟩,
  ⟨0x0058, "Present Input Ripple Voltage", .single .percentage8⟩,
  ⟨0x0059, "Present Input Voltage", .single .voltage⟩,
  ⟨0x005A, "Present Luminous Flux", .single .luminousFlux⟩,
  ⟨0x005B, "Present Outdoor Ambient Temperature", .single .temperature8⟩,
  ⟨0x005C, "Present Output Current", .single .electricCurrent⟩,
  ⟨0x005D, "Present Output Voltage", .single .voltage⟩,
  ⟨0x005E, "Present Planckian Distance", .single .chromaticDistance⟩,
  ⟨0x005F, "Present Relative Output Ripple Voltage", .single .percentage8⟩,
  ⟨0x0060, "Relative Device Energy Use in a Period of Day", .energyInAPeriodOfDay⟩,
  ⟨0x0061, "Relative Device Runtime in a Generic Level Range",
    .relativeRuntimeInAGenericLevelRange⟩,
  ⟨0x0062, "Relative Exposure Time in an Illuminance Range", .percentage8IlluminanceRange⟩,
  ⟨0x0063, "Relative Runtime in a Correlated Color Temperature Range", .percentage8CctRange⟩,
  ⟨0x0064, "Relative Runtime in a Device Operating Temperature Range",
    .percentage8TemperatureRange⟩,
  ⟨0x0065, "Relative Runtime in an Input Current Range", .percentage8CurrentRange⟩,
  ⟨0x0066, "Relative Runtime in an Input Voltage Range", .percentage8VoltageRange⟩,
  ⟨0x0068, "Time since Motion Sensed", .single .timeSecond16⟩,
  ⟨0x0069, "Time since Presence Detected", .single .timeSecond16⟩,
  ⟨0x006A, "Total Device Energy Use", .single .energy⟩,
  ⟨0x006B, "Total Device Off On Cycles", .single .count24⟩,
  ⟨0x006C, "Total Device Power On Cycles", .single .count24⟩,
  ⟨0x006D, "Total Device Power On Time", .single .timeHour24⟩,
  ⟨0x006E, "Total Device Runtime", .single .timeHour24⟩,
  ⟨0x006F, "Total Light Exposure Time", .single .timeHour24⟩,
  ⟨0x0070, "Total Luminous Energy", .single .luminousEnergy⟩,
  ⟨0x0071, "Desired Ambient Temperature", .single .temperature8⟩,
  ⟨0x0072, "Precise Total Device Energy Use", .single .energy32⟩,
  ⟨0x0073, "Power Factor", .single .cosOfTheAngle⟩,
  ⟨0x0075, "Precise Present Ambient Temperature", .single .temperature⟩,
  ⟨0x0076, "Present Ambient Relative Humidity", .single .humidity⟩,
  ⟨0x0077, "Present Ambient Carbon Dioxide Concentration", .single .co2Concentration⟩,
  ⟨0x0080, "Active Energy Loadside", .single .energy⟩,
  ⟨0x0081, "Active Power Loadside", .single .power⟩,
  ⟨0x0082, "Air Pressure", .single .pressure⟩,
  ⟨0x0083, "Apparent Energy", .single .apparentEnergy32⟩,
  ⟨0x0084, "Apparent Power", .single .apparentPower⟩]

def find? (id : UInt16) : Option Property := table.find? (·.id = id)

/-- The place of an identifier in the table. -/
def position? (id : UInt16) : Option Nat := table.findIdx? (·.id = id)

def isRegistered (id : UInt16) : Bool := (find? id).isSome

def layout? (id : UInt16) : Option Layout := (find? id).map (·.layout)

theorem mem_of_find? {id : UInt16} {property : Property} (h : find? id = some property) :
    property ∈ table ∧ property.id = id :=
  ⟨List.mem_of_find?_eq_some h, by simpa using List.find?_some h⟩

/-- The table as a document on many lines. -/
def catalogueText : String := (Document.array (table.map Property.toDocument)).pretty

/-! ### Values -/

/-- The layout registered for an identifier. -/
def layoutOf (id : UInt16) : Except Fault Layout :=
  match layout? id with
  | some layout => .ok layout
  | none => .error (.unknownProperty id)

/-- The record of the readings of a property. -/
def encode (id : UInt16) (readings : List Reading) : Except Fault (List UInt8) := do
  (← layoutOf id).encode readings

/-- The readings of a property from its record. -/
def decode (id : UInt16) (bytes : List UInt8) : Except Fault (List Reading) := do
  (← layoutOf id).decode bytes

end Property

end DeviceProperty
