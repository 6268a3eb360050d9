import DeviceProperty.Proofs.Format.Bounds
import DeviceProperty.Proofs.Format.Sentinels
import DeviceProperty.Proofs.Reading
import DeviceProperty.Proofs.Sensor.Record
import DeviceProperty.Proofs.Session.Bits
import DeviceProperty.Proofs.Session.Fields
import DeviceProperty.Proofs.Wire.Places
