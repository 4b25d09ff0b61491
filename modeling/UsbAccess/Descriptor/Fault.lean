import UsbAccess.Descriptor.Record
import UsbAccess.Text.Outline

/-!
# What can be wrong with descriptors

The causes for which bytes are refused as the description of a device, and their wording.
-/

namespace UsbAccess.Descriptor

open Text

/-- A byte or a word, for inspection. -/
def number (n : Nat) : String := n.repr

/-- A record on one line, for inspection. -/
def Record.outline : Record → String
  | .device r =>
    Outline.apply "Device" [Outline.record "DeviceDescriptor"
      [("length", number r.length.toNat), ("kind", number r.kind.toNat),
        ("bcd_usb", number r.usbRelease.toNat), ("device_class", number r.deviceClass.toNat),
        ("device_sub_class", number r.subclass.toNat), ("device_protocol", number r.protocol.toNat),
        ("max_packet_size0", number r.controlPacketSize.toNat),
          ("id_vendor", number r.vendor.toNat),
        ("id_product", number r.product.toNat), ("bcd_device", number r.release.toNat),
        ("imanufacturer", number r.manufacturerText.toNat),
          ("iproduct", number r.productText.toNat),
        ("iserial", number r.serialText.toNat),
        ("num_configurations", number r.configurationCount.toNat), ("configurations", "[]")]]
  | .configuration r =>
    Outline.apply "Configuration" [Outline.record "ConfigurationDescriptor"
      [("length", number r.length.toNat), ("kind", number r.kind.toNat),
        ("total_length", number r.totalLength.toNat),
          ("num_interfaces", number r.interfaceCount.toNat),
        ("configuration_value", number r.value.toNat), ("iconfiguration", number r.text.toNat),
        ("bmattributes", number r.attributes.toNat), ("max_power", number r.power.toNat),
        ("interfaces", "[]")]]
  | .text content => Outline.apply "String" [Outline.bytes content]
  | .interface r =>
    Outline.apply "Interface" [Outline.record "InterfaceDescriptor"
      [("length", number r.length.toNat), ("kind", number r.kind.toNat),
        ("interface_number", number r.number.toNat),
          ("alternate_setting", number r.alternate.toNat),
        ("num_endpoints", number r.endpointCount.toNat),
        ("interface_class", number r.interfaceClass.toNat),
        ("interface_sub_class", number r.subclass.toNat),
        ("interface_protocol", number r.protocol.toNat), ("iinterface", number r.text.toNat),
        ("endpoints", "[]")]]
  | .endpoint r =>
    Outline.apply "Endpoint" [Outline.record "EndpointDescriptor"
      [("length", number r.length.toNat), ("kind", number r.kind.toNat),
        ("endpoint_address", number r.address.toNat), ("bm_attributes", number r.attributes.toNat),
        ("max_packet_size", number r.maxPacketSize.toNat), ("interval", number r.interval.toNat)]]
  | .other kind bytes => Outline.apply "Unknown" [number kind.toNat, Outline.bytes bytes]

/-- Why bytes are no description of a device. -/
inductive Fault where
  /-- A record is shorter than its two first bytes, or longer than what is left. -/
  | recordLength (length remaining : Nat)
  /-- A record is shorter than the layout of its kind. -/
  | truncated (kind : UInt8) (length : Nat)
  /-- There is no record at all. -/
  | missingDevice
  /-- The first record is not that of a device. -/
  | notDevice (found : Record)
  /-- A later record is that of a device. -/
  | secondDevice
  /-- A cause given in words. -/
  | described (text : String)
  deriving DecidableEq, Repr

/-- The wording of a fault. -/
def Fault.message : Fault → String
  | .recordLength length remaining =>
    "record length " ++ number length ++ " with " ++ number remaining ++ " bytes remaining"
  | .truncated kind length =>
    "descriptor type 0x" ++ hex 2 kind.toNat ++ " truncated to " ++ number length ++ " bytes"
  | .missingDevice => "no device descriptor found"
  | .notDevice found => "expected device descriptor, found " ++ found.outline
  | .secondDevice => "second device descriptor in blob"
  | .described text => text

end UsbAccess.Descriptor
