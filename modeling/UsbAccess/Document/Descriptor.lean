import UsbAccess.Descriptor.Tree
import UsbAccess.Document.Basic

/-!
# Documents of descriptors

A record has a field for each of its numbers, and one for the records below it.
-/

namespace UsbAccess.Descriptor

open Document (byte word)

/-- The document of an endpoint record. -/
def EndpointRecord.document (r : EndpointRecord) : Document :=
  .record [("length", byte r.length), ("kind", byte r.kind), ("endpoint_address", byte r.address),
    ("bm_attributes", byte r.attributes), ("max_packet_size", word r.maxPacketSize),
    ("interval", byte r.interval)]

/-- The document of an interface setting and its endpoints. -/
def InterfaceTree.document (t : InterfaceTree) : Document :=
  .record [("length", byte t.record.length), ("kind", byte t.record.kind),
    ("interface_number", byte t.record.number), ("alternate_setting", byte t.record.alternate),
    ("num_endpoints", byte t.record.endpointCount),
    ("interface_class", byte t.record.interfaceClass),
    ("interface_sub_class", byte t.record.subclass), ("interface_protocol", byte t.record.protocol),
    ("iinterface", byte t.record.text),
    ("endpoints", .list (t.endpoints.map EndpointRecord.document))]

/-- The document of a configuration and its interface settings. -/
def ConfigurationTree.document (t : ConfigurationTree) : Document :=
  .record [("length", byte t.record.length), ("kind", byte t.record.kind),
    ("total_length", word t.record.totalLength), ("num_interfaces", byte t.record.interfaceCount),
    ("configuration_value", byte t.record.value), ("iconfiguration", byte t.record.text),
    ("bmattributes", byte t.record.attributes), ("max_power", byte t.record.power),
    ("interfaces", .list (t.interfaces.map InterfaceTree.document))]

/-- The document of a device and its configurations. -/
def DeviceTree.document (t : DeviceTree) : Document :=
  .record [("length", byte t.record.length), ("kind", byte t.record.kind),
    ("bcd_usb", word t.record.usbRelease), ("device_class", byte t.record.deviceClass),
    ("device_sub_class", byte t.record.subclass), ("device_protocol", byte t.record.protocol),
    ("max_packet_size0", byte t.record.controlPacketSize), ("id_vendor", word t.record.vendor),
    ("id_product", word t.record.product), ("bcd_device", word t.record.release),
    ("imanufacturer", byte t.record.manufacturerText), ("iproduct", byte t.record.productText),
    ("iserial", byte t.record.serialText), ("num_configurations", byte t.record.configurationCount),
    ("configurations", .list (t.configurations.map ConfigurationTree.document))]

end UsbAccess.Descriptor
