import UsbAccess.Device.Basic
import UsbAccess.Document.Basic

/-!
# Documents of devices

What is known of a device, without what a program holds of it: neither the handle nor the claims are
in its document, and the source of its data is not either.

Results:
* `Device.document_withHandle`: opening a device does not change its document.
-/

namespace UsbAccess

open Document (byte word)

/-- The document of an address. -/
def BusAddress.document (a : BusAddress) : Document :=
  .record [("bus", byte a.bus), ("address", byte a.number)]

/-- The document of an endpoint. -/
def Endpoint.document (e : Endpoint) : Document :=
  .record [("address", byte e.address), ("transfer_type", byte e.transferType),
    ("max_packet_size", word e.maxPacketSize),
    ("max_iso_packet_size", word e.maxIsochronousPacketSize),
    ("interface", byte e.interface)]

/-- The document of an interface. -/
def Interface.document (i : Interface) : Document :=
  .record [("number", byte i.number), ("alternate", byte i.alternate),
    ("endpoints", .list (i.endpoints.map Endpoint.document)), ("device", i.device.document)]

/-- The document of a configuration. -/
def Configuration.document (c : Configuration) : Document :=
  .record [("self_powered", .truth c.selfPowered), ("remote_wakeup", .truth c.remoteWakeup),
    ("max_power", word c.maxPower), ("value", byte c.value),
    ("interfaces", .list (c.interfaces.map Interface.document)), ("device", c.device.document)]

/-- The document of the names of a device. -/
def DeviceNames.document (n : DeviceNames) : Document :=
  .record [("vendor_from_db", .optional .text n.listedVendor),
    ("product_from_db", .optional .text n.listedProduct), ("vendor_from_device", .text n.ownVendor),
    ("product_from_device", .text n.ownProduct)]

/-- The document of the indices of a device's texts. -/
def TextIndices.document (t : TextIndices) : Document :=
  .record [("manufacturer", byte t.manufacturer), ("product", byte t.product),
    ("serial", byte t.serial)]

/-- The document of a device. -/
def Device.document (d : Device) : Document :=
  .record [("id", d.address.document), ("port", byte d.port), ("ports", .list (d.ports.map byte)),
    ("vendor", word d.vendor), ("product", word d.product), ("names", d.names.document),
    ("parent", .optional BusAddress.document d.parent), ("speed", .text d.speed.name),
    ("configs", .list (d.configurations.map Configuration.document)),
    ("active", .optional .number d.active), ("strings", d.texts.document)]

theorem Device.document_withHandle (d : Device) (h : Handle) :
    { d with handle := some h }.document = d.document := rfl

end UsbAccess
