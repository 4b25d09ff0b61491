import UsbAccess.Descriptor.Tree
import UsbAccess.Text.Numeral

/-!
# Descriptors as text

One line for each field of a record, under the field's name in the USB specification; a tree is
printed in preorder.
-/

namespace UsbAccess.Descriptor

open Text

/-- One line: a field and its value. -/
def line (field value : String) : String :=
  field ++ ": " ++ value ++ "\n"

/-- One line: a field and its value in decimal. -/
def decimalLine (field : String) (value : Nat) : String :=
  line field value.repr

/-- The lines of a device record. -/
def DeviceRecord.lines (r : DeviceRecord) : List String :=
  [decimalLine "bLength" r.length.toNat, decimalLine "bDescriptorType" r.kind.toNat,
    line "bcdUsb" ("0x" ++ hex 4 r.usbRelease.toNat),
    decimalLine "bDeviceClass" r.deviceClass.toNat,
    decimalLine "bDeviceSubClass" r.subclass.toNat, decimalLine "bDeviceProtocol" r.protocol.toNat,
    decimalLine "bMaxPacketSize" r.controlPacketSize.toNat,
    line "idVendor" ("0x" ++ hex 4 r.vendor.toNat),
    line "idProduct" ("0x" ++ hex 4 r.product.toNat),
    line "bcdDevice" ("0x" ++ hex 4 r.release.toNat),
    decimalLine "iManufacturer" r.manufacturerText.toNat,
    decimalLine "iProduct" r.productText.toNat,
    decimalLine "iSerialNumber" r.serialText.toNat,
    decimalLine "bNumConfigurations" r.configurationCount.toNat]

/-- The lines of a configuration record. -/
def ConfigurationRecord.lines (r : ConfigurationRecord) : List String :=
  [decimalLine "bLength" r.length.toNat, decimalLine "bDescriptorType" r.kind.toNat,
    decimalLine "bTotalLength" r.totalLength.toNat,
    decimalLine "bNumInterfaces" r.interfaceCount.toNat,
    decimalLine "bConfigurationValue" r.value.toNat, decimalLine "iConfiguration" r.text.toNat,
    line "bmAttributes" ("0x" ++ hex 2 r.attributes.toNat), decimalLine "bMaxPower" r.power.toNat]

/-- The lines of an interface record. -/
def InterfaceRecord.lines (r : InterfaceRecord) : List String :=
  [decimalLine "bLength" r.length.toNat, decimalLine "bDescriptorType" r.kind.toNat,
    decimalLine "bInterfaceNumber" r.number.toNat,
    decimalLine "bAlternateSetting" r.alternate.toNat,
    decimalLine "bNumEndpoints" r.endpointCount.toNat,
    decimalLine "bInterfaceClass" r.interfaceClass.toNat,
    decimalLine "bInterfaceSubClass" r.subclass.toNat,
    decimalLine "bInterfaceProtocol" r.protocol.toNat,
    decimalLine "iInterface" r.text.toNat]

/-- The lines of an endpoint record. -/
def EndpointRecord.lines (r : EndpointRecord) : List String :=
  [decimalLine "bLength" r.length.toNat, decimalLine "bDescriptorType" r.kind.toNat,
    line "bEndpointAddress" ("0x" ++ hexCapital 2 r.address.toNat),
    decimalLine "bmAttributes" r.attributes.toNat,
    decimalLine "wMaxPacketSize" r.maxPacketSize.toNat,
    decimalLine "bInterval" r.interval.toNat]

/-- The lines of an interface setting and its endpoints. -/
def InterfaceTree.lines (t : InterfaceTree) : List String :=
  t.record.lines ++ t.endpoints.flatMap EndpointRecord.lines

/-- The lines of a configuration and its interface settings. -/
def ConfigurationTree.lines (t : ConfigurationTree) : List String :=
  t.record.lines ++ t.interfaces.flatMap InterfaceTree.lines

/-- The lines of a device and its configurations. -/
def DeviceTree.lines (t : DeviceTree) : List String :=
  t.record.lines ++ t.configurations.flatMap ConfigurationTree.lines

/-- Lines as one text. -/
def text (lines : List String) : String :=
  String.join lines

end UsbAccess.Descriptor
