import UsbAccess.Interface
import UsbAccess.Settings
import UsbAccess.Source

/-!
# Devices

An attached device as a program sees it: where it is plugged in, what it is called, what it is made
of, and what the program holds of it.

Results:
* `isOpen_iff`: a device is open while it holds a handle.
-/

namespace UsbAccess

open Text

/-- The names of a device and its maker, from the settings and from the device. -/
structure DeviceNames where
  listedVendor : Option String
  listedProduct : Option String
  ownVendor : String
  ownProduct : String
  deriving DecidableEq, Repr

/-- The indices of a device's texts. -/
structure TextIndices where
  manufacturer : UInt8
  product : UInt8
  serial : UInt8
  deriving DecidableEq, Repr

/-- A device's place among the open devices of a registry. -/
structure Registration where
  registry : Nat
  token : UInt64
  deriving DecidableEq, Repr

/-- A device. `ports` is the way from the root hub, `active` the index of the active configuration.
-/
structure Device where
  address : BusAddress
  port : UInt8
  ports : List UInt8
  vendor : UInt16
  product : UInt16
  names : DeviceNames
  parent : Option BusAddress
  speed : Speed
  configurations : List Configuration
  active : Option Nat
  texts : TextIndices
  source : Source
  nodeRoot : Path
  handle : Option Handle
  claims : Claims
  registration : Option Registration

namespace Device

/-- The device is open. -/
def isOpen (d : Device) : Bool := d.handle.isSome

/-- A listed name counts when it is not empty, otherwise the device's own. -/
def preferred (listed : Option String) (own : String) : String :=
  match listed with
  | some name => if name.isEmpty then own else name
  | none => own

/-- The name of the device's maker. -/
def vendorName (d : Device) : String := preferred d.names.listedVendor d.names.ownVendor

/-- The name of the device. -/
def productName (d : Device) : String := preferred d.names.listedProduct d.names.ownProduct

/-- The active configuration. -/
def activeConfiguration? (d : Device) : Option Configuration :=
  d.active.bind fun index => d.configurations[index]?

/-- The path of the device's node. -/
def node (d : Device) : Path := nodePath d.nodeRoot d.address

/-- The interface is claimed. -/
def isClaimed (d : Device) (interface : UInt8) : Bool := (d.claims interface).isSome

/-- How the device is asked now. -/
def inquiry (d : Device) : Inquiry Host := .ofHandle d.handle d.node

/-! ## Parts -/

/-- Interface `number` of the active configuration. -/
def interface (d : Device) (number : UInt8) : Except Error Interface :=
  match d.activeConfiguration? with
  | none => .error (.invalidState (.unconfigured d.address))
  | some c =>
    if c.interfaces.isEmpty then .error (.invalidState (.noInterfaces c.value))
    else
      match c.interfaces[number.toNat]? with
      | some i => .ok i
      | none => .error (.invalidArgument (.interfaceRange number c.interfaces.length))

/-- The endpoint of an address in the active configuration. -/
def endpoint (d : Device) (address : UInt8) : Except Error Endpoint :=
  match d.activeConfiguration? with
  | none => .error (.invalidState (.unconfigured d.address))
  | some c =>
    match (c.interfaces.flatMap Interface.endpoints).find? fun e => e.address == address with
    | some e => .ok e
    | none => .error (.invalidArgument (.noEndpoint address c.value))

/-! ## Text -/

/-- The device on one line. -/
def text (d : Device) : String :=
  "Bus " ++ decimal 3 d.address.bus.toNat ++ " Device " ++
    decimal 3 d.address.number.toNat ++ ": ID " ++
    identifierText d.vendor ++ ":" ++ identifierText d.product ++ " " ++ d.vendorName ++ " " ++
    d.productName

/-- The device, for inspection. -/
def outline (d : Device) : String :=
  Outline.record "Device"
    [("id", d.address.outline), ("ports", Outline.bytes d.ports),
      ("vendor", identifierOutline d.vendor), ("product", identifierOutline d.product),
      ("parent", Outline.optional (d.parent.map BusAddress.outline)), ("speed", d.speed.name),
      ("configs", d.configurations.length.repr),
      ("active", Outline.optional (d.active.map Nat.repr)),
      ("backing", d.source.outline), ("open", Outline.bool d.isOpen)]

theorem isOpen_iff (d : Device) : d.isOpen = true ↔ ∃ h, d.handle = some h := by
  simp [isOpen, Option.isSome_iff_exists]

end Device

end UsbAccess
