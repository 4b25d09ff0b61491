import UsbAccess.Descriptor.Tree
import UsbAccess.Endpoint

/-!
# Interfaces and configurations

A configuration of a device lists its interfaces by number; an interface has its endpoints in the
order of their records.
-/

namespace UsbAccess

/-- An interface in one of its alternate settings. -/
structure Interface where
  number : UInt8
  alternate : UInt8
  endpoints : List Endpoint
  device : BusAddress
  deriving DecidableEq, Repr

namespace Interface

/-- The interface that stands where no record describes one. -/
def empty (number : UInt8) (device : BusAddress) : Interface :=
  ⟨number, 0, [], device⟩

/-- The interface that a record and its endpoints describe. -/
def ofTree (t : Descriptor.InterfaceTree) (device : BusAddress) : Interface :=
  ⟨t.record.number, t.record.alternate, t.endpoints.map (Endpoint.ofRecord · t.record.number),
    device⟩

/-- The first endpoint of a direction. -/
def first? (i : Interface) (direction : Direction) : Option Endpoint :=
  i.endpoints.find? fun e => e.direction == direction

/-- The first endpoint to which data goes. -/
def out? (i : Interface) : Except Error OutEndpoint :=
  match i.first? .out with
  | some e => e.toOut?
  | none => .error (.invalidArgument (.noDirection .out i.number))

/-- The first endpoint from which data comes. -/
def in? (i : Interface) : Except Error InEndpoint :=
  match i.first? .into with
  | some e => e.toIn?
  | none => .error (.invalidArgument (.noDirection .into i.number))

end Interface

/-- A configuration; its power draw is in mA, and its interfaces stand at their numbers. -/
structure Configuration where
  selfPowered : Bool
  remoteWakeup : Bool
  maxPower : UInt16
  value : UInt8
  interfaces : List Interface
  device : BusAddress
  deriving DecidableEq, Repr

namespace Configuration

/-- The configuration that stands where no record describes one. -/
def empty (value : UInt8) (device : BusAddress) : Configuration :=
  ⟨false, false, 0, value, [], device⟩

/-- The configuration as one of the device at another address. -/
def relink (c : Configuration) (device : BusAddress) : Configuration :=
  { c with device := device, interfaces := c.interfaces.map fun i => { i with device := device } }

end Configuration

end UsbAccess
