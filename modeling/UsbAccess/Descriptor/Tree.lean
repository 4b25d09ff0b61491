import UsbAccess.Descriptor.Stream

/-!
# The tree of a device's records

The records of a device nest: a configuration belongs to the device, an interface to the latest
configuration before it, an endpoint to the latest interface of that configuration. Interfaces and
endpoints without such a place are left out, as are texts and records of other kinds.

A tree is gathered from its end: what follows a record is complete when the record is met, and the
record takes of it what is its own.

Results:
* `Gathered.ofList_append`: a list of records is gathered in parts.
-/

namespace UsbAccess.Descriptor

/-- An interface setting and its endpoints. -/
structure InterfaceTree where
  record : InterfaceRecord
  endpoints : List EndpointRecord
  deriving DecidableEq, Repr

/-- A configuration and its interface settings. -/
structure ConfigurationTree where
  record : ConfigurationRecord
  interfaces : List InterfaceTree
  deriving DecidableEq, Repr

/-- A device and its configurations. -/
structure DeviceTree where
  record : DeviceRecord
  configurations : List ConfigurationTree
  deriving DecidableEq, Repr

/-- What has been gathered behind some place in a stream: the endpoints up to the next interface,
the interfaces up to the next configuration, and the configurations. -/
structure Gathered where
  endpoints : List EndpointRecord
  interfaces : List InterfaceTree
  configurations : List ConfigurationTree
  deriving DecidableEq, Repr

namespace Gathered

/-- Nothing. -/
def empty : Gathered := ⟨[], [], []⟩

/-- What is gathered with one more record in front. Endpoints have to stand behind an interface, and
interfaces behind a configuration. -/
def before (r : Record) (g : Gathered) : Gathered :=
  match r with
  | .endpoint e => { g with endpoints := e :: g.endpoints }
  | .interface i => ⟨[], ⟨i, g.endpoints⟩ :: g.interfaces, g.configurations⟩
  | .configuration c => ⟨[], [], ⟨c, g.interfaces⟩ :: g.configurations⟩
  | .device _ => g
  | .text _ => g
  | .other _ _ => g

/-- What is gathered from `records`, in front of what is gathered already. -/
def ofList (records : List Record) (g : Gathered) : Gathered :=
  records.foldr before g

end Gathered

/-- The record is that of a device. -/
def Record.isDevice : Record → Bool
  | .device _ => true
  | _ => false

/-- The tree of a stream. A record out of place is found before a fault further on. -/
def DeviceTree.ofScan? (s : Scan) : Except Fault DeviceTree :=
  match s.records with
  | [] => .error (s.fault.getD .missingDevice)
  | .device d :: rest =>
    if rest.any Record.isDevice then .error .secondDevice
    else
      match s.fault with
      | some fault => .error fault
      | none => .ok ⟨d, (Gathered.ofList rest .empty).configurations⟩
  | found :: _ => .error (.notDevice found)

/-- The tree of the bytes that a device node holds. -/
def DeviceTree.ofBytes? (bytes : Bytes) : Except Fault DeviceTree :=
  ofScan? (scan bytes)

/-! ## Laws -/

namespace Gathered

theorem ofList_append (first second : List Record) (g : Gathered) :
    ofList (first ++ second) g = ofList first (ofList second g) :=
  List.foldr_append

end Gathered

end UsbAccess.Descriptor
