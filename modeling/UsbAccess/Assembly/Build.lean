import UsbAccess.Assembly.Placement
import UsbAccess.Device.Basic
import UsbAccess.PortPath

/-!
# Putting a device together

A device is put together from its records, from what is known of its place, and from its directory
or its own answers. Nothing that fails on the way is an error: the field keeps its default and a
remark says why.
-/

namespace UsbAccess

open Descriptor

/-- What is known of a device's place: numbers, 0 where unknown, and the path of its directory. -/
structure Hints where
  address : BusAddress
  directory : Option Path
  deriving DecidableEq, Repr

/-- A device and the remarks made while it was put together. -/
structure Assembled where
  device : Device
  remarks : List Remark

namespace Assembly

variable {σ : Type}

/-- The source of the device's data: the directory that is given or found, or else the node. -/
def source (settings : Settings) (files : FileTree) (hints : Hints) : Source × List Remark :=
  match hints.directory with
  | some path => (.directory ⟨path⟩, [])
  | none =>
    match DeviceDir.find? files settings.directoryRoot hints.address with
    | some dir => (.directory dir, [])
    | none =>
      (.node,
        [⟨.directory, "no entry in " ++ settings.directoryRoot.display ++
          ", falling back to usbfs"⟩])

/-- The remark on an active configuration that the device does not have. -/
def activeRemark (value : UInt8) (count : Nat) : Remark :=
  ⟨.activeConfiguration, "active configuration " ++ value.toNat.repr ++
    " outside 1..=" ++ count.repr⟩

/-- The index of the active configuration among `count`, the first where its value cannot be told.
-/
def active (count : Nat) (value : Except Error UInt8) : Option Nat × List Remark :=
  let first := if count = 0 then none else some 0
  match value with
  | .ok v =>
    if 1 ≤ v.toNat ∧ v.toNat ≤ count then (some (v.toNat - 1), [])
    else (first, [activeRemark v count])
  | .error e => (first, [⟨.activeConfiguration, e.message⟩])

/-- The hub above the device and the ports of the hubs above it. -/
def upstream (files : FileTree) : Source → (Option BusAddress × List UInt8) × List Remark
  | .directory dir =>
    let (parent, parentRemarks) := Remark.note .parent (dir.parent files)
    let (ports, portRemarks) := Remark.note .parent (PortPath.ofDir files dir)
    ((parent.getD none, ports.getD []), parentRemarks ++ portRemarks)
  | .node => ((none, []), [])

/-- The number of the device, asked for when the hint is 0. -/
def deviceNumber (files : FileTree) (source : Source) (ask : Inquiry σ) (hint : UInt8) :
    StateM σ (UInt8 × List Remark) := do
  if hint = 0 then
    let (number, remarks) := Remark.note .deviceNumber (← source.deviceNumber files ask)
    return (number.getD hint, remarks)
  else return (hint, [])

/-- The number of the bus, asked for when the hint is 0. -/
def busNumber (files : FileTree) (source : Source) (hint : UInt8) : UInt8 × List Remark :=
  if hint = 0 then
    let (number, remarks) := Remark.note .busNumber (source.busNumber files)
    (number.getD hint, remarks)
  else (hint, [])

/-- Puts a device together. `ask` tells how the device at a node is asked. -/
def assemble (settings : Settings) (files : FileTree) (ask : Path → Inquiry σ) (tree : DeviceTree)
    (hints : Hints) : StateM σ Assembled := do
  let configurations := Placement.configurations tree hints.address
  let (source, sourceRemarks) := source settings files hints
  let (number, numberRemarks) ←
    deviceNumber files source (ask (nodePath settings.nodeRoot hints.address)) hints.address.number
  let (bus, busRemarks) := busNumber files source hints.address.bus
  let address : BusAddress := ⟨bus, number⟩
  let ask := ask (nodePath settings.nodeRoot address)
  let (vendorName, vendorRemarks) := Remark.note .vendorName
    (← source.vendorName files ask tree.record.manufacturerText)
  let (productName, productRemarks) := Remark.note .productName
    (← source.productName files ask tree.record.productText)
  let (port, portRemarks) := Remark.note .port source.port
  let (active, activeRemarks) :=
    active configurations.length (← source.activeConfiguration files ask)
  let (speed, speedRemarks) := Remark.note .speed (← source.speed files ask)
  let ((parent, upstream), upstreamRemarks) := upstream files source
  let port := port.getD 0
  return {
    device := {
      address := address
      port := port
      ports := upstream ++ if port = 0 then [] else [port]
      vendor := tree.record.vendor
      product := tree.record.product
      names := {
        listedVendor := settings.names.bind fun t => t.vendor? tree.record.vendor
        listedProduct := settings.names.bind fun t =>
          t.product? tree.record.vendor tree.record.product
        ownVendor := vendorName.getD ""
        ownProduct := productName.getD "" }
      parent := parent
      speed := speed.getD .unknown
      configurations := configurations.map fun c => c.relink address
      active := active
      texts := ⟨tree.record.manufacturerText, tree.record.productText, tree.record.serialText⟩
      source := source
      nodeRoot := settings.nodeRoot
      handle := none
      claims := Claims.none
      registration := none }
    remarks := Placement.remarks tree ++ sourceRemarks ++ numberRemarks ++ busRemarks ++
      vendorRemarks ++
      productRemarks ++ portRemarks ++ activeRemarks ++ speedRemarks ++ upstreamRemarks }

end Assembly

end UsbAccess
