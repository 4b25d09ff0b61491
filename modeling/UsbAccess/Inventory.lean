import UsbAccess.Assembly.Build
import UsbAccess.Device.Control

/-!
# Inventories

All devices that have a node: the directory of nodes has a directory for each bus, and there a node
for each device, named by numbers. What cannot be read is left out, and the last failure is kept.
-/

namespace UsbAccess

/-- The devices found, the remarks made on each, and the last failure. -/
structure Inventory where
  devices : List Device
  remarks : List (BusAddress × Remark)
  error : Option Error

namespace Inventory

/-- Nothing found. -/
def empty : Inventory := ⟨[], [], none⟩

/-- The inventory after a failure. -/
def fail (i : Inventory) (e : Error) : Inventory := { i with error := some e }

/-- The inventory with one more device. -/
def add (i : Inventory) (a : Assembled) : Inventory :=
  { i with
    devices := i.devices ++ [a.device]
    remarks := i.remarks ++ a.remarks.map fun r => (a.device.address, r) }

/-! ## Looking up -/

/-- The first device of these identifiers. -/
def find? (i : Inventory) (vendor product : UInt16) : Option Device :=
  i.devices.find? fun d => d.vendor == vendor && d.product == product

/-- The first device at an address. -/
def get? (i : Inventory) (address : BusAddress) : Option Device :=
  i.devices.find? fun d => d.address == address

/-- The port and the hub of the first device at an address. -/
def look (i : Inventory) (address : BusAddress) : Option (UInt8 × Option BusAddress) :=
  (i.get? address).map fun d => (d.port, d.parent)

/-- The ports of the hubs above a device, by what the devices tell of their hubs. -/
def upstreamPorts (i : Inventory) (address : BusAddress) : List UInt8 :=
  PortPath.upstream i.look ((i.get? address).bind Device.parent)

/-! ## Changing -/

/-- The devices with the first one at an address changed. -/
def changeFirst (address : BusAddress) (change : Device → Device) : List Device → List Device
  | [] => []
  | d :: rest =>
    if d.address = address then change d :: rest else d :: changeFirst address change rest

/-- The inventory in which the first device at an address has another port and another hub. -/
def replug (i : Inventory) (address : BusAddress) (port : UInt8) (hub : Option BusAddress) :
    Inventory :=
  { i with
    devices := changeFirst address (fun d => { d with port := port, parent := hub }) i.devices }

/-- The first device at an address, and the inventory without it. -/
def take? (i : Inventory) (address : BusAddress) : Option (Device × Inventory) :=
  (i.get? address).map fun d =>
    (d, { i with devices := i.devices.eraseP fun d => d.address == address })

/-! ## Taking stock -/

/-- The entries of a directory whose names are numbers, in ascending order. -/
def numbered (files : FileTree) (dir : Path) : Except FileFault (List (UInt8 × Path)) :=
  match files.entriesOf dir with
  | .error fault => .error fault
  | .ok names =>
    .ok ((names.filterMap fun name =>
      (Text.byte? (Text.Utf8.lossy name).toList).map fun n => (n, dir.join ⟨name⟩)).mergeSort
        fun a b => a.1 ≤ b.1)

/-- Puts the device of a node together. -/
def readDevice (settings : Settings) (address : BusAddress) (path : Path) :
    StateM Host (Except Error Assembled) := do
  match ← Host.openNodeToRead path with
  | .error fault => return .error (.io fault)
  | .ok h =>
    match (← get).readNode h with
    | .error fault => return .error (.io fault)
    | .ok bytes =>
      match Descriptor.DeviceTree.ofBytes? bytes with
      | .error fault => return .error (.invalidDescriptor fault)
      | .ok tree =>
        let assembled ← Assembly.assemble settings (← get).files
            (fun _ => .ofQueries h.queries) tree
          ⟨address, none⟩
        return .ok assembled

/-- The inventory with the device of one node. -/
def listNode (settings : Settings) (bus : UInt8) (i : Inventory) (node : UInt8 × Path) :
    StateM Host Inventory := do
  match ← readDevice settings ⟨bus, node.1⟩ node.2 with
  | .ok assembled => return i.add assembled
  | .error e => return i.fail e

/-- The inventory with the devices of one bus. -/
def listBus (settings : Settings) (i : Inventory) (bus : UInt8 × Path) : StateM Host Inventory := do
  match numbered (← get).files bus.2 with
  | .ok nodes => nodes.foldlM (listNode settings bus.1) i
  | .error fault => return i.fail (.io fault)

/-- All devices. -/
def list (settings : Settings) : StateM Host Inventory := do
  match numbered (← get).files settings.nodeRoot with
  | .ok buses => buses.foldlM (listBus settings) empty
  | .error fault => return empty.fail (.io fault)

/-! ## Single devices -/

/-- Puts the device at an address together and opens it. -/
def openAt (settings : Settings) (address : BusAddress) : StateM Host (Except Error Device) := do
  let path := nodePath settings.nodeRoot address
  if (← get).files.exists? path then
    match ← readDevice settings address path with
    | .error e => return .error e
    | .ok assembled =>
      let (opened, d) ← assembled.device.open
      return opened.map fun _ => d
  else return .error .notFound

/-- The first device of these identifiers, closed. -/
def findDevice (settings : Settings) (vendor product : UInt16) :
    StateM Host (Except Error Device) := do
  match (← list settings).find? vendor product with
  | some d => return .ok d
  | none => return .error .notFound

/-! ## Opening on behalf of a registry -/

/-- The devices opened so far, the last failure, and the state of the choice. -/
structure Opening (γ : Type) where
  devices : List Device
  error : Option Error
  choice : γ

/-- Opens and registers one device, if it is chosen. -/
def openChosen {γ : Type} (registry : Nat) (choose : γ → Device → Bool × γ) (o : Opening γ)
    (d : Device) :
    StateM Session (Opening γ) := do
  let (chosen, choice) := choose o.choice d
  let o := { o with choice := choice }
  if chosen then
    match ← Session.onHost d.open with
    | (.ok _, d) =>
      let registration ← Session.register registry
      return { o with devices := o.devices ++ [{ d with registration := registration }] }
    | (.error e, _) => return { o with error := some e }
  else return o

/-- Opens and registers every device that is chosen, in the order of the inventory. The choice may
depend on the devices before. The error is the last one, of the inventory or of an opening. -/
def openDevices {γ : Type} (registry : Nat) (settings : Settings) (choose : γ → Device → Bool × γ)
    (start : γ) : StateM Session (Opening γ) := do
  let inventory ← Session.onHost (list settings)
  inventory.devices.foldlM (openChosen registry choose) ⟨[], inventory.error, start⟩

/-- Chooses the first device of these identifiers; the state tells whether it has been seen. -/
def chooseFirst (vendor product : UInt16) (seen : Bool) (d : Device) : Bool × Bool :=
  if seen || d.vendor != vendor || d.product != product then (false, seen) else (true, true)

/-- Opens and registers the first device of these identifiers. -/
def openFirst (registry : Nat) (settings : Settings) (vendor product : UInt16) :
    StateM Session (Except Error (Option Device)) := do
  let opening ← openDevices registry settings (chooseFirst vendor product) false
  match opening.devices.getLast?, opening.error with
  | some d, _ => return .ok (some d)
  | none, some e => return .error e
  | none, none => return .ok none

end Inventory

end UsbAccess
