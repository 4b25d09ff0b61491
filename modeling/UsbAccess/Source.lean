import UsbAccess.Claim
import UsbAccess.DeviceDir

/-!
# Sources of a device's data

What descriptors do not tell comes from the device's directory or, for want of one, from the device
itself, which knows neither its bus nor its port nor its hub.
-/

namespace UsbAccess

/-- Questions to a device, on a state of type `σ`. -/
structure DeviceQueries (σ : Type) where
  text : UInt8 → StateM σ (Except Errno String)
  activeConfiguration : StateM σ (Except Errno UInt8)
  speed : StateM σ (Except Errno Speed)
  deviceNumber : StateM σ (Except Errno UInt8)

/-- The questions at an open node. -/
def Handle.queries (h : Handle) : DeviceQueries Host :=
  ⟨h.text, h.activeConfiguration, h.speed, h.deviceNumber⟩

/-- How a device is asked: a question with the name of its operation. -/
structure Inquiry (σ : Type) where
  text : String → UInt8 → StateM σ (Except Error String)
  activeConfiguration : StateM σ (Except Error UInt8)
  speed : StateM σ (Except Error Speed)
  deviceNumber : StateM σ (Except Error UInt8)

namespace Inquiry

variable {σ : Type}

/-- Asks by means of what is already open. -/
def ofQueries (q : DeviceQueries σ) : Inquiry σ where
  text operation index := do return Claim.failed operation (← q.text index)
  activeConfiguration := do return Claim.failed "get configuration" (← q.activeConfiguration)
  speed := do return Claim.failed "get speed" (← q.speed)
  deviceNumber := do return Claim.failed "get connect info" (← q.deviceNumber)

/-- Opens the node for one operation. -/
def withNode {α : Type} (node : Path) (operation : String)
    (ask : Handle → StateM Host (Except Errno α)) : StateM Host (Except Error α) := do
  match ← Host.openNode node with
  | .error fault => return .error (.io fault)
  | .ok h => return Claim.failed operation (← ask h)

/-- Asks by opening the node for each question. -/
def ofNode (node : Path) : Inquiry Host where
  text operation index := withNode node operation fun h => h.text index
  activeConfiguration := withNode node "get configuration" Handle.activeConfiguration
  speed := withNode node "get speed" Handle.speed
  deviceNumber := withNode node "get connect info" Handle.deviceNumber

/-- Asks by the open handle, or else by opening the node. -/
def ofHandle (handle : Option Handle) (node : Path) : Inquiry Host :=
  match handle with
  | some h => ofQueries h.queries
  | none => ofNode node

end Inquiry

/-- Where a device's data comes from. -/
inductive Source where
  /-- The directory of the device. -/
  | directory (dir : DeviceDir)
  /-- The node of the device. -/
  | node
  deriving DecidableEq, Repr

namespace Source

variable {σ : Type}

/-- The source is a directory. -/
def isDirectory : Source → Bool
  | directory _ => true
  | node => false

/-- The path of the directory. -/
def path? : Source → Option Path
  | directory dir => some dir.path
  | node => none

/-- The source, for inspection. -/
def outline : Source → String
  | directory dir => Text.Outline.apply "Sysfs" [dir.outline]
  | node => "Usbfs"

/-- The name of the device's maker; `index` is that of the device's own text. -/
def vendorName (s : Source) (files : FileTree) (ask : Inquiry σ) (index : UInt8) :
    StateM σ (Except Error String) :=
  match s with
  | directory dir => return dir.manufacturer files
  | node => ask.text "read manufacturer string" index

/-- The name of the device; `index` is that of the device's own text. -/
def productName (s : Source) (files : FileTree) (ask : Inquiry σ) (index : UInt8) :
    StateM σ (Except Error String) :=
  match s with
  | directory dir => return dir.product files
  | node => ask.text "read product string" index

/-- The value of the active configuration. -/
def activeConfiguration (s : Source) (files : FileTree) (ask : Inquiry σ) :
    StateM σ (Except Error UInt8) :=
  match s with
  | directory dir => return dir.activeConfiguration files
  | node => ask.activeConfiguration

/-- The speed of the device. -/
def speed (s : Source) (files : FileTree) (ask : Inquiry σ) : StateM σ (Except Error Speed) :=
  match s with
  | directory dir => return dir.speed files
  | node => ask.speed

/-- The number of the device on its bus. -/
def deviceNumber (s : Source) (files : FileTree) (ask : Inquiry σ) :
    StateM σ (Except Error UInt8) :=
  match s with
  | directory dir => return dir.deviceNumber files
  | node => ask.deviceNumber

/-- The port that the device is plugged into. -/
def port : Source → Except Error UInt8
  | directory dir => dir.port
  | node => .error (.unsupported "port number")

/-- The number of the bus. -/
def busNumber (s : Source) (files : FileTree) : Except Error UInt8 :=
  match s with
  | directory dir => dir.busNumber files
  | node => .error (.unsupported "bus number")

/-- The hub that the device is plugged into. -/
def parent (s : Source) (files : FileTree) : Except Error (Option BusAddress) :=
  match s with
  | directory dir => dir.parent files
  | node => .error (.unsupported "parent device")

end Source

end UsbAccess
