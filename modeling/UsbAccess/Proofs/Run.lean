import Mathlib
import UsbAccess.Assembly.Build
import UsbAccess.Device.Control

/-!
# Runs

A program uses a device by one operation after another, while files change under it and other
devices are registered and leave.

Results:
* `Assembly.assemble_isFresh`: a device just put together is closed and has no claims.
* `open_smallDevice`: a small device is there and can be opened.
-/

namespace UsbAccess

namespace Device

/-- The device is closed and has no claims. -/
structure IsFresh (d : Device) : Prop where
  handle : d.handle = none
  claims : d.claims = Claims.none

/-- An operation of a program on its device. The default interface is taken by one operation and
given up by another, and the program may do anything in between. -/
inductive Operation where
  | open
  | close
  | claimInterface (number : UInt8)
  | releaseInterface (number : UInt8)
  | selectConfiguration (value : UInt8)
  | selectAlternate (number alternate : UInt8)
  | beginDefault
  | endDefault (number : UInt8)
  /-- The device goes out of use, and is closed. -/
  | drop
  deriving DecidableEq, Repr

/-- An operation with its outcome and the device after it. -/
def Operation.perform (d : Device) : Operation → StateM Session (Outcome Unit)
  | .open => Session.onHost d.open
  | .close => do return (.ok (), ← d.close)
  | .claimInterface number => Session.onHost (d.claimInterface number)
  | .releaseInterface number => Session.onHost (d.releaseInterface number)
  | .selectConfiguration value => Session.onHost (d.selectConfiguration value)
  | .selectAlternate number alternate => Session.onHost (d.selectAlternate number alternate)
  | .beginDefault => do
    let (begun, d) ← d.beginDefault
    return (begun.map fun _ => (), d)
  | .endDefault number => do return (.ok (), ← d.endDefault number)
  | .drop => do return (.ok (), ← d.close)

/-- An open device was to be opened again, and it failed. -/
def Operation.FailsReopening (op : Operation) (d : Device) (outcome : Except Error Unit) : Prop :=
  op = .open ∧ d.isOpen = true ∧ ∃ e, outcome = .error e

/-- From one device and session to another by operations, each as `allowed` says of the operation,
the device and the session before it. -/
inductive Run (allowed : Operation → Device → Session → Prop) (d₀ : Device) (s₀ : Session) :
    Device → Session → Prop
  | start : Run allowed d₀ s₀ d₀ s₀
  /-- Files change, and so do the registries by other devices. -/
  | elsewhere {d : Device} {s : Session} (files : FileTree) (registries : List Registry)
      (run : Run allowed d₀ s₀ d s) :
      Run allowed d₀ s₀ d ⟨{ s.host with files := files }, registries⟩
  | operation {d : Device} {s : Session} (op : Operation) (run : Run allowed d₀ s₀ d s)
      (hallowed : allowed op d s) : Run allowed d₀ s₀ (op.perform d s).1.2 (op.perform d s).2

end Device

theorem Assembly.assemble_isFresh {σ : Type} (settings : Settings) (files : FileTree)
    (ask : Path → Inquiry σ) (tree : Descriptor.DeviceTree) (hints : Hints) (s : σ) :
    (Assembly.assemble settings files ask tree hints s).1.device.IsFresh :=
  ⟨rfl, rfl⟩

/-! ## A small device -/

/-- A closed device with two interfaces. -/
def smallDevice : Device where
  address := ⟨1, 2⟩
  port := 0
  ports := []
  vendor := 0x0483
  product := 0x5740
  names := ⟨none, none, "", ""⟩
  parent := none
  speed := .unknown
  configurations := [⟨false, false, 0, 1, [.empty 0 ⟨1, 2⟩, .empty 1 ⟨1, 2⟩], ⟨1, 2⟩⟩]
  active := some 0
  texts := ⟨0, 0, 0⟩
  source := .node
  nodeRoot := .ofText "/"
  handle := none
  claims := Claims.none
  registration := none

/-- Where the node of the small device is. -/
def smallNode : Location := [Text.Utf8.bytes "001", Text.Utf8.bytes "002"]

/-- A file tree with nothing but that node. -/
def smallFiles : FileTree :=
  ((FileTree.empty []).put [Text.Utf8.bytes "001"] .dir).put smallNode (.file [])

/-- A session in which nothing has happened. -/
def smallSession (kernel : Kernel) : Session := ⟨⟨smallFiles, kernel, [], 0⟩, []⟩

/-- The handle of the small device. -/
def smallHandle : Handle := ⟨smallNode, 0, 0⟩

/-- The small device when it is open. -/
def smallOpened : Device := { smallDevice with handle := some smallHandle }

/-- The session when the small device is open. -/
def smallOpenedSession (kernel : Kernel) : Session :=
  ⟨⟨smallFiles, kernel, [.opened smallHandle], 1⟩, []⟩

theorem open_smallDevice (kernel : Kernel) :
    Device.Operation.open.perform smallDevice (smallSession kernel) =
      ((.ok (), smallOpened), smallOpenedSession kernel) := by
  cbv

/-- What becomes of the small device when it is open and interface 0 is claimed. -/
def smallClaimed (kernel : Kernel) : Device.Outcome Unit × Session :=
  (Device.Operation.claimInterface 0).perform smallOpened (smallOpenedSession kernel)

/-- Opening the small device and claiming interface 0 is a run. -/
theorem Device.Run.smallClaimed {allowed : Operation → Device → Session → Prop} {kernel : Kernel}
    (hopen : allowed .open smallDevice (smallSession kernel))
    (hclaim : allowed (.claimInterface 0) smallOpened (smallOpenedSession kernel)) :
    Run allowed smallDevice (smallSession kernel)
    (smallClaimed kernel).1.2 (smallClaimed kernel).2 := by
  have hrun := Run.start.operation .open hopen
  rw [open_smallDevice] at hrun
  exact hrun.operation (.claimInterface 0) hclaim

end UsbAccess
