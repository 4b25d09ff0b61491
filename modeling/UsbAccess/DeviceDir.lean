import UsbAccess.Binary64.Reader
import UsbAccess.Binary64.Shortest
import UsbAccess.Files.Tree
import UsbAccess.Speed
import UsbAccess.Text.Blank

/-!
# Device directories

The system keeps a directory for each attached device. Its files are attributes of one line, its
name tells the port that the device is plugged into, and it lies in the directory of the hub above
the device.

Results:
* `portOfName_usb`: root hubs have port 0.
* `number_eq_ok`: a number is what the trimmed attribute writes.
-/

namespace UsbAccess

open Text

/-- The directory of a device. -/
structure DeviceDir where
  path : Path
  deriving DecidableEq, Repr

namespace DeviceDir

/-- The directory, for inspection. -/
def outline (d : DeviceDir) : String :=
  Outline.record "SysfsDevice" [("path", d.path.outline)]

/-! ## Attributes -/

/-- The line end characters at the end of an attribute do not belong to it. -/
def isLineEnd (c : Char) : Bool :=
  c = '\n' || c = '\r'

/-- The text of an attribute. -/
def attr (d : DeviceDir) (files : FileTree) (name : String) : Except Error String :=
  match files.readText (d.path.child name) with
  | .ok text => .ok (String.ofList (dropEndWhile isLineEnd text.toList))
  | .error fault => .error (.io fault)

/-- The value that `read?` finds in an attribute without the blanks around it. -/
def parsed {α : Type} (d : DeviceDir) (files : FileTree) (name : String)
    (read? : List Char → Option α) :
    Except Error α :=
  match d.attr files name with
  | .ok text =>
    match read? (trim text.toList) with
    | some value => .ok value
    | none => .error (.parse name text)
  | .error e => .error e

/-- An attribute that holds the number of a bus, a device or a configuration. -/
def number (d : DeviceDir) (files : FileTree) (name : String) : Except Error UInt8 :=
  d.parsed files name byte?

/-- The name of the device's maker. -/
def manufacturer (d : DeviceDir) (files : FileTree) : Except Error String :=
  d.attr files "manufacturer"

/-- The name of the device. -/
def product (d : DeviceDir) (files : FileTree) : Except Error String :=
  d.attr files "product"

/-- The number of the bus. -/
def busNumber (d : DeviceDir) (files : FileTree) : Except Error UInt8 :=
  d.number files "busnum"

/-- The number of the device on its bus. -/
def deviceNumber (d : DeviceDir) (files : FileTree) : Except Error UInt8 :=
  d.number files "devnum"

/-- The value of the active configuration. -/
def activeConfiguration (d : DeviceDir) (files : FileTree) : Except Error UInt8 :=
  d.number files "bConfigurationValue"

/-- The files after another configuration has been selected. -/
def selectConfiguration (d : DeviceDir) (files : FileTree) (value : UInt8) :
    Except Error FileTree :=
  match files.write (d.path.child "bConfigurationValue")
    (Utf8.bytes (value.toNat.repr ++ "\n")) with
  | .ok files => .ok files
  | .error fault => .error (.io fault)

/-- The speed of the device. -/
def speed (d : DeviceDir) (files : FileTree) : Except Error Speed :=
  match d.parsed files "speed" Binary64.read? with
  | .ok rate =>
    match Speed.ofMbps? rate with
    | some speed => .ok speed
    | none => .error (.parse "speed" rate.text)
  | .error e => .error e

/-! ## The way up -/

/-- `cs` from behind its last dot or hyphen. -/
def lastNumeral (cs : List Char) : List Char :=
  (cs.reverse.takeWhile fun c => c ≠ '.' && c ≠ '-').reverse

/-- The port that a directory of this name is plugged into: the last numeral of the name. Root hubs
have port 0, and interfaces have a colon in their names and no port. -/
def portOfName (name : String) : Except Error UInt8 :=
  if "usb".toList.isPrefixOf name.toList then .ok 0
  else if name.toList.contains ':' then .error (.parse "port" name)
  else
    match byte? (lastNumeral name.toList) with
    | some port => .ok port
    | none => .error (.parse "port" name)

/-- The port that the device is plugged into. -/
def port (d : DeviceDir) : Except Error UInt8 :=
  portOfName d.path.fileName

/-- The directory above, when it has the two numbers of a device. Links are resolved first. -/
def above (d : DeviceDir) (files : FileTree) : Except Error (Option DeviceDir) :=
  match files.canonical d.path with
  | .error fault => .error (.io fault)
  | .ok [] => .ok none
  | .ok location =>
    let parent := Location.path location.dropLast
    if files.exists? (parent.child "busnum") && files.exists? (parent.child "devnum") then
      .ok (some ⟨parent⟩)
    else .ok none

/-- The two numbers of the device. -/
def address (d : DeviceDir) (files : FileTree) : Except Error BusAddress :=
  match d.busNumber files with
  | .ok bus =>
    match d.deviceNumber files with
    | .ok number => .ok ⟨bus, number⟩
    | .error e => .error e
  | .error e => .error e

/-- The hub that the device is plugged into. -/
def parent (d : DeviceDir) (files : FileTree) : Except Error (Option BusAddress) :=
  match d.above files with
  | .ok (some hub) => (hub.address files).map some
  | .ok none => .ok none
  | .error e => .error e

/-! ## Interfaces and devices -/

/-- The name of the driver of an interface, by the link in the interface's directory. -/
def driver (d : DeviceDir) (files : FileTree) (configuration interface : UInt8) :
    Except Error (Option String) :=
  let dir := d.path.child
    (d.path.fileName ++ ":" ++ configuration.toNat.repr ++ "." ++ interface.toNat.repr)
  if files.exists? dir then
    match files.linkTarget (dir.child "driver") with
    | .ok target => .ok ((Path.mk target).fileName?.map Utf8.lossy)
    | .error fault => if fault = .refused .noEntry then .ok none else .error (.io fault)
  else .error (.invalidArgument (.noInterfaceDir interface configuration d.path.display))

/-- The first directory under `root` whose two numbers are those of the device. Entries without them
are passed over. -/
def find? (files : FileTree) (root : Path) (device : BusAddress) : Option DeviceDir :=
  match files.entriesOf root with
  | .ok names =>
    (names.map fun name => DeviceDir.mk (root.join ⟨name⟩)).find? fun d =>
      (d.address files).toOption == some device
  | .error _ => none

/-! ## Laws -/

theorem portOfName_usb (rest : String) : portOfName ("usb" ++ rest) = .ok 0 := by
  have h : "usb".toList.isPrefixOf ("usb" ++ rest).toList = true := by
    rw [String.toList_append, List.isPrefixOf_iff_prefix]
    exact List.prefix_append ..
  rw [portOfName, if_pos h]

theorem number_eq_ok {d : DeviceDir} {files : FileTree} {name text : String} {n : UInt8}
    (h : d.attr files name = .ok text) (hn : byte? (trim text.toList) = some n) :
    d.number files name = .ok n := by
  unfold number parsed
  simp only [h]
  rw [hn]

end DeviceDir

end UsbAccess
