import UsbAccess.Error

/-!
# Remarks

A device is always put together, whatever its records and its attributes hold. What had to be left
out or could not be found is told in remarks, each on one part of the device.

Results:
* `note_fst`: a remark tells of a failure and does not replace it.
-/

namespace UsbAccess

/-- The part of a device that a remark is about. -/
inductive Topic where
  | configuration
  | interface
  | directory
  | deviceNumber
  | busNumber
  | vendorName
  | productName
  | port
  | activeConfiguration
  | speed
  | parent
  deriving DecidableEq, Repr

/-- The name of a part. -/
def Topic.name : Topic → String
  | configuration => "Configuration"
  | interface => "Interface"
  | directory => "SysfsPath"
  | deviceNumber => "DeviceNumber"
  | busNumber => "BusNumber"
  | vendorName => "VendorName"
  | productName => "ProductName"
  | port => "Port"
  | activeConfiguration => "ActiveConfiguration"
  | speed => "Speed"
  | parent => "Parent"

/-- A remark. -/
structure Remark where
  topic : Topic
  message : String
  deriving DecidableEq, Repr

namespace Remark

/-- The remark on one line. -/
def text (r : Remark) : String :=
  r.topic.name ++ ": " ++ r.message

/-- What has been found, and a remark where nothing has. -/
def note {α : Type} (topic : Topic) (found : Except Error α) : Option α × List Remark :=
  match found with
  | .ok a => (some a, [])
  | .error e => (none, [⟨topic, e.message⟩])

theorem note_fst {α : Type} (topic : Topic) (found : Except Error α) :
    (note topic found).1 = found.toOption := by
  cases found <;> rfl

end Remark

end UsbAccess
