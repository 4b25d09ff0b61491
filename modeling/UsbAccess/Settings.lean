import UsbAccess.BusAddress
import UsbAccess.Files.Path

/-!
# Settings

Where the device nodes and the device directories are, and a table of names for vendors and
products.

Results:
* `NameTable.vendor?_setVendor` and `NameTable.product?_setProduct`: the last name given to a vendor
  or to a product counts, and no other name changes.
-/

namespace UsbAccess

open Text

/-- Names of vendors and products by their identifiers. -/
structure NameTable where
  vendors : List (UInt16 × String)
  products : List ((UInt16 × UInt16) × String)
  deriving DecidableEq, Repr

namespace NameTable

/-- The table without names. -/
def empty : NameTable := ⟨[], []⟩

/-- The table with a name for a vendor. -/
def setVendor (t : NameTable) (vendor : UInt16) (name : String) : NameTable :=
  { t with vendors := (vendor, name) :: t.vendors }

/-- The table with a name for a product of a vendor. -/
def setProduct (t : NameTable) (vendor product : UInt16) (name : String) : NameTable :=
  { t with products := ((vendor, product), name) :: t.products }

/-- The name of a vendor. -/
def vendor? (t : NameTable) (vendor : UInt16) : Option String :=
  t.vendors.lookup vendor

/-- The name of a product of a vendor. -/
def product? (t : NameTable) (vendor product : UInt16) : Option String :=
  t.products.lookup (vendor, product)

/-! ## Laws -/

theorem lookup_cons_eq {α : Type} [BEq α] [LawfulBEq α] [DecidableEq α] (key other : α)
    (name : String) (names : List (α × String)) :
    ((key, name) :: names).lookup other =
      if other = key then some name else names.lookup other := by
  by_cases hsame : other = key
  · rw [if_pos hsame, hsame, List.lookup_cons_self]
  · rw [if_neg hsame, List.lookup_cons, beq_eq_false_iff_ne.2 hsame]

theorem vendor?_setVendor (t : NameTable) (vendor other : UInt16) (name : String) :
    (t.setVendor vendor name).vendor? other =
      if other = vendor then some name else t.vendor? other :=
  lookup_cons_eq vendor other name t.vendors

theorem product?_setProduct (t : NameTable) (vendor product : UInt16) (other : UInt16 × UInt16)
    (name : String) :
    (t.setProduct vendor product name).product? other.1 other.2 =
      if other = (vendor, product) then some name else t.product? other.1 other.2 :=
  lookup_cons_eq (vendor, product) other name t.products

end NameTable

/-- The settings of a program that uses devices. -/
structure Settings where
  nodeRoot : Path
  directoryRoot : Path
  names : Option NameTable
  deriving DecidableEq, Repr

namespace Settings

/-- The places at which a Linux system keeps nodes and directories, and no names. -/
def standard : Settings :=
  ⟨.ofText "/dev/bus/usb", .ofText "/sys/bus/usb/devices", none⟩

/-- The settings, for inspection. -/
def outline (s : Settings) : String :=
  Outline.record "Config"
    [("usbfs_root", s.nodeRoot.outline), ("sysfs_root", s.directoryRoot.outline),
      ("names", Outline.bool s.names.isSome)]

end Settings

/-- The path of a device's node: the numbers of the bus and the device, in three digits each. -/
def nodePath (root : Path) (device : BusAddress) : Path :=
  (root.child (decimal 3 device.bus.toNat)).child (decimal 3 device.number.toNat)

end UsbAccess
