import UsbAccess.Text.Outline

/-!
# Addresses of devices

A device is known by its bus and its number on that bus for as long as it stays attached; what it
is, by the identifiers of its vendor and its product.
-/

namespace UsbAccess

open Text

/-- The bus of a device and its number there, 0 where unknown. -/
structure BusAddress where
  bus : UInt8
  number : UInt8
  deriving DecidableEq, Repr

namespace BusAddress

/-- The address in two groups of three digits. -/
def text (a : BusAddress) : String :=
  decimal 3 a.bus.toNat ++ ":" ++ decimal 3 a.number.toNat

/-- The address, for inspection. -/
def outline (a : BusAddress) : String :=
  Outline.record "DeviceId" [("bus", a.bus.toNat.repr), ("address", a.number.toNat.repr)]

/-- Addresses ascend by bus and then by number. -/
def le (a b : BusAddress) : Bool :=
  a.bus < b.bus || a.bus == b.bus && a.number ≤ b.number

/-- Addresses in ascending order. -/
def sort (as : List BusAddress) : List BusAddress :=
  as.mergeSort le

end BusAddress

/-- The identifier of a vendor or a product, as four digits. -/
def identifierText (id : UInt16) : String :=
  hex 4 id.toNat

/-- The identifier of a vendor or a product, for inspection. -/
def identifierOutline (id : UInt16) : String :=
  Outline.apply "Id" [id.toNat.repr]

end UsbAccess
