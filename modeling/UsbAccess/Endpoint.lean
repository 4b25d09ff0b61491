import UsbAccess.Descriptor.Record
import UsbAccess.Error

/-!
# Endpoints

The ends of a device to which data goes or from which it comes. Bit 7 of an endpoint's address is
the direction, seen from the host.
-/

namespace UsbAccess

open Text

namespace TransferType

/-- Transfers of setup data. -/
def control : UInt8 := 0

/-- Transfers at a fixed rate. -/
def isochronous : UInt8 := 1

/-- Transfers of large amounts of data. -/
def bulk : UInt8 := 2

/-- Transfers that the host asks for regularly. -/
def interrupt : UInt8 := 3

/-- The name of a transfer type. -/
def name (t : UInt8) : String :=
  if t = control then "Control"
  else if t = isochronous then "Isochronous"
  else if t = bulk then "Bulk"
  else "Interrupt"

end TransferType

namespace Direction

/-- The bit of an address that tells the direction. -/
def mask : UInt8 := 0x80

/-- That bit in the address of an endpoint from which data comes. -/
def intoBit : UInt8 := 0x80

/-- The direction of an address. -/
def ofAddress (address : UInt8) : Direction :=
  if address &&& mask = intoBit then into else out

end Direction

/-- An endpoint of a device and the number of the interface that it belongs to. -/
structure Endpoint where
  address : UInt8
  transferType : UInt8
  maxPacketSize : UInt16
  maxIsochronousPacketSize : UInt16
  interface : UInt8
  deriving DecidableEq, Repr

namespace Endpoint

/-- The endpoint that a record describes. -/
def ofRecord (r : Descriptor.EndpointRecord) (interface : UInt8) : Endpoint :=
  ⟨r.address, r.transferType, r.maxPacketSize, r.maxPacketSize, interface⟩

/-- The bits of an address other than that of the direction. -/
def numberMask : UInt8 := 0x7f

/-- The address without the direction. -/
def number (e : Endpoint) : UInt8 :=
  e.address &&& numberMask

/-- The direction of the endpoint's data. -/
def direction (e : Endpoint) : Direction :=
  .ofAddress e.address

/-- The endpoint carries bulk transfers. -/
def isBulk (e : Endpoint) : Bool :=
  e.transferType == TransferType.bulk

/-- The endpoint on one line. -/
def text (e : Endpoint) : String :=
  "EP 0x" ++ hexCapital 2 e.address.toNat ++ ": " ++ TransferType.name e.transferType ++ " " ++
    e.direction.name ++ " (" ++ e.maxPacketSize.toNat.repr ++ " bytes)"

end Endpoint

/-- An endpoint to which data goes. -/
structure OutEndpoint where
  endpoint : Endpoint
  isOut : endpoint.direction = .out

/-- An endpoint from which data comes. -/
structure InEndpoint where
  endpoint : Endpoint
  isIn : endpoint.direction = .into

namespace Endpoint

/-- The endpoint as one to which data goes. -/
def toOut? (e : Endpoint) : Except Error OutEndpoint :=
  if h : e.direction = .out then .ok ⟨e, h⟩
  else .error (.invalidArgument (.addressDirection e.address .out))

/-- The endpoint as one from which data comes. -/
def toIn? (e : Endpoint) : Except Error InEndpoint :=
  if h : e.direction = .into then .ok ⟨e, h⟩
  else .error (.invalidArgument (.addressDirection e.address .into))

end Endpoint

end UsbAccess
