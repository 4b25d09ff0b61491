import UsbAccess.Bytes
import UsbAccess.Text.Numeral

/-!
# Requests to a device node

The requests that the kernel takes at the node of a device, with their codes.
-/

namespace UsbAccess

open Text

/-- A request at the node of a device. -/
inductive NodeRequest where
  /-- A control transfer from the device. -/
  | control (requestType request : UInt8) (value index length : UInt16) (timeout : UInt32)
  /-- A bulk transfer; `sent` is what goes to the device. -/
  | bulk (endpoint : UInt8) (length timeout : UInt32) (sent : Bytes)
  /-- Selects an alternate setting. -/
  | setInterface (interface alternate : UInt8)
  /-- Selects a configuration. -/
  | setConfiguration (value : UInt8)
  /-- Asks for the driver of an interface. -/
  | getDriver (interface : UInt8)
  /-- Claims an interface. -/
  | claim (interface : UInt8)
  /-- Releases an interface. -/
  | release (interface : UInt8)
  /-- Asks for the number of the device. -/
  | connectInfo
  /-- Takes an interface from its driver. -/
  | detach (interface : UInt8)
  /-- Gives an interface back to its driver. -/
  | attach (interface : UInt8)
  /-- Resets the device. -/
  | reset
  /-- Asks for the speed of the device. -/
  | getSpeed
  deriving DecidableEq, Repr

namespace NodeRequest

/-- The code of a request. -/
def code : NodeRequest → Nat
  | control .. => 0xc0185500
  | bulk .. => 0xc0185502
  | setInterface .. => 0x80085504
  | setConfiguration _ => 0x80045505
  | getDriver _ => 0x41045508
  | claim _ => 0x8004550f
  | release _ => 0x80045510
  | connectInfo => 0x40085511
  | detach _ => 0xc0105512
  | attach _ => 0xc0105512
  | reset => 0x5514
  | getSpeed => 0x551f

/-- The name of a request. -/
def name : NodeRequest → String
  | control .. => "control"
  | bulk .. => "bulk"
  | setInterface .. => "set_interface"
  | setConfiguration _ => "set_configuration"
  | getDriver _ => "get_driver"
  | claim _ => "claim"
  | release _ => "release"
  | connectInfo => "connect_info"
  | detach _ => "detach"
  | attach _ => "attach"
  | reset => "reset"
  | getSpeed => "get_speed"

/-- An endpoint to which data goes has bit 7 of its address clear. -/
def carriesOut (endpoint : UInt8) : Bool :=
  endpoint &&& 0x80 == 0

/-- The data of a transfer, as far as it is written down. -/
def excerpt (data : Bytes) : String :=
  if data.length > 32 then hexBytes (data.take 32) ++ ".." else hexBytes data

/-- The arguments of a request. -/
def arguments : NodeRequest → List String
  | control requestType request value index length timeout =>
    ["type=0x" ++ hex 2 requestType.toNat, "req=0x" ++ hex 2 request.toNat,
      "value=0x" ++ hex 4 value.toNat, "index=0x" ++ hex 4 index.toNat,
      "length=" ++ length.toNat.repr, "timeout=" ++ timeout.toNat.repr]
  | bulk endpoint length timeout sent =>
    ["ep=0x" ++ hex 2 endpoint.toNat, "length=" ++ length.toNat.repr,
      "timeout=" ++ timeout.toNat.repr] ++
      if carriesOut endpoint then ["data=" ++ excerpt sent] else []
  | setInterface interface alternate =>
    ["interface=" ++ interface.toNat.repr, "alternate=" ++ alternate.toNat.repr]
  | setConfiguration value => ["value=" ++ value.toNat.repr]
  | getDriver interface => ["interface=" ++ interface.toNat.repr]
  | claim interface => ["interface=" ++ interface.toNat.repr]
  | release interface => ["interface=" ++ interface.toNat.repr]
  | connectInfo => []
  | detach interface => ["interface=" ++ interface.toNat.repr, "code=0x5516", "data=null"]
  | attach interface => ["interface=" ++ interface.toNat.repr, "code=0x5517", "data=null"]
  | reset => []
  | getSpeed => []

/-- The request on one line. -/
def describe (r : NodeRequest) : String :=
  " ".intercalate (r.name :: ("0x" ++ hex 1 r.code) :: r.arguments)

end NodeRequest

/-- The kernel's answer to a request that it accepts: a number, and the bytes that it puts into the
request's buffer. -/
structure Reply where
  result : Int32
  data : Bytes
  deriving DecidableEq

namespace Reply

/-- The result as a number of bytes, 64 bits wide. -/
def count (r : Reply) : Nat :=
  (r.result.toInt % 18446744073709551616).toNat

end Reply

end UsbAccess
