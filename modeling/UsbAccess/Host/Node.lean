import UsbAccess.DeviceText
import UsbAccess.Host.Basic
import UsbAccess.Speed

/-!
# Device nodes

What an open node answers: each operation is one request, but for texts, which first ask for the
device's languages. A buffer is given to the kernel as it stands and comes back overwritten from its
start.

Results:
* `text_zero`: there is no text at index 0, and no request is made for it.
* `length_received`: a transfer keeps the length of its buffer.
-/

namespace UsbAccess

/-- What became of taking an interface from its driver. -/
inductive Detachment where
  | detached
  | noDriver
  deriving DecidableEq, Repr

namespace Handle

/-- A request of which only the success matters. -/
def tell (h : Handle) (request : NodeRequest) : StateM Host (Except Errno Unit) := do
  match ← Host.ask h request with
  | .ok _ => return .ok ()
  | .error e => return .error e

/-- Claims an interface. -/
def claim (h : Handle) (interface : UInt8) : StateM Host (Except Errno Unit) :=
  h.tell (.claim interface)

/-- Releases an interface. -/
def release (h : Handle) (interface : UInt8) : StateM Host (Except Errno Unit) :=
  h.tell (.release interface)

/-- Takes an interface from its driver, if it has one. -/
def detach (h : Handle) (interface : UInt8) : StateM Host (Except Errno Detachment) := do
  match ← Host.ask h (.detach interface) with
  | .ok _ => return .ok .detached
  | .error e => return if e = .noData then .ok .noDriver else .error e

/-- Gives an interface back to its driver. -/
def attach (h : Handle) (interface : UInt8) : StateM Host (Except Errno Unit) :=
  h.tell (.attach interface)

/-- The name of an interface's driver, if it has one. -/
def driver (h : Handle) (interface : UInt8) : StateM Host (Except Errno (Option String)) := do
  match ← Host.ask h (.getDriver interface) with
  | .ok reply =>
    return .ok (some (DeviceText.driverName (Bytes.overwrite (List.replicate 256 0) reply.data)))
  | .error e => return if e = .noData then .ok none else .error e

/-- Selects a configuration. -/
def selectConfiguration (h : Handle) (value : UInt8) : StateM Host (Except Errno Unit) :=
  h.tell (.setConfiguration value)

/-- Selects an alternate setting of an interface. -/
def selectAlternate (h : Handle) (interface alternate : UInt8) : StateM Host (Except Errno Unit) :=
  h.tell (.setInterface interface alternate)

/-- Resets the device. -/
def reset (h : Handle) : StateM Host (Except Errno Unit) :=
  h.tell .reset

/-- The speed of the device. -/
def speed (h : Handle) : StateM Host (Except Errno Speed) := do
  match ← Host.ask h .getSpeed with
  | .ok reply => return .ok (.ofKernel reply.result.toInt)
  | .error e => return .error e

/-- The number of the device on its bus: the low byte of the first field of eight bytes. -/
def deviceNumber (h : Handle) : StateM Host (Except Errno UInt8) := do
  match ← Host.ask h .connectInfo with
  | .ok reply => return .ok ((Bytes.overwrite (List.replicate 8 0) reply.data).headD 0)
  | .error e => return .error e

/-! ## Control transfers -/

/-- The time that the device has for a control transfer, in milliseconds. -/
def controlTimeout : UInt32 := 1000

/-- A control transfer into `buffer`: the number of bytes received and the buffer after it. -/
def controlIn (h : Handle) (request : UInt8) (value index : UInt16) (buffer : Bytes) :
    StateM Host (Except Errno (Nat × Bytes)) := do
  match ← Host.ask h (.control 0x80 request value index buffer.length.toUInt16 controlTimeout) with
  | .ok reply => return .ok (reply.count, Bytes.overwrite buffer reply.data)
  | .error e => return .error e

/-- The value of the active configuration, one byte. -/
def activeConfiguration (h : Handle) : StateM Host (Except Errno UInt8) := do
  match ← h.controlIn 0x08 0 0 [0] with
  | .ok (count, buffer) => return if count = 1 then .ok (buffer.headD 0) else .error .protocol
  | .error e => return .error e

/-- The value by which the text at `index` is asked for. -/
def textValue (index : UInt8) : UInt16 :=
  0x0300 + index.toUInt16

/-- The text at `index`, in the first language that the device lists. -/
def text (h : Handle) (index : UInt8) : StateM Host (Except Errno String) := do
  if index = 0 then return .ok ""
  match ← h.controlIn 0x06 (textValue 0) 0 (List.replicate 255 0) with
  | .error e => return .error e
  | .ok (count, buffer) =>
    let language := (DeviceText.firstLanguage? (buffer.take count)).getD DeviceText.defaultLanguage
    match ← h.controlIn 0x06 (textValue index) language buffer with
    | .error e => return .error e
    | .ok (count, buffer) => return DeviceText.decode (buffer.take count)

/-! ## Bulk transfers -/

/-- The request of a bulk transfer. Its length field has 32 bits. What the buffer holds goes to the
device, or is not looked at. -/
def bulkRequest (endpoint : UInt8) (buffer : Bytes) (timeout : UInt32) : NodeRequest :=
  .bulk endpoint buffer.length.toUInt32 timeout
    (if NodeRequest.carriesOut endpoint then buffer else [])

/-- The request of a bulk transfer with a buffer of `length` zeros. -/
def zerosRequest (endpoint : UInt8) (length : Nat) (timeout : UInt32) : NodeRequest :=
  .bulk endpoint length.toUInt32 timeout
    (if NodeRequest.carriesOut endpoint then List.replicate length 0 else [])

/-- Sends data to an endpoint: the number of bytes sent. -/
def send (h : Handle) (endpoint : UInt8) (data : Bytes) (timeout : UInt32) :
    StateM Host (Except Errno Nat) := do
  match ← Host.ask h (bulkRequest endpoint data timeout) with
  | .ok reply => return .ok reply.count
  | .error e => return .error e

/-- Receives data from an endpoint into `buffer`: the number of bytes received and the buffer. -/
def receive (h : Handle) (endpoint : UInt8) (buffer : Bytes) (timeout : UInt32) :
    StateM Host (Except Errno (Nat × Bytes)) := do
  match ← Host.ask h (bulkRequest endpoint buffer timeout) with
  | .ok reply => return .ok (reply.count, Bytes.overwrite buffer reply.data)
  | .error e => return .error e

/-- Receives up to `length` bytes from an endpoint: the bytes received. They come into a buffer of
zeros, of which no more is laid out than is taken. -/
def receiveUpTo (h : Handle) (endpoint : UInt8) (length : Nat) (timeout : UInt32) :
    StateM Host (Except Errno Bytes) := do
  match ← Host.ask h (zerosRequest endpoint length timeout) with
  | .ok reply => return .ok (Bytes.received length reply.data reply.count)
  | .error e => return .error e

/-! ## Laws -/

theorem zerosRequest_eq (endpoint : UInt8) (length : Nat) (timeout : UInt32) :
    zerosRequest endpoint length timeout =
      bulkRequest endpoint (List.replicate length 0) timeout := by
  rw [zerosRequest, bulkRequest, List.length_replicate]

theorem text_zero (h : Handle) (host : Host) : h.text 0 host = (.ok "", host) := rfl

theorem receive_fst (h : Handle) (endpoint : UInt8) (buffer : Bytes) (timeout : UInt32)
    (host : Host) :
    (h.receive endpoint buffer timeout host).1 =
      (Host.ask h (bulkRequest endpoint buffer timeout) host).1.map fun reply =>
        (reply.count, Bytes.overwrite buffer reply.data) := by
  change ((match (Host.ask h (bulkRequest endpoint buffer timeout) host).1 with
    | .ok reply => pure (.ok (reply.count, Bytes.overwrite buffer reply.data))
    | .error e => pure (.error e) : StateM Host (Except Errno (Nat × Bytes)))
      (Host.ask h (bulkRequest endpoint buffer timeout) host).2).1 = _
  cases (Host.ask h (bulkRequest endpoint buffer timeout) host).1 <;> rfl

theorem length_received {h : Handle} {endpoint : UInt8} {buffer : Bytes} {timeout : UInt32}
    {host : Host} {count : Nat} {received : Bytes}
    (ok : (h.receive endpoint buffer timeout host).1 = .ok (count, received)) :
    received.length = buffer.length := by
  rw [receive_fst] at ok
  cases hask : (Host.ask h (bulkRequest endpoint buffer timeout) host).1 with
  | error e => rw [hask] at ok; cases ok
  | ok reply =>
    rw [hask] at ok
    cases ok
    exact Bytes.length_overwrite ..

end Handle

end UsbAccess
