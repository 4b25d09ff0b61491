import UsbAccess.Registry

/-!
# Bulk transfers

Data goes to and comes from an open device by bulk endpoints. A transfer may watch a signal: once
that has fired the caller waits no longer, and what becomes of the transfer is not known.

Results:
* `await_quiet`: where the signal does not fire, the answer is awaited, however long it takes.
-/

namespace UsbAccess

namespace Device

/-- The handle for a bulk transfer in `direction` at `e`: the device has to be open, the endpoint
has to have the direction, and it has to carry bulk transfers, in this order. -/
def bulkHandle (d : Device) (e : Endpoint) (direction : Direction) : Except Error Handle :=
  match d.handle with
  | none => .error (.invalidState (.notOpen d.address))
  | some h =>
    if e.direction ≠ direction then
      .error (.invalidArgument (.transferDirection e.address direction))
    else if !e.isBulk then .error (.invalidArgument (.notBulk e.address e.transferType))
    else .ok h

/-- A failed transfer. The kernel does not tell how many bytes it had moved. -/
def transferred {α : Type} (endpoint : UInt8) (answer : Except Errno α) : Except Error α :=
  match answer with
  | .ok a => .ok a
  | .error e => .error (.transfer endpoint 0 e)

/-- Sends data: the number of bytes sent. -/
def send (d : Device) (e : Endpoint) (data : Bytes) (timeout : UInt32) :
    StateM Host (Except Error Nat) := do
  match d.bulkHandle e .out with
  | .error error => return .error error
  | .ok h => return transferred e.address (← h.send e.address data timeout)

/-- Receives data into `buffer`: the number of bytes received, and the buffer. -/
def receive (d : Device) (e : Endpoint) (buffer : Bytes) (timeout : UInt32) :
    StateM Host (Except Error (Nat × Bytes)) := do
  match d.bulkHandle e .into with
  | .error error => return .error error
  | .ok h => return transferred e.address (← h.receive e.address buffer timeout)

/-! ## Transfers that watch a signal -/

/-- What a caller returns with who looks at the answer and at the signal: an answer that has
arrived, or else that the operation was cancelled, or else nothing yet. -/
def settle {α : Type} (arrived : Option (Except Error α)) (signal : Signal) :
    Option (Except Error α) :=
  match arrived with
  | some answer => some answer
  | none => if signal.fired then some (.error .cancelled) else none

/-- What a caller returns with whose request the kernel answers with `answer`, at once or after a
delay during which the signal may come to be `later`. -/
def await {α : Type} (delayed : Bool) (answer : Except Error α) (later : Signal) : Except Error α :=
  (settle (if delayed then none else some answer) later).getD answer

/-- Sends data without a time limit, watching a signal that is `signal` before and `later` while the
kernel delays its answer. -/
def sendWatching (d : Device) (e : Endpoint) (data : Bytes) (signal later : Signal) :
    StateM Host (Except Error Nat) := do
  if signal.fired then return .error .cancelled
  match d.bulkHandle e .out with
  | .error error => return .error error
  | .ok h =>
    let delayed := (← get).delays h (Handle.bulkRequest e.address data 0)
    let answer ← h.send e.address data 0
    return await delayed (transferred e.address answer) later

/-- Receives up to `length` bytes without a time limit, watching a signal that is `signal` before
and `later` while the kernel delays its answer. As the length of a buffer, `length` is below
`2 ^ 63`. -/
def receiveWatching (d : Device) (e : Endpoint) (length : Nat) (signal later : Signal) :
    StateM Host (Except Error Bytes) := do
  if signal.fired then return .error .cancelled
  match d.bulkHandle e .into with
  | .error error => return .error error
  | .ok h =>
    let delayed := (← get).delays h (Handle.zerosRequest e.address length 0)
    let answer ← h.receiveUpTo e.address length 0
    return await delayed (transferred e.address answer) later

/-! ## Laws -/

theorem await_quiet {α : Type} (delayed : Bool) (answer : Except Error α) :
    await delayed answer ⟨false⟩ = answer := by
  cases delayed <;> rfl

end Device

end UsbAccess
