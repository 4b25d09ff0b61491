import Mathlib
import UsbAccess.Proofs.Watching

/-!
# The length of a transfer

The request of a bulk transfer tells the length of its buffer in 32 bits. A longer buffer is not
refused: what the field cannot hold falls away, and the transfer is one of the rest, which may be
nothing at all. Four calls make such requests, two of them watching a signal; they agree in this.

Results:
* `Handle.bulkRequest_isBulkOf`: a request is for the length of its buffer modulo `2 ^ 32`.
* `Handle.bulkRequest_isBulkOf_length_iff`: that is the whole buffer exactly if its length is below
  `2 ^ 32`.
* `BulkCall.run_eq`: what each of the four calls does, in one go.
* `Device.bulk_length_wraps`: on an open device and a fitting endpoint every call asks for what the
  field holds, and ends well with as many bytes as the kernel has moved of that.
-/

namespace UsbAccess

/-- The request is for a bulk transfer at `endpoint` with a buffer of `length` bytes. -/
def NodeRequest.IsBulkOf (request : NodeRequest) (endpoint : UInt8) (length : ℕ) : Prop :=
  ∃ (field timeout : UInt32) (sent : Bytes), request = .bulk endpoint field timeout sent ∧
    field.toNat = length

namespace NodeRequest.IsBulkOf

/-- A request is for one length only. -/
theorem length_unique {request : NodeRequest} {endpoint : UInt8} {length length' : ℕ}
    (h : request.IsBulkOf endpoint length) (h' : request.IsBulkOf endpoint length') :
    length = length' := by
  obtain ⟨field, timeout, sent, rfl, rfl⟩ := h
  obtain ⟨field', timeout', sent', heq, rfl⟩ := h'
  cases heq
  rfl

end NodeRequest.IsBulkOf

theorem Handle.bulkRequest_isBulkOf (endpoint : UInt8) (buffer : Bytes) (timeout : UInt32) :
    (Handle.bulkRequest endpoint buffer timeout).IsBulkOf endpoint (buffer.length % 2 ^ 32) :=
  ⟨_, _, _, rfl, by simp⟩

/-- The whole buffer is meant exactly if its length fits into the field. -/
theorem Handle.bulkRequest_isBulkOf_length_iff (endpoint : UInt8) (buffer : Bytes)
    (timeout : UInt32) :
    (Handle.bulkRequest endpoint buffer timeout).IsBulkOf endpoint buffer.length ↔
    buffer.length < 2 ^ 32 := by
  have hwraps := Handle.bulkRequest_isBulkOf endpoint buffer timeout
  constructor
  · intro hwhole
    have heq : buffer.length = buffer.length % 2 ^ 32 := hwhole.length_unique hwraps
    omega
  · intro hlt
    rwa [Nat.mod_eq_of_lt hlt] at hwraps

theorem Device.error_of_transferred {α : Type} {endpoint : UInt8} {answer : Except Errno α}
    {error : Error} (h : Device.transferred endpoint answer = .error error) :
    ∃ errno, error = .transfer endpoint 0 errno := by
  cases answer with
  | ok a => cases h
  | error errno =>
    cases h
    exact ⟨errno, rfl⟩

/-! ## The four calls -/

/-- A call for a bulk transfer: with a time limit, or without one but with a signal to watch, which
is `signal` before and `later` while the kernel delays its answer. -/
inductive BulkCall where
  | send (data : Bytes) (timeout : UInt32)
  | receive (buffer : Bytes) (timeout : UInt32)
  | watched (transfer : BulkTransfer) (signal later : Signal)

namespace BulkCall

/-- What a call gives: the number of bytes sent, the number of bytes received with the buffer, or
what the watched transfer gives. -/
abbrev Yield : BulkCall → Type
  | send .. => ℕ
  | receive .. => ℕ × Bytes
  | watched transfer .. => transfer.Yield

/-- The direction of the endpoint that the call needs. -/
def direction : BulkCall → Direction
  | send .. => .out
  | receive .. => .into
  | watched transfer .. => transfer.direction

/-- The caller's data, or the buffer for what comes. -/
def buffer : BulkCall → Bytes
  | send data _ => data
  | receive buffer _ => buffer
  | watched transfer .. => transfer.buffer

/-- The time limit of the request; 0 is none. -/
def timeout : BulkCall → UInt32
  | send _ timeout | receive _ timeout => timeout
  | watched .. => 0

/-- The signal when the call is made. Where none is watched it is one that never fires. -/
def before : BulkCall → Signal
  | send .. | receive .. => .new
  | watched _ signal _ => signal

/-- The signal while the kernel delays its answer. -/
def later : BulkCall → Signal
  | send .. | receive .. => .new
  | watched _ _ later => later

/-- The call on a device. -/
def run (d : Device) (e : Endpoint) : (c : BulkCall) → StateM Host (Except Error c.Yield)
  | send data timeout => d.send e data timeout
  | receive buffer timeout => d.receive e buffer timeout
  | watched transfer signal later => transfer.watched d e signal later

/-- The number of bytes that the caller is told of. -/
def moved : (c : BulkCall) → c.Yield → ℕ
  | send .., count => count
  | receive .., (count, _) => count
  | watched (.send _) .., count => count
  | watched (.receive _) .., bytes => bytes.length

/-- The request by which the call is made. -/
def request (c : BulkCall) (endpoint : UInt8) : NodeRequest :=
  Handle.bulkRequest endpoint c.buffer c.timeout

/-- What comes of the call by the kernel's answer to its request. -/
def result (endpoint : UInt8) : (c : BulkCall) → Except Errno Reply → Except Error c.Yield
  | send .., answer => Device.transferred endpoint (answer.map Reply.count)
  | receive buffer _, answer =>
    Device.transferred endpoint (answer.map fun reply =>
      (reply.count, Bytes.overwrite buffer reply.data))
  | watched transfer .., answer => transfer.result endpoint answer

/-- What each call does in one go: the signal is looked at first, then what the transfer needs, and
only then the kernel is asked, once. -/
theorem run_eq (d : Device) (e : Endpoint) (c : BulkCall) (host : Host) :
    c.run d e host =
      if c.before.fired then (.error .cancelled, host)
      else
        match d.bulkHandle e c.direction with
        | .error error => (.error error, host)
        | .ok h =>
          let (answer, host') := Host.ask h (c.request e.address) host
          (Device.await (host.delays h (c.request e.address)) (c.result e.address answer) c.later,
            host') := by
  cases c with
  | send data timeout =>
    simp only [run, Device.send, before, later, direction, Signal.new, Bool.false_eq_true, if_false,
      Device.await_quiet]
    cases d.bulkHandle e .out with
    | error error => rfl
    | ok h =>
      simp only [Inventory.bind_apply, BulkTransfer.send_eq]
      rfl
  | receive buffer timeout =>
    simp only [run, Device.receive, before, later, direction, Signal.new,
      Bool.false_eq_true, if_false, Device.await_quiet]
    cases d.bulkHandle e .into with
    | error error => rfl
    | ok h =>
      simp only [Inventory.bind_apply, BulkTransfer.receive_eq]
      rfl
  | watched transfer signal later => exact transfer.watched_eq d e signal later host

/-- A call for which the kernel has been asked fails by its refusal only. -/
theorem error_of_result {endpoint : UInt8} {c : BulkCall} {answer : Except Errno Reply}
    {error : Error} (h : c.result endpoint answer = .error error) :
    ∃ errno, error = .transfer endpoint 0 errno := by
  cases c with
  | send data timeout => exact Device.error_of_transferred h
  | receive buffer timeout => exact Device.error_of_transferred h
  | watched transfer signal later => exact BulkTransfer.error_of_result h

/-- A reply that counts no more bytes than there is room for is told to the caller as it is. -/
theorem exists_result_ok (c : BulkCall) (endpoint : UInt8) {reply : Reply}
    (hcount : reply.count ≤ c.buffer.length) :
    ∃ y, c.result endpoint (.ok reply) = .ok y ∧ c.moved y = reply.count := by
  cases c with
  | send data timeout => exact ⟨_, rfl, rfl⟩
  | receive buffer timeout => exact ⟨_, rfl, rfl⟩
  | watched transfer signal later =>
    cases transfer with
    | send data => exact ⟨_, rfl, rfl⟩
    | receive length =>
      refine ⟨_, rfl, ?_⟩
      change ((Bytes.overwrite (List.replicate length 0) reply.data).take reply.count).length =
        reply.count
      rw [List.length_take, Bytes.length_overwrite]
      exact min_eq_left hcount

end BulkCall

theorem Device.bulkHandle_of_fitting {d : Device} {h : Handle} {e : Endpoint}
    {direction : Direction} (hopen : d.handle = some h) (hdirection : e.direction = direction)
    (hbulk : e.isBulk = true) :
    d.bulkHandle e direction = .ok h := by
  simp [bulkHandle, hopen, hdirection, hbulk]

theorem Device.handle_of_bulkHandle {d : Device} {h : Handle} {e : Endpoint} {direction : Direction}
    (hok : d.bulkHandle e direction = .ok h) : d.handle = some h := by
  unfold bulkHandle at hok
  cases hopen : d.handle with
  | none =>
    rw [hopen] at hok
    cases hok
  | some h' =>
    simp only [hopen] at hok
    split_ifs at hok
    cases hok
    rfl

/-! ## What is asked for -/

/-- With a handle and without a signal the call is its one request. -/
theorem BulkCall.run_of_quiet {d : Device} {e : Endpoint} {c : BulkCall} {h : Handle}
    (hhandle : d.bulkHandle e c.direction = .ok h) (hquiet : c.before.fired = false) (host : Host) :
    c.run d e host =
      (Device.await (host.delays h (c.request e.address))
          (c.result e.address (Host.ask h (c.request e.address) host).1) c.later,
        (Host.ask h (c.request e.address) host).2) := by
  rw [c.run_eq, hquiet, if_neg Bool.false_ne_true, hhandle]
  rfl

/-- On an open device, at a bulk endpoint of its direction, a call whose signal has not fired makes
one request, for as many bytes as are left of the length of its buffer modulo `2 ^ 32`; that is the
whole buffer exactly if it is shorter than `2 ^ 32` bytes. Nothing tells the caller: if the kernel
moves no more than it was asked for, the call ends well with that number of bytes. So it is with a
watched transfer in every order of the steps. All this is told of buffers that there can be, which
are shorter than `2 ^ 63` bytes. -/
theorem Device.bulk_length_wraps {d : Device} {h : Handle} (hopen : d.handle = some h)
    {e : Endpoint} (hbulk : e.isBulk = true) (c : BulkCall) (hdirection : e.direction = c.direction)
    (host : Host) :
    (c.before.fired = true → c.run d e host = (.error .cancelled, host)) ∧
    (c.before.fired = false → c.buffer.length < 2 ^ 63 → ∃ request,
      (c.run d e host).2 = (Host.ask h request host).2 ∧
      request.IsBulkOf e.address (c.buffer.length % 2 ^ 32) ∧
      (request.IsBulkOf e.address c.buffer.length ↔ c.buffer.length < 2 ^ 32) ∧
      ∀ reply, (Host.ask h request host).1 = .ok reply → reply.count ≤ c.buffer.length % 2 ^ 32 →
        c.later.fired = false → ∃ y, (c.run d e host).1 = .ok y ∧ c.moved y = reply.count) ∧
    ∀ (t : BulkTransfer) (signal : Signal) (call : Call t), t.buffer.length < 2 ^ 63 →
      Call.Reaches d e (.start t signal host) call →
      ∀ event ∈ call.asked, ∃ node request answer, event = .answered h node request answer ∧
        request.IsBulkOf e.address (t.buffer.length % 2 ^ 32) := by
  have hhandle := bulkHandle_of_fitting hopen hdirection hbulk
  refine ⟨fun hfired => ?_, fun hquiet _ => ?_, fun t signal call _ hreaches event hevent => ?_⟩
  · rw [c.run_eq, if_pos hfired]
  · refine ⟨c.request e.address, ?_, Handle.bulkRequest_isBulkOf e.address c.buffer c.timeout,
      Handle.bulkRequest_isBulkOf_length_iff e.address c.buffer c.timeout,
      fun reply hreply hcount hlater => ?_⟩
    · rw [BulkCall.run_of_quiet hhandle hquiet]
    · obtain ⟨y, hy, hmoved⟩ := c.exists_result_ok e.address (hcount.trans (Nat.mod_le _ _))
      have hsignal : c.later = ⟨false⟩ := by
        rw [← hlater]
      refine ⟨y, ?_, hmoved⟩
      rw [BulkCall.run_of_quiet hhandle hquiet, hreply, hsignal, await_quiet, hy]
  · have hcoherent := (Call.Coherent.start d e t signal host).reaches hreaches
    obtain hnone | ⟨h', node, answer, hok, hasked⟩ := hcoherent.asked
    · simp [hnone] at hevent
    · obtain rfl : h = h' := Option.some_injective _ (hopen.symm.trans (handle_of_bulkHandle hok))
      rw [hasked, List.mem_singleton] at hevent
      exact ⟨node, _, answer, hevent, Handle.bulkRequest_isBulkOf e.address t.buffer 0⟩

/-- A bulk endpoint from which data comes. -/
def smallIn : Endpoint := ⟨0x81, TransferType.bulk, 64, 64, 0⟩

/-- A kernel that moves two bytes by each request. -/
def twoByteKernel : Kernel := ⟨fun _ _ _ _ => .ok ⟨2, [0xbe, 0xef]⟩, fun _ _ _ _ => false⟩

/-- To receive two bytes more than the field can tell, the small device is asked for two bytes. It
gives them, and the caller has two bytes and no error. -/
theorem bulk_length_wraps_smallOpened :
    ∃ request bytes host',
      (Host.ask smallHandle request (smallOpenedSession twoByteKernel).host).2 = host' ∧
      smallOpened.receiveWatching smallIn 4294967298 .new .new
        (smallOpenedSession twoByteKernel).host =
        (.ok bytes, host') ∧
      bytes.length = 2 ∧ request.IsBulkOf 0x81 2 ∧ ¬ request.IsBulkOf 0x81 4294967298 := by
  obtain ⟨-, hasks, -⟩ :=
    Device.bulk_length_wraps (d := smallOpened) (h := smallHandle) (e := smallIn) rfl rfl
    (.watched (.receive 4294967298) .new .new) rfl (smallOpenedSession twoByteKernel).host
  have hlength : (BulkCall.watched (.receive 4294967298) .new .new).buffer.length = 4294967298 :=
    List.length_replicate
  rw [hlength] at hasks
  obtain ⟨request, hhost, hbulk, hwhole, hok⟩ := hasks rfl (by decide)
  obtain ⟨bytes, hresult, hmoved⟩ := hok ⟨2, [0xbe, 0xef]⟩ rfl (by decide) rfl
  exact ⟨request, bytes, _, rfl, Prod.ext hresult hhost, hmoved, hbulk, mt hwhole.1 (by decide)⟩

end UsbAccess
