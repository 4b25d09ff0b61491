import Mathlib
import UsbAccess.Proofs.Watching

/-!
# Transfers whose signal stays quiet

A transfer that watches a signal has its own way to the kernel, by a thread and a place for the
result. As long as the signal does not fire this is a detour only: it comes out as the transfer that
watches nothing and has no time limit, and the kernel is asked the same.

Results:
* `BulkTransfer.plain_outcome`: what comes of a transfer that watches nothing.
* `BulkTransfer.watched_quiet`: in one go, watching a quiet signal makes no difference.
* `Call.Reaches.made`: what the thread of a call sends is what a plain transfer gives at the moment
  of its request.
* `Call.Reaches.exists_returned`: a call comes to its end by the steps of caller and thread.
* `quiet_transfer_is_plain`: watching a quiet signal makes no difference, in one go and in every
  order of the steps.
-/

namespace UsbAccess

namespace BulkTransfer

/-- The transfer that watches nothing, without a time limit. What is received into a buffer of zeros
is cut to what has been received. -/
def plain (d : Device) (e : Endpoint) : (t : BulkTransfer) → StateM Host (Except Error t.Yield)
  | send data => d.send e data 0
  | receive length => do
    return (← d.receive e (List.replicate length 0) 0).map fun r => r.2.take r.1

/-- What a transfer gives by a reply of the kernel. -/
def yield : (t : BulkTransfer) → Reply → t.Yield
  | send _, reply => reply.count
  | receive length, reply => (Bytes.overwrite (List.replicate length 0) reply.data).take reply.count

/-- The host when the request of a transfer has been answered. -/
def answered (t : BulkTransfer) (endpoint : UInt8) (h : Handle) (answer : Except Errno Reply)
    (host : Host) : Host :=
  { host with history := .answered h (host.nodeOf h) (t.request endpoint) answer :: host.history }

/-- What comes of a transfer, and the host after it. The device has to be open, then the endpoint
has to have the direction, and then it has to be for bulk transfers; if something is lacking nothing
is asked. Otherwise there is one request, and if it fails the error names the endpoint and no bytes.
-/
inductive Outcome (d : Device) (e : Endpoint) (t : BulkTransfer) (host : Host) :
    Except Error t.Yield → Host → Prop
  | closed (hclosed : d.handle = none) :
      Outcome d e t host (.error (.invalidState (.notOpen d.address))) host
  | misdirected {h : Handle} (hopen : d.handle = some h) (hdirection : e.direction ≠ t.direction) :
      Outcome d e t host (.error (.invalidArgument (.transferDirection e.address t.direction))) host
  | unsuited {h : Handle} (hopen : d.handle = some h) (hdirection : e.direction = t.direction)
      (hkind : e.isBulk = false) :
      Outcome d e t host (.error (.invalidArgument (.notBulk e.address e.transferType))) host
  | failed {h : Handle} {errno : Errno} (hopen : d.handle = some h)
      (hdirection : e.direction = t.direction) (hkind : e.isBulk = true)
      (hanswer : host.kernel.answer host.history h (host.nodeOf h) (t.request e.address) =
        .error errno) :
      Outcome d e t host (.error (.transfer e.address 0 errno))
      (t.answered e.address h (.error errno) host)
  | moved {h : Handle} {reply : Reply} (hopen : d.handle = some h)
      (hdirection : e.direction = t.direction) (hkind : e.isBulk = true)
      (hanswer : host.kernel.answer host.history h (host.nodeOf h) (t.request e.address) =
        .ok reply) :
      Outcome d e t host (.ok (t.yield reply)) (t.answered e.address h (.ok reply) host)

theorem plain_eq (d : Device) (e : Endpoint) (t : BulkTransfer) (host : Host) :
    t.plain d e host =
      match d.bulkHandle e t.direction with
      | .error error => (.error error, host)
      | .ok h =>
        (t.result e.address (Host.ask h (t.request e.address) host).1,
          (Host.ask h (t.request e.address) host).2) := by
  cases t with
  | send data =>
    simp only [plain, Device.send, direction]
    cases d.bulkHandle e .out with
    | error error => rfl
    | ok h =>
      simp only [Inventory.bind_apply, send_eq]
      rfl
  | receive length =>
    simp only [plain, Device.receive, direction, Inventory.bind_apply]
    cases d.bulkHandle e .into with
    | error error => rfl
    | ok h =>
      simp only [Inventory.bind_apply, receive_eq]
      rfl

/-- In one go, watching a signal that stays quiet makes no difference. -/
theorem watched_quiet (d : Device) (e : Endpoint) (t : BulkTransfer) {signal later : Signal}
    (hsignal : signal.fired = false) (hlater : later.fired = false) :
    t.watched d e signal later = t.plain d e := by
  obtain ⟨fired⟩ := later
  obtain rfl : fired = false := hlater
  funext host
  rw [watched_eq, plain_eq, hsignal, if_neg Bool.false_ne_true]
  cases d.bulkHandle e t.direction with
  | error error => rfl
  | ok h =>
    simp only [Device.await_quiet]
    rfl

theorem result_error (endpoint : UInt8) (t : BulkTransfer) (errno : Errno) :
    t.result endpoint (.error errno) = .error (.transfer endpoint 0 errno) := by
  cases t <;> rfl

theorem result_ok (endpoint : UInt8) (t : BulkTransfer) (reply : Reply) :
    t.result endpoint (.ok reply) = .ok (t.yield reply) := by
  cases t <;> rfl

/-- What comes of a transfer that watches nothing. -/
theorem plain_outcome (d : Device) (e : Endpoint) (t : BulkTransfer) (host : Host) :
    t.Outcome d e host (t.plain d e host).1 (t.plain d e host).2 := by
  rw [plain_eq, Device.bulkHandle]
  cases hopen : d.handle with
  | none => exact .closed hopen
  | some h =>
    by_cases hdirection : e.direction = t.direction
    · cases hkind : e.isBulk with
      | false => simpa [hdirection] using Outcome.unsuited hopen hdirection hkind
      | true =>
        simp only [hdirection, ne_eq, not_true_eq_false, if_false, Bool.not_true,
          Bool.false_eq_true]
        have hask : Host.ask h (t.request e.address) host =
            (host.kernel.answer host.history h (host.nodeOf h) (t.request e.address),
              t.answered e.address h
                (host.kernel.answer host.history h (host.nodeOf h) (t.request e.address)) host) :=
          rfl
        rw [hask]
        cases hanswer : host.kernel.answer host.history h (host.nodeOf h) (t.request e.address) with
        | error errno =>
          rw [result_error]
          exact .failed hopen hdirection hkind hanswer
        | ok reply =>
          rw [result_ok]
          exact .moved hopen hdirection hkind hanswer
    · simpa [hdirection] using Outcome.misdirected hopen hdirection

end BulkTransfer

/-- What has been received into a buffer is as long as the buffer. -/
theorem Device.length_of_receive {d : Device} {e : Endpoint} {buffer received : Bytes}
    {timeout : UInt32} {host : Host} {count : ℕ}
    (h : (d.receive e buffer timeout host).1 = .ok (count, received)) :
    received.length = buffer.length := by
  unfold receive at h
  cases hhandle : d.bulkHandle e .into with
  | error error =>
    rw [hhandle] at h
    cases h
  | ok handle =>
    rw [hhandle] at h
    simp only [Inventory.bind_apply] at h
    cases hreceived : (handle.receive e.address buffer timeout host).1 with
    | error errno =>
      rw [hreceived] at h
      cases h
    | ok r =>
      rw [hreceived] at h
      cases h
      exact Handle.length_received hreceived

namespace Call

variable {t : BulkTransfer} {d : Device} {e : Endpoint} {c c' : Call t} {signal : Signal}
  {host : Host}

/-- The result is that of a plain transfer at a host to which the host had come by then, and the
call has asked what that transfer asks. -/
def Made (d : Device) (e : Endpoint) (host : Host) (c : Call t)
    (result : Except Error t.Yield) : Prop :=
  ∃ events host', host.Evolves events host' ∧ result = (t.plain d e host').1 ∧
    (t.plain d e host').2.history = c.asked ++ host'.history

/-- A thread that has just been started has a handle for the transfer, and has asked nothing. -/
theorem Coherent.of_started (hc : c.Coherent d e) {h : Handle} (hworker : c.worker = .started h) :
    d.bulkHandle e t.direction = .ok h ∧ c.asked = [] := by
  obtain ⟨hstage, -⟩ := hc
  obtain ⟨caller, worker, slot, signal, host, asked⟩ := c
  subst hworker
  cases hstage with
  | started hcheck => exact ⟨hcheck, rfl⟩

/-- What the thread has as its result is what a plain transfer gives at the moment of its request.
-/
theorem Reaches.made (hreaches : Reaches d e (start t signal host) c) :
    ∀ result, c.worker = .answered result ∨ c.worker = .sent result → c.Made d e host result := by
  induction hreaches with
  | refl => simp [start]
  | @tail b c hbefore hstep ih =>
    obtain hmove | houtside := hstep
    · cases hmove with
      | seesFired | seesQuiet | refused | admitted | takes | wakes | leaves => exact ih
      | starts => simp
      | @asks h hworker =>
        obtain ⟨events, hevolves, -⟩ := Reaches.history hbefore
        obtain ⟨hcheck, hasked⟩ :=
          ((Coherent.start d e t signal host).reaches hbefore).of_started hworker
        have hplain : t.plain d e b.host =
            (t.result e.address (Host.ask h (t.request e.address) b.host).1,
            (Host.ask h (t.request e.address) b.host).2) := by
          rw [t.plain_eq, hcheck]
        intro result hresult
        obtain rfl : _ = result := by simpa using hresult
        refine ⟨events, b.host, hevolves, by rw [hplain], ?_⟩
        rw [hplain, Host.ask_history, hasked]
        rfl
      | @sends sent hworker =>
        intro result hresult
        obtain rfl : sent = result := by simpa using hresult
        exact ih sent (.inl hworker)
    · cases houtside with
      | fires => exact ih
      | elsewhere => exact ih

/-- A call whose signal is quiet returns what a plain transfer gives. -/
theorem Reaches.made_of_quiet (hreaches : Reaches d e (start t signal host) c)
    (hquiet : c.signal.fired = false) {answer : Except Error t.Yield}
    (hcaller : c.caller = .returned answer) : c.Made d e host answer := by
  have hcoherent : c.Coherent d e := (Coherent.start d e t signal host).reaches hreaches
  obtain hsent | ⟨-, hfired⟩ | ⟨error, rfl, hcheck⟩ := hcoherent.answer hcaller
  · exact hreaches.made answer (.inr hsent)
  · simp [hquiet] at hfired
  · have hplain : t.plain d e host = (.error error, host) := by
      rw [t.plain_eq, hcheck]
    have hasked : c.asked = [] := hcoherent.asked_of_lacking hcheck
    exact ⟨[], host, .refl host, by rw [hplain], by rw [hplain, hasked, List.nil_append]⟩

/-- From each moment on, the caller and the thread bring the call to its end. -/
theorem Coherent.exists_returned (hc : c.Coherent d e) :
    ∃ c' answer, Relation.ReflTransGen (Move d e) c c' ∧ c'.caller = .returned answer := by
  induction hn : c.remaining using Nat.strong_induction_on generalizing c with
  | _ n ih =>
    obtain ⟨answer, hcaller⟩ | ⟨b, hmove⟩ := hc.progress
    · exact ⟨c, answer, .refl, hcaller⟩
    · obtain ⟨c', answer, hmoves, hcaller⟩ :=
        ih b.remaining (hn ▸ hmove.remaining_lt) (hc.move hmove) rfl
      exact ⟨c', answer, .head hmove hmoves, hcaller⟩

end Call

/-- Sending while watching a signal that stays quiet is sending without a time limit, and receiving
is receiving into a buffer of zeros, cut to the bytes received; these are as many as the kernel
counts if it counts no more than there is room for. So it is in one go. In every order of the steps
of caller, thread and others, a call whose signal has not fired can come to its end without others,
and it returns what the plain transfer gives at some moment of the call, with the requests of that
transfer. -/
theorem quiet_transfer_is_plain (d : Device) (e : Endpoint) {signal : Signal}
    (hquiet : signal.fired = false) (host : Host) :
    (∀ data later, later.fired = false →
      d.sendWatching e data signal later host = d.send e data 0 host) ∧
    (∀ length later, later.fired = false → d.receiveWatching e length signal later host =
      ((d.receive e (List.replicate length 0) 0 host).1.map fun r => r.2.take r.1,
        (d.receive e (List.replicate length 0) 0 host).2)) ∧
    (∀ length count received,
      (d.receive e (List.replicate length 0) 0 host).1 = .ok (count, received) →
      count ≤ length → (received.take count).length = count) ∧
    (∀ t : BulkTransfer, t.Outcome d e host (t.plain d e host).1 (t.plain d e host).2) ∧
    ∀ (t : BulkTransfer) (c : Call t), Call.Reaches d e (.start t signal host) c →
      c.signal.fired = false → (∀ answer, c.caller = .returned answer → c.Made d e host answer) ∧
      ∃ c' answer, Relation.ReflTransGen (Call.Move d e) c c' ∧ c'.caller = .returned answer := by
  refine ⟨fun data later hlater => ?_, fun length later hlater => ?_,
    fun length count received hreceived hcount => ?_, fun t => t.plain_outcome d e host,
      fun t c hreaches hcquiet => ⟨fun answer hcaller => ?_, ?_⟩⟩
  · exact congrFun (BulkTransfer.watched_quiet d e (.send data) hquiet hlater) host
  · exact congrFun (BulkTransfer.watched_quiet d e (.receive length) hquiet hlater) host
  · rw [List.length_take, Device.length_of_receive hreceived, List.length_replicate]
    exact min_eq_left hcount
  · exact hreaches.made_of_quiet hcquiet hcaller
  · exact ((Call.Coherent.start d e t signal host).reaches hreaches).exists_returned

/-- The small device sends two bytes, of which the kernel takes one, at once and in a thread. -/
theorem quiet_transfer_is_plain_smallOpened :
    (smallOpened.sendWatching smallOut [7, 8] .new .new (smallOpenedSession slowKernel).host).1 =
      .ok 1 ∧
    ∃ c : Call (.send [7, 8]), Call.Reaches smallOpened smallOut smallCall c ∧
      c.caller = .returned (.ok 1) ∧
      c.Made smallOpened smallOut (smallOpenedSession slowKernel).host (.ok 1) := by
  obtain ⟨hsend, -, -, -, hcall⟩ :=
    quiet_transfer_is_plain smallOpened smallOut (rfl : Signal.new.fired = false)
      (smallOpenedSession slowKernel).host
  refine ⟨?_, ?_⟩
  · rw [hsend [7, 8] .new rfl]
    rfl
  · have hsends := (Call.Reaches.smallCall_waits.tail (.inl (.asks rfl))).tail (.inl (.sends rfl))
    have htakes := hsends.tail (.inl (.takes rfl rfl))
    exact ⟨_, htakes, rfl, (hcall _ _ htakes rfl).1 _ rfl⟩

end UsbAccess
