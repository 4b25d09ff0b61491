import Mathlib
import UsbAccess.Proofs.Run
import UsbAccess.Proofs.Survey
import UsbAccess.Proofs.Trace
import UsbAccess.Transfer

/-!
# Transfers in threads of their own

Who watches a signal during a bulk transfer leaves the transfer to a thread of its own, which puts
its result into the one place between the two, and waits for whichever comes first: the result or
the signal. The caller, the thread and whoever fires the signal take their steps in any order.
Meanwhile others use the host.

Results:
* `BulkTransfer.watched_eq`: a watched transfer in one go.
* `Call.Move.remaining_lt`: caller and thread have few steps to take.
* `Call.Coherent.step`: what every step preserves, of whomever it is.
* `Call.ReachesAlone.returns`: what a call returns that is left to itself.
* `watched_call_laws`: in every order of the steps no result is lost and nothing is cancelled
  without a signal.
-/

namespace UsbAccess

/-! ## Bulk transfers -/

/-- A bulk transfer: data to send, or the number of bytes to receive at most. -/
inductive BulkTransfer where
  | send (data : Bytes)
  | receive (length : ℕ)

namespace BulkTransfer

/-- What a transfer gives: the number of bytes sent, or the bytes received. -/
abbrev Yield : BulkTransfer → Type
  | send _ => ℕ
  | receive _ => Bytes

/-- The direction of the endpoint that the transfer needs. -/
def direction : BulkTransfer → Direction
  | send _ => .out
  | receive _ => .into

/-- What the buffer of the transfer holds before it. -/
def buffer : BulkTransfer → Bytes
  | send data => data
  | receive length => List.replicate length 0

/-- The request by which the transfer is made, without a time limit. -/
def request (t : BulkTransfer) (endpoint : UInt8) : NodeRequest :=
  Handle.bulkRequest endpoint t.buffer 0

/-- What comes of the transfer by the kernel's answer to its request. -/
def result (endpoint : UInt8) : (t : BulkTransfer) → Except Errno Reply → Except Error t.Yield
  | send _, answer => Device.transferred endpoint (answer.map Reply.count)
  | receive length, answer =>
    (Device.transferred endpoint (answer.map fun reply =>
      (reply.count, Bytes.overwrite (List.replicate length 0) reply.data))).map fun r =>
        r.2.take r.1

/-- The transfer, watching a signal that is `signal` before and `later` while the kernel delays its
answer. -/
def watched (d : Device) (e : Endpoint) (signal later : Signal) :
    (t : BulkTransfer) → StateM Host (Except Error t.Yield)
  | send data => d.sendWatching e data signal later
  | receive length => d.receiveWatching e length signal later

/-- A transfer for which the kernel has been asked fails by its refusal only. -/
theorem error_of_result {endpoint : UInt8} {t : BulkTransfer} {answer : Except Errno Reply}
    {error : Error} (h : t.result endpoint answer = .error error) :
    ∃ errno, error = .transfer endpoint 0 errno := by
  cases t <;> cases answer <;> cases h <;> exact ⟨_, rfl⟩

theorem result_ne_cancelled (endpoint : UInt8) (t : BulkTransfer) (answer : Except Errno Reply) :
    t.result endpoint answer ≠ .error .cancelled := by
  intro h
  obtain ⟨errno, herror⟩ := error_of_result h
  cases herror

theorem send_eq (h : Handle) (endpoint : UInt8) (data : Bytes) (timeout : UInt32) (host : Host) :
    h.send endpoint data timeout host =
      ((Host.ask h (Handle.bulkRequest endpoint data timeout) host).1.map Reply.count,
        (Host.ask h (Handle.bulkRequest endpoint data timeout) host).2) := by
  unfold Handle.send
  rw [Inventory.bind_apply]
  cases (Host.ask h (Handle.bulkRequest endpoint data timeout) host).1 <;> rfl

theorem receive_eq (h : Handle) (endpoint : UInt8) (buffer : Bytes) (timeout : UInt32)
    (host : Host) :
    h.receive endpoint buffer timeout host =
      ((Host.ask h (Handle.bulkRequest endpoint buffer timeout) host).1.map fun reply =>
          (reply.count, Bytes.overwrite buffer reply.data),
        (Host.ask h (Handle.bulkRequest endpoint buffer timeout) host).2) := by
  unfold Handle.receive
  rw [Inventory.bind_apply]
  cases (Host.ask h (Handle.bulkRequest endpoint buffer timeout) host).1 <;> rfl

theorem receiveUpTo_eq (h : Handle) (endpoint : UInt8) (length : ℕ) (timeout : UInt32)
    (host : Host) :
    h.receiveUpTo endpoint length timeout host =
      ((h.receive endpoint (List.replicate length 0) timeout host).1.map fun r => r.2.take r.1,
        (h.receive endpoint (List.replicate length 0) timeout host).2) := by
  unfold Handle.receiveUpTo
  rw [Inventory.bind_apply, Handle.zerosRequest_eq, receive_eq]
  cases (Host.ask h (Handle.bulkRequest endpoint (List.replicate length 0) timeout) host).1 with
  | error e => rfl
  | ok reply =>
    simp only [Except.map, Bytes.take_overwrite_zeros]
    rfl

theorem transferred_map {α β : Type} (endpoint : UInt8) (f : α → β) (answer : Except Errno α) :
    Device.transferred endpoint (answer.map f) = (Device.transferred endpoint answer).map f := by
  cases answer <;> rfl

/-- A watched transfer in one go: the signal is looked at first, then what the transfer needs, and
only then the kernel is asked, once. -/
theorem watched_eq (d : Device) (e : Endpoint) (t : BulkTransfer) (signal later : Signal)
    (host : Host) :
    t.watched d e signal later host =
      if signal.fired then (.error .cancelled, host)
      else
        match d.bulkHandle e t.direction with
        | .error error => (.error error, host)
        | .ok h =>
          let (answer, host') := Host.ask h (t.request e.address) host
          (Device.await (host.delays h (t.request e.address)) (t.result e.address answer) later,
            host') := by
  cases hfired : signal.fired with
  | true => cases t <;> simp only [watched, Device.sendWatching, Device.receiveWatching, hfired,
    if_true] <;> rfl
  | false =>
    have hget : (get : StateM Host Host) host = (host, host) := rfl
    cases t with
    | send data =>
      simp only [watched, Device.sendWatching, hfired, Bool.false_eq_true, if_false, direction]
      cases d.bulkHandle e .out with
      | error error => rfl
      | ok h =>
        simp only [Inventory.bind_apply, hget, send_eq]
        rfl
    | receive length =>
      simp only [watched, Device.receiveWatching, hfired, Bool.false_eq_true, if_false, direction]
      cases d.bulkHandle e .into with
      | error error => rfl
      | ok h =>
        simp only [Inventory.bind_apply, hget, receiveUpTo_eq, Handle.zerosRequest_eq]
        rw [transferred_map, receive_eq]
        rfl

end BulkTransfer

theorem Device.bulkHandle_ne_cancelled (d : Device) (e : Endpoint) (direction : Direction) :
    d.bulkHandle e direction ≠ .error .cancelled := by
  unfold bulkHandle
  split
  · simp
  · split_ifs <;> simp

/-! ## Calls -/

/-- How far the caller of a watched transfer is. -/
inductive Caller (α : Type) where
  /-- It is to look at the signal. -/
  | begins
  /-- The signal had not fired, and it is to see to what the transfer needs. -/
  | checks
  /-- It has the handle, and is to start the thread. -/
  | starts (h : Handle)
  /-- It waits for the result or the signal. -/
  | waits
  /-- It has seen the signal, and is to look for a result once more. -/
  | leaves
  | returned (answer : Except Error α)

/-- How far the thread of a watched transfer is. -/
inductive Worker (α : Type) where
  | absent
  | started (h : Handle)
  /-- The kernel has answered, and the result is to be sent. -/
  | answered (result : Except Error α)
  | sent (result : Except Error α)

/-- The most steps to be taken from here on, the thread's included once it is to be started. -/
def Caller.remaining {α : Type} : Caller α → ℕ
  | begins => 7
  | checks => 6
  | starts _ => 5
  | waits => 2
  | leaves => 1
  | returned _ => 0

/-- The steps that the thread has before it. -/
def Worker.remaining {α : Type} : Worker α → ℕ
  | started _ => 2
  | answered _ => 1
  | absent | sent _ => 0

/-- A call of a watched transfer: the caller, the thread, the place in which the thread puts its
result, and the signal. `asked` is what the thread has asked of the kernel, the latest first. -/
structure Call (t : BulkTransfer) where
  caller : Caller t.Yield
  worker : Worker t.Yield
  slot : Option (Except Error t.Yield)
  signal : Signal
  host : Host
  asked : List Event

namespace Call

variable {t : BulkTransfer}

/-- A call that has just been made. -/
def start (t : BulkTransfer) (signal : Signal) (host : Host) : Call t :=
  ⟨.begins, .absent, none, signal, host, []⟩

/-- A step of the caller or of the thread. -/
inductive Move (d : Device) (e : Endpoint) : Call t → Call t → Prop
  | seesFired {c : Call t} (hcaller : c.caller = .begins) (hfired : c.signal.fired = true) :
      Move d e c { c with caller := .returned (.error .cancelled) }
  | seesQuiet {c : Call t} (hcaller : c.caller = .begins) (hquiet : c.signal.fired = false) :
      Move d e c { c with caller := .checks }
  | refused {c : Call t} {error : Error} (hcaller : c.caller = .checks)
      (hcheck : d.bulkHandle e t.direction = .error error) :
      Move d e c { c with caller := .returned (.error error) }
  | admitted {c : Call t} {h : Handle} (hcaller : c.caller = .checks)
      (hcheck : d.bulkHandle e t.direction = .ok h) : Move d e c { c with caller := .starts h }
  | starts {c : Call t} {h : Handle} (hcaller : c.caller = .starts h) :
      Move d e c { c with caller := .waits, worker := .started h }
  /-- The result is there. It is taken even if the signal has fired as well. -/
  | takes {c : Call t} {result : Except Error t.Yield} (hcaller : c.caller = .waits)
      (hslot : c.slot = some result) :
        Move d e c { c with caller := .returned result, slot := none }
  /-- The signal has fired. It is seen even if the result is there as well. -/
  | wakes {c : Call t} (hcaller : c.caller = .waits) (hfired : c.signal.fired = true) :
      Move d e c { c with caller := .leaves }
  | leaves {c : Call t} (answer : Except Error t.Yield) (hcaller : c.caller = .leaves)
      (hsettle : Device.settle c.slot c.signal = some answer) :
      Move d e c { c with caller := .returned answer, slot := none }
  | asks {c : Call t} {h : Handle} (hworker : c.worker = .started h) :
      Move d e c { c with
        worker := .answered (t.result e.address (Host.ask h (t.request e.address) c.host).1)
        host := (Host.ask h (t.request e.address) c.host).2
        asked := .answered h (c.host.nodeOf h) (t.request e.address)
          (Host.ask h (t.request e.address) c.host).1 ::
          c.asked }
  | sends {c : Call t} {result : Except Error t.Yield} (hworker : c.worker = .answered result) :
      Move d e c { c with worker := .sent result, slot := some result }

/-- A step of somebody else. -/
inductive Outside : Call t → Call t → Prop
  | fires (c : Call t) : Outside c { c with signal := c.signal.fire }
  /-- The host is used by others. -/
  | elsewhere (c : Call t) {events : List Event} {host : Host}
      (hevolves : c.host.Evolves events host) :
      Outside c { c with host := host }

/-- A step of any party. -/
def Step (d : Device) (e : Endpoint) (c c' : Call t) : Prop := Move d e c c' ∨ Outside c c'

/-- From one moment of a call to a later one, by steps in any order. -/
abbrev Reaches (d : Device) (e : Endpoint) : Call t → Call t → Prop :=
  Relation.ReflTransGen (Step d e)

/-! ## What every step preserves -/

/-- What the thread has come to, with what lies in its place and what it has asked. -/
inductive Stage (d : Device) (e : Endpoint) : Worker t.Yield → Option (Except Error t.Yield) →
    List Event → Prop
  | absent : Stage d e .absent none []
  | started {h : Handle} (hcheck : d.bulkHandle e t.direction = .ok h) :
      Stage d e (.started h) none []
  | answered {h : Handle} (hcheck : d.bulkHandle e t.direction = .ok h) (node : Location)
      (answer : Except Errno Reply) :
      Stage d e (.answered (t.result e.address answer))
        none [.answered h node (t.request e.address) answer]
  | sent {h : Handle} (hcheck : d.bulkHandle e t.direction = .ok h) (node : Location)
      (answer : Except Errno Reply) (slot : Option (Except Error t.Yield)) :
      Stage d e (.sent (t.result e.address answer))
        slot [.answered h node (t.request e.address) answer]

/-- What has been sent lies in the place. -/
def Kept (worker : Worker t.Yield) (slot : Option (Except Error t.Yield)) : Prop :=
  ∀ result, worker = .sent result → slot = some result

/-- What the caller has come to, with how far the thread is. -/
inductive Standing (d : Device) (e : Endpoint) (signal : Signal) :
    Caller t.Yield → Worker t.Yield → Option (Except Error t.Yield) → Prop
  | begins : Standing d e signal .begins .absent none
  | checks : Standing d e signal .checks .absent none
  | starts {h : Handle} (hcheck : d.bulkHandle e t.direction = .ok h) :
      Standing d e signal (.starts h) .absent none
  | waits {worker : Worker t.Yield} {slot : Option (Except Error t.Yield)}
      (hthere : worker ≠ .absent) (hkept : Kept worker slot) :
      Standing d e signal .waits worker slot
  | leaves {worker : Worker t.Yield} {slot : Option (Except Error t.Yield)}
      (hthere : worker ≠ .absent) (hkept : Kept worker slot) (hfired : signal.fired = true) :
      Standing d e signal .leaves worker slot
  | finished (result : Except Error t.Yield) (slot : Option (Except Error t.Yield)) :
      Standing d e signal (.returned result) (.sent result) slot
  | cancelled (worker : Worker t.Yield) (slot : Option (Except Error t.Yield))
      (hfired : signal.fired = true) :
      Standing d e signal (.returned (.error .cancelled)) worker slot
  | refused {error : Error} (hcheck : d.bulkHandle e t.direction = .error error) :
      Standing d e signal (.returned (.error error)) .absent none

/-- Caller, thread, place and signal fit together. -/
structure Coherent (d : Device) (e : Endpoint) (c : Call t) : Prop where
  stage : Stage d e c.worker c.slot c.asked
  standing : Standing d e c.signal c.caller c.worker c.slot

variable {d : Device} {e : Endpoint} {c c' : Call t}

theorem Coherent.start (d : Device) (e : Endpoint) (t : BulkTransfer) (signal : Signal)
    (host : Host) :
    (Call.start t signal host).Coherent d e :=
  ⟨.absent, .begins⟩

/-- The steps of others leave the caller and the thread where they are, and a signal does not go
back. -/
theorem Coherent.outside (hc : c.Coherent d e) (hstep : Outside c c') : c'.Coherent d e := by
  obtain ⟨hstage, hstanding⟩ := hc
  cases hstep with
  | elsewhere hevolves => exact ⟨hstage, hstanding⟩
  | fires =>
    refine ⟨hstage, ?_⟩
    obtain ⟨caller, worker, slot, signal, host, asked⟩ := c
    cases hstanding with
    | begins => exact .begins
    | checks => exact .checks
    | starts hcheck => exact .starts hcheck
    | waits hthere hkept => exact .waits hthere hkept
    | leaves hthere hkept => exact .leaves hthere hkept rfl
    | finished => exact .finished _ _
    | cancelled => exact .cancelled _ _ rfl
    | refused hcheck => exact .refused hcheck

theorem settle_empty {α : Type} {signal : Signal} {answer : Except Error α}
    (hfired : signal.fired = true) (hsettle : Device.settle none signal = some answer) :
    answer = .error .cancelled := by
  simp only [Device.settle, hfired, if_true, Option.some.injEq] at hsettle
  exact hsettle.symm

theorem Coherent.move (hc : c.Coherent d e) (hmove : Move d e c c') : c'.Coherent d e := by
  obtain ⟨hstage, hstanding⟩ := hc
  obtain ⟨caller, worker, slot, signal, host, asked⟩ := c
  cases hmove with
  | seesFired hcaller hfired => exact ⟨hstage, .cancelled _ _ hfired⟩
  | seesQuiet hcaller hquiet =>
    subst hcaller
    cases hstanding
    exact ⟨hstage, .checks⟩
  | refused hcaller hcheck =>
    subst hcaller
    cases hstanding
    exact ⟨hstage, .refused hcheck⟩
  | admitted hcaller hcheck =>
    subst hcaller
    cases hstanding
    exact ⟨hstage, .starts hcheck⟩
  | starts hcaller =>
    subst hcaller
    cases hstanding with
    | starts hcheck =>
      cases hstage
      exact ⟨.started hcheck, .waits (by simp) fun result heq => nomatch heq⟩
  | takes hcaller hslot =>
    -- only a thread that has sent leaves something in the place
    subst hcaller hslot
    cases hstage with
    | sent hcheck node answer =>
      cases hstanding with
      | waits hthere hkept =>
        obtain rfl : _ = t.result e.address answer := Option.some_injective _ (hkept _ rfl)
        exact ⟨.sent hcheck node answer none, .finished _ none⟩
  | wakes hcaller hfired =>
    subst hcaller
    cases hstanding with
    | waits hthere hkept => exact ⟨hstage, .leaves hthere hkept hfired⟩
  | leaves answer hcaller hsettle =>
    subst hcaller
    cases hstanding with
    | leaves hthere hkept hfired =>
      cases hstage with
      | absent => exact absurd rfl hthere
      | started hcheck =>
        obtain rfl := settle_empty hfired hsettle
        exact ⟨.started hcheck, .cancelled _ _ hfired⟩
      | answered hcheck node answer =>
        obtain rfl := settle_empty hfired hsettle
        exact ⟨.answered hcheck node answer, .cancelled _ _ hfired⟩
      | sent hcheck node answer =>
        obtain rfl := hkept _ rfl
        obtain rfl := Option.some_injective _ hsettle
        exact ⟨.sent hcheck node answer none, .finished _ none⟩
  | asks hworker =>
    subst hworker
    cases hstage with
    | started hcheck =>
      refine ⟨.answered hcheck _ _, ?_⟩
      cases hstanding with
      | waits => exact .waits (by simp) fun result heq => nomatch heq
      | leaves hthere hkept hfired => exact .leaves (by simp) (fun result heq => nomatch heq) hfired
      | cancelled _ _ hfired => exact .cancelled _ _ hfired
  | sends hworker =>
    subst hworker
    cases hstage with
    | answered hcheck node answer =>
      refine ⟨.sent hcheck node answer _, ?_⟩
      cases hstanding with
      | waits => exact .waits (by simp) fun result heq => by rw [Worker.sent.inj heq]
      | leaves hthere hkept hfired =>
        exact .leaves (by simp) (fun result heq => by rw [Worker.sent.inj heq]) hfired
      | cancelled _ _ hfired => exact .cancelled _ _ hfired

theorem Coherent.step (hc : c.Coherent d e) (hstep : Step d e c c') : c'.Coherent d e :=
  hstep.elim hc.move hc.outside

theorem Coherent.reaches (hc : c.Coherent d e) (hreaches : Reaches d e c c') : c'.Coherent d e := by
  induction hreaches with
  | refl => exact hc
  | tail _ hstep ih => exact ih.step hstep

/-! ## Progress -/

/-- The most steps that caller and thread have before them. -/
def remaining (c : Call t) : ℕ := c.caller.remaining + c.worker.remaining

theorem Move.remaining_lt (hmove : Move d e c c') : c'.remaining < c.remaining := by
  cases hmove with
  | seesFired hcaller => simp [remaining, Caller.remaining, hcaller]
  | seesQuiet hcaller => simp [remaining, Caller.remaining, hcaller]
  | refused hcaller => simp [remaining, Caller.remaining, hcaller]
  | admitted hcaller => simp [remaining, Caller.remaining, hcaller]
  | starts hcaller =>
    simp only [remaining, Caller.remaining, Worker.remaining, hcaller]
    omega
  | takes hcaller => simp [remaining, Caller.remaining, hcaller]
  | wakes hcaller => simp [remaining, Caller.remaining, hcaller]
  | leaves _ hcaller => simp [remaining, Caller.remaining, hcaller]
  | asks hworker => simp [remaining, Worker.remaining, hworker]
  | sends hworker => simp [remaining, Worker.remaining, hworker]

theorem Outside.remaining_eq (hstep : Outside c c') : c'.remaining = c.remaining := by
  cases hstep <;> rfl

/-- A caller that waits is never stuck: until the result is there its thread has a step to take. -/
theorem Coherent.progress (hc : c.Coherent d e) :
    (∃ answer, c.caller = .returned answer) ∨ ∃ c', Move d e c c' := by
  obtain ⟨hstage, hstanding⟩ := hc
  obtain ⟨caller, worker, slot, signal, host, asked⟩ := c
  cases hstanding with
  | begins =>
    cases hfired : signal.fired with
    | true => exact .inr ⟨_, .seesFired rfl hfired⟩
    | false => exact .inr ⟨_, .seesQuiet rfl hfired⟩
  | checks =>
    cases hcheck : d.bulkHandle e t.direction with
    | error error => exact .inr ⟨_, .refused rfl hcheck⟩
    | ok h => exact .inr ⟨_, .admitted rfl hcheck⟩
  | starts => exact .inr ⟨_, .starts rfl⟩
  | waits hthere hkept =>
    cases hstage with
    | absent => exact absurd rfl hthere
    | started => exact .inr ⟨_, .asks rfl⟩
    | answered => exact .inr ⟨_, .sends rfl⟩
    | sent => exact .inr ⟨_, .takes rfl (hkept _ rfl)⟩
  | leaves hthere hkept hfired =>
    cases slot with
    | none => exact .inr ⟨_, .leaves (.error .cancelled) rfl (if_pos hfired)⟩
    | some result => exact .inr ⟨_, .leaves result rfl rfl⟩
  | finished => exact .inl ⟨_, rfl⟩
  | cancelled => exact .inl ⟨_, rfl⟩
  | refused => exact .inl ⟨_, rfl⟩

/-! ## The signal before the first look -/

/-- The signal fired before the caller looked at it. -/
structure Forestalled (c : Call t) : Prop where
  fired : c.signal.fired = true
  worker : c.worker = .absent
  asked : c.asked = []
  caller : c.caller = .begins ∨ c.caller = .returned (.error .cancelled)

theorem Coherent.forestalled (hc : c.Coherent d e) (hcaller : c.caller = .begins)
    (hfired : c.signal.fired = true) :
    c.Forestalled := by
  obtain ⟨hstage, hstanding⟩ := hc
  obtain ⟨caller, worker, slot, signal, host, asked⟩ := c
  subst hcaller
  cases hstanding
  cases hstage
  exact ⟨hfired, rfl, rfl, .inl rfl⟩

theorem Forestalled.step (hc : c.Forestalled) (hstep : Step d e c c') : c'.Forestalled := by
  obtain ⟨hfired, hworker, hasked, hcaller⟩ := hc
  obtain hmove | houtside := hstep
  · cases hmove with
    | seesFired => exact ⟨hfired, hworker, hasked, .inr rfl⟩
    | seesQuiet _ hquiet => simp [hfired] at hquiet
    | refused hat | admitted hat | starts hat | takes hat | wakes hat | leaves _ hat =>
      simp [hat] at hcaller
    | asks hat | sends hat => simp [hat] at hworker
  · cases houtside with
    | fires => exact ⟨rfl, hworker, hasked, hcaller⟩
    | elsewhere => exact ⟨hfired, hworker, hasked, hcaller⟩

theorem Forestalled.reaches (hc : c.Forestalled) (hreaches : Reaches d e c c') :
    c'.Forestalled := by
  induction hreaches with
  | refl => exact hc
  | tail _ hstep ih => exact ih.step hstep

/-! ## The last step of the caller -/

/-- The step by which the caller returns. -/
theorem Coherent.returns (hc : c.Coherent d e) (hmove : Move d e c c')
    {answer : Except Error t.Yield} (hbefore : ∀ answer, c.caller ≠ .returned answer)
    (hafter : c'.caller = .returned answer) :
    (answer = .error .cancelled → c.signal.fired = true ∧ ∀ result, c.worker ≠ .sent result) ∧
      ∀ result, c.worker = .sent result → answer = result := by
  obtain ⟨hstage, hstanding⟩ := hc
  obtain ⟨caller, worker, slot, signal, host, asked⟩ := c
  cases hmove with
  | seesFired hcaller hfired =>
    subst hcaller
    cases hstanding
    exact ⟨fun _ => ⟨hfired, by simp⟩, by simp⟩
  | refused hcaller hcheck =>
    subst hcaller
    cases hstanding
    obtain rfl := Caller.returned.inj hafter
    refine ⟨fun hcancelled => ?_, by simp⟩
    exact absurd (hcheck.trans (by rw [Except.error.inj hcancelled]))
      (d.bulkHandle_ne_cancelled e t.direction)
  | takes hcaller hslot =>
    subst hcaller hslot
    obtain rfl := Caller.returned.inj hafter
    cases hstage with
    | sent hcheck node sent =>
      cases hstanding with
      | waits hthere hkept =>
        obtain rfl := Option.some_injective _ (hkept _ rfl)
        exact ⟨fun hcancelled => absurd hcancelled (t.result_ne_cancelled _ _),
          fun result heq => Worker.sent.inj heq⟩
  | @leaves found hcaller hsettle =>
    subst hcaller
    obtain rfl := Caller.returned.inj hafter
    cases hstanding with
    | leaves hthere hkept hfired =>
      have hwon : ∀ result, worker = .sent result → found = result := fun result heq => by
        rw [hkept result heq] at hsettle
        exact (Option.some_injective _ hsettle).symm
      refine ⟨fun hcancelled => ⟨hfired, fun result heq => ?_⟩, hwon⟩
      have hresult := (hwon result heq).symm.trans hcancelled
      subst heq
      cases hstage with
      | sent hcheck node sent => exact t.result_ne_cancelled _ _ hresult
  | seesQuiet | admitted | starts | wakes => cases hafter
  | asks | sends => exact absurd hafter (hbefore answer)

/-! ## The laws of a call -/

/-- What holds of a call at every moment. -/
structure Laws (d : Device) (e : Endpoint) (c : Call t) : Prop where
  /-- The answer is what the thread has sent, or that the call was cancelled, which takes a signal
  that has fired, or what the transfer lacks. -/
  answer : ∀ answer, c.caller = .returned answer →
    c.worker = .sent answer ∨ answer = .error .cancelled ∧ c.signal.fired = true ∨
      ∃ error, answer = .error error ∧ d.bulkHandle e t.direction = .error error
  /-- The kernel is asked at most once, for the transfer, and only if the transfer lacks nothing. -/
  asked : c.asked = [] ∨ ∃ h node answer, d.bulkHandle e t.direction = .ok h ∧
    c.asked = [.answered h node (t.request e.address) answer]
  /-- What the thread sends is what comes of the transfer by the kernel's answer. -/
  sent : ∀ result, c.worker = .sent result → ∃ h node answer,
    c.asked = [.answered h node (t.request e.address) answer] ∧ result = t.result e.address answer
  /-- Nothing that was sent before the last step of the caller is lost. -/
  last : ∀ c', Move d e c c' → ∀ answer, (∀ earlier, c.caller ≠ .returned earlier) →
    c'.caller = .returned answer →
      (answer = .error .cancelled → c.signal.fired = true ∧ ∀ result, c.worker ≠ .sent result) ∧
        ∀ result, c.worker = .sent result → answer = result
  /-- With a signal that fires before the first look, the call is cancelled and the kernel is not
  asked. -/
  forestalled : c.caller = .begins → c.signal.fired = true → ∀ c', Reaches d e c c' →
    c'.asked = [] ∧ ∀ answer, c'.caller = .returned answer → answer = .error .cancelled
  /-- Without a signal no call is cancelled. -/
  quiet : c.signal.fired = false → c.caller ≠ .returned (.error .cancelled)
  /-- Until the caller has returned, caller or thread can take a step. -/
  progress : (∃ answer, c.caller = .returned answer) ∨ ∃ c', Move d e c c'
  /-- They have ever fewer steps to take, and others do not give them more. -/
  ends : (∀ c', Move d e c c' → c'.remaining < c.remaining) ∧ ∀ c', Outside c c' →
    c'.remaining = c.remaining

theorem Coherent.answer (hc : c.Coherent d e) {answer : Except Error t.Yield}
    (hcaller : c.caller = .returned answer) :
    c.worker = .sent answer ∨ answer = .error .cancelled ∧ c.signal.fired = true ∨
      ∃ error, answer = .error error ∧ d.bulkHandle e t.direction = .error error := by
  obtain ⟨hstage, hstanding⟩ := hc
  obtain ⟨caller, worker, slot, signal, host, asked⟩ := c
  subst hcaller
  cases hstanding with
  | finished => exact .inl rfl
  | cancelled _ _ hfired => exact .inr (.inl ⟨rfl, hfired⟩)
  | refused hcheck => exact .inr (.inr ⟨_, rfl, hcheck⟩)

theorem Coherent.asked (hc : c.Coherent d e) :
    c.asked = [] ∨ ∃ h node answer, d.bulkHandle e t.direction = .ok h ∧
      c.asked = [.answered h node (t.request e.address) answer] := by
  obtain ⟨hstage, -⟩ := hc
  obtain ⟨caller, worker, slot, signal, host, asked⟩ := c
  cases hstage with
  | absent | started => exact .inl rfl
  | answered hcheck | sent hcheck => exact .inr ⟨_, _, _, hcheck, rfl⟩

/-- Where the transfer lacks something, nothing is asked. -/
theorem Coherent.asked_of_lacking (hc : c.Coherent d e) {error : Error}
    (hcheck : d.bulkHandle e t.direction = .error error) : c.asked = [] := by
  obtain hnone | ⟨h, -, -, hok, -⟩ := hc.asked
  · exact hnone
  · rw [hcheck] at hok
    cases hok

theorem Coherent.sent (hc : c.Coherent d e) {result : Except Error t.Yield}
    (hworker : c.worker = .sent result) :
    ∃ h node answer, c.asked = [.answered h node (t.request e.address) answer] ∧
      result = t.result e.address answer := by
  obtain ⟨hstage, -⟩ := hc
  obtain ⟨caller, worker, slot, signal, host, asked⟩ := c
  subst hworker
  cases hstage with
  | sent => exact ⟨_, _, _, rfl, rfl⟩

theorem Coherent.quiet (hc : c.Coherent d e) (hquiet : c.signal.fired = false) :
    c.caller ≠ .returned (.error .cancelled) := by
  intro hcaller
  obtain hsent | ⟨-, hfired⟩ | ⟨error, heq, hcheck⟩ := hc.answer hcaller
  · obtain ⟨h, node, answer, -, hresult⟩ := hc.sent hsent
    exact t.result_ne_cancelled _ _ hresult.symm
  · simp [hfired] at hquiet
  · exact d.bulkHandle_ne_cancelled e t.direction (hcheck.trans (by rw [Except.error.inj heq]))

theorem Forestalled.answer (hc : c.Forestalled) {answer : Except Error t.Yield}
    (hcaller : c.caller = .returned answer) :
    answer = .error .cancelled := by
  obtain hbegins | hreturned := hc.caller
  · simp [hbegins] at hcaller
  · exact Caller.returned.inj (hcaller.symm.trans hreturned)

theorem Coherent.laws (hc : c.Coherent d e) : c.Laws d e where
  answer _ hcaller := hc.answer hcaller
  asked := hc.asked
  sent _ hworker := hc.sent hworker
  last _ hmove _ hbefore hafter := hc.returns hmove hbefore hafter
  forestalled hcaller hfired _ hreaches :=
    have hlater := (hc.forestalled hcaller hfired).reaches hreaches
    ⟨hlater.asked, fun _ hreturned => hlater.answer hreturned⟩
  quiet := hc.quiet
  progress := hc.progress
  ends := ⟨fun _ hmove => hmove.remaining_lt, fun _ houtside => houtside.remaining_eq⟩

/-- What the thread asks is part of the host's history, in its order, with what others ask. -/
theorem Reaches.history {signal : Signal} {host : Host}
    (hreaches : Reaches d e (start t signal host) c) :
    ∃ events, host.Evolves events c.host ∧ c.asked.Sublist events := by
  induction hreaches with
  | refl => exact ⟨[], .refl host, .slnil⟩
  | tail _ hstep ih =>
    obtain ⟨events, hevolves, hsub⟩ := ih
    obtain hmove | houtside := hstep
    · cases hmove with
      | asks hworker => exact ⟨_, hevolves.trans (Host.ask_evolves _ _ _), hsub.cons_cons _⟩
      | seesFired | seesQuiet | refused | admitted | starts | takes | wakes | leaves | sends =>
        exact ⟨events, hevolves, hsub⟩
    · cases houtside with
      | fires => exact ⟨events, hevolves, hsub⟩
      | elsewhere hothers =>
        exact ⟨_, hevolves.trans hothers, hsub.trans (List.sublist_append_right _ _)⟩

/-! ## Calls left to themselves -/

/-- A step of a call that nobody else has to do with: one of the caller or of the thread, or the
firing of the signal, which happens only if the signal is fired `later`. -/
inductive Alone (d : Device) (e : Endpoint) (later : Signal) : Call t → Call t → Prop
  | moves {c c' : Call t} (hmove : Move d e c c') : Alone d e later c c'
  | fires (c : Call t) (hlater : later.fired = true) :
      Alone d e later c { c with signal := c.signal.fire }

/-- From one moment of a call left to itself to a later one. -/
abbrev ReachesAlone (d : Device) (e : Endpoint) (later : Signal) : Call t → Call t → Prop :=
  Relation.ReflTransGen (Alone d e later)

theorem Alone.step {later : Signal} (halone : Alone d e later c c') : Step d e c c' := by
  cases halone with
  | moves hmove => exact .inl hmove
  | fires => exact .inr (.fires c)

theorem ReachesAlone.reaches {later : Signal} (hreaches : ReachesAlone d e later c c') :
    Reaches d e c c' :=
  Relation.ReflTransGen.mono (fun _ _ halone => Alone.step halone) _ _ hreaches

/-- A watched transfer in one go is one order of the steps of a call left to itself. -/
theorem reachesAlone_watched (d : Device) (e : Endpoint) (t : BulkTransfer) (signal later : Signal)
    (host : Host) :
    ∃ c : Call t, ReachesAlone d e later (start t signal host) c ∧
      c.caller = .returned (t.watched d e signal later host).1 ∧
      c.host = (t.watched d e signal later host).2 := by
  rw [t.watched_eq d e signal later host]
  cases hsignal : signal.fired with
  | true => exact ⟨_, .single (.moves (.seesFired rfl hsignal)), rfl, rfl⟩
  | false =>
    have hchecks : ReachesAlone d e later (start t signal host)
        ⟨.checks, .absent, none, signal, host, []⟩ :=
      .single (.moves (.seesQuiet rfl hsignal))
    cases hcheck : d.bulkHandle e t.direction with
    | error error => exact ⟨_, hchecks.tail (.moves (.refused rfl hcheck)), rfl, rfl⟩
    | ok h =>
      obtain ⟨answer, host', hask⟩ : ∃ answer host',
          Host.ask h (t.request e.address) host = (answer, host') := ⟨_, _, rfl⟩
      have hwaits : ReachesAlone d e later (start t signal host)
          ⟨.waits, .started h, none, signal, host, []⟩ :=
        (hchecks.tail (.moves (.admitted rfl hcheck))).tail (.moves (.starts rfl))
      have hanswered : ReachesAlone d e later (start t signal host)
          ⟨.waits, .answered (t.result e.address answer), none, signal, host',
            [.answered h (host.nodeOf h) (t.request e.address) answer]⟩ := by
        have hasks := hwaits.tail (.moves (.asks rfl))
        simp only [hask] at hasks
        exact hasks
      simp only [hask, Device.await, Device.settle]
      by_cases habandoned : host.delays h (t.request e.address) = true ∧ later.fired = true
      · have hwakes := (hanswered.tail (.fires _ habandoned.2)).tail (.moves (.wakes rfl rfl))
        have hleaves := hwakes.tail (.moves (.leaves (.error .cancelled) rfl rfl))
        exact ⟨_, hleaves, by simp [habandoned.1, habandoned.2], rfl⟩
      · have htakes := (hanswered.tail (.moves (.sends rfl))).tail (.moves (.takes rfl rfl))
        refine ⟨_, htakes, ?_, rfl⟩
        cases hdelays : host.delays h (t.request e.address) with
        | false => simp
        | true =>
          have hlater : later.fired = false := by simpa [hdelays] using habandoned
          simp [hlater]

/-- Nobody else has had to do with the call: the host is as it was, or the thread's one request has
been made of it, and the signal has fired only if it had before or is fired `later`. -/
structure Undisturbed (signal later : Signal) (host : Host) (c : Call t) : Prop where
  signal : c.signal.fired = true → signal.fired = true ∨ later.fired = true
  host : c.asked = [] ∧ c.host = host ∨ ∃ h request, (Host.ask h request host).2 = c.host ∧
    c.asked = [.answered h (host.nodeOf h) request (Host.ask h request host).1]

variable {signal later : Signal} {host : Host}

theorem Undisturbed.start (t : BulkTransfer) (signal later : Signal) (host : Host) :
    (Call.start t signal host).Undisturbed signal later host :=
  ⟨.inl, .inl ⟨rfl, rfl⟩⟩

theorem Undisturbed.alone (hc : c.Undisturbed signal later host) (hcoherent : c.Coherent d e)
    (halone : Alone d e later c c') : c'.Undisturbed signal later host := by
  obtain ⟨hsignal, hhost⟩ := hc
  cases halone with
  | fires hlater => exact ⟨fun _ => .inr hlater, hhost⟩
  | moves hmove =>
    cases hmove with
    | @asks h hworker =>
      -- the thread has asked nothing before, so the host is still the first one
      obtain ⟨hstage, -⟩ := hcoherent
      obtain ⟨caller, worker, slot, _, host', asked⟩ := c
      subst hworker
      cases hstage with
      | started hcheck =>
        obtain ⟨-, rfl⟩ | ⟨_, _, -, hasked⟩ := hhost
        · exact ⟨hsignal, .inr ⟨h, t.request e.address, rfl, rfl⟩⟩
        · cases hasked
    | seesFired | seesQuiet | refused | admitted | starts | takes | wakes | leaves | sends =>
      exact ⟨hsignal, hhost⟩

theorem ReachesAlone.undisturbed (hreaches : ReachesAlone d e later (Call.start t signal host) c) :
    c.Undisturbed signal later host := by
  induction hreaches with
  | refl => exact .start t signal later host
  | tail hbefore halone ih =>
    exact ih.alone ((Coherent.start d e t signal host).reaches
      (ReachesAlone.reaches hbefore)) halone

theorem Undisturbed.host_eq (hc : c.Undisturbed signal later host) (hasked : c.asked = []) :
    c.host = host := by
  obtain ⟨-, hhost⟩ | ⟨h, request, -, hone⟩ := hc.host
  · exact hhost
  · rw [hasked] at hone
    cases hone

/-- A call left to itself returns what the transfer in one go gives if nothing delays it, or that it
was cancelled; the latter takes a signal that is fired `later`, unless it had fired before. -/
theorem ReachesAlone.returns (hreaches : ReachesAlone d e later (Call.start t signal host) c)
    {answer : Except Error t.Yield} (hcaller : c.caller = .returned answer) :
    (answer, c.host) = t.watched d e signal .new host ∨
      answer = .error .cancelled ∧ later.fired = true := by
  have hcoherent : c.Coherent d e := (Coherent.start d e t signal host).reaches hreaches.reaches
  have hundisturbed := hreaches.undisturbed
  rw [t.watched_eq d e signal .new host]
  cases hsignal : signal.fired with
  | true =>
    have hforestalled : c.Forestalled :=
      ((Coherent.start d e t signal host).forestalled rfl hsignal).reaches hreaches.reaches
    rw [if_pos rfl, hforestalled.answer hcaller, hundisturbed.host_eq hforestalled.asked]
    exact .inl rfl
  | false =>
    rw [if_neg Bool.false_ne_true]
    obtain hsent | ⟨rfl, hfired⟩ | ⟨error, rfl, hcheck⟩ := hcoherent.answer hcaller
    · obtain ⟨h, node, reply, hasked, rfl⟩ := hcoherent.sent hsent
      obtain hnone | ⟨h, node, reply, hcheck, hasked'⟩ := hcoherent.asked
      · rw [hasked] at hnone
        cases hnone
      · obtain ⟨hnone, -⟩ | ⟨h', request, hhost, hone⟩ := hundisturbed.host
        · rw [hasked] at hnone
          cases hnone
        · rw [hasked] at hasked' hone
          cases hasked'
          cases hone
          rw [hcheck, ← hhost]
          exact .inl (Prod.ext (Device.await_quiet _ _).symm rfl)
    · exact .inr ⟨rfl, (hundisturbed.signal hfired).resolve_left (by simp [hsignal])⟩
    · rw [hcheck, hundisturbed.host_eq (hcoherent.asked_of_lacking hcheck)]
      exact .inl rfl

end Call

/-- Whatever the order in which caller, thread and others take their steps, the laws of a call hold,
and what its thread asks is what the host has been asked. A watched transfer in one go is one of the
orders in which nobody else has to do with the call, and the signal fires only if it is fired
`later`. In each of these orders the call returns what the transfer in one go gives if nothing
delays it, or that it was cancelled, which takes a signal that is fired `later`. -/
theorem watched_call_laws (d : Device) (e : Endpoint) (t : BulkTransfer) (signal : Signal)
    (host : Host) :
    (∀ c, Call.Reaches d e (.start t signal host) c →
      c.Laws d e ∧ ∃ events, host.Evolves events c.host ∧ c.asked.Sublist events) ∧
    ∀ later,
      (∃ c, Call.ReachesAlone d e later (.start t signal host) c ∧
        c.caller = .returned (t.watched d e signal later host).1 ∧
        c.host = (t.watched d e signal later host).2) ∧
      ∀ c answer, Call.ReachesAlone d e later (.start t signal host) c →
        c.caller = .returned answer →
        (answer, c.host) = t.watched d e signal .new host ∨
          answer = .error .cancelled ∧ later.fired = true :=
  ⟨fun _ hreaches => ⟨((Call.Coherent.start d e t signal host).reaches hreaches).laws,
      Call.Reaches.history hreaches⟩,
    fun later => ⟨Call.reachesAlone_watched d e t signal later host,
      fun _ _ hreaches hcaller => hreaches.returns hcaller⟩⟩

/-- A bulk endpoint to which data goes. -/
def smallOut : Endpoint := ⟨0x01, TransferType.bulk, 64, 64, 0⟩

/-- A kernel that moves one byte by each request. -/
def slowKernel : Kernel := ⟨fun _ _ _ _ => .ok ⟨1, []⟩, fun _ _ _ _ => true⟩

/-- A call that sends two bytes to the small device, just made. -/
def smallCall : Call (.send [7, 8]) :=
  .start (.send [7, 8]) .new (smallOpenedSession slowKernel).host

/-- The call of the small device when its thread has been started. -/
theorem Call.Reaches.smallCall_waits : Call.Reaches smallOpened smallOut smallCall
    ⟨.waits, .started smallHandle, none, .new, (smallOpenedSession slowKernel).host, []⟩ := by
  have hchecks := Relation.ReflTransGen.single (r := Call.Step smallOpened smallOut)
    (.inl (.seesQuiet (c := smallCall) rfl rfl))
  exact (hchecks.tail (.inl (.admitted (h := smallHandle) rfl (by rfl)))).tail (.inl (.starts rfl))

/-- If the signal fires while the small device takes its time, the call is cancelled; if it has sent
its result before, that is the answer, though the caller sees the signal. Left to itself with a
quiet signal, the call returns what the transfer in one go gives. -/
theorem watched_call_laws_smallOpened :
    (∃ c, Call.Reaches smallOpened smallOut smallCall c ∧ c.caller = .returned (.error .cancelled) ∧
      c.Laws smallOpened smallOut) ∧
    (∃ c, Call.Reaches smallOpened smallOut smallCall c ∧ c.signal.fired = true ∧
      c.caller = .returned (.ok 1) ∧ c.Laws smallOpened smallOut) ∧
    ∃ c, Call.ReachesAlone smallOpened smallOut .new smallCall c ∧ c.caller = .returned (.ok 1) ∧
      (.ok 1, c.host) = BulkTransfer.watched smallOpened smallOut .new .new (.send [7, 8])
        (smallOpenedSession slowKernel).host := by
  obtain ⟨hlaws, halone⟩ :=
    watched_call_laws smallOpened smallOut (.send [7, 8]) .new (smallOpenedSession slowKernel).host
  have hwaits := Call.Reaches.smallCall_waits
  refine ⟨?_, ?_, ?_⟩
  · have hwakes := (hwaits.tail (.inr (.fires _))).tail (.inl (.wakes rfl rfl))
    have hleaves := hwakes.tail (.inl (.leaves (.error .cancelled) rfl rfl))
    exact ⟨_, hleaves, rfl, (hlaws _ hleaves).1⟩
  · have hsends := (hwaits.tail (.inl (.asks rfl))).tail (.inl (.sends rfl))
    have hwakes := (hsends.tail (.inr (.fires _))).tail (.inl (.wakes rfl rfl))
    have hleaves := hwakes.tail (.inl (.leaves (.ok 1) rfl rfl))
    exact ⟨_, hleaves, rfl, rfl, (hlaws _ hleaves).1⟩
  · obtain ⟨⟨c, hreaches, hcaller, -⟩, hreturns⟩ := halone .new
    change c.caller = .returned (.ok 1) at hcaller
    obtain hgiven | ⟨hcancelled, -⟩ := hreturns c _ hreaches hcaller
    · exact ⟨c, hreaches, hcaller, hgiven⟩
    · cases hcancelled

end UsbAccess
