import UsbAccess.Device.Basic

/-!
# Registries

A registry counts the devices that are open on its behalf and refuses to close while there are any.
When it closes it fires its signal, which fires once and never goes back.

Results:
* `close_eq_error_iff`: a registry refuses to close exactly while a device is registered.
-/

namespace UsbAccess

open Text

/-- A signal that fires once. -/
structure Signal where
  fired : Bool
  deriving DecidableEq, Repr

namespace Signal

/-- A signal that has not fired. -/
def new : Signal := ⟨false⟩

/-- The signal after it has been fired. -/
def fire (_ : Signal) : Signal := ⟨true⟩

/-- The signal, for inspection. -/
def outline (s : Signal) : String :=
  Outline.record "Disposal" [("fired", Outline.bool s.fired)]

end Signal

/-- A registry of open devices. Each registration has a token of its own, numbered from 0 in 64
bits. -/
structure Registry where
  settings : Settings
  tokens : List UInt64
  next : UInt64
  signal : Signal

namespace Registry

/-- A registry without devices. -/
def new (settings : Settings) : Registry :=
  ⟨settings, [], 0, .new⟩

/-- The number of open devices. -/
def openCount (r : Registry) : Nat := r.tokens.length

/-- The registry with one more device, and its token. -/
def join (r : Registry) : UInt64 × Registry :=
  (r.next, { r with tokens := if r.next ∈ r.tokens then r.tokens else r.next :: r.tokens,
                    next := r.next + 1 })

/-- The registry without the device of a token. -/
def leave (r : Registry) (token : UInt64) : Registry :=
  { r with tokens := r.tokens.filter fun t => t ≠ token }

/-- Closes the registry and fires its signal, unless a device is open. -/
def close (r : Registry) : Except Error Registry :=
  if r.openCount > 0 then .error (.devicesStillOpen r.openCount)
  else .ok { r with signal := r.signal.fire }

/-- The error of a closed registry. -/
def error? (r : Registry) : Option Error :=
  if r.signal.fired then some .cancelled else none

/-- The registry, for inspection. -/
def outline (r : Registry) : String :=
  Outline.record "Context"
    [("config", r.settings.outline), ("open", r.openCount.repr), ("disposal", r.signal.outline)]

theorem close_eq_error_iff (r : Registry) :
    (∃ e, r.close = .error e) ↔ r.tokens ≠ [] := by
  unfold close openCount
  cases r.tokens <;> simp

end Registry

/-- What a program that uses devices works on: the host, and its registries by their numbers. -/
structure Session where
  host : Host
  registries : List Registry

namespace Session

/-- An operation on the host. -/
def onHost {α : Type} (m : StateM Host α) : StateM Session α := fun s =>
  let (a, host) := m s.host
  (a, { s with host := host })

/-- The session after a registry has changed. -/
def setRegistry (s : Session) (number : Nat) (r : Registry) : Session :=
  { s with registries := s.registries.set number r }

/-- Registers a device with a registry. -/
def register (number : Nat) : StateM Session (Option Registration) := fun s =>
  match s.registries[number]? with
  | some r => (some ⟨number, r.join.1⟩, s.setRegistry number r.join.2)
  | none => (none, s)

/-- Ends the registration of a device. -/
def deregister (registration : Registration) : StateM Session Unit := fun s =>
  match s.registries[registration.registry]? with
  | some r => ((), s.setRegistry registration.registry (r.leave registration.token))
  | none => ((), s)

/-- Closes a registry. -/
def close (number : Nat) : StateM Session (Except Error Unit) := fun s =>
  match s.registries[number]? with
  | some r =>
    match r.close with
    | .ok r => (.ok (), s.setRegistry number r)
    | .error e => (.error e, s)
  | none => (.ok (), s)

/-- A new registry: its number. -/
def newRegistry (settings : Settings) : StateM Session Nat := fun s =>
  (s.registries.length, { s with registries := s.registries ++ [.new settings] })

end Session

end UsbAccess
