import UsbAccess.Registry

/-!
# Using a device

Opening and closing, claiming interfaces, selecting settings. Each operation gives its outcome and
the device after it.

Results:
* `selectConfiguration_range`: a value out of range is refused before anything is asked.
-/

namespace UsbAccess

namespace Device

/-- The outcome of an operation, with the device after it. -/
abbrev Outcome (α : Type) := Except Error α × Device

/-! ## Opening and closing -/

/-- Releases the interfaces that are claimed, from the lowest up, and forgets the claims, whether or
not the releases succeed. -/
def releaseClaims (d : Device) : StateM Host Device := do
  if let some h := d.handle then
    Claim.giveBackAll h.control d.claims.toList
  return { d with claims := Claims.none }

/-- Opens the node of the device. An open device gives up its claims first. -/
def «open» (d : Device) : StateM Host (Outcome Unit) := do
  let d ← if d.isOpen then d.releaseClaims else pure d
  match ← Host.openNode d.node with
  | .ok h => return (.ok (), { d with handle := some h })
  | .error fault => return (.error (if fault = .refused .noEntry then .notFound else .io fault), d)

/-- Releases the claimed interfaces, gives up the handle and leaves the registry. -/
def close (d : Device) : StateM Session Device := do
  let d ← Session.onHost d.releaseClaims
  if let some registration := d.registration then
    Session.deregister registration
  return { d with handle := none, registration := none }

/-- The handle of an open device. -/
def requireHandle (d : Device) : Except Error Handle :=
  match d.handle with
  | some h => .ok h
  | none => .error (.invalidState (.notOpen d.address))

/-! ## Interfaces -/

/-- Claims an interface. One that is claimed already stays as it is. -/
def claimInterface (d : Device) (number : UInt8) : StateM Host (Outcome Unit) := do
  match d.interface number with
  | .error e => return (.error e, d)
  | .ok _ =>
    if d.isClaimed number then return (.ok (), d)
    match d.requireHandle with
    | .error e => return (.error e, d)
    | .ok h =>
      match ← Claim.take h.control number with
      | .error e => return (.error e, d)
      | .ok claim => return (.ok (), { d with claims := d.claims.insert number claim })

/-- Releases an interface. It stays claimed when the release fails. -/
def releaseInterface (d : Device) (number : UInt8) : StateM Host (Outcome Unit) := do
  match d.claims number with
  | none => return (.error (.invalidState (.notClaimed number)), d)
  | some claim =>
    match d.requireHandle with
    | .error e => return (.error e, d)
    | .ok h =>
      match ← Claim.giveBack h.control number claim with
      | .error e => return (.error e, d)
      | .ok _ => return (.ok (), { d with claims := d.claims.erase number })

/-- The driver of an interface by the source of the device's data. -/
def sourceDriver (d : Device) (number : UInt8) : StateM Host (Except Error (Option String)) := do
  match d.source with
  | .directory dir =>
    match d.activeConfiguration? with
    | some c => return dir.driver (← get).files c.value number
    | none => return .error (.invalidState .noDriverConfiguration)
  | .node =>
    match d.handle with
    | some h => Claim.driver h.control number
    | none => Inquiry.withNode d.node "get driver" fun h => h.driver number

/-- The driver of an interface. -/
def driver (d : Device) (number : UInt8) : StateM Host (Except Error (Option String)) := do
  match d.interface number with
  | .error e => return .error e
  | .ok _ =>
    match d.handle with
    | some h => Claim.driver h.control number
    | none => d.sourceDriver number

/-! ## Settings -/

/-- Selects a configuration by the source of the device's data. -/
def sourceSelectConfiguration (d : Device) (value : UInt8) : StateM Host (Except Error Unit) := do
  match d.source with
  | .directory dir =>
    let host ← get
    match dir.selectConfiguration host.files value with
    | .ok files => set { host with files := files }; return .ok ()
    | .error e => return .error e
  | .node =>
    match d.handle with
    | some h => return Claim.failed "set configuration" (← h.selectConfiguration value)
    | none => Inquiry.withNode d.node "set configuration" fun h => h.selectConfiguration value

/-- Selects a configuration. It becomes the active one when the selection succeeds. -/
def selectConfiguration (d : Device) (value : UInt8) : StateM Host (Outcome Unit) := do
  if value = 0 ∨ d.configurations.length < value.toNat then
    return (.error (.invalidArgument (.configurationRange value d.configurations.length)), d)
  let selected ← match d.handle with
    | some h => do pure (Claim.failed "set configuration" (← h.selectConfiguration value))
    | none => d.sourceSelectConfiguration value
  match selected with
  | .ok _ => return (.ok (), { d with active := some (value.toNat - 1) })
  | .error e => return (.error e, d)

/-- The device with another alternate setting of an interface of its active configuration. -/
def setAlternate (d : Device) (number alternate : UInt8) : Device :=
  match d.active with
  | some index =>
    { d with configurations := d.configurations.modify index fun c =>
        { c with
          interfaces := c.interfaces.modify number.toNat fun i => { i with
            alternate := alternate } } }
  | none => d

/-- Selects an alternate setting of an interface. -/
def selectAlternate (d : Device) (number alternate : UInt8) : StateM Host (Outcome Unit) := do
  match d.interface number with
  | .error e => return (.error e, d)
  | .ok _ =>
    match d.requireHandle with
    | .error e => return (.error e, d)
    | .ok h =>
      match ← h.selectAlternate number alternate with
      | .error e => return (.error (.kernel "set interface" e), d)
      | .ok _ => return (.ok (), d.setAlternate number alternate)

/-- Resets the device. -/
def reset (d : Device) : StateM Host (Except Error Unit) := do
  match d.requireHandle with
  | .error e => return .error e
  | .ok h => return Claim.failed "reset" (← h.reset)

/-! ## The default interface -/

/-- Claims interface 0, for a device of which it is to be used alone; the device is opened for it if
need be. Where the claim fails the device is closed only if it was opened for it. -/
def beginDefault (d : Device) : StateM Session (Outcome Interface) := do
  match d.interface 0 with
  | .error e => return (.error e, d)
  | .ok interface =>
    let (opened, d') ← if d.isOpen then pure (.ok (), d) else Session.onHost d.open
    match opened with
    | .error e => return (.error e, d')
    | .ok _ =>
      let (claimed, d') ← Session.onHost (d'.claimInterface 0)
      match claimed with
      | .error e =>
        if d.isOpen then return (.error e, d') else return (.error e, ← d'.close)
      | .ok _ => return (.ok interface, d')

/-- Releases the interface that was claimed, whether or not that succeeds, and closes the device. -/
def endDefault (d : Device) (number : UInt8) : StateM Session Device := do
  let (_, d) ← Session.onHost (d.releaseInterface number)
  d.close

/-- Claims interface 0 for as long as `use` runs. -/
def withDefaultInterface {α : Type} (d : Device) (use : Device → Interface → StateM Session α) :
    StateM Session (Outcome α) := do
  match ← d.beginDefault with
  | (.error e, d) => return (.error e, d)
  | (.ok interface, d) =>
    let a ← use d interface
    return (.ok a, ← d.endDefault interface.number)

/-! ## Laws -/

theorem selectConfiguration_range {d : Device} {value : UInt8}
    (h : value = 0 ∨ d.configurations.length < value.toNat) (host : Host) :
    d.selectConfiguration value host =
      ((.error (.invalidArgument (.configurationRange value d.configurations.length)), d),
        host) := by
  unfold selectConfiguration
  rw [if_pos h]
  rfl

end Device

end UsbAccess
