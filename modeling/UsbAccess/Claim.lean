import UsbAccess.Error
import UsbAccess.Host.Node

/-!
# Claims

An interface is claimed away from the driver that holds it and given back to that driver when it is
released. A claim therefore remembers whether a driver was detached for it.

Results:
* `Claims.insert_self`, `Claims.erase_self`: a claim is there from its insertion to its removal.
* `Claims.mem_toList`, `Claims.toList_ascending`: the list of the claims has each of them, in
  ascending order.
-/

namespace UsbAccess

/-- Requests about the interfaces of a device, on a state of type `σ`. -/
structure InterfaceControl (σ : Type) where
  claim : UInt8 → StateM σ (Except Errno Unit)
  release : UInt8 → StateM σ (Except Errno Unit)
  detach : UInt8 → StateM σ (Except Errno Detachment)
  attach : UInt8 → StateM σ (Except Errno Unit)
  driver : UInt8 → StateM σ (Except Errno (Option String))

/-- The requests at an open node. -/
def Handle.control (h : Handle) : InterfaceControl Host :=
  ⟨h.claim, h.release, h.detach, h.attach, h.driver⟩

/-- What is remembered of a claimed interface. -/
structure Claim where
  /-- A driver was detached for the claim. -/
  detached : Bool
  deriving DecidableEq, Repr

namespace Claim

/-- The driver that stands for a program which claims interfaces at device nodes. -/
def ownDriver : String := "usbfs"

/-- An operation at the kernel that failed. -/
def failed {α : Type} (operation : String) (answer : Except Errno α) : Except Error α :=
  match answer with
  | .ok a => .ok a
  | .error e => .error (.kernel operation e)

/-- Detaches the driver of an interface unless a program like this one holds it: whether a driver
was detached. A failure is left for the claim to show. -/
def detachDriver {σ : Type} (io : InterfaceControl σ) (interface : UInt8) : StateM σ Bool := do
  let bound ← io.driver interface
  if bound.toOption = some (some ownDriver) then
    return false
  else
    let detachment ← io.detach interface
    return detachment.toOption == some .detached

/-- Takes an interface from its driver and claims it. -/
def take {σ : Type} (io : InterfaceControl σ) (interface : UInt8) : StateM σ (Except Error Claim) :=
  do
  let detached ← detachDriver io interface
  let claimed ← io.claim interface
  return (failed "claim interface" claimed).map fun _ => ⟨detached⟩

/-- Releases an interface and gives it back to the driver that was detached for the claim. Whether
the driver takes it does not matter. -/
def giveBack {σ : Type} (io : InterfaceControl σ) (interface : UInt8) (claim : Claim) :
    StateM σ (Except Error Unit) := do
  match ← io.release interface with
  | .error e => return .error (.kernel "release interface" e)
  | .ok _ =>
    if claim.detached then
      let _ ← io.attach interface
      return .ok ()
    else return .ok ()

/-- Gives back one interface after another, whether or not the ones before were given back. -/
def giveBackAll {σ : Type} (io : InterfaceControl σ) : List (UInt8 × Claim) → StateM σ Unit
  | [] => return ()
  | (interface, claim) :: rest => do
    let _ ← giveBack io interface claim
    giveBackAll io rest

/-- The driver of an interface. -/
def driver {σ : Type} (io : InterfaceControl σ) (interface : UInt8) :
    StateM σ (Except Error (Option String)) := do
  return failed "get driver" (← io.driver interface)

end Claim

/-- The claims that a device holds, by interface. -/
abbrev Claims := UInt8 → Option Claim

namespace Claims

/-- No claims. -/
def none : Claims := fun _ => .none

/-- The claims and one more. -/
def insert (claims : Claims) (interface : UInt8) (claim : Claim) : Claims :=
  fun n => if n = interface then some claim else claims n

/-- The claims without that of one interface. -/
def erase (claims : Claims) (interface : UInt8) : Claims :=
  fun n => if n = interface then .none else claims n

/-- The claims in ascending order of the interfaces. -/
def toList (claims : Claims) : List (UInt8 × Claim) :=
  (List.range 256).filterMap fun n => (claims n.toUInt8).map fun claim => (n.toUInt8, claim)

theorem insert_self (claims : Claims) (interface : UInt8) (claim : Claim) :
    claims.insert interface claim interface = some claim := by
  simp [insert]

theorem insert_of_ne {interface other : UInt8} (h : other ≠ interface) (claims : Claims)
    (claim : Claim) :
    claims.insert interface claim other = claims other :=
  if_neg h

theorem erase_self (claims : Claims) (interface : UInt8) :
    claims.erase interface interface = .none := by
  simp [erase]

theorem erase_of_ne {interface other : UInt8} (h : other ≠ interface) (claims : Claims) :
    claims.erase interface other = claims other :=
  if_neg h

theorem mem_toList {claims : Claims} {interface : UInt8} {claim : Claim} :
    (interface, claim) ∈ claims.toList ↔ claims interface = some claim := by
  simp only [toList, List.mem_filterMap, List.mem_range, Option.map_eq_some_iff, Prod.mk.injEq]
  constructor
  · rintro ⟨n, -, c, hc, rfl, rfl⟩
    exact hc
  · intro h
    refine ⟨interface.toNat, interface.toNat_lt, claim, ?_, ?_, rfl⟩
    · rw [Nat.toUInt8_eq, UInt8.ofNat_toNat]
      exact h
    · rw [Nat.toUInt8_eq, UInt8.ofNat_toNat]

theorem toList_ascending (claims : Claims) : (claims.toList.map Prod.fst).Pairwise (· < ·) := by
  rw [List.pairwise_map, toList, List.pairwise_filterMap]
  refine List.pairwise_lt_range.imp_of_mem fun {a b} ha hb hlt => ?_
  rw [List.mem_range] at ha hb
  intro p hp q hq
  obtain ⟨c, -, rfl⟩ := Option.map_eq_some_iff.1 hp
  obtain ⟨c', -, rfl⟩ := Option.map_eq_some_iff.1 hq
  rw [UInt8.lt_iff_toNat_lt]
  show a.toUInt8.toNat < b.toUInt8.toNat
  simp only [Nat.toUInt8_eq, UInt8.toNat_ofNat']
  omega

end Claims

end UsbAccess
