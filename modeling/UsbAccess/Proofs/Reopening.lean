import Mathlib
import UsbAccess.Proofs.ClaimLedger
import UsbAccess.Proofs.Failures

/-!
# Opening a device that is open

A device that is open can be opened again. It gives its claims up first, and only then is its node
opened. If that is refused, the device still has the handle that it had, but none of the claims, and
the kernel has been asked to release each of them. Such a refusal therefore leaves a device as it
was just if no interface was claimed.

Results:
* `Device.releaseClaims_files`: giving claims up changes no files.
* `Device.open_refused_iff`: an opening is refused just where the node cannot be opened.
* `Asks.open_refused`: what has been asked when an opening is refused.
* `Device.refused_opening_drops_claims`: what a refused opening leaves of a device.
-/

namespace UsbAccess

/-! ## Files -/

theorem Handle.tell_files (h : Handle) (request : NodeRequest) (host : Host) :
    (h.tell request host).2.files = host.files := by
  unfold Handle.tell
  rw [Inventory.bind_apply]
  cases (Host.ask h request host).1 with
  | ok reply => rfl
  | error e => rfl

theorem Claim.giveBack_files (h : Handle) (n : UInt8) (claim : Claim) (host : Host) :
    (giveBack h.control n claim host).2.files = host.files := by
  have hreleased : (h.control.release n host).2.files = host.files := h.tell_files _ host
  unfold giveBack
  rw [Inventory.bind_apply]
  cases (h.control.release n host).1 with
  | error e => exact hreleased
  | ok _ =>
    show (if claim.detached then _ else _ : StateM Host _) _ |>.2.files = host.files
    split_ifs
    · exact (h.tell_files _ _).trans hreleased
    · exact hreleased

theorem Claim.giveBackAll_files (h : Handle) (claims : List (UInt8 × Claim)) (host : Host) :
    (giveBackAll h.control claims host).2.files = host.files := by
  induction claims generalizing host with
  | nil => rfl
  | cons first rest ih => exact (ih _).trans (giveBack_files h first.1 first.2 host)

namespace Device

theorem releaseClaims_files (d : Device) (host : Host) :
    (d.releaseClaims host).2.files = host.files := by
  unfold releaseClaims
  cases d.handle with
  | none => rfl
  | some h => exact Claim.giveBackAll_files h d.claims.toList host

/-! ## Refusals -/

theorem enter_refused_iff (d : Device) (host : Host) :
    (∃ e, (d.enter host).1.1 = .error e) ↔ ∃ fault,
      host.files.openToUpdate d.node = .error fault := by
  unfold enter
  rw [Inventory.bind_apply]
  cases hnode : host.files.openToUpdate d.node with
  | ok l =>
    rw [Host.openNode_of_ok hnode]
    simp [pure, StateT.pure]
  | error fault =>
    rw [Host.openNode_of_error hnode]
    simp [pure, StateT.pure]

/-- An opening is refused just where the node cannot be opened. -/
theorem open_refused_iff (d : Device) (host : Host) :
    (∃ e, (d.open host).1.1 = .error e) ↔ ∃ fault,
      host.files.openToUpdate d.node = .error fault := by
  cases hopen : d.isOpen with
  | false =>
    rw [open_of_closed hopen]
    exact d.enter_refused_iff host
  | true =>
    have hnode : (d.releaseClaims host).1.node = d.node := by
      rw [releaseClaims_fst d host]
      rfl
    rw [open_of_open hopen, Inventory.bind_apply, enter_refused_iff, hnode,
      d.releaseClaims_files host]

end Device

namespace Asks

open Device

theorem enter_refused (d : Device) :
    Asks id d.enter fun o events => ∀ e, o.1 = .error e → events = [] := by
  unfold enter
  refine (openNode d.node).bind ?_
  intro opened events hevents
  rcases hevents with ⟨h, rfl, rfl⟩ | ⟨fault, rfl, rfl⟩
  · apply Asks.pure
    intro e he
    cases he
  · apply Asks.pure
    intro e _
    rfl

/-- When an opening is refused the device has been asked to give up its claims, and for nothing
else. -/
theorem open_refused (d : Device) :
    Asks id d.open fun o events => ∀ e, o.1 = .error e → d.Yields events := by
  cases hopen : d.isOpen with
  | false =>
    have hclosed : d.handle = none := by simpa [isOpen] using hopen
    rw [open_of_closed hopen]
    apply (enter_refused d).mono
    intro o events hevents e he
    rw [hevents e he]
    exact .closed hclosed
  | true =>
    rw [open_of_open hopen]
    refine (releaseClaims d).bind ?_
    intro d' yielded hyielded
    apply (enter_refused d').mono
    intro o events hevents e he
    rw [hevents e he]
    exact hyielded.2

end Asks

namespace Device

theorem claims_eq_none_iff (d : Device) : d.claims = Claims.none ↔ ∀ n, d.isClaimed n = false := by
  constructor
  · intro hnone n
    rw [isClaimed, hnone]
    rfl
  · intro hfree
    funext n
    show d.claims n = none
    simpa [isClaimed] using hfree n

/-- Each claimed interface is released once, from the lowest up, whether the device is open or has
nothing to give. -/
theorem Yields.releases_of_settled {d : Device} {events : List Event} (hyield : d.Yields events)
    (hd : d.Settled) :
    (releases events).Pairwise (· < ·) ∧ ∀ n, n ∈ releases events ↔ d.isClaimed n = true := by
  obtain ⟨hnothing, hreleases⟩ := hyield.releases_iff
  cases hopen : d.isOpen with
  | true => exact hreleases hopen
  | false =>
    have hfree : ∀ n, d.isClaimed n = false := d.claims_eq_none_iff.1 (hd hopen).1
    rw [hnothing hopen]
    constructor
    · exact .nil
    · intro n
      simp [hfree n, releases]

/-- Nothing is asked where nothing is to be given up. -/
theorem Yields.eq_nil {d : Device} {events : List Event} (hyield : d.Yields events)
    (hnone : d.claims = Claims.none) :
    events = [] := by
  have htoList : d.claims.toList = [] := by
    rw [hnone]
    exact List.filterMap_eq_nil_iff.2 fun _ _ => rfl
  cases hyield with
  | closed => rfl
  | surrendered _ hsurrender =>
    rw [htoList] at hsurrender
    cases hsurrender
    rfl

/-- Of every device that a program can have, open or not: its opening is refused just where its node
cannot be opened for reading and writing. It has lost all its claims then and nothing else, so it is
as it was just if no interface was claimed. Of the kernel it has been asked to release each claimed
interface once, from the lowest up, and to put a driver back after such a release, so nothing has
been asked just if no interface was claimed. -/
theorem refused_opening_drops_claims {d : Device} (hd : d.Reachable) (host : Host) :
    ((∃ e, (d.open host).1.1 = .error e) ↔ ∃ fault, host.files.openToUpdate d.node = .error fault) ∧
    ∀ e d', (d.open host).1 = (.error e, d') →
      d' = { d with claims := Claims.none } ∧ (d' = d ↔ ∀ n, d.isClaimed n = false) ∧
      ∃ events, host.Evolves events (d.open host).2 ∧ d.Yields events ∧
        (releases events).Pairwise (· < ·) ∧ (∀ n, n ∈ releases events ↔ d.isClaimed n = true) ∧
        (events = [] ↔ ∀ n, d.isClaimed n = false) := by
  refine ⟨d.open_refused_iff host, ?_⟩
  intro e d' h
  have hopening := opening d host
  rw [h] at hopening
  cases hopening
  rw [hd.settled.yielded_eq]
  obtain ⟨events, hevolves, hrefused⟩ := Asks.open_refused d host
  have hyield : d.Yields events := hrefused e (by rw [h])
  obtain ⟨hascending, hreleases⟩ := hyield.releases_of_settled hd.settled
  refine ⟨rfl, ?_, events, hevolves, hyield, hascending, hreleases, ?_⟩
  · rw [← claims_eq_none_iff]
    constructor
    · intro hsame
      rw [← hsame]
    · intro hnone
      rw [← hnone]
  · constructor
    · rintro rfl n
      have hnot : n ∉ releases [] := List.not_mem_nil
      rwa [hreleases n, Bool.not_eq_true] at hnot
    · intro hfree
      exact hyield.eq_nil (d.claims_eq_none_iff.2 hfree)

end Device

/-- The open device when its interface is claimed. -/
def alternatesClaimed : Device := { alternatesOpened with claims := Claims.none.insert 0 ⟨true⟩ }

theorem reachable_alternatesClaimed : alternatesClaimed.Reachable := by
  have htake : (Claim.take smallHandle.control 0 (smallOpenedSession grantingKernel).host).1 =
      .ok ⟨true⟩ := rfl
  have hclaimed : ((Device.Operation.claimInterface 0).perform alternatesOpened
      (smallOpenedSession grantingKernel)).1 = _ :=
        Device.claimInterface_of_free rfl interface_alternatesMade rfl
  rw [htake] at hclaimed
  have hreached :=
    reachable_alternatesOpened.perform (.claimInterface 0) (smallOpenedSession grantingKernel)
  rwa [hclaimed] at hreached

/-- The host of the open device when its node is gone. -/
def strippedHost : Host := { (smallOpenedSession grantingKernel).host with files := .empty [] }

namespace Device

/-- When the node is gone the device cannot be opened again, and its claim is lost by the attempt.
-/
theorem refused_opening_drops_claims_alternatesClaimed :
    ∃ e d', (alternatesClaimed.open strippedHost).1 = (.error e, d') ∧ d'.isClaimed 0 = false ∧
      d' ≠ alternatesClaimed ∧ ∃ events,
        strippedHost.Evolves events (alternatesClaimed.open strippedHost).2 ∧
        0 ∈ releases events := by
  have hnode : strippedHost.files.openToUpdate alternatesClaimed.node =
      .error (.refused .noEntry) := by
    have hsame : alternatesClaimed.node = alternatesMade.node := rfl
    rw [hsame, node_alternatesMade]
    cbv
  have hclaimed : alternatesClaimed.isClaimed 0 = true := rfl
  obtain ⟨hiff, hrefused⟩ := refused_opening_drops_claims reachable_alternatesClaimed strippedHost
  obtain ⟨e, he⟩ := hiff.2 ⟨_, hnode⟩
  obtain ⟨d', hopened⟩ : ∃ d', (alternatesClaimed.open strippedHost).1 = (.error e, d') :=
    ⟨_, Prod.ext he rfl⟩
  obtain ⟨hd', hsame, events, hevolves, -, -, hreleases, -⟩ := hrefused e d' hopened
  refine ⟨e, d', hopened, ?_, ?_, events, hevolves, (hreleases 0).2 hclaimed⟩
  · rw [hd']
    rfl
  · intro heq
    have hfree := hsame.1 heq 0
    rw [hclaimed] at hfree
    cases hfree

end Device

end UsbAccess
