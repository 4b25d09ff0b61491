import Mathlib
import UsbAccess.Proofs.Alternates
import UsbAccess.Proofs.ChosenDevices
import UsbAccess.Proofs.DriverBinding
import UsbAccess.Proofs.Program

/-!
# What failures leave behind

A claim, a release or a selection may ask the kernel several things before it fails, and it is shown
here that a failure leaves the device as it was. The default interface is the only one of them that
has something to undo: it closes the device that it has opened for itself. That this brings back the
device as it was rests on an invariant, that nothing is held of a closed device.

Results:
* `Device.Settled.perform`: the invariant is kept by every operation.
* `Device.Reachable.settled`: nothing is held of a closed device that a program can have.
* `Device.Settled.of_perform_error`: what fails leaves the device and the registries as they were.
* `Device.failure_changes_nothing`: what fails leaves all as it was, and what succeeds changes what
  it is to change.
-/

namespace UsbAccess

open Descriptor

namespace Device

/-! ## Devices that a program can have -/

/-- A device that a program can have: one that comes from records, one that a registry has given,
and what operations make of it, whatever happens in between. -/
inductive Reachable : Device → Prop
  | comes {tree : DeviceTree} {d : Device} (hd : d.ComesFrom tree) : Reachable d
  | given {k : ℕ} {r : Registry} {s : Session} {γ : Type} {choose : γ → Device → Bool × γ}
      {start : γ} {d : Device} (hr : s.registries[k]? = some r)
      (hd : d ∈ (Inventory.openDevices k r.settings choose start s).1.devices) :
      Reachable d
  | first {k : ℕ} {r : Registry} {s : Session} {vendor product : UInt16} {d : Device}
      (hr : s.registries[k]? = some r)
      (hd : (Inventory.openFirst k r.settings vendor product s).1 = .ok (some d)) : Reachable d
  | perform {d : Device} (op : Operation) (s : Session) (hd : Reachable d) :
      Reachable (op.perform d s).1.2

/-- The program claims, releases or selects something by the operation, which may be refused. -/
def Operation.isRequest : Operation → Bool
  | .claimInterface _ => true
  | .releaseInterface _ => true
  | .selectConfiguration _ => true
  | .selectAlternate _ _ => true
  | .beginDefault => true
  | .open => false
  | .close => false
  | .endDefault _ => false
  | .drop => false

/-- Neither an interface nor a place in a registry is held of the device while it is closed. -/
def Settled (d : Device) : Prop :=
  d.isOpen = false → d.claims = Claims.none ∧ d.registration = none

theorem Settled.of_open {d : Device} (hopen : d.isOpen = true) : d.Settled := by
  intro hclosed
  rw [hopen] at hclosed
  cases hclosed

theorem settled_unheld (d : Device) : d.unheld.Settled := fun _ => ⟨rfl, rfl⟩

/-- To close a device of which nothing is held changes nothing. -/
theorem Settled.unheld_eq {d : Device} (hd : d.Settled) (hclosed : d.isOpen = false) :
    d.unheld = d := by
  obtain ⟨hclaims, hregistration⟩ := hd hclosed
  have hhandle : d.handle = none := by simpa [isOpen] using hclosed
  unfold unheld
  rw [← hclaims, ← hregistration, ← hhandle]

/-- A device of which nothing is held while it is closed has no claims when its node is about to be
opened. -/
theorem Settled.yielded_eq {d : Device} (hd : d.Settled) :
    d.yielded = { d with claims := Claims.none } := by
  cases hopen : d.isOpen with
  | true => exact yielded_of_open hopen
  | false => rw [yielded_of_closed hopen, ← (hd hopen).1]

/-! ## The invariant -/

/-- Every operation leaves nothing held of a closed device. -/
theorem Settled.perform {d : Device} (hd : d.Settled) (op : Operation) :
    Always (fun o => o.2.Settled) (op.perform d) := by
  rintro ⟨host, registries⟩
  cases op with
  | «open» =>
    have hopening := opening d host
    show (d.open host).1.2.Settled
    generalize (d.open host).1 = o at hopening
    cases hopening with
    | refused e =>
      rw [hd.yielded_eq]
      exact fun hclosed => ⟨rfl, (hd hclosed).2⟩
    | opened h => exact .of_open rfl
  | close =>
    show (d.close ⟨host, registries⟩).1.Settled
    rw [close_fst d _]
    exact d.settled_unheld
  | claimInterface n =>
    have hclaiming := claiming d n host
    show (d.claimInterface n host).1.2.Settled
    generalize (d.claimInterface n host).1 = o at hclaiming
    cases hclaiming with
    | refused e => exact hd
    | held => exact hd
    | taken hopen claim => exact .of_open hopen
  | releaseInterface n =>
    have hreleasing := releasing d n host
    show (d.releaseInterface n host).1.2.Settled
    generalize (d.releaseInterface n host).1 = o at hreleasing
    cases hreleasing with
    | refused e => exact hd
    | released hopen => exact .of_open hopen
  | selectConfiguration value =>
    show (d.selectConfiguration value host).1.2.Settled
    obtain heq | heq := (changes_selectConfiguration d value host).eq_or
    · rw [heq]
      exact hd
    · rw [heq]
      exact hd
  | selectAlternate n alternate =>
    show (d.selectAlternate n alternate host).1.2.Settled
    obtain heq | heq := (changes_selectAlternate d n alternate host).eq_or
    · rw [heq, Settled, isOpen, setAlternate_handle, setAlternate_claims, setAlternate_registration]
      exact hd
    · rw [heq]
      exact hd
  | beginDefault =>
    have hbeginning := beginning d registries host
    show (d.beginDefault ⟨host, registries⟩).1.2.Settled
    generalize (d.beginDefault ⟨host, registries⟩).1 = o at hbeginning
    generalize (d.beginDefault ⟨host, registries⟩).2.registries = registries' at hbeginning
    cases hbeginning with
    | refused e => exact hd
    | undone hclosed e => exact d.settled_unheld
    | begun i h claims => exact .of_open rfl
  | endDefault n =>
    show (d.endDefault n ⟨host, registries⟩).1.Settled
    have hclosed : (d.endDefault n ⟨host, registries⟩).1 = _ := close_fst _ _
    rw [hclosed]
    exact settled_unheld _
  | drop =>
    show (d.close ⟨host, registries⟩).1.Settled
    rw [close_fst d _]
    exact d.settled_unheld

/-- A device that has just been put together is closed, and nothing is held of it. -/
theorem settled_assemble {σ : Type} (settings : Settings) (files : FileTree)
    (ask : Path → Inquiry σ) (tree : DeviceTree) (hints : Hints) (s : σ) :
    (Assembly.assemble settings files ask tree hints s).1.device.Settled := fun _ => ⟨rfl, rfl⟩

theorem ComesFrom.settled {tree : DeviceTree} {d : Device} (hd : d.ComesFrom tree) : d.Settled := by
  cases hd with
  | assembled => exact settled_assemble _ _ _ _ _ _
  | listed hfound hrecords =>
    obtain ⟨_, _, tree', _, _, _, _, rfl⟩ := (Inventory.yields_of_mem_findings hfound).of_ok
    exact settled_assemble _ _ _ _ _ _
  | opened hopened hrecords =>
    obtain ⟨a, host, -, hopen⟩ := exists_open_of_openAt hopened
    have hisOpen := (keeps_open a.device host).2
    rw [hopen] at hisOpen
    exact .of_open (hisOpen rfl)

end Device

/-! ## Devices that registries give -/

namespace Inventory

theorem isOpen_of_mem_openDevices {k : ℕ} {r : Registry} {s : Session}
    (hr : s.registries[k]? = some r) {γ : Type} {settings : Settings}
    {choose : γ → Device → Bool × γ} {start : γ} {d : Device}
    (hd : d ∈ (openDevices k settings choose start s).1.devices) : d.isOpen = true := by
  obtain ⟨d₀, -, h, token, -, rfl⟩ := exists_openedFor_of_mem_openDevices hr hd
  rfl

theorem mem_openDevices_of_openFirst {k : ℕ} {r : Registry} {s : Session}
    (hr : s.registries[k]? = some r) {settings : Settings} {vendor product : UInt16} {d : Device}
    (hd : (openFirst k settings vendor product s).1 = .ok (some d)) :
    d ∈ (openDevices k settings (chooseFirst vendor product) false s).1.devices := by
  rw [← (Program.openFirst_eq hr settings vendor product).1, hd]
  exact List.mem_singleton_self d

end Inventory

namespace Device

/-- Nothing is held of a closed device that a program can have. -/
theorem Reachable.settled {d : Device} (hd : d.Reachable) : d.Settled := by
  induction hd with
  | comes hd => exact hd.settled
  | given hr hd => exact .of_open (Inventory.isOpen_of_mem_openDevices hr hd)
  | first hr hd =>
    exact .of_open (Inventory.isOpen_of_mem_openDevices hr
      (Inventory.mem_openDevices_of_openFirst hr hd))
  | perform op s _ ih => exact ih.perform op s

/-! ## Failure and success -/

/-- A request that fails leaves the device and the registries as they were. -/
theorem Settled.of_perform_error {d d' : Device} (hd : d.Settled) {op : Operation}
    (hop : op.isRequest = true) {s : Session} {e : Error}
    (h : (op.perform d s).1 = (.error e, d')) :
    d' = d ∧ (op.perform d s).2.registries = s.registries := by
  obtain ⟨host, registries⟩ := s
  cases op with
  | claimInterface n =>
    have hclaiming := claiming d n host
    change (d.claimInterface n host).1 = (.error e, d') at h
    rw [h] at hclaiming
    cases hclaiming
    exact ⟨rfl, rfl⟩
  | releaseInterface n =>
    have hreleasing := releasing d n host
    change (d.releaseInterface n host).1 = (.error e, d') at h
    rw [h] at hreleasing
    cases hreleasing
    exact ⟨rfl, rfl⟩
  | selectConfiguration value =>
    have hchanges := changes_selectConfiguration d value host
    change (d.selectConfiguration value host).1 = (.error e, d') at h
    rw [h] at hchanges
    exact ⟨hchanges, rfl⟩
  | selectAlternate n alternate =>
    have hchanges := changes_selectAlternate d n alternate host
    change (d.selectAlternate n alternate host).1 = (.error e, d') at h
    rw [h] at hchanges
    exact ⟨hchanges, rfl⟩
  | beginDefault =>
    have hbeginning := beginning d registries host
    change ((d.beginDefault ⟨host, registries⟩).1.1.map fun _ => (),
      (d.beginDefault ⟨host, registries⟩).1.2) =
      (.error e, d') at h
    show d' = d ∧ (d.beginDefault ⟨host, registries⟩).2.registries = registries
    generalize (d.beginDefault ⟨host, registries⟩).1 = o at hbeginning h
    generalize (d.beginDefault ⟨host, registries⟩).2.registries = registries' at hbeginning
    cases hbeginning with
    | refused e' =>
      cases h
      exact ⟨rfl, rfl⟩
    | undone hclosed e' =>
      -- To close the device again brings it back as it was, and it had no place in a registry to
      -- lose.
      cases h
      refine ⟨hd.unheld_eq hclosed, ?_⟩
      rw [(hd hclosed).2]
      rfl
    | begun => cases h
  | «open» | close | endDefault _ | drop => cases hop

/-- A claim changes at most the claim of its interface. -/
theorem of_claimInterface_ok {d d' : Device} {n : UInt8} {host : Host}
    (h : (d.claimInterface n host).1 = (.ok (), d')) :
    ∃ claims : Claims, d' = { d with claims := claims } ∧ (claims n).isSome = true ∧
      ∀ m, m ≠ n → claims m = d.claims m := by
  have hclaiming := claiming d n host
  rw [h] at hclaiming
  cases hclaiming with
  | held hclaimed => exact ⟨d.claims, rfl, hclaimed, fun _ _ => rfl⟩
  | taken _ claim =>
    refine ⟨d.claims.insert n claim, rfl, ?_, ?_⟩
    · rw [Claims.insert_self]
      rfl
    · intro m hm
      exact Claims.insert_of_ne hm d.claims claim

/-- To set another alternate is to change it in the one interface. -/
theorem setAlternate_eq {d : Device} {k : ℕ} {c : Configuration} {n alternate : UInt8}
    {i : Interface} (hactive : d.active = some k) (hc : d.configurations[k]? = some c)
    (hi : c.interfaces[n.toNat]? = some i) :
    d.setAlternate n alternate =
      { d with
          configurations := d.configurations.set k { c with
            interfaces := c.interfaces.set n.toNat (i.withAlternate alternate) } } := by
  have hinterfaces : (c.interfaces.modify n.toNat fun i => { i with alternate := alternate }) =
      c.interfaces.set n.toNat (i.withAlternate alternate) := by
    rw [List.modify_eq_set_getElem?, hi]
    rfl
  have hconfigurations : (d.configurations.modify k fun c =>
        { c with
          interfaces := c.interfaces.modify n.toNat fun i => { i with alternate := alternate } }) =
      d.configurations.set k { c with
        interfaces := c.interfaces.set n.toNat (i.withAlternate alternate) } := by
    rw [List.modify_eq_set_getElem?, hc, ← hinterfaces]
    rfl
  unfold setAlternate
  simp only [hactive, hconfigurations]

theorem interface_of_selectAlternate_ok {d d' : Device} {n alternate : UInt8} {host : Host}
    (h : (d.selectAlternate n alternate host).1 = (.ok (), d')) : ∃ i, d.interface n = .ok i := by
  unfold selectAlternate at h
  cases hi : d.interface n with
  | ok i => exact ⟨i, rfl⟩
  | error e =>
    rw [hi] at h
    cases h

/-- A selection of an alternate setting changes the alternate of one interface of the active
configuration. -/
theorem of_selectAlternate_ok {d d' : Device} {n alternate : UInt8} {host : Host}
    (h : (d.selectAlternate n alternate host).1 = (.ok (), d')) :
    ∃ k c i, d.active = some k ∧ d.configurations[k]? = some c ∧ c.interfaces[n.toNat]? = some i ∧
      d' = { d with
               configurations := d.configurations.set k { c with
                 interfaces := c.interfaces.set n.toNat (i.withAlternate alternate) } } := by
  obtain ⟨i, hi⟩ := interface_of_selectAlternate_ok h
  obtain ⟨c, hc, hinterface⟩ := interface_eq_ok hi
  obtain ⟨k, hactive, hconfiguration⟩ := Option.bind_eq_some_iff.1 hc
  have hchanges := changes_selectAlternate d n alternate host
  rw [h] at hchanges
  exact ⟨k, c, i, hactive, hconfiguration, hinterface,
    hchanges.trans (setAlternate_eq hactive hconfiguration hinterface)⟩

/-- Of every device that a program can have: a claim, a release, a selection or the use of the
default interface that fails leaves the device and all registries as they were. A claim that
succeeds changes at most the claim of its interface, a release takes away that claim only, and a
selection changes which configuration is active, or the alternate of the one interface of the active
configuration. -/
theorem failure_changes_nothing {d : Device} (hd : d.Reachable) (s : Session) :
    (∀ (op : Operation) e d', op.isRequest = true → (op.perform d s).1 = (.error e, d') →
      d' = d ∧ (op.perform d s).2.registries = s.registries) ∧
    (∀ n d', ((Operation.claimInterface n).perform d s).1 = (.ok (), d') →
      ∃ claims : Claims, d' = { d with claims := claims } ∧ (claims n).isSome = true ∧
        ∀ m, m ≠ n → claims m = d.claims m) ∧
    (∀ n d', ((Operation.releaseInterface n).perform d s).1 = (.ok (), d') →
      d' = { d with claims := d.claims.erase n }) ∧
    (∀ value d', ((Operation.selectConfiguration value).perform d s).1 = (.ok (), d') →
      d' = { d with active := some (value.toNat - 1) }) ∧
    ∀ n alternate d', ((Operation.selectAlternate n alternate).perform d s).1 = (.ok (), d') →
      ∃ k c i, d.active = some k ∧ d.configurations[k]? = some c ∧ c.interfaces[n.toNat]? = some i ∧
        d' = { d with
                 configurations := d.configurations.set k { c with
                   interfaces := c.interfaces.set n.toNat (i.withAlternate alternate) } } := by
  refine ⟨?_, ?_, ?_, ?_, ?_⟩
  · intro op e d' hop h
    exact hd.settled.of_perform_error hop h
  · intro n d' h
    exact of_claimInterface_ok h
  · intro n d' h
    have hreleasing := releasing d n s.host
    change (d.releaseInterface n s.host).1 = _ at h
    rw [h] at hreleasing
    cases hreleasing
    rfl
  · intro value d' h
    have hchanges := changes_selectConfiguration d value s.host
    change (d.selectConfiguration value s.host).1 = _ at h
    rw [h] at hchanges
    exact hchanges
  · intro n alternate d' h
    exact of_selectAlternate_ok h

/-- An interface that is not claimed is claimed as the kernel has it. -/
theorem claimInterface_of_free {d : Device} {n : UInt8} {host : Host} {h : Handle} {i : Interface}
    (hhandle : d.handle = some h) (hi : d.interface n = .ok i) (hfree : d.claims n = none) :
    (d.claimInterface n host).1 =
      match (Claim.take h.control n host).1 with
      | .ok claim => (.ok (), { d with claims := d.claims.insert n claim })
      | .error e => (.error e, d) := by
  unfold claimInterface requireHandle isClaimed
  simp only [hi, hhandle, hfree, Option.isSome_none, Bool.false_eq_true, if_false,
    Inventory.bind_apply]
  cases (Claim.take h.control n host).1 with
  | ok claim => rfl
  | error e => rfl

end Device

/-- The kernel where every interface has a driver and interface 0 may not be claimed. -/
def deniedKernel : Kernel := bindingKernel (fun _ => .driver) fun n => n == 0

theorem interface_alternatesMade :
    alternatesMade.interface 0 = .ok (.ofTree receivingTree alternatesMade.address) :=
  Device.interface_of_slot? active_alternatesMade slot?_alternatesMade

theorem reachable_alternatesMade : alternatesMade.Reachable := .comes (.assembled ..)

theorem reachable_alternatesOpened : alternatesOpened.Reachable := by
  have hopened := reachable_alternatesMade.perform .open (smallSession grantingKernel)
  rwa [open_alternatesMade] at hopened

/-- Where interface 0 may not be claimed, the use of the default interface fails. -/
theorem beginDefault_alternatesMade :
    ∃ e, (alternatesMade.beginDefault (smallSession deniedKernel)).1.1 = .error e := by
  have htaken : (Claim.take smallHandle.control 0
      (smallOpenedSession deniedKernel).host).1.toOption = none := by
    decide +kernel
  cases htake : (Claim.take smallHandle.control 0 (smallOpenedSession deniedKernel).host).1 with
  | ok claim =>
    rw [htake] at htaken
    cases htaken
  | error e =>
    have hrefused : (Session.onHost (alternatesOpened.claimInterface 0)
        (smallOpenedSession deniedKernel)).1 = _ :=
      Device.claimInterface_of_free rfl interface_alternatesMade rfl
    rw [htake] at hrefused
    have hopened : Session.onHost alternatesMade.open (smallSession deniedKernel) = _ :=
      open_alternatesMade _
    refine ⟨e, ?_⟩
    unfold Device.beginDefault
    have hclosed : alternatesMade.isOpen = false := rfl
    simp only [interface_alternatesMade, hclosed, Bool.false_eq_true, if_false,
      Inventory.bind_apply, hopened, hrefused]
    rfl

namespace Device

/-- The device has been opened for its default interface, which is refused, and it is as it was. Of
the open device another alternate is selected, and it is that of an interface that it has. -/
theorem failure_changes_nothing_alternatesMade :
    (∃ e, (Operation.beginDefault.perform alternatesMade (smallSession deniedKernel)).1 =
      (.error e, alternatesMade)) ∧
    ∃ (k : ℕ) (c : Configuration) (i : Interface), alternatesOpened.configurations[k]? = some c ∧
      alternatesSelected = { alternatesOpened with
        configurations := alternatesOpened.configurations.set k { c with
          interfaces := c.interfaces.set 0 (i.withAlternate 1) } } := by
  constructor
  · obtain ⟨e, he⟩ := beginDefault_alternatesMade
    have hperform : (Operation.beginDefault.perform alternatesMade (smallSession deniedKernel)).1 =
        (.error e, (alternatesMade.beginDefault (smallSession deniedKernel)).1.2) := by
      show ((alternatesMade.beginDefault (smallSession deniedKernel)).1.1.map fun _ => (), _) = _
      rw [he]
      rfl
    obtain ⟨hfails, -⟩ :=
      failure_changes_nothing reachable_alternatesMade (smallSession deniedKernel)
    obtain ⟨hsame, -⟩ := hfails .beginDefault e _ rfl hperform
    exact ⟨e, by rw [hperform, hsame]⟩
  · obtain ⟨-, -, -, -, hselects⟩ :=
      failure_changes_nothing reachable_alternatesOpened (smallOpenedSession grantingKernel)
    obtain ⟨k, c, i, -, hc, -, heq⟩ :=
      hselects 0 1 alternatesSelected selectAlternate_alternatesOpened
    exact ⟨k, c, i, hc, heq⟩

end Device

end UsbAccess
