import Mathlib
import UsbAccess.Proofs.Run
import UsbAccess.Proofs.Survey
import UsbAccess.Proofs.Trace

/-!
# What operations change

An operation changes little of a device: what the program holds of it, which configuration is
active, or one alternate setting. Of the registries only the one that the device is registered with
ever changes, and only when the device is closed.

Results:
* `Device.opening`, `Device.claiming`, `Device.releasing`, `Device.beginning`: how an operation
  comes out.
* `Device.keeps_open`, `Device.keeps_claimInterface`, `Device.keeps_releaseInterface`: only what is
  held changes.
* `Device.changes_selectConfiguration`, `Device.changes_selectAlternate`: what a selection changes
  if it succeeds.
* `Device.close_fst`, `Device.close_registries`: what is left of a device that is closed.
* `Device.passes_beginDefault`, `Device.passes_endDefault`: what becomes of a device used by its
  default interface.
* `Device.departs_perform`: every operation leaves a device with its registry, or closes it and
  takes it away.
-/

namespace UsbAccess

/-! ## Results of computations -/

/-- Whatever the state it starts from, the computation has a result that satisfies `P`. -/
def Always {σ α : Type} (P : α → Prop) (m : StateM σ α) : Prop := ∀ s, P (m s).1

namespace Always

variable {σ α β : Type} {P : β → Prop} {Q : α → Prop} {m : StateM σ α} {f : α → StateM σ β}

theorem pure {a : α} (ha : Q a) : Always Q (pure a : StateM σ α) := fun _ => ha

theorem bind (hm : Always Q m) (hf : ∀ a, Q a → Always P (f a)) : Always P (m >>= f) :=
  fun s => hf (m s).1 (hm s) (m s).2

/-- The result of the first part does not matter. -/
theorem after (hf : ∀ a, Always P (f a)) : Always P (m >>= f) :=
  fun s => hf (m s).1 (m s).2

theorem onHost {m : StateM Host α} (hm : Always Q m) : Always Q (Session.onHost m) :=
  fun s => hm s.host

end Always

namespace Device

/-! ## What is held of a device -/

/-- Only what the program holds of the device changes, and a device that is open stays open. -/
def Keeps (d d' : Device) : Prop :=
  ∃ handle claims, d' = { d with handle := handle, claims := claims } ∧
    (d.isOpen = true → handle.isSome = true)

theorem Keeps.refl (d : Device) : d.Keeps d := ⟨d.handle, d.claims, rfl, id⟩

theorem Keeps.trans {d d' d'' : Device} (h : d.Keeps d') (h' : d'.Keeps d'') : d.Keeps d'' := by
  obtain ⟨handle, claims, rfl, hopen⟩ := h
  obtain ⟨handle', claims', rfl, hopen'⟩ := h'
  exact ⟨handle', claims', rfl, fun hd => hopen' (hopen hd)⟩

theorem Keeps.claims (d : Device) (claims : Claims) : d.Keeps { d with claims := claims } :=
  ⟨d.handle, claims, rfl, id⟩

theorem releaseClaims_fst (d : Device) :
    Always (fun d' => d' = { d with claims := Claims.none }) d.releaseClaims := by
  unfold releaseClaims
  split
  · exact .after fun _ => .pure rfl
  · exact .pure rfl

/-! ## How operations come out -/

/-- The device when its node is about to be opened: if it was open it has given up its claims. -/
def yielded (d : Device) : Device := if d.isOpen then { d with claims := Claims.none } else d

/-- The opening of the node of a device, by which it has a handle. -/
def enter (d : Device) : StateM Host (Outcome Unit) := do
  match ← Host.openNode d.node with
  | .ok h => return (.ok (), { d with handle := some h })
  | .error fault => return (.error (if fault = .refused .noEntry then .notFound else .io fault), d)

/-- An opening is refused, or the device is open by a new handle. -/
inductive Opening (d : Device) : Outcome Unit → Prop
  | refused (e : Error) : Opening d (.error e, d.yielded)
  | opened (h : Handle) : Opening d (.ok (), { d.yielded with handle := some h })

/-- A claim is refused, or the interface has been claimed already, or it is claimed at the open
device. -/
inductive Claiming (d : Device) (n : UInt8) : Outcome Unit → Prop
  | refused (e : Error) : Claiming d n (.error e, d)
  | held (hclaimed : d.isClaimed n = true) : Claiming d n (.ok (), d)
  | taken (hopen : d.isOpen = true) (claim : Claim) :
      Claiming d n (.ok (), { d with claims := d.claims.insert n claim })

/-- A release is refused, or the open device has the interface no longer. -/
inductive Releasing (d : Device) (n : UInt8) : Outcome Unit → Prop
  | refused (e : Error) : Releasing d n (.error e, d)
  | released (hopen : d.isOpen = true) :
      Releasing d n (.ok (), { d with claims := d.claims.erase n })

theorem yielded_of_open {d : Device} (hopen : d.isOpen = true) :
    d.yielded = { d with claims := Claims.none } :=
  if_pos hopen

theorem yielded_of_closed {d : Device} (hclosed : d.isOpen = false) : d.yielded = d :=
  if_neg (by rw [hclosed]; exact Bool.false_ne_true)

theorem keeps_yielded (d : Device) : d.Keeps d.yielded := by
  unfold yielded
  split_ifs
  · exact .claims d Claims.none
  · exact .refl d

theorem open_of_closed {d : Device} (hclosed : d.isOpen = false) : d.open = d.enter := by
  unfold Device.open
  rw [hclosed]
  rfl

theorem open_of_open {d : Device} (hopen : d.isOpen = true) :
    d.open = d.releaseClaims >>= enter := by
  unfold Device.open
  rw [hopen]
  rfl

theorem opening (d : Device) : Always d.Opening d.open := by
  have henter : Always d.Opening d.yielded.enter := by
    unfold enter
    apply Always.after
    intro opened
    cases opened with
    | ok h => exact .pure (.opened h)
    | error fault => exact .pure (.refused _)
  cases hopen : d.isOpen with
  | true =>
    rw [open_of_open hopen]
    refine (releaseClaims_fst d).bind ?_
    rintro _ rfl
    rwa [yielded_of_open hopen] at henter
  | false =>
    rw [open_of_closed hopen]
    rwa [yielded_of_closed hopen] at henter

theorem isOpen_of_requireHandle {d : Device} {h : Handle} (hhandle : d.requireHandle = .ok h) :
    d.isOpen = true := by
  unfold requireHandle at hhandle
  cases hopen : d.handle with
  | none =>
    rw [hopen] at hhandle
    cases hhandle
  | some h' => simp [isOpen, hopen]

theorem claiming (d : Device) (n : UInt8) : Always (d.Claiming n) (d.claimInterface n) := by
  unfold claimInterface
  split
  · exact .pure (.refused _)
  · split_ifs with hclaimed
    · exact .pure (.held hclaimed)
    · split
      · exact .pure (.refused _)
      · next h hhandle =>
        apply Always.after
        intro taken
        cases taken with
        | error e => exact .pure (.refused e)
        | ok claim => exact .pure (.taken (isOpen_of_requireHandle hhandle) claim)

theorem releasing (d : Device) (n : UInt8) : Always (d.Releasing n) (d.releaseInterface n) := by
  unfold releaseInterface
  split
  · exact .pure (.refused _)
  · split
    · exact .pure (.refused _)
    · next h hhandle =>
      apply Always.after
      intro given
      cases given with
      | error e => exact .pure (.refused e)
      | ok _ => exact .pure (.released (isOpen_of_requireHandle hhandle))

theorem keeps_open (d : Device) :
    Always (fun o => d.Keeps o.2 ∧ (o.1 = .ok () → o.2.isOpen = true)) d.open := by
  intro host
  have hopening := opening d host
  generalize (d.open host).1 = o at hopening
  cases hopening with
  | refused e => exact ⟨d.keeps_yielded, by rintro ⟨⟩⟩
  | opened h =>
    exact ⟨d.keeps_yielded.trans ⟨some h, d.yielded.claims, rfl, fun _ => rfl⟩, fun _ => rfl⟩

/-- A closed device is opened by its node. -/
theorem open_of_node {d : Device} {host : Host} {l : Location} (hclosed : d.handle = none)
    (hnode : host.files.openToUpdate d.node = .ok l) :
    d.open host = ((.ok (), { d with handle := some (Host.newHandle l host).1 }),
      (Host.newHandle l host).2) := by
  rw [open_of_closed (by rw [isOpen, hclosed]; rfl), enter, Inventory.bind_apply,
    Host.openNode_of_ok hnode]
  rfl

theorem keeps_claimInterface (d : Device) (number : UInt8) :
    Always (fun o => d.Keeps o.2) (d.claimInterface number) := by
  intro host
  have hclaiming := claiming d number host
  generalize (d.claimInterface number host).1 = o at hclaiming
  cases hclaiming with
  | refused e => exact .refl d
  | held => exact .refl d
  | taken _ claim => exact .claims d _

theorem keeps_releaseInterface (d : Device) (number : UInt8) :
    Always (fun o => d.Keeps o.2) (d.releaseInterface number) := by
  intro host
  have hreleasing := releasing d number host
  generalize (d.releaseInterface number host).1 = o at hreleasing
  cases hreleasing with
  | refused e => exact .refl d
  | released => exact .claims d _

/-! ## Settings of a device -/

/-- The device is `changed` if the operation has succeeded, and else as it was. -/
def Changes (d changed : Device) (o : Outcome Unit) : Prop :=
  o.2 = match o.1 with
    | .ok _ => changed
    | .error _ => d

theorem Changes.eq_or {d changed : Device} {o : Outcome Unit} (h : d.Changes changed o) :
    o.2 = changed ∨ o.2 = d := by
  obtain ⟨outcome, d'⟩ := o
  cases outcome with
  | ok _ => exact .inl h
  | error e => exact .inr h

/-- A selection that succeeds makes its configuration the active one. -/
theorem changes_selectConfiguration (d : Device) (value : UInt8) :
    Always (d.Changes { d with active := some (value.toNat - 1) })
    (d.selectConfiguration value) := by
  unfold selectConfiguration
  split_ifs
  · exact .pure rfl
  · extract_lets proceed
    have hproceed : ∀ selected,
        Always (d.Changes { d with active := some (value.toNat - 1) }) (proceed selected) := by
      intro selected
      cases selected with
      | ok _ => exact .pure rfl
      | error e => exact .pure rfl
    split
    · exact .after fun _ => .after hproceed
    · exact .after hproceed

theorem changes_selectAlternate (d : Device) (number alternate : UInt8) :
    Always (d.Changes (d.setAlternate number alternate)) (d.selectAlternate number alternate) := by
  unfold selectAlternate
  split
  · exact .pure rfl
  · split
    · exact .pure rfl
    · refine .after fun selected => ?_
      cases selected with
      | ok _ => exact .pure rfl
      | error e => exact .pure rfl

theorem setAlternate_registration (d : Device) (number alternate : UInt8) :
    (d.setAlternate number alternate).registration = d.registration := by
  unfold setAlternate
  split <;> rfl

theorem setAlternate_handle (d : Device) (number alternate : UInt8) :
    (d.setAlternate number alternate).handle = d.handle := by
  unfold setAlternate
  split <;> rfl

theorem setAlternate_claims (d : Device) (number alternate : UInt8) :
    (d.setAlternate number alternate).claims = d.claims := by
  unfold setAlternate
  split <;> rfl

/-! ## Closing -/

/-- The registries when a device with this registration has left. -/
def withoutMember (registration : Option Registration) (registries : List Registry) :
    List Registry :=
  match registration with
  | some r => registries.modify r.registry fun registry => registry.leave r.token
  | none => registries

theorem deregister_registries (registration : Registration) (s : Session) :
    (Session.deregister registration s).2.registries =
      withoutMember (some registration) s.registries := by
  unfold Session.deregister withoutMember
  cases hr : s.registries[registration.registry]? with
  | none => exact (List.modify_eq_self (List.getElem?_eq_none_iff.1 hr)).symm
  | some r =>
    simp only [List.modify_eq_set_getElem?, hr]
    rfl

/-- The device without anything that a program holds of it. -/
def unheld (d : Device) : Device :=
  { d with handle := none, claims := Claims.none, registration := none }

theorem close_fst (d : Device) : Always (fun d' => d' = d.unheld) d.close := by
  refine (releaseClaims_fst d).onHost.bind fun d' hd' => ?_
  subst hd'
  split
  · exact .after fun _ => .pure rfl
  · exact .pure rfl

theorem close_registries (d : Device) (s : Session) :
    (d.close s).2.registries = withoutMember d.registration s.registries := by
  unfold close
  have hd' := (releaseClaims_fst d).onHost s
  rw [Inventory.bind_apply, hd']
  cases d.registration with
  | none => rfl
  | some registration => exact deregister_registries registration _

/-- Closing a device of which no interface is claimed asks nothing. -/
theorem close_host {d : Device} (hclaims : d.claims = Claims.none) (s : Session) :
    (d.close s).2.host = s.host := by
  have hreleased : (d.releaseClaims s.host).2 = s.host := by
    have htoList : Claims.none.toList = [] := List.filterMap_eq_nil_iff.2 fun _ _ => rfl
    unfold releaseClaims
    rw [hclaims, htoList]
    cases d.handle <;> rfl
  have hderegister : ∀ registration s, (Session.deregister registration s).2.host = s.host := by
    intro registration s
    unfold Session.deregister
    split <;> rfl
  unfold close
  rw [Inventory.bind_apply, (releaseClaims_fst d).onHost s]
  cases d.registration with
  | none => exact hreleased
  | some registration => exact (hderegister registration _).trans hreleased

/-! ## All operations -/

/-- From these registries on, whatever the host, the computation ends with a result and registries
that satisfy `P`. -/
def Ends {α : Type} (registries : List Registry) (P : α → List Registry → Prop)
    (m : StateM Session α) : Prop :=
  ∀ host, P (m ⟨host, registries⟩).1 (m ⟨host, registries⟩).2.registries

namespace Ends

variable {α β : Type} {registries : List Registry} {P : β → List Registry → Prop}

theorem pure {b : β} (hb : P b registries) : Ends registries P (pure b) := fun _ => hb

/-- What is done at the host leaves the registries as they are. -/
theorem onHost {Q : α → Prop} {m : StateM Host α} {f : α → StateM Session β} (hm : Always Q m)
    (hf : ∀ a, Q a → Ends registries P (f a)) : Ends registries P (Session.onHost m >>= f) :=
  fun host => hf (m host).1 (hm host) (m host).2

end Ends

/-- What becomes of a device and the registries by a change to what is held of the device: the
device stays with its registry, or nothing is held of it any longer and it has left its registry. -/
inductive Passes (d : Device) (registries : List Registry) : Device → List Registry → Prop
  | stays {d' : Device} (h : d.Keeps d') : Passes d registries d' registries
  | leaves : Passes d registries d.unheld (withoutMember d.registration registries)

/-- A device of which only what is held has changed may be closed then. -/
theorem Keeps.passes_close {d d' : Device} (h : d.Keeps d') (registries : List Registry) :
    Ends registries (d.Passes registries) d'.close := by
  obtain ⟨handle, claims, rfl, -⟩ := h
  intro host
  rw [close_registries, close_fst _ _]
  exact .leaves

/-- The use of the default interface is refused, or it is refused after the device has been opened
for it and has therefore been closed again, or the device is open for it. -/
inductive Beginning (d : Device) (registries : List Registry) : Outcome Interface →
    List Registry → Prop
  | refused (e : Error) : Beginning d registries (.error e, d) registries
  | undone (hclosed : d.isOpen = false) (e : Error) :
      Beginning d registries (.error e, d.unheld) (withoutMember d.registration registries)
  | begun (i : Interface) (h : Handle) (claims : Claims) :
      Beginning d registries (.ok i, { d with handle := some h, claims := claims }) registries

theorem beginning (d : Device) (registries : List Registry) :
    Ends registries (d.Beginning registries) d.beginDefault := by
  unfold beginDefault
  split
  · exact .pure (.refused _)
  · next interface _ =>
    extract_lets proceed
    have hproceed : ∀ (h : Handle) (claims : Claims),
        (d.isOpen = true → { d with handle := some h, claims := claims } = d) →
          Ends registries (d.Beginning registries)
            (proceed (.ok (), { d with handle := some h, claims := claims })) := by
      intro h claims hsame
      refine .onHost (claiming _ 0) ?_
      intro o ho
      cases ho with
      | held => exact .pure (.begun interface h claims)
      | taken _ claim => exact .pure (.begun interface h (claims.insert 0 claim))
      | refused e =>
        show Ends registries _ (if d.isOpen then _ else _)
        split_ifs with hopen
        · rw [hsame hopen]
          exact .pure (.refused e)
        · intro host
          have hback : (close { d with handle := some h, claims := claims } ⟨host, registries⟩).1 =
            d.unheld :=
            close_fst _ _
          have hleft :
              (close { d with handle := some h, claims := claims }
                ⟨host, registries⟩).2.registries =
              withoutMember d.registration registries := close_registries _ _
          show d.Beginning registries
            (.error e, (close { d with handle := some h, claims := claims } ⟨host, registries⟩).1)
            (close { d with handle := some h, claims := claims } ⟨host, registries⟩).2.registries
          rw [hback, hleft]
          exact .undone (Bool.eq_false_iff.2 hopen) e
    split_ifs with hopen
    · obtain ⟨h, hhandle⟩ := d.isOpen_iff.1 hopen
      have hself : { d with handle := some h, claims := d.claims } = d := by rw [← hhandle]
      have hheld := hproceed h d.claims fun _ => hself
      rw [hself] at hheld
      exact hheld
    · have hclosed : d.isOpen = false := Bool.eq_false_iff.2 hopen
      refine .onHost (opening d) ?_
      intro o ho
      cases ho with
      | opened h =>
        rw [yielded_of_closed hclosed]
        exact hproceed h d.claims fun h => absurd h hopen
      | refused e =>
        rw [yielded_of_closed hclosed]
        exact .pure (.refused e)

theorem passes_beginDefault (d : Device) (registries : List Registry) :
    Ends registries (fun o => d.Passes registries o.2) d.beginDefault := by
  intro host
  have hbeginning := beginning d registries host
  generalize (d.beginDefault ⟨host, registries⟩).1 = o at hbeginning
  generalize (d.beginDefault ⟨host, registries⟩).2.registries = registries' at hbeginning
  cases hbeginning with
  | refused e => exact .stays (.refl d)
  | undone => exact .leaves
  | begun i h claims => exact .stays ⟨some h, claims, rfl, fun _ => rfl⟩

theorem passes_endDefault (d : Device) (number : UInt8) (registries : List Registry) :
    Ends registries (d.Passes registries) (d.endDefault number) :=
  .onHost (keeps_releaseInterface d number) fun _ ho => ho.passes_close registries

/-- The device is with the same registry as before, and open if it was. -/
structure Remains (d d' : Device) : Prop where
  registration : d'.registration = d.registration
  isOpen : d.isOpen = true → d'.isOpen = true

theorem Keeps.remains {d d' : Device} (h : d.Keeps d') : d.Remains d' := by
  obtain ⟨handle, claims, rfl, hopen⟩ := h
  exact ⟨rfl, hopen⟩

theorem Changes.remains {d changed : Device} {o : Outcome Unit} (h : d.Changes changed o)
    (hregistration : changed.registration = d.registration) (hhandle : changed.handle = d.handle) :
    d.Remains o.2 := by
  obtain heq | heq := h.eq_or
  · refine ⟨heq ▸ hregistration, fun hopen => ?_⟩
    rwa [heq, Device.isOpen, hhandle]
  · exact ⟨heq ▸ rfl, fun hopen => heq ▸ hopen⟩

/-- A device and its registry after an operation: the device remains with the registry, or it is
closed and has left. The other registries stay as they are. -/
inductive Departs (d : Device) (registries : List Registry) : Device → List Registry → Prop
  | remains {d' : Device} (h : d.Remains d') : Departs d registries d' registries
  | leaves {d' : Device} (hregistration : d'.registration = none) (hclosed : d'.isOpen = false) :
      Departs d registries d' (withoutMember d.registration registries)

theorem Passes.departs {d d' : Device} {registries' : List Registry}
    (h : d.Passes registries d' registries') :
    d.Departs registries d' registries' := by
  cases h with
  | stays h => exact .remains h.remains
  | leaves => exact .leaves rfl rfl

theorem departs_perform (d : Device) (op : Operation) (registries : List Registry) :
    Ends registries (fun o => d.Departs registries o.2) (op.perform d) := by
  intro host
  cases op with
  | «open» => exact .remains (keeps_open d host).1.remains
  | close => exact ((Keeps.refl d).passes_close registries host).departs
  | claimInterface number => exact .remains (keeps_claimInterface d number host).remains
  | releaseInterface number => exact .remains (keeps_releaseInterface d number host).remains
  | selectConfiguration value =>
    exact .remains ((changes_selectConfiguration d value host).remains rfl rfl)
  | selectAlternate number alternate =>
    exact .remains ((changes_selectAlternate d number alternate host).remains
      (setAlternate_registration ..)
      (setAlternate_handle ..))
  | beginDefault => exact (passes_beginDefault d registries host).departs
  | endDefault number => exact (passes_endDefault d number registries host).departs
  | drop => exact ((Keeps.refl d).passes_close registries host).departs

end Device

end UsbAccess
