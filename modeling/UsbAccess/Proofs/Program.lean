import Mathlib
import UsbAccess.Inventory
import UsbAccess.Proofs.Keeping

/-!
# Programs

A program has any number of registries, and devices that some registry gave it or none did. Whatever
it does with them comes down to a few kinds of moves.

Results:
* `Program.moves_of_departs`: what an operation on a device moves.
* `Program.opens_openChosen`, `Program.openFirst_eq`: what comes of opening devices on behalf of a
  registry.
* `Program.Step.moves`: every step of a program is made of moves.
-/

namespace UsbAccess

/-! ## Programs -/

/-- A device that a program has, the registry that gave it, and whether it has been closed since. -/
structure Owned where
  device : Device
  origin : Option ℕ
  closed : Bool

/-- What the program has of the device after an operation. -/
def Owned.next (o : Owned) (d : Device) : Owned := ⟨d, o.origin, o.closed || !d.isOpen⟩

/-- A program: what it works on, its devices, and the registries that it observes. A registry goes
by its number, and so do its clones and observers. What has happened is told by `given`, with the
number of a registry for each device that it gave, and by `closings`, with what came of each
closing; the latest come first. -/
structure Program where
  session : Session
  devices : List Owned
  observers : List ℕ
  given : List ℕ
  closings : List (ℕ × Except Error Unit)

namespace Program

/-- A program that has just started. -/
def start (host : Host) : Program := ⟨⟨host, []⟩, [], [], [], []⟩

/-- The program when registry `k` has given it devices. -/
def receive (p : Program) (k : ℕ) (devices : List Device) (session : Session) : Program :=
  { p with
    session := session
    devices := p.devices ++ devices.map fun d => ⟨d, some k, false⟩
    given := List.replicate devices.length k ++ p.given }

/-- An observer of registry `k` sees it closed. -/
def isDone (p : Program) (k : ℕ) : Bool := p.session.registries[k]?.any fun r => r.signal.fired

/-- A step of a program, about registry `k` or one of its devices if the label is `some k`. -/
inductive Step : Option ℕ → Program → Program → Prop
  /-- The host is used by others. -/
  | elsewhere (p : Program) (host : Host) :
      Step none p { p with session := ⟨host, p.session.registries⟩ }
  | newRegistry (p : Program) (settings : Settings) :
      Step none p { p with session := (Session.newRegistry settings p.session).2 }
  /-- A device that no registry gives, open or not. -/
  | acquire (p : Program) {d : Device} (hd : d.registration = none) :
      Step none p { p with devices := p.devices ++ [⟨d, none, false⟩] }
  | openDevices {p : Program} {k : ℕ} {r : Registry} {γ : Type}
      (choose : γ → Device → Bool × γ) (start : γ)
      (hr : p.session.registries[k]? = some r) :
      Step (some k) p
        (p.receive k (Inventory.openDevices k r.settings choose start p.session).1.devices
        (Inventory.openDevices k r.settings choose start p.session).2)
  | openFirst {p : Program} {k : ℕ} {r : Registry} (vendor product : UInt16)
      (hr : p.session.registries[k]? = some r) :
      Step (some k) p
        (p.receive k
          ((Inventory.openFirst k r.settings vendor product p.session).1.toOption.join.toList)
          (Inventory.openFirst k r.settings vendor product p.session).2)
  | close {p : Program} {k : ℕ} {r : Registry} (hr : p.session.registries[k]? = some r) :
      Step (some k) p { p with
        session := (Session.close k p.session).2
        closings := (k, (Session.close k p.session).1) :: p.closings }
  | observe {p : Program} {k : ℕ} {r : Registry} (hr : p.session.registries[k]? = some r) :
      Step (some k) p { p with observers := k :: p.observers }
  | operate {p : Program} (front rest : List Owned) {o : Owned} (op : Device.Operation)
      (hdevices : p.devices = front ++ o :: rest) :
      Step o.origin p { p with
        session := (op.perform o.device p.session).2
        devices := front ++ o.next (op.perform o.device p.session).1.2 :: rest }
  /-- A device goes out of use. -/
  | drop {p : Program} (front rest : List Owned) {o : Owned}
      (hdevices : p.devices = front ++ o :: rest) :
      Step o.origin p { p with session := (o.device.close p.session).2, devices := front ++ rest }

/-- The program can come to this from its start. -/
def Reached (p : Program) : Prop :=
  ∃ host, Relation.ReflTransGen (fun p p' => ∃ about, Step about p p') (start host) p

/-! ## Moves -/

/-- What happens to devices and registries in the steps of a program. -/
inductive Move (about : Option ℕ) : Program → Program → Prop
  | elsewhere (p : Program) (host : Host) :
      Move about p { p with session := ⟨host, p.session.registries⟩ }
  | newRegistry (p : Program) (settings : Settings) :
      Move about p { p with session := ⟨p.session.host, p.session.registries ++ [.new settings]⟩ }
  | acquires (p : Program) {d : Device} (hd : d.registration = none) :
      Move about p { p with devices := p.devices ++ [⟨d, none, false⟩] }
  | joins {p : Program} {k : ℕ} {r : Registry} {d : Device} (habout : about = some k)
      (hr : p.session.registries[k]? = some r) (hopen : d.isOpen = true) :
      Move about p (p.receive k [{ d with registration := some ⟨k, r.join.1⟩ }]
        (p.session.setRegistry k r.join.2))
  /-- A device stays with its registry, if it has one, and open with it. -/
  | stays {p : Program} {front rest : List Owned} {o : Owned} {d : Device}
      (hdevices : p.devices = front ++ o :: rest)
      (hregistration : d.registration = o.device.registration)
      (hopen : d.registration ≠ none → o.device.isOpen = true → d.isOpen = true) :
      Move about p { p with devices := front ++ o.next d :: rest }
  /-- A device is closed and leaves its registry. -/
  | leaves {p : Program} {front rest : List Owned} {o : Owned} {d : Device}
      {registration : Registration}
      (habout : about = o.origin) (hdevices : p.devices = front ++ o :: rest)
      (hregistered : o.device.registration = some registration)
        (hregistration : d.registration = none)
      (hclosed : d.isOpen = false) :
      Move about p { p with
        session := ⟨p.session.host, Device.withoutMember (some registration) p.session.registries⟩
        devices := front ++ o.next d :: rest }
  | drops {p : Program} {front rest : List Owned} {o : Owned}
      (hdevices : p.devices = front ++ o :: rest)
      (hregistration : o.device.registration = none) :
        Move about p { p with devices := front ++ rest }
  | fires {p : Program} {k : ℕ} {r : Registry} (habout : about = some k)
      (hr : p.session.registries[k]? = some r) :
      Move about p { p with
        session := p.session.setRegistry k { r with signal := r.signal.fire }
        closings := (k, .ok ()) :: p.closings }
  | refuses {p : Program} {k : ℕ} {r : Registry} (hr : p.session.registries[k]? = some r)
      (error : Error) :
      Move about p { p with closings := (k, .error error) :: p.closings }
  | observes {p : Program} {k : ℕ} {r : Registry} (hr : p.session.registries[k]? = some r) :
      Move about p { p with observers := k :: p.observers }

/-- Some moves, one after the other. -/
abbrev Moves (about : Option ℕ) : Program → Program → Prop := Relation.ReflTransGen (Move about)

variable {p p' : Program} {about : Option ℕ} {k : ℕ}

/-- What an operation on a device moves. -/
theorem moves_of_departs {front rest : List Owned} {o : Owned} {d : Device}
    {registries : List Registry} (hdevices : p.devices = front ++ o :: rest)
    (h : o.device.Departs p.session.registries d registries) (host : Host) :
    Moves o.origin p { p with
      session := ⟨host, registries⟩, devices := front ++ o.next d :: rest } := by
  have helsewhere : Moves o.origin p { p with session := ⟨host, p.session.registries⟩ } :=
    .single (.elsewhere p host)
  cases h with
  | remains h => exact helsewhere.tail (.stays hdevices h.registration fun _ => h.isOpen)
  | leaves hregistration hclosed =>
    cases hregistered : o.device.registration with
    | none =>
      exact helsewhere.tail (.stays hdevices (hregistration.trans hregistered.symm) fun h =>
        absurd hregistration h)
    | some registration =>
      exact helsewhere.tail (.leaves rfl hdevices hregistered hregistration hclosed)

theorem moves_operate {front rest : List Owned} {o : Owned} (op : Device.Operation)
    (hdevices : p.devices = front ++ o :: rest) :
    Moves o.origin p { p with
      session := (op.perform o.device p.session).2
      devices := front ++ o.next (op.perform o.device p.session).1.2 :: rest } :=
  moves_of_departs hdevices (o.device.departs_perform op p.session.registries p.session.host) _

theorem moves_drop {front rest : List Owned} {o : Owned}
    (hdevices : p.devices = front ++ o :: rest) :
    Moves o.origin p { p with
      session := (o.device.close p.session).2, devices := front ++ rest } := by
  have hclose := (Device.Keeps.refl o.device).passes_close p.session.registries p.session.host
  refine (moves_of_departs hdevices hclose.departs (o.device.close p.session).2.host).tail
    (.drops rfl ?_)
  show (o.device.close p.session).1.registration = none
  rw [o.device.close_fst p.session]
  rfl

theorem moves_close {r : Registry} (hr : p.session.registries[k]? = some r) :
    Moves (some k) p { p with
      session := (Session.close k p.session).2
      closings := (k, (Session.close k p.session).1) :: p.closings } := by
  unfold Session.close Registry.close
  rw [hr]
  by_cases hcount : r.openCount > 0
  · simp only [if_pos hcount]
    exact .single (.refuses hr _)
  · simp only [if_neg hcount]
    exact .single (.fires rfl hr)

/-! ## Opening on behalf of a registry -/

/-- What comes of one device of the inventory: it is passed over, it cannot be opened, or it is open
and joins registry `k`, which is `r`. -/
inductive Opens {γ : Type} (k : ℕ) (choose : γ → Device → Bool × γ) (o : Inventory.Opening γ)
    (d : Device) (s : Session) (r : Registry) : Inventory.Opening γ → Session → Prop
  | passed (hchosen : (choose o.choice d).1 = false) :
      Opens k choose o d s r { o with choice := (choose o.choice d).2 } s
  | failed (hchosen : (choose o.choice d).1 = true) (host : Host) (error : Error) :
      Opens k choose o d s r { o with choice := (choose o.choice d).2, error := some error }
        ⟨host, s.registries⟩
  | opened (hchosen : (choose o.choice d).1 = true) (host : Host) {d' : Device}
      (hopen : d'.isOpen = true) :
      Opens k choose o d s r
        { o with
          choice := (choose o.choice d).2
          devices := o.devices ++ [{ d' with registration := some ⟨k, r.join.1⟩ }] }
        ⟨host, s.registries.set k r.join.2⟩

theorem opens_openChosen {γ : Type} {s : Session} {r : Registry} (hr : s.registries[k]? = some r)
    (choose : γ → Device → Bool × γ) (o : Inventory.Opening γ) (d : Device) :
    Opens k choose o d s r (Inventory.openChosen k choose o d s).1
      (Inventory.openChosen k choose o d s).2 := by
  unfold Inventory.openChosen
  cases hchosen : (choose o.choice d).1 with
  | false =>
    simp only [hchosen, Bool.false_eq_true, if_false]
    exact .passed hchosen
  | true =>
    have hopened := (d.keeps_open s.host).2
    have hregister : ∀ host, Session.register k ⟨host, s.registries⟩ =
        (some ⟨k, r.join.1⟩, ⟨host, s.registries.set k r.join.2⟩) := by
      intro host
      simp only [Session.register, hr]
      rfl
    have hhost : Session.onHost d.open s = ((d.open s.host).1, ⟨(d.open s.host).2, s.registries⟩) :=
      rfl
    simp only [hchosen, if_true, Inventory.bind_apply, hhost]
    generalize d.open s.host = result at hopened ⊢
    obtain ⟨⟨outcome, d'⟩, host⟩ := result
    cases outcome with
    | error e => exact .failed hchosen host e
    | ok _ =>
      simp only [Inventory.bind_apply, hregister]
      exact .opened hchosen host (hopened rfl)

section Opens

variable {γ : Type} {choose : γ → Device → Bool × γ} {o o' : Inventory.Opening γ} {d : Device}
  {s s' : Session} {r : Registry}

theorem Opens.exists_registry (h : Opens k choose o d s r o' s') (hr : s.registries[k]? = some r) :
    ∃ r', s'.registries[k]? = some r' := by
  cases h with
  | passed => exact ⟨r, hr⟩
  | failed => exact ⟨r, hr⟩
  | opened =>
    refine ⟨r.join.2, ?_⟩
    rw [List.getElem?_set_self (List.getElem?_eq_some_iff.1 hr).1]

theorem receive_receive (p : Program) (k : ℕ) (earlier later : List Device) (s s' : Session) :
    (p.receive k earlier s).receive k later s' = p.receive k (earlier ++ later) s' := by
  have hgiven : List.replicate later.length k ++ (List.replicate earlier.length k ++ p.given) =
      List.replicate (earlier ++ later).length k ++ p.given := by
    rw [← List.append_assoc, ← List.replicate_add, List.length_append, Nat.add_comm]
  simp only [receive, List.map_append, List.append_assoc, hgiven]

/-- What has been opened so far has been given to the program. -/
theorem Opens.moves (h : Opens k choose o d s r o' s') (hr : s.registries[k]? = some r)
    (p : Program) :
    Moves (some k) (p.receive k o.devices s) (p.receive k o'.devices s') := by
  cases h with
  | passed => exact .refl
  | failed _ host => exact .single (.elsewhere (p.receive k o.devices s) host)
  | opened _ host hopen =>
    have helsewhere : Moves (some k) (p.receive k o.devices s)
        (p.receive k o.devices ⟨host, s.registries⟩) :=
      .single (.elsewhere (p.receive k o.devices s) host)
    have hjoins := helsewhere.tail (.joins rfl hr hopen)
    rw [receive_receive] at hjoins
    exact hjoins

theorem moves_foldlM (hr : s.registries[k]? = some r) (choose : γ → Device → Bool × γ)
    (o : Inventory.Opening γ) (ds : List Device) (p : Program) :
    Moves (some k) (p.receive k o.devices s)
      (p.receive k (ds.foldlM (Inventory.openChosen k choose) o s).1.devices
        (ds.foldlM (Inventory.openChosen k choose) o s).2) := by
  induction ds generalizing o s r with
  | nil => exact .refl
  | cons d rest ih =>
    have hopens := opens_openChosen hr choose o d
    obtain ⟨r', hr'⟩ := hopens.exists_registry hr
    rw [List.foldlM_cons, Inventory.bind_apply]
    exact (hopens.moves hr p).trans (ih hr' _)

theorem openDevices_eq (k : ℕ) (settings : Settings) (choose : γ → Device → Bool × γ) (start : γ)
    (s : Session) :
    Inventory.openDevices k settings choose start s =
      (Inventory.list settings s.host).1.devices.foldlM (Inventory.openChosen k choose)
        ⟨[], (Inventory.list settings s.host).1.error,
          start⟩ ⟨(Inventory.list settings s.host).2, s.registries⟩ := rfl

theorem moves_openDevices (hr : p.session.registries[k]? = some r) (settings : Settings)
    (choose : γ → Device → Bool × γ) (start : γ) :
    Moves (some k) p
      (p.receive k (Inventory.openDevices k settings choose start p.session).1.devices
      (Inventory.openDevices k settings choose start p.session).2) := by
  have hreceive : ∀ s, p.receive k [] s = { p with session := s } := by
    intro s
    simp [receive]
  have hlisted : Moves (some k) p
      (p.receive k [] ⟨(Inventory.list settings p.session.host).2, p.session.registries⟩) := by
    rw [hreceive]
    exact .single (.elsewhere p _)
  have hopened :=
    moves_foldlM (s := ⟨(Inventory.list settings p.session.host).2, p.session.registries⟩) hr choose
    ⟨[], (Inventory.list settings p.session.host).1.error,
      start⟩ (Inventory.list settings p.session.host).1.devices p
  rw [openDevices_eq]
  exact hlisted.trans hopened

/-! ### The first device of some identifiers -/

theorem Opens.length_le {vendor product : UInt16} {o o' : Inventory.Opening Bool}
    (h : Opens k (Inventory.chooseFirst vendor product) o d s r o' s')
    (ho : o.devices.length ≤ o.choice.toNat) :
    o'.devices.length ≤ o'.choice.toNat := by
  -- who chooses has seen no device before, and has seen one from then on
  have hchoose : ∀ seen, (Inventory.chooseFirst vendor product seen d).1 = true →
      seen = false ∧ (Inventory.chooseFirst vendor product seen d).2 = true := by
    intro seen hchosen
    unfold Inventory.chooseFirst at hchosen ⊢
    split at hchosen
    · cases hchosen
    · next hnot =>
      simp only [Bool.or_eq_true, not_or, Bool.not_eq_true] at hnot
      simp [hnot.1.1, hnot.1.2, hnot.2]
  have hpassed : ∀ seen, (Inventory.chooseFirst vendor product seen d).1 = false →
      (Inventory.chooseFirst vendor product seen d).2 = seen := by
    intro seen hchosen
    unfold Inventory.chooseFirst at hchosen ⊢
    split at hchosen
    · next h => simp only [h, if_true]
    · cases hchosen
  cases h with
  | passed hchosen => simpa only [hpassed _ hchosen] using ho
  | failed hchosen =>
    simp only [(hchoose _ hchosen).2]
    exact ho.trans (Bool.toNat_le _)
  | opened hchosen =>
    simp only [(hchoose _ hchosen).1, Bool.toNat_false, Nat.le_zero, List.length_eq_zero_iff] at ho
    simp [ho, (hchoose _ hchosen).2]

theorem length_foldlM_le (hr : s.registries[k]? = some r) (vendor product : UInt16)
    (o : Inventory.Opening Bool) (ds : List Device) (ho : o.devices.length ≤ o.choice.toNat) :
    (ds.foldlM (Inventory.openChosen k (Inventory.chooseFirst vendor product)) o s).1.devices.length
      ≤ 1 := by
  induction ds generalizing o s r with
  | nil => exact ho.trans (Bool.toNat_le _)
  | cons d rest ih =>
    have hopens := opens_openChosen hr (Inventory.chooseFirst vendor product) o d
    obtain ⟨r', hr'⟩ := hopens.exists_registry hr
    rw [List.foldlM_cons, Inventory.bind_apply]
    exact ih hr' _ (hopens.length_le ho)

/-- The first device of the identifiers is the only one that is opened. -/
theorem openFirst_eq (hr : s.registries[k]? = some r) (settings : Settings)
    (vendor product : UInt16) :
    (Inventory.openFirst k settings vendor product s).1.toOption.join.toList =
        (Inventory.openDevices k settings
          (Inventory.chooseFirst vendor product) false s).1.devices ∧
      (Inventory.openFirst k settings vendor product s).2 =
        (Inventory.openDevices k settings (Inventory.chooseFirst vendor product) false s).2 := by
  have hlength :
      (Inventory.openDevices k settings
        (Inventory.chooseFirst vendor product) false s).1.devices.length ≤ 1 := by
    have hfirst :=
      length_foldlM_le (s := ⟨(Inventory.list settings s.host).2, s.registries⟩) hr vendor product
      ⟨[], (Inventory.list settings s.host).1.error,
        false⟩ (Inventory.list settings s.host).1.devices (Nat.zero_le _)
    rwa [openDevices_eq]
  unfold Inventory.openFirst
  rw [Inventory.bind_apply]
  generalize Inventory.openDevices k settings (Inventory.chooseFirst vendor product) false s =
    opening at hlength ⊢
  obtain ⟨⟨devices, error, seen⟩, s'⟩ := opening
  cases devices with
  | nil => cases error <;> exact ⟨rfl, rfl⟩
  | cons d rest =>
    obtain rfl : rest = [] := List.length_eq_zero_iff.1 (by simpa using hlength)
    exact ⟨rfl, rfl⟩

end Opens

/-- Every step is made of moves. -/
theorem Step.moves (h : Step about p p') : Moves about p p' := by
  cases h with
  | elsewhere _ host => exact .single (.elsewhere p host)
  | newRegistry _ settings => exact .single (.newRegistry p settings)
  | acquire _ hd => exact .single (.acquires p hd)
  | openDevices choose start hr => exact moves_openDevices hr _ choose start
  | openFirst vendor product hr =>
    obtain ⟨hdevices, hsession⟩ := openFirst_eq hr _ vendor product
    rw [hdevices, hsession]
    exact moves_openDevices hr _ _ _
  | close hr => exact moves_close hr
  | observe hr => exact .single (.observes hr)
  | operate front rest op hdevices => exact moves_operate op hdevices
  | drop front rest hdevices => exact moves_drop hdevices

end Program

end UsbAccess
