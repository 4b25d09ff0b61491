import Mathlib
import UsbAccess.Proofs.Membership

/-!
# Devices that are chosen and opened

A registry puts every device that is listed to a choice, which may remember what it has seen. What
is chosen is opened by its node, to be used and not only read, and is registered. What cannot be
opened is passed over.

Results:
* `Inventory.Takes.trans`: some devices are put to the choice and then others.
* `Inventory.takes_foldlM`: what comes of putting devices to the choice.
* `Inventory.Takes.gains`: what the registry counts and which tokens it has then.
* `Inventory.chosen_chooseFirst`: who looks for the first device of some identifiers chooses it and
  no other.
* `Program.openDevices_gives_chosen`: which devices are given, what the registry counts, and which
  error is told.
-/

namespace UsbAccess

/-! ## Opening one device -/

namespace Device

/-- The node of the device opens for all requests. -/
def nodeOpens (files : FileTree) (d : Device) : Bool := (files.openToUpdate d.node).isOk

/-- The error of opening a closed device, if its node does not open. -/
def refusal? (files : FileTree) (d : Device) : Option Error :=
  match files.openToUpdate d.node with
  | .ok _ => none
  | .error fault => some (if fault = .refused .noEntry then .notFound else .io fault)

/-- `d'` is the device `d`, open by its node and registered with registry `k`. -/
def OpenedFor (files : FileTree) (k : ℕ) (d d' : Device) : Prop :=
  ∃ h token, files.openToUpdate d.node = .ok h.node ∧
    d' = { d with handle := some h, registration := some ⟨k, token⟩ }

/-- The device is open and has no claims, and is registered with registry `k`. -/
structure GivenBy (k : ℕ) (d : Device) : Prop where
  isOpen : d.isOpen = true
  claims : d.claims = Claims.none
  registration : ∃ token, d.registration = some ⟨k, token⟩

/-- The device is closed and has no claims, and is not registered. -/
structure IsIdle (d : Device) : Prop where
  fresh : d.IsFresh
  registration : d.registration = none

theorem IsIdle.isOpen {d : Device} (hd : d.IsIdle) : d.isOpen = false := by
  rw [Device.isOpen, hd.fresh.handle]
  rfl

/-- Nothing happens when such a device is closed or goes out of use. -/
theorem IsIdle.close {d : Device} (hd : d.IsIdle) (s : Session) : d.close s = (d, s) := by
  obtain ⟨⟨hhandle, hclaims⟩, hregistration⟩ := hd
  obtain ⟨address, port, ports, vendor, product, names, parent, speed, configurations, active,
    texts, source, nodeRoot, handle, claims, registration⟩ := d
  subst hhandle hclaims hregistration
  rfl

section

variable {files : FileTree} {d : Device}

theorem exists_of_nodeOpens (h : d.nodeOpens files = true) :
    ∃ l, files.openToUpdate d.node = .ok l := by
  unfold nodeOpens at h
  cases hnode : files.openToUpdate d.node with
  | ok l => exact ⟨l, rfl⟩
  | error fault =>
    rw [hnode] at h
    cases h

theorem nodeOpens_of_ok {l : Location} (hnode : files.openToUpdate d.node = .ok l) :
    d.nodeOpens files = true := by
  rw [nodeOpens, hnode]
  rfl

theorem refusal?_eq_none_iff : d.refusal? files = none ↔ d.nodeOpens files = true := by
  unfold refusal? nodeOpens
  cases files.openToUpdate d.node with
  | ok l => exact ⟨fun _ => rfl, fun _ => rfl⟩
  | error fault => exact ⟨by rintro ⟨⟩, by rintro ⟨⟩⟩

end

theorem open_of_refusal? {d : Device} {host : Host} {e : Error} (hclosed : d.handle = none)
    (hrefused : d.refusal? host.files = some e) : d.open host = ((.error e, d), host) := by
  unfold refusal? at hrefused
  cases hnode : host.files.openToUpdate d.node with
  | ok l =>
    rw [hnode] at hrefused
    cases hrefused
  | error fault =>
    rw [hnode] at hrefused
    cases hrefused
    rw [open_of_closed (by rw [isOpen, hclosed]; rfl), enter, Inventory.bind_apply,
      Host.openNode_of_error hnode]
    rfl

/-- An opening that is refused changes nothing. -/
theorem IsIdle.of_open_error {d : Device} {host : Host} {e : Error} (hd : d.IsIdle)
    (he : (d.open host).1.1 = .error e) : d.open host = ((.error e, d), host) := by
  cases hrefused : d.refusal? host.files with
  | some e' =>
    rw [open_of_refusal? hd.fresh.handle hrefused] at he ⊢
    cases he
    rfl
  | none =>
    obtain ⟨l, hnode⟩ := exists_of_nodeOpens (refusal?_eq_none_iff.1 hrefused)
    rw [open_of_node hd.fresh.handle hnode] at he
    cases he

end Device

/-- Registry `k`, which was `r` and is `r'` now, has given these devices. Nothing but their nodes
has been opened, and other registries are as they were. -/
structure Registry.Gives (k : ℕ) (r : Registry) (s : Session) (given : List Device) (s' : Session)
    (r' : Registry) :
    Prop where
  files : s'.host.files = s.host.files
  history : s'.host.history = ((given.filterMap Device.handle).map Event.opened).reverse ++
    s.host.history
  registries : s'.registries = s.registries.set k r'
  settings : r'.settings = r.settings
  signal : r'.signal = r.signal

/-- Registry `k` counts these devices beside those that it had, and has their tokens and the earlier
ones, no two of which are the same. -/
structure Registry.Gains (k : ℕ) (r : Registry) (given : List Device) (r' : Registry) : Prop where
  openCount : r'.openCount = r.openCount + given.length
  tokens : r'.tokens.Perm (r.tokens ++ given.filterMap (Device.token? k))
  distinct : r'.tokens.Nodup

/-! ## Choosing -/

namespace Inventory

variable {γ : Type} (choose : γ → Device → Bool × γ)

/-- The devices that are chosen when one after the other is put to the choice. -/
def chosen : γ → List Device → List Device
  | _, [] => []
  | c, d :: rest =>
    if (choose c d).1 then d :: chosen (choose c d).2 rest else chosen (choose c d).2 rest

/-- The state of the choice when each device has been put to it once, in their order. -/
def choiceAfter (c : γ) (ds : List Device) : γ :=
  ds.foldl (fun c d => (choose c d).2) c

theorem chosen_append (c : γ) (ds ds' : List Device) :
    chosen choose c (ds ++ ds') = chosen choose c ds ++
      chosen choose (choiceAfter choose c ds) ds' := by
  induction ds generalizing c with
  | nil => rfl
  | cons d rest ih =>
    rw [List.cons_append, chosen, chosen, ih]
    split_ifs <;> rfl

theorem chosen_singleton (c : γ) (d : Device) :
    chosen choose c [d] = if (choose c d).1 then [d] else [] := rfl

theorem chosen_subset (c : γ) (ds : List Device) : chosen choose c ds ⊆ ds := by
  induction ds generalizing c with
  | nil => exact List.Subset.refl _
  | cons d rest ih =>
    rw [chosen]
    split_ifs
    · exact List.cons_subset_cons d (ih _)
    · exact List.subset_cons_of_subset d (ih _)

/-- Who has seen the first device chooses no other. -/
theorem chosen_chooseFirst_seen (vendor product : UInt16) (ds : List Device) :
    chosen (chooseFirst vendor product) true ds = [] := by
  induction ds with
  | nil => rfl
  | cons d rest ih => exact ih

/-- Who looks for the first device of some identifiers chooses it and no other. -/
theorem chosen_chooseFirst (vendor product : UInt16) (ds : List Device) :
    chosen (chooseFirst vendor product) false ds =
      (ds.find? fun d => d.vendor == vendor && d.product == product).toList := by
  induction ds with
  | nil => rfl
  | cons d rest ih =>
    rw [chosen, List.find?_cons]
    cases hsame : d.vendor == vendor && d.product == product with
    | true =>
      have hchoice : chooseFirst vendor product false d = (true, true) := by
        rw [Bool.and_eq_true, beq_iff_eq, beq_iff_eq] at hsame
        simp [chooseFirst, hsame.1, hsame.2]
      rw [hchoice, if_pos rfl, chosen_chooseFirst_seen]
      rfl
    | false =>
      have hchoice : chooseFirst vendor product false d = (false, false) := by
        rw [Bool.and_eq_false_iff, beq_eq_false_iff_ne, beq_eq_false_iff_ne] at hsame
        simp [chooseFirst, hsame]
      rw [hchoice, if_neg Bool.false_ne_true, ih]

/-! ## What comes of a choice -/

/-- What comes of putting devices to the choice, from an opening on with registry `k`, which is `r`:
these devices are given, and the registry is `r'` then. -/
structure Takes (k : ℕ) (ds : List Device) (o : Opening γ) (s : Session) (r : Registry)
    (given : List Device) (o' : Opening γ) (s' : Session) (r' : Registry) :
    Prop extends Registry.Gives k r s given s' r' where
  choice : o'.choice = choiceAfter choose o.choice ds
  devices : o'.devices = o.devices ++ given
  error : o'.error =
    ((chosen choose o.choice ds).filterMap (Device.refusal? s.host.files)).getLast?.or o.error
  opened : List.Forall₂ (Device.OpenedFor s.host.files k)
    ((chosen choose o.choice ds).filter (Device.nodeOpens s.host.files)) given
  holds : ∀ n tokens, r.Holds n tokens → n + given.length < 2 ^ 64 →
    r'.Holds (n + given.length) (tokens ++ given.filterMap (Device.token? k))

variable {choose} {k : ℕ} {o o' o'' : Opening γ} {s s' s'' : Session} {r r' r'' : Registry}
  {ds ds' given given' : List Device}

/-- Where no node opens, the session stays as it is. -/
theorem Takes.nothing (hr : s.registries[k]? = some r)
    (hchoice : o'.choice = choiceAfter choose o.choice ds) (hdevices : o'.devices = o.devices)
    (herror : o'.error =
      ((chosen choose o.choice ds).filterMap (Device.refusal? s.host.files)).getLast?.or o.error)
    (hopened : ∀ d ∈ chosen choose o.choice ds, ¬ d.nodeOpens s.host.files) :
    Takes choose k ds o s r [] o' s r where
  choice := hchoice
  devices := by rw [hdevices, List.append_nil]
  error := herror
  opened := by
    rw [List.filter_eq_nil_iff.2 hopened]
    exact .nil
  files := rfl
  history := rfl
  registries := by
    obtain ⟨hk, rfl⟩ := List.getElem?_eq_some_iff.1 hr
    exact (List.set_getElem_self hk).symm
  settings := rfl
  signal := rfl
  holds n tokens hholds _ := by simpa using hholds

theorem Takes.trans (h : Takes choose k ds o s r given o' s' r')
    (h' : Takes choose k ds' o' s' r' given' o'' s'' r'') :
    Takes choose k (ds ++ ds') o s r (given ++ given') o'' s'' r'' where
  choice := by rw [h'.choice, h.choice, choiceAfter, choiceAfter, choiceAfter, List.foldl_append]
  devices := by rw [h'.devices, h.devices, List.append_assoc]
  error := by
    rw [h'.error, h.error, h.files, h.choice, chosen_append, List.filterMap_append,
      List.getLast?_append, Option.or_assoc]
  opened := by
    have hlater := h'.opened
    rw [h.files, h.choice] at hlater
    rw [chosen_append, List.filter_append]
    exact List.rel_append h.opened hlater
  files := h'.files.trans h.files
  history := by
    rw [h'.history, h.history, List.filterMap_append, List.map_append, List.reverse_append,
      List.append_assoc]
  registries := by rw [h'.registries, h.registries, List.set_set]
  settings := h'.settings.trans h.settings
  signal := h'.signal.trans h.signal
  holds n tokens hholds hfew := by
    rw [List.length_append] at hfew
    rw [List.length_append, ← Nat.add_assoc, List.filterMap_append, ← List.append_assoc]
    exact h'.holds _ _ (h.holds n tokens hholds (by omega)) (by omega)

/-! ### One device -/

theorem openChosen_passed {d : Device} (hchosen : (choose o.choice d).1 = false) :
    openChosen k choose o d s = ({ o with choice := (choose o.choice d).2 }, s) := by
  unfold openChosen
  simp only [hchosen, Bool.false_eq_true, if_false]
  rfl

theorem openChosen_refused {d : Device} {e : Error} (hchosen : (choose o.choice d).1 = true)
    (hopen : d.open s.host = ((.error e, d), s.host)) :
    openChosen k choose o d s =
      ({ o with choice := (choose o.choice d).2, error := some e }, s) := by
  unfold openChosen
  simp only [hchosen, if_true, bind_apply, Session.onHost, hopen]
  rfl

theorem openChosen_opened {d d' : Device} {host : Host} (hr : s.registries[k]? = some r)
    (hchosen : (choose o.choice d).1 = true) (hopen : d.open s.host = ((.ok (), d'), host)) :
    openChosen k choose o d s =
      ({ o with
          choice := (choose o.choice d).2
          devices := o.devices ++ [{ d' with registration := some ⟨k, r.join.1⟩ }] },
        ⟨host, s.registries.set k r.join.2⟩) := by
  unfold openChosen
  simp only [hchosen, if_true, bind_apply, Session.onHost, hopen, Session.register, hr]
  rfl

/-- A device that is chosen and whose node opens is given. -/
theorem Takes.one {d : Device} {l : Location} (hnode : s.host.files.openToUpdate d.node = .ok l)
    (hchosen : (choose o.choice d).1 = true) :
    Takes choose k [d] o s r
      [{ d with handle := some (Host.newHandle l s.host).1, registration := some ⟨k, r.join.1⟩ }]
      { o with
        choice := (choose o.choice d).2
        devices := o.devices ++
          [{ d with
            handle := some (Host.newHandle l s.host).1, registration := some ⟨k, r.join.1⟩ }] }
      ⟨(Host.newHandle l s.host).2, s.registries.set k r.join.2⟩ r.join.2 where
  choice := rfl
  devices := rfl
  error := by
    have hnone := Device.refusal?_eq_none_iff.2 (Device.nodeOpens_of_ok hnode)
    rw [chosen_singleton, hchosen, if_pos rfl, List.filterMap_cons_none hnone]
    rfl
  opened := by
    rw [chosen_singleton, hchosen, if_pos rfl,
      List.filter_cons_of_pos (Device.nodeOpens_of_ok hnode), List.filter_nil]
    exact .cons ⟨_, _, hnode, rfl⟩ .nil
  files := rfl
  history := rfl
  registries := rfl
  settings := rfl
  signal := rfl
  holds n tokens hholds hfew := by
    have htoken : Device.token? k
        { d with handle := some (Host.newHandle l s.host).1, registration := some ⟨k, r.join.1⟩ } =
          some r.join.1 :=
      if_pos rfl
    rw [List.filterMap_cons_some htoken, List.filterMap_nil]
    exact hholds.join hfew

/-- One device is put to the choice. -/
theorem takes_openChosen (choose : γ → Device → Bool × γ) (hr : s.registries[k]? = some r)
    (o : Opening γ) {d : Device} (hclosed : d.handle = none) :
    ∃ given r', Takes choose k [d] o s r given (openChosen k choose o d s).1
      (openChosen k choose o d s).2 r' := by
  cases hchosen : (choose o.choice d).1 with
  | false =>
    have hnone : chosen choose o.choice [d] = [] := by
      rw [chosen_singleton, hchosen, if_neg Bool.false_ne_true]
    rw [openChosen_passed hchosen]
    exact ⟨[], r, .nothing hr rfl rfl (by rw [hnone]; rfl) (by simp [hnone])⟩
  | true =>
    have hone : chosen choose o.choice [d] = [d] := by rw [chosen_singleton, hchosen, if_pos rfl]
    cases hrefused : d.refusal? s.host.files with
    | some e =>
      have hshut : ¬ d.nodeOpens s.host.files := by
        rw [← Device.refusal?_eq_none_iff, hrefused]
        rintro ⟨⟩
      rw [openChosen_refused hchosen (Device.open_of_refusal? hclosed hrefused)]
      exact ⟨[], r, .nothing hr rfl rfl (by simp [hone, hrefused]) (by simpa [hone] using hshut)⟩
    | none =>
      obtain ⟨l, hnode⟩ := Device.exists_of_nodeOpens (Device.refusal?_eq_none_iff.1 hrefused)
      rw [openChosen_opened hr hchosen (Device.open_of_node hclosed hnode)]
      exact ⟨_, _, .one hnode hchosen⟩

/-! ### One device after the other -/

/-- One device after the other is put to the choice. -/
theorem takes_foldlM (choose : γ → Device → Bool × γ) (hr : s.registries[k]? = some r)
    (o : Opening γ) (hclosed : ∀ d ∈ ds, d.handle = none) :
    ∃ given r', Takes choose k ds o s r given (ds.foldlM (openChosen k choose) o s).1
      (ds.foldlM (openChosen k choose) o s).2 r' := by
  induction ds generalizing o s r with
  | nil => exact ⟨[], r, .nothing hr rfl rfl rfl (by simp [chosen])⟩
  | cons d rest ih =>
    obtain ⟨given, r', hfirst⟩ := takes_openChosen choose hr o (hclosed d List.mem_cons_self)
    have hr' : (openChosen k choose o d s).2.registries[k]? = some r' := by
      rw [hfirst.registries, List.getElem?_set_self (List.getElem?_eq_some_iff.1 hr).1]
    obtain ⟨given', r'', hrest⟩ :=
      ih hr' (openChosen k choose o d s).1 fun d hd => hclosed d (List.mem_cons_of_mem _ hd)
    rw [List.foldlM_cons, bind_apply]
    exact ⟨given ++ given', r'', hfirst.trans hrest⟩

theorem Takes.of_mem_given (h : Takes choose k ds o s r given o' s' r') {d' : Device}
    (hd' : d' ∈ given) :
    ∃ d ∈ ds, d.OpenedFor s.host.files k d' := by
  obtain ⟨i, rfl⟩ := List.mem_iff_get.1 hd'
  have hi :
      i.val < ((chosen choose o.choice ds).filter (Device.nodeOpens s.host.files)).length := by
    rw [h.opened.length_eq]
    exact i.isLt
  exact ⟨_, chosen_subset _ _ _ (List.mem_of_mem_filter (List.get_mem _ ⟨i, hi⟩)),
    h.opened.get hi i.isLt⟩

theorem Takes.members (h : Takes choose k ds o s r given o' s' r') (hidle : ∀ d ∈ ds, d.IsIdle) :
    ∀ d ∈ given, d.GivenBy k := by
  intro d' hd'
  obtain ⟨d, hd, handle, token, -, rfl⟩ := h.of_mem_given hd'
  exact ⟨rfl, (hidle d hd).fresh.claims, token, rfl⟩

theorem Takes.length_tokens (h : Takes choose k ds o s r given o' s' r') :
    (given.filterMap (Device.token? k)).length = given.length := by
  rw [List.filterMap_length_eq_length]
  intro d' hd'
  obtain ⟨d, -, handle, token, -, rfl⟩ := h.of_mem_given hd'
  simp [Device.token?]

/-! ## Opening what has been listed -/

theorem isIdle_of_list {settings : Settings} {host host' : Host} {found : Inventory}
    (hlist : list settings host = (found, host')) : ∀ d ∈ found.devices, d.IsIdle := by
  intro d hd
  have hmem : d ∈ (list settings host).1.devices := by rwa [hlist]
  obtain ⟨tree, ask, address, host₁, rfl⟩ := assembled_of_mem_list hmem
  exact ⟨Assembly.assemble_isFresh .., rfl⟩

theorem Takes.gains {n : ℕ} {tokens : List UInt64} (h : Takes choose k ds o s r given o' s' r')
    (hholds : r.Holds n tokens) (hfew : n + given.length < 2 ^ 64) : r.Gains k given r' := by
  have hheld := h.holds n tokens hholds hfew
  refine ⟨?_, ?_, hheld.members.nodup_iff.1 hheld.distinct⟩
  · show r'.tokens.length = r.tokens.length + given.length
    rw [← hheld.members.length_eq, ← hholds.members.length_eq, List.length_append, h.length_tokens]
  · exact hheld.members.symm.trans (hholds.members.append_right _)

/-- Every device that is listed is put to the choice. -/
theorem takes_openDevices {settings : Settings} {found : Inventory} {host : Host} {start : γ}
    (hr : s.registries[k]? = some r) (hlist : list settings s.host = (found, host))
    (hopening : openDevices k settings choose start s = (o', s')) :
    ∃ r', Takes choose k found.devices ⟨[], found.error, start⟩
      ⟨host, s.registries⟩ r o'.devices o' s' r' := by
  have hclosed : ∀ d ∈ found.devices, d.handle = none :=
    fun d hd => (isIdle_of_list hlist d hd).fresh.handle
  have hlisted : (⟨host, s.registries⟩ : Session).registries[k]? = some r := hr
  obtain ⟨given, r', htakes⟩ := takes_foldlM choose hlisted ⟨[], found.error, start⟩ hclosed
  rw [Program.openDevices_eq, hlist] at hopening
  rw [hopening] at htakes
  have hgiven : o'.devices = given := htakes.devices
  exact ⟨r', hgiven ▸ htakes⟩

/-- A device that a registry gives was listed, and has been opened for it. -/
theorem exists_openedFor_of_mem_openDevices (hr : s.registries[k]? = some r)
    {settings : Settings} {start : γ} {d' : Device}
    (hd' : d' ∈ (openDevices k settings choose start s).1.devices) :
    ∃ d ∈ (list settings s.host).1.devices, d.OpenedFor (list settings s.host).2.files k d' := by
  have hopening : openDevices k settings choose start s = (_, _) := rfl
  obtain ⟨r', htakes⟩ := takes_openDevices hr rfl hopening
  exact htakes.of_mem_given hd'

/-- The first device of the identifiers is given if its node opens. If it does not, its error is the
last one. -/
theorem Takes.first {i : Inventory} {vendor product : UInt16} {o o' : Opening Bool}
    (hstart : o = ⟨[], i.error, false⟩)
    (h : Takes (chooseFirst vendor product) k i.devices o s r o'.devices o' s' r') :
    o'.devices.length ≤ 1 ∧ (i.find? vendor product = none → o'.devices = [] ∧ o'.error = i.error) ∧
      ∀ d, i.find? vendor product = some d →
        (∀ e, d.refusal? s.host.files = some e → o'.devices = [] ∧ o'.error = some e) ∧
        (d.nodeOpens s.host.files = true → ∃ d',
          d.OpenedFor s.host.files k d' ∧ o'.devices = [d']) := by
  subst hstart
  have hopened := h.opened
  have herror := h.error
  rw [chosen_chooseFirst] at hopened herror
  change List.Forall₂ _ ((i.find? vendor product).toList.filter _) _ at hopened
  change _ = (List.filterMap _ (i.find? vendor product).toList).getLast?.or i.error at herror
  refine ⟨?_, fun hnone => ?_, fun d hfirst => ⟨fun e hrefused => ?_, fun hopens => ?_⟩⟩
  · rw [← hopened.length_eq]
    refine (List.length_filter_le _ _).trans ?_
    cases i.find? vendor product <;> simp
  · rw [hnone] at hopened herror
    exact ⟨List.forall₂_nil_left_iff.1 hopened, herror⟩
  · have hshut : ¬ d.nodeOpens s.host.files := by
      rw [← Device.refusal?_eq_none_iff, hrefused]
      rintro ⟨⟩
    rw [hfirst, Option.toList_some, List.filter_cons_of_neg hshut] at hopened
    rw [hfirst, Option.toList_some, List.filterMap_cons_some hrefused] at herror
    exact ⟨List.forall₂_nil_left_iff.1 hopened, herror⟩
  · rw [hfirst, Option.toList_some, List.filter_cons_of_pos hopens] at hopened
    obtain ⟨d', rest, hd', hrest, hdevices⟩ := List.forall₂_cons_left_iff.1 hopened
    obtain rfl : rest = [] := List.forall₂_nil_left_iff.1 hrest
    exact ⟨d', hd', hdevices⟩

theorem openFirst_of_openDevices {settings : Settings} {vendor product : UInt16} {o : Opening Bool}
    (h : openDevices k settings (chooseFirst vendor product) false s = (o, s')) :
    openFirst k settings vendor product s =
      (match o.devices.getLast?, o.error with
        | some d, _ => .ok (some d)
        | none, some e => .error e
        | none, none => .ok none, s') := by
  unfold openFirst
  rw [bind_apply, h]
  obtain ⟨devices, error, seen⟩ := o
  cases devices.getLast? <;> cases error <;> rfl

end Inventory

namespace Program

open Inventory

variable {p : Program} {k : ℕ} {r : Registry}

/-- Whatever the files, their access rights and the choice are: each device that is listed is put to
the choice once, in the order of the list. Those that are chosen and whose nodes open are given, in
this order, open, without claims and registered, and the registry counts as many more as long as it
has not registered 2^64 devices. The others are closed and not registered, so nothing happens when
they go out of use. The error is the last failure of an opening, or that of the list. Of the devices
of some identifiers only the first can be given, and it is if its node opens, whatever else has
failed. -/
theorem openDevices_gives_chosen (hp : p.Reached) (hr : p.session.registries[k]? = some r)
    {found : Inventory} {host : Host} (hlist : list r.settings p.session.host = (found, host)) :
    (∀ d ∈ found.devices, d.isOpen = false ∧ d.claims = Claims.none ∧ d.registration = none ∧
      (∀ s, d.close s = (d, s)) ∧ ∀ host e, (d.open host).1.1 = .error e →
        d.open host = ((.error e, d), host)) ∧
    (∀ {γ : Type} (choose : γ → Device → Bool × γ) (start : γ) (opening : Opening γ) (s' : Session),
      openDevices k r.settings choose start p.session = (opening, s') →
      opening.choice = found.devices.foldl (fun c d => (choose c d).2) start ∧
      List.Forall₂ (Device.OpenedFor p.session.host.files k)
        ((chosen choose start found.devices).filter (Device.nodeOpens p.session.host.files))
          opening.devices ∧
      (∀ d ∈ opening.devices, d.GivenBy k) ∧
      (∃ r', r.Gives k ⟨host, p.session.registries⟩ opening.devices s' r' ∧
        (p.given.count k + opening.devices.length < 2 ^ 64 → r.Gains k opening.devices r')) ∧
      opening.error =
        ((chosen choose start found.devices).filterMap
          (Device.refusal? p.session.host.files)).getLast?.or found.error) ∧
    ∀ (vendor product : UInt16) (outcome : Except Error (Option Device)) (s' : Session),
      openFirst k r.settings vendor product p.session = (outcome, s') →
      (∀ d ∈ outcome.toOption.join.toList, d.GivenBy k) ∧
      (∃ r', r.Gives k ⟨host, p.session.registries⟩ outcome.toOption.join.toList s' r' ∧
        (p.given.count k + 1 < 2 ^ 64 → r.Gains k outcome.toOption.join.toList r')) ∧
      (found.find? vendor product = none → outcome = match found.error with
        | some e => .error e | none => .ok none) ∧
      ∀ d, found.find? vendor product = some d →
        (∀ e, d.refusal? p.session.host.files = some e → outcome = .error e) ∧
        (d.nodeOpens p.session.host.files = true →
          ∃ d', d.OpenedFor p.session.host.files k d' ∧ outcome = .ok (some d')) := by
  have hidle : ∀ d ∈ found.devices, d.IsIdle := isIdle_of_list hlist
  have hfiles : host.files = p.session.host.files := by
    rw [← list_files r.settings p.session.host, hlist]
  have hholds : p.given.count k < 2 ^ 64 → r.Holds (p.given.count k) (p.tokens k) :=
    hp.sound.holds k r hr
  refine ⟨fun d hd => ⟨(hidle d hd).isOpen, (hidle d hd).fresh.claims, (hidle d hd).registration,
    (hidle d hd).close, fun host e he => (hidle d hd).of_open_error he⟩,
      fun choose start opening s' hopening => ?_,
    fun vendor product outcome s' houtcome => ?_⟩
  · obtain ⟨r', htakes⟩ := takes_openDevices hr hlist hopening
    have hgains : p.given.count k + opening.devices.length < 2 ^ 64 →
        r.Gains k opening.devices r' :=
      fun hfew => htakes.gains (hholds (by omega)) hfew
    have hopened := htakes.opened
    have herror := htakes.error
    rw [hfiles] at hopened herror
    exact ⟨htakes.choice, hopened, htakes.members hidle, ⟨r', htakes.toGives, hgains⟩, herror⟩
  · obtain ⟨opening, s'', hopening⟩ : ∃ opening s'',
      openDevices k r.settings (chooseFirst vendor product) false p.session = (opening, s'') :=
        ⟨_, _, rfl⟩
    obtain ⟨r', htakes⟩ := takes_openDevices hr hlist hopening
    obtain ⟨hone, hnone, hfirst⟩ := htakes.first rfl
    have hgiven := (openFirst_eq hr r.settings vendor product).1
    rw [houtcome, hopening] at hgiven
    change outcome.toOption.join.toList = opening.devices at hgiven
    rw [openFirst_of_openDevices hopening] at houtcome
    obtain ⟨hcome, rfl⟩ := Prod.mk.inj houtcome
    have hgains : p.given.count k + 1 < 2 ^ 64 → r.Gains k opening.devices r' :=
      fun hfew => htakes.gains (hholds (by omega)) (by omega)
    rw [hgiven]
    refine ⟨htakes.members hidle, ⟨r', htakes.toGives, hgains⟩, fun hfound => ?_,
      fun d hfound => ?_⟩
    · obtain ⟨hdevices, herror⟩ := hnone hfound
      rw [← hcome, hdevices, herror]
      cases found.error <;> rfl
    · rw [← hfiles]
      refine ⟨fun e hrefused => ?_, fun hopens => ?_⟩
      · obtain ⟨hdevices, herror⟩ := (hfirst d hfound).1 e hrefused
        rw [← hcome, hdevices, herror]
        rfl
      · obtain ⟨d', hd', hdevices⟩ := (hfirst d hfound).2 hopens
        refine ⟨d', hd', ?_⟩
        rw [← hcome, hdevices]
        rfl

/-- The choice of all devices, with their number. -/
def chooseAll (asked : ℕ) (_ : Device) : Bool × ℕ := (true, asked + 1)

/-- At the host with the hub both devices are given and counted. -/
theorem openDevices_gives_chosen_hub :
    ∃ (opening : Opening ℕ) (s' : Session) (r' : Registry) (hub d : Device),
      openDevices 0 smallSettings chooseAll 0 hubProgram.session = (opening, s') ∧
      opening.choice = 2 ∧ opening.devices = [hub, d] ∧ hub.isOpen = true ∧ d.isOpen = true ∧
      s'.registries = [r'] ∧ r'.openCount = 2 := by
  obtain ⟨hub, d, hdevices, ⟨hhub, -⟩, ⟨hd, -⟩⟩ := list_hubHost
  have hr : hubProgram.session.registries[0]? = some (.new smallSettings) := rfl
  have hlist : list (Registry.new smallSettings).settings hubProgram.session.host =
      ((list smallSettings hubHost).1, (list smallSettings hubHost).2) := rfl
  obtain ⟨-, hopenDevices, -⟩ := openDevices_gives_chosen reached_hubProgram hr hlist
  obtain ⟨hchoice, hopened, hmembers, ⟨r', hgives, hgains⟩, -⟩ := hopenDevices chooseAll 0 _ _ rfl
  have hopens : ∀ d ∈ (list smallSettings hubHost).1.devices,
      d.address = ⟨1, 1⟩ ∨ d.address = ⟨1, 2⟩ →
      d.nodeOpens hubFiles = true := by
    intro d hmem haddress
    obtain ⟨tree, ask, hints, host₁, hmade⟩ := assembled_of_mem_list hmem
    have hroot : d.nodeRoot = smallSettings.nodeRoot := by rw [hmade]; rfl
    obtain haddress | haddress := haddress
    · rw [Device.nodeOpens, Device.node, hroot, haddress]
      cbv
    · rw [Device.nodeOpens, Device.node, hroot, haddress]
      cbv
  rw [hdevices] at hopens hchoice hopened
  have hboth : (chosen chooseAll 0 [hub, d]).filter (Device.nodeOpens hubFiles) = [hub, d] := by
    refine List.filter_eq_self.2 fun d' hd' => hopens d' hd' ?_
    obtain rfl | rfl : d' = hub ∨ d' = d := by simpa [chosen, chooseAll] using hd'
    · exact .inl hhub
    · exact .inr hd
  change List.Forall₂ _ ((chosen chooseAll 0 [hub, d]).filter (Device.nodeOpens hubFiles)) _
    at hopened
  rw [hboth] at hopened
  obtain ⟨hub', others, -, hothers, hgiven⟩ := List.forall₂_cons_left_iff.1 hopened
  obtain ⟨d', last, -, hlast, rfl⟩ := List.forall₂_cons_left_iff.1 hothers
  obtain rfl := List.forall₂_nil_left_iff.1 hlast
  rw [hgiven] at hmembers hgives hgains
  have hfew : hubProgram.given.count 0 + [hub', d'].length < 2 ^ 64 := by
    show 0 + 2 < 2 ^ 64
    decide
  exact ⟨_, _, r', hub', d', rfl, hchoice, hgiven, (hmembers hub' (by simp)).isOpen,
    (hmembers d' (by simp)).isOpen, hgives.registries, (hgains hfew).openCount⟩

end Program

end UsbAccess
