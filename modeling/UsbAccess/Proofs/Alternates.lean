import Mathlib
import UsbAccess.Proofs.Selection

/-!
# Alternate settings

An interface is filled from the first record of its number, and the records of its other alternate
settings are passed over. When another alternate setting is selected the interface takes its value
and nothing more: it still lists the endpoints of the record that filled it, since those of the
other records are nowhere kept.

Results:
* `Device.MadeFrom.slot?_of_fills`: an interface that is filled from a record is what this record
  describes.
* `Device.After.slot?_eq`: after a run, each interface is as at first but for the alternate that was
  selected last.
* `Device.endpoints_of_filling_record`: both together, and what a selection leaves as it is.
-/

namespace UsbAccess

open Descriptor

/-! ## Alternates of an interface -/

namespace Interface

/-- The interface with another alternate. -/
def withAlternate (i : Interface) (alternate : UInt8) : Interface :=
  { i with alternate := alternate }

@[simp]
theorem withAlternate_self (i : Interface) : i.withAlternate i.alternate = i := rfl

@[simp]
theorem withAlternate_withAlternate (i : Interface) (a b : UInt8) :
    (i.withAlternate a).withAlternate b = i.withAlternate b := rfl

@[simp]
theorem alternate_withAlternate (i : Interface) (a : UInt8) : (i.withAlternate a).alternate = a :=
  rfl

@[simp]
theorem endpoints_withAlternate (i : Interface) (a : UInt8) :
    (i.withAlternate a).endpoints = i.endpoints := rfl

/-- The endpoints that a record lists. -/
def listed (r : InterfaceTree) : List Endpoint :=
  r.endpoints.map (Endpoint.ofRecord · r.record.number)

/-- The record describes the interface in its present alternate setting. -/
def IsDescribedBy (i : Interface) (r : InterfaceTree) : Prop :=
  r.record.number = i.number ∧ r.record.alternate = i.alternate

/-- The interface lists the endpoints of a record of its configuration for its present alternate
setting, if there is such a record. -/
def ListsPresent (t : ConfigurationTree) (i : Interface) : Prop :=
  (∃ r ∈ t.interfaces, i.IsDescribedBy r) → ∃ r ∈ t.interfaces,
    i.IsDescribedBy r ∧ i.endpoints = listed r

end Interface

namespace Device

/-! ## Slots -/

/-- The interface at number `j` of the configuration at place `k`. -/
def slot? (d : Device) (k j : ℕ) : Option Interface :=
  d.configurations[k]?.bind fun c => c.interfaces[j]?

/-- The interface at number `j` of the configuration at place `k` is filled from the record `r` of
that configuration's record `t`: there is such a place and such a number, `t` is the last record for
the place and `r` the first for the number. -/
structure Fills (tree : DeviceTree) (k j : ℕ) (t : ConfigurationTree)
    (r : InterfaceTree) : Prop where
  place : k < tree.record.configurationCount.toNat
  configuration : tree.atValue? (k + 1) = some t
  number : j < t.record.interfaceCount.toNat
  interface : t.atNumber? j = some r

theorem Keeps.configurations {d d' : Device} (h : d.Keeps d') :
    d'.configurations = d.configurations := by
  obtain ⟨handle, claims, rfl, -⟩ := h
  rfl

theorem Keeps.address {d d' : Device} (h : d.Keeps d') : d'.address = d.address := by
  obtain ⟨handle, claims, rfl, -⟩ := h
  rfl

theorem Passes.configurations {d d' : Device} {registries registries' : List Registry}
    (h : d.Passes registries d' registries') : d'.configurations = d.configurations := by
  cases h with
  | stays h => exact h.configurations
  | leaves => rfl

theorem slot?_of_configurations {d d' : Device}
    (h : d'.configurations = d.configurations) (k j : ℕ) :
    d'.slot? k j = d.slot? k j := by
  rw [slot?, slot?, h]

/-- An interface is what the first record of its number describes, and empty if there is none. -/
theorem MadeFrom.slot?_of_record {tree : DeviceTree} {d : Device} (h : d.MadeFrom tree) {k j : ℕ}
    {t : ConfigurationTree} (hplace : k < tree.record.configurationCount.toNat)
    (hconfiguration : tree.atValue? (k + 1) = some t)
    (hnumber : j < t.record.interfaceCount.toNat) :
    d.slot? k j =
      some (((t.atNumber? j).map (Interface.ofTree · d.address)).getD
        (.empty j.toUInt8 d.address)) := by
  obtain ⟨σ, settings, files, ask, hints, s, hmade⟩ := h
  rw [slot?_of_configurations hmade.configurations, hmade.address, slot?,
    Assembly.assemble_configurations, List.getElem?_map, Placement.getElem?_configurations hplace,
    hconfiguration]
  simp only [Option.map_some, Option.getD_some, Option.bind_some]
  show ((Placement.interfaces t hints.address).map _)[j]? = _
  rw [List.getElem?_map, Placement.getElem?_interfaces hnumber]
  cases t.atNumber? j <;> rfl

/-- An interface that is filled from a record is what this record describes. -/
theorem MadeFrom.slot?_of_fills {tree : DeviceTree} {d : Device} (h : d.MadeFrom tree) {k j : ℕ}
    {t : ConfigurationTree} {r : InterfaceTree} (hfills : Fills tree k j t r) :
    d.slot? k j = some (.ofTree r d.address) := by
  rw [h.slot?_of_record hfills.place hfills.configuration hfills.number, hfills.interface]
  rfl

/-! ## Selecting -/

theorem slot?_setAlternate (d : Device) (number alternate : UInt8) (k j : ℕ) :
    (d.setAlternate number alternate).slot? k j = (d.slot? k j).map fun i =>
      if d.active = some k ∧ number.toNat = j then i.withAlternate alternate else i := by
  unfold setAlternate
  cases hactive : d.active with
  | none => simp
  | some index =>
    show ((d.configurations.modify index _)[k]?.bind fun c => c.interfaces[j]?) = _
    rw [List.getElem?_modify, slot?]
    cases hc : d.configurations[k]? with
    | none => simp
    | some c =>
      by_cases hk : index = k
      · by_cases hj : number.toNat = j
        · simp [hk, hj, Interface.withAlternate]
        · simp [hk, hj]
      · simp [hk]

/-- The alternate that an operation with this outcome selects for the interface at number `j` of the
configuration at place `k`, on a device on which the configuration at place `active` is active. -/
def selectedAlternate? (active : Option ℕ) (k j : ℕ) : Operation × Except Error Unit → Option UInt8
  | (.selectAlternate number alternate, .ok _) =>
    if active = some k ∧ number.toNat = j then some alternate else none
  | _ => none

/-- The place of the configuration that is active after operations with these outcomes, the latest
first. -/
def activeAfter (start : Option ℕ) (log : List (Operation × Except Error Unit)) : Option ℕ :=
  match lastSelected? log with
  | some value => some (value.toNat - 1)
  | none => start

/-- The alternate that operations with these outcomes, the latest first, have selected last for the
interface at number `j` of the configuration at place `k`. -/
def lastAlternate? (start : Option ℕ) (k j : ℕ) : List (Operation × Except Error Unit) →
    Option UInt8
  | [] => none
  | entry :: earlier =>
    (selectedAlternate? (activeAfter start earlier) k j entry).or (lastAlternate? start k j earlier)

/-- An operation changes no interface, or only its alternate, by selecting it. -/
theorem slot?_perform (d : Device) (op : Operation) (k j : ℕ) :
    Always (fun o => o.2.slot? k j = (d.slot? k j).map fun i =>
      i.withAlternate ((selectedAlternate? d.active k j (op, o.1)).getD i.alternate))
        (op.perform d) := by
  rintro ⟨host, registries⟩
  have hsame : ∀ d' : Device, d'.configurations = d.configurations →
      d'.slot? k j = (d.slot? k j).map fun i =>
        i.withAlternate ((none : Option UInt8).getD i.alternate) := by
    intro d' hd'
    simp [slot?_of_configurations hd']
  cases op with
  | selectAlternate number alternate =>
    have hchanges := changes_selectAlternate d number alternate host
    show (d.selectAlternate number alternate host).1.2.slot? k j = (d.slot? k j).map fun i =>
      i.withAlternate ((selectedAlternate? d.active k j
        (.selectAlternate number alternate, (d.selectAlternate number alternate host).1.1)).getD
          i.alternate)
    cases houtcome : (d.selectAlternate number alternate host).1.1 with
    | error e =>
      rw [Changes, houtcome] at hchanges
      exact hsame _ (congrArg Device.configurations hchanges)
    | ok _ =>
      rw [Changes, houtcome] at hchanges
      rw [hchanges, slot?_setAlternate]
      by_cases hslot : d.active = some k ∧ number.toNat = j
      · simp [selectedAlternate?, hslot]
      · simp [selectedAlternate?, hslot]
  | selectConfiguration value =>
    refine hsame (d.selectConfiguration value host).1.2 ?_
    obtain hchanged | hkept := (changes_selectConfiguration d value host).eq_or
    · rw [hchanged]
    · rw [hkept]
  | «open» => exact hsame _ (keeps_open d host).1.configurations
  | close => exact hsame _ ((Keeps.refl d).passes_close registries host).configurations
  | claimInterface number => exact hsame _ (keeps_claimInterface d number host).configurations
  | releaseInterface number => exact hsame _ (keeps_releaseInterface d number host).configurations
  | beginDefault => exact hsame _ (passes_beginDefault d registries host).configurations
  | endDefault number => exact hsame _ (passes_endDefault d number registries host).configurations
  | drop => exact hsame _ ((Keeps.refl d).passes_close registries host).configurations

namespace After

variable {d₀ d : Device} {log : List (Operation × Except Error Unit)} {tree : DeviceTree}

theorem active_eq (h : d₀.After log d) (hd₀ : d₀.InPlace tree) :
    d.active = activeAfter d₀.active log := by
  have hactive := h.active hd₀
  rw [activeAfter]
  generalize lastSelected? log = last at hactive ⊢
  cases hactive with
  | kept hkept => exact hkept
  | selected _ _ hselected => exact hselected

/-- After a run, each interface is as at first but for the alternate that was selected last. -/
theorem slot?_eq (h : d₀.After log d) (hd₀ : d₀.InPlace tree) (k j : ℕ) :
    d.slot? k j = (d₀.slot? k j).map fun i =>
      i.withAlternate ((lastAlternate? d₀.active k j log).getD i.alternate) := by
  induction h with
  | start => simp [lastAlternate?]
  | @operation log d op s h ih =>
    rw [slot?_perform d op k j s, ih, h.active_eq hd₀, Option.map_map, lastAlternate?]
    congr 1
    funext i
    cases selectedAlternate? (activeAfter d₀.active log) k j (op, (op.perform d s).1.1) with
    | none => rfl
    | some alternate => rfl

end After

/-! ## Looking up after a selection -/

theorem activeConfiguration?_setAlternate (d : Device) (number alternate : UInt8) :
    (d.setAlternate number alternate).activeConfiguration? = d.activeConfiguration?.map fun c =>
      { c with
        interfaces := c.interfaces.modify number.toNat fun i => i.withAlternate alternate } := by
  unfold setAlternate
  cases hactive : d.active with
  | none => simp [activeConfiguration?, hactive]
  | some index =>
    simp only [activeConfiguration?, hactive, Option.bind_some]
    show (d.configurations.modify index _)[index]? = _
    rw [List.getElem?_modify]
    simp only [if_true]
    rfl

theorem interface_of_slot? {d : Device} {k : ℕ} {n : UInt8} {i : Interface}
    (hactive : d.active = some k) (hslot : d.slot? k n.toNat = some i) : d.interface n = .ok i := by
  obtain ⟨c, hc, hi⟩ := Option.bind_eq_some_iff.1 hslot
  have hsome : c.interfaces ≠ [] := by
    intro hnone
    simp [hnone] at hi
  simp [interface, activeConfiguration?, hactive, hc, hsome, hi]

theorem interface_setAlternate {d : Device} {n : UInt8} {i : Interface}
    (hok : d.interface n = .ok i) (alternate : UInt8) :
    (d.setAlternate n alternate).interface n = .ok (i.withAlternate alternate) := by
  obtain ⟨c, hc, hi⟩ := interface_eq_ok hok
  have hsome : c.interfaces ≠ [] := by
    intro hnone
    simp [hnone] at hi
  have hmodified : (c.interfaces.modify n.toNat fun i => i.withAlternate alternate) ≠ [] := by
    intro hnone
    exact hsome (List.modify_eq_nil_iff.1 hnone)
  unfold interface
  rw [activeConfiguration?_setAlternate, hc]
  simp [hmodified, hi]

/-- An alternate setting is selected if the interface is there and the request is granted. -/
theorem selectAlternate_of_answer {d : Device} {number alternate : UInt8} {host : Host} {h : Handle}
    {i : Interface} {reply : Reply} (hhandle : d.handle = some h) (hi : d.interface number = .ok i)
    (hanswer : (Host.ask h (.setInterface number alternate) host).1 = .ok reply) :
    (d.selectAlternate number alternate host).1 = (.ok (), d.setAlternate number alternate) := by
  unfold selectAlternate requireHandle Handle.selectAlternate Handle.tell
  simp only [hi, hhandle, Inventory.bind_apply, hanswer]
  rfl

/-- The endpoints of the active configuration are the same whatever alternate is selected. -/
theorem endpoint_setAlternate (d : Device) (number alternate address : UInt8) :
    (d.setAlternate number alternate).endpoint address = d.endpoint address := by
  have hendpoints : ∀ interfaces : List Interface,
      (interfaces.modify number.toNat fun i => i.withAlternate alternate).map Interface.endpoints =
        interfaces.map Interface.endpoints := by
    intro interfaces
    apply List.ext_getElem?
    intro j
    simp only [List.getElem?_map, List.getElem?_modify]
    cases interfaces[j]? with
    | none => simp
    | some i => by_cases hj : number.toNat = j <;> simp [hj]
  unfold endpoint
  rw [activeConfiguration?_setAlternate]
  cases d.activeConfiguration? with
  | none =>
    have haddress : (d.setAlternate number alternate).address = d.address := by
      unfold setAlternate
      split <;> rfl
    simp [haddress]
  | some c => simp [List.flatMap_def, hendpoints]

/-- An alternate setting that has been selected is one of an interface that was there, and it is
there now, with the endpoints it had, whichever way they are looked up. -/
structure KeepsEndpoints (d d' : Device) (number alternate : UInt8) (i : Interface) : Prop where
  before : d.interface number = .ok i
  after : d'.interface number = .ok (i.withAlternate alternate)
  out : (i.withAlternate alternate).out? = i.out?
  into : (i.withAlternate alternate).in? = i.in?
  endpoint : ∀ address, d'.endpoint address = d.endpoint address

theorem keepsEndpoints_selectAlternate {d : Device} {number alternate : UInt8} {host : Host}
    (hok : (d.selectAlternate number alternate host).1.1 = .ok ()) :
    ∃ i, d.KeepsEndpoints (d.selectAlternate number alternate host).1.2 number alternate i := by
  have hchanged : (d.selectAlternate number alternate host).1.2 =
      d.setAlternate number alternate := by
    have hchanges := changes_selectAlternate d number alternate host
    rwa [Changes, hok] at hchanges
  cases hi : d.interface number with
  | error e =>
    unfold selectAlternate at hok
    rw [hi] at hok
    cases hok
  | ok i =>
    rw [hchanged]
    exact ⟨i, hi, interface_setAlternate hi alternate, rfl, rfl,
      endpoint_setAlternate d number alternate⟩

/-- Whatever a program does with a device that comes from a tree of records, an interface that was
filled from a record lists exactly the endpoints of this record, the first of its number. Its
alternate is the one that was selected last for it, and else that of the record; as long as it is
that of the record, the interface lists the endpoints of a record for its present alternate setting.
Once another one has been selected, the endpoints of the interface and of the device are found as
before. -/
theorem endpoints_of_filling_record {tree : DeviceTree} {d₀ d : Device}
    {log : List (Operation × Except Error Unit)} (hcomes : d₀.ComesFrom tree)
    (hafter : d₀.After log d) :
    (∀ k j t r, Fills tree k j t r → ∃ i, d.slot? k j = some i ∧ i.endpoints = Interface.listed r ∧
      i.alternate = (lastAlternate? d₀.active k j log).getD r.record.alternate ∧
      (i.alternate = r.record.alternate → i.ListsPresent t)) ∧
    ∀ number alternate host, (d.selectAlternate number alternate host).1.1 = .ok () →
      ∃ i, d.KeepsEndpoints (d.selectAlternate number alternate host).1.2 number alternate i := by
  constructor
  · intro k j t r hfills
    have hslot := hafter.slot?_eq hcomes.inPlace k j
    rw [hcomes.made.slot?_of_fills hfills] at hslot
    refine ⟨_, hslot, rfl, rfl, fun hpresent _ => ?_⟩
    exact ⟨r, List.mem_of_find?_eq_some hfills.interface, ⟨rfl, hpresent.symm⟩, rfl⟩
  · intro number alternate host hok
    exact keepsEndpoints_selectAlternate hok

end Device

/-! ## An interface with two alternate settings -/

/-- Interface 0 receives in its alternate setting 0. -/
def receivingTree : InterfaceTree :=
  ⟨⟨9, interfaceKind, 0, 0, 1, 0xff, 0, 0, 0⟩, [⟨7, endpointKind, 0x81, 2, 64, 0⟩]⟩

/-- In its alternate setting 1 it sends. -/
def sendingTree : InterfaceTree :=
  ⟨⟨9, interfaceKind, 0, 1, 1, 0xff, 0, 0, 0⟩, [⟨7, endpointKind, 0x02, 2, 64, 0⟩]⟩

/-- The records of a device with this interface. -/
def alternatesTree : DeviceTree :=
  ⟨smallTree.record,
    [⟨⟨9, configurationKind, 41, 1, 1, 0, 0xc0, 50⟩, [receivingTree, sendingTree]⟩]⟩

/-- The device of these records, put together without files. -/
def alternatesMade : Device :=
  (Assembly.assemble ⟨.ofText "/", .ofText "/s", none⟩ (.empty []) Inquiry.ofNode alternatesTree
    ⟨⟨1, 2⟩, none⟩
    (smallSession grantingKernel).host).1.device

/-- The device when it is open. -/
def alternatesOpened : Device := { alternatesMade with handle := some smallHandle }

theorem node_alternatesMade : alternatesMade.node = nodePath (.ofText "/") ⟨1, 2⟩ := by
  have haddress : alternatesMade.address = ⟨1, 2⟩ :=
    Assembly.assemble_address _ _ _ _ ⟨⟨1, 2⟩, none⟩ _ (by decide)
    (by decide)
  have hroot : alternatesMade.nodeRoot = .ofText "/" := rfl
  rw [Device.node, hroot, haddress]

theorem open_alternatesMade (kernel : Kernel) :
    Device.Operation.open.perform alternatesMade (smallSession kernel) =
      ((.ok (), alternatesOpened), smallOpenedSession kernel) := by
  have hnode : smallFiles.openToUpdate alternatesMade.node = .ok smallNode := by
    rw [node_alternatesMade]
    cbv
  have hclosed : alternatesMade.handle = none := rfl
  have hopened : alternatesMade.open (smallSession kernel).host = _ :=
    Device.open_of_node hclosed hnode
  show Session.onHost alternatesMade.open (smallSession kernel) = _
  unfold Session.onHost
  rw [hopened]
  rfl

theorem fills_alternatesTree : Device.Fills alternatesTree 0 0
    ⟨⟨9, configurationKind, 41, 1, 1, 0, 0xc0, 50⟩, [receivingTree, sendingTree]⟩ receivingTree :=
  ⟨by decide, by decide, by decide, by decide⟩

theorem active_alternatesMade : alternatesMade.active = some 0 := by
  have hcomes : alternatesMade.ComesFrom alternatesTree := .assembled ..
  exact hcomes.made.active_of_single rfl

/-- The interface is at first that of alternate setting 0. -/
theorem slot?_alternatesMade :
    alternatesMade.slot? 0 0 = some (.ofTree receivingTree alternatesMade.address) :=
  (Device.MadeFrom.assembled ..).slot?_of_fills fills_alternatesTree

/-- The device when alternate setting 1 has been selected. -/
def alternatesSelected : Device := alternatesOpened.setAlternate 0 1

theorem selectAlternate_alternatesOpened :
    (alternatesOpened.selectAlternate 0 1 (smallOpenedSession grantingKernel).host).1 =
      (.ok (), alternatesSelected) :=
  Device.selectAlternate_of_answer rfl
    (Device.interface_of_slot? active_alternatesMade slot?_alternatesMade) rfl

theorem after_open_alternatesMade : alternatesMade.After [(.open, .ok ())] alternatesOpened := by
  have hopened := (Device.After.start : alternatesMade.After [] alternatesMade).operation .open
    (smallSession grantingKernel)
  rwa [open_alternatesMade] at hopened

theorem after_select_alternatesMade :
    alternatesMade.After [(.selectAlternate 0 1, .ok ()), (.open, .ok ())] alternatesSelected := by
  have hselected :=
    after_open_alternatesMade.operation (.selectAlternate 0 1) (smallOpenedSession grantingKernel)
  have hperform : ((Device.Operation.selectAlternate 0 1).perform alternatesOpened
      (smallOpenedSession grantingKernel)).1 = (.ok (), alternatesSelected) :=
        selectAlternate_alternatesOpened
  rwa [hperform] at hselected

theorem slot?_alternatesSelected :
    alternatesSelected.slot? 0 0 =
      some ((Interface.ofTree receivingTree alternatesMade.address).withAlternate 1) := by
  have hactive : alternatesOpened.active = some 0 := active_alternatesMade
  have hslot : alternatesOpened.slot? 0 0 = _ := slot?_alternatesMade
  rw [alternatesSelected, Device.slot?_setAlternate, hslot, hactive]
  rfl

namespace Device

/-- Alternate setting 1 of the interface sends, but once it has been selected the interface still
lists the endpoint that receives. -/
theorem not_lists_present_alternatesTree :
    ¬ ∀ (tree : DeviceTree) (d₀ d : Device) (log : List (Operation × Except Error Unit)) (k j : ℕ)
      (t : ConfigurationTree) (r : InterfaceTree) (i : Interface),
      d₀.ComesFrom tree → d₀.After log d → Fills tree k j t r → d.slot? k j = some i →
      i.ListsPresent t := by
  intro hall
  obtain ⟨r, hr, ⟨-, halternate⟩, hendpoints⟩ :=
    hall _ _ _ _ _ _ _ _ _ (.assembled ..) after_select_alternatesMade
    fills_alternatesTree slot?_alternatesSelected ⟨sendingTree, by simp, rfl, rfl⟩
  simp only [List.mem_cons, List.not_mem_nil, or_false] at hr
  rcases hr with rfl | rfl
  · cases halternate
  · cases hendpoints

/-- The interface has alternate 1 then, lists the endpoint 0x81 of the record that filled it, and
keeps it when the setting is selected. -/
theorem endpoints_of_filling_record_alternatesTree :
    (∃ i, alternatesSelected.slot? 0 0 = some i ∧ i.alternate = 1 ∧
      i.endpoints.map Endpoint.address = [0x81]) ∧
    ∃ i, alternatesOpened.KeepsEndpoints (alternatesOpened.selectAlternate 0 1
      (smallOpenedSession grantingKernel).host).1.2 0 1 i := by
  have hcomes : alternatesMade.ComesFrom alternatesTree := .assembled ..
  constructor
  · obtain ⟨hfilled, -⟩ := endpoints_of_filling_record hcomes after_select_alternatesMade
    obtain ⟨i, hslot, hendpoints, halternate, -⟩ := hfilled 0 0 _ _ fills_alternatesTree
    refine ⟨i, hslot, ?_, ?_⟩
    · rw [halternate, active_alternatesMade]
      decide
    · rw [hendpoints]
      decide
  · obtain ⟨-, hselected⟩ := endpoints_of_filling_record hcomes after_open_alternatesMade
    exact hselected 0 1 _ (congrArg Prod.fst selectAlternate_alternatesOpened)

end Device

end UsbAccess
