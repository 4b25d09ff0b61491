import Mathlib
import UsbAccess.Proofs.ClaimLedger
import UsbAccess.Proofs.Keeping
import UsbAccess.Proofs.Places
import UsbAccess.Proofs.RecordTree
import UsbAccess.Proofs.Run
import UsbAccess.Proofs.Survey

/-!
# The parts of a device

A device finds its parts by counting: a configuration by its value, an interface by its number. This
works because each part stands at its place from the time the device is put together, whatever its
records say, and is never moved by an operation.

Results:
* `Assembly.assemble_inPlace`: in a device that has been put together each part stands in its place.
* `Run.inPlace`: along every run each part stays in its place.
* `interface_invalid_iff`: which numbers are no interface's.
* `parts_in_place`: both together, for every device that is put together, listed or opened.
-/

namespace UsbAccess

open Descriptor

/-! ## Parts in their places -/

/-- An interface that stands at number `j` of a device: it has this number, and so have its
endpoints. -/
structure Interface.InPlace (j : ℕ) (device : BusAddress) (i : Interface) : Prop where
  number : i.number.toNat = j
  device_eq : i.device = device
  endpoints : ∀ e ∈ i.endpoints, e.interface.toNat = j ∧ e.transferType < 4 ∧
    e.maxIsochronousPacketSize = e.maxPacketSize

/-- A configuration that stands at place `i`, for value `i + 1`, of a device: it has as many
interfaces as its record says, or none for want of a record, each in its place. -/
structure Configuration.InPlace (i : ℕ) (device : BusAddress) (t : Option ConfigurationTree)
    (c : Configuration) : Prop where
  value : c.value.toNat = i + 1
  device_eq : c.device = device
  length : c.interfaces.length = (t.map fun t => t.record.interfaceCount.toNat).getD 0
  interfaces : ∀ (j : ℕ) (i : Interface), c.interfaces[j]? = some i → i.InPlace j device

/-- The device has as many configurations as its record says, each in its place. -/
structure Device.InPlace (tree : DeviceTree) (d : Device) : Prop where
  length : d.configurations.length = tree.record.configurationCount.toNat
  configurations : ∀ (i : ℕ) (c : Configuration), d.configurations[i]? = some c →
    c.InPlace i d.address (tree.atValue? (i + 1))

/-! ## Putting together -/

theorem EndpointRecord.transferType_lt (r : EndpointRecord) : r.transferType < 4 := by
  have h : ∀ attributes : UInt8, attributes &&& 3 < 4 := by
    intro attributes
    rw [UInt8.lt_iff_toNat_lt, UInt8.toNat_and]
    exact Nat.lt_succ_of_le Nat.and_le_right
  exact h r.attributes

theorem Interface.InPlace.ofTree {t : InterfaceTree} {j : ℕ} (hnumber : t.record.number.toNat = j)
    (device : BusAddress) : (Interface.ofTree t device).InPlace j device where
  number := hnumber
  device_eq := rfl
  endpoints e he := by
    obtain ⟨r, -, rfl⟩ := List.mem_map.1 he
    exact ⟨hnumber, EndpointRecord.transferType_lt r, rfl⟩

theorem Interface.InPlace.empty {j : ℕ} (hj : j < 256) (device : BusAddress) :
    (Interface.empty j.toUInt8 device).InPlace j device where
  number := UInt8.toNat_ofNat_of_lt hj
  device_eq := rfl
  endpoints e he := by cases he

theorem Interface.InPlace.relink {i : Interface} {j : ℕ} {device : BusAddress}
    (hi : i.InPlace j device) (device' : BusAddress) :
    ({ i with device := device' } : Interface).InPlace j device' :=
  ⟨hi.number, rfl, hi.endpoints⟩

theorem Configuration.InPlace.ofTree {t : ConfigurationTree} {i : ℕ}
    (hvalue : t.record.value.toNat = i + 1) (device : BusAddress) :
    (Placement.configuration t device).InPlace i device (some t) where
  value := hvalue
  device_eq := rfl
  length := Placement.length_interfaces t device
  interfaces j interface hinterface := by
    have hj : j < t.record.interfaceCount.toNat := by
      rw [← Placement.length_interfaces t device]
      exact (List.getElem?_eq_some_iff.1 hinterface).1
    have hplace : (Placement.interfaces t device)[j]? = _ := Placement.getElem?_interfaces hj
    change (Placement.interfaces t device)[j]? = some interface at hinterface
    rw [hplace, Option.some.injEq] at hinterface
    subst hinterface
    cases hfirst : t.atNumber? j with
    | none => exact .empty (by have := t.record.interfaceCount.toNat_lt; omega) device
    | some first => exact .ofTree (by simpa using List.find?_some hfirst) device

theorem Configuration.InPlace.empty {i : ℕ} (hi : i < 255) (device : BusAddress) :
    (Configuration.empty (i + 1).toUInt8 device).InPlace i device none where
  value := UInt8.toNat_ofNat_of_lt (by show i + 1 < 256; omega)
  device_eq := rfl
  length := rfl
  interfaces j interface hinterface := by cases hinterface

theorem Configuration.InPlace.relink {c : Configuration} {i : ℕ} {device : BusAddress}
    {t : Option ConfigurationTree} (hc : c.InPlace i device t) (device' : BusAddress) :
    (c.relink device').InPlace i device' t where
  value := hc.value
  device_eq := rfl
  length := by rw [Configuration.relink, List.length_map, hc.length]
  interfaces j interface hinterface := by
    rw [Configuration.relink, List.getElem?_map] at hinterface
    obtain ⟨interface₀, hinterface₀, rfl⟩ := Option.map_eq_some_iff.1 hinterface
    exact (hc.interfaces j interface₀ hinterface₀).relink device'

theorem Placement.configurations_inPlace {tree : DeviceTree} {device : BusAddress} {i : ℕ}
    {c : Configuration} (hc : (configurations tree device)[i]? = some c) :
    c.InPlace i device (tree.atValue? (i + 1)) := by
  have hi : i < tree.record.configurationCount.toNat := by
    rw [← length_configurations tree device]
    exact (List.getElem?_eq_some_iff.1 hc).1
  rw [getElem?_configurations hi, Option.some.injEq] at hc
  subst hc
  cases hlast : tree.atValue? (i + 1) with
  | none => exact .empty (by have := tree.record.configurationCount.toNat_lt; omega) device
  | some last => exact .ofTree (by simpa using List.find?_some hlast) device

theorem Assembly.assemble_configurations {σ : Type} (settings : Settings) (files : FileTree)
    (ask : Path → Inquiry σ) (tree : DeviceTree) (hints : Hints) (s : σ) :
    (assemble settings files ask tree hints s).1.device.configurations =
      (Placement.configurations tree hints.address).map fun c =>
        c.relink (assemble settings files ask tree hints s).1.device.address := rfl

/-- However a device is put together, its parts are in their places. -/
theorem Assembly.assemble_inPlace {σ : Type} (settings : Settings) (files : FileTree)
    (ask : Path → Inquiry σ) (tree : DeviceTree) (hints : Hints) (s : σ) :
    (assemble settings files ask tree hints s).1.device.InPlace tree where
  length := by rw [assemble_configurations, List.length_map, Placement.length_configurations]
  configurations i c hc := by
    rw [assemble_configurations, List.getElem?_map] at hc
    obtain ⟨c₀, hc₀, rfl⟩ := Option.map_eq_some_iff.1 hc
    exact (Placement.configurations_inPlace hc₀).relink _

/-! ## Operations -/

namespace Device

theorem Keeps.inPlace {d d' : Device} {tree : DeviceTree} (h : d.Keeps d') (hd : d.InPlace tree) :
    d'.InPlace tree := by
  obtain ⟨handle, claims, rfl, -⟩ := h
  exact ⟨hd.length, hd.configurations⟩

theorem Passes.inPlace {d d' : Device} {registries registries' : List Registry} {tree : DeviceTree}
    (h : d.Passes registries d' registries') (hd : d.InPlace tree) : d'.InPlace tree := by
  cases h with
  | stays h => exact h.inPlace hd
  | leaves => exact ⟨hd.length, hd.configurations⟩

/-- Another alternate setting leaves each part in its place. -/
theorem InPlace.setAlternate {d : Device} {tree : DeviceTree} (hd : d.InPlace tree)
    (number alternate : UInt8) :
    (d.setAlternate number alternate).InPlace tree := by
  unfold Device.setAlternate
  split
  · next index hindex =>
    refine ⟨(List.length_modify ..).trans hd.length, fun i c hc => ?_⟩
    change (d.configurations.modify index _)[i]? = some c at hc
    rw [List.getElem?_modify] at hc
    obtain ⟨c₀, hc₀, hmodified⟩ := Option.map_eq_some_iff.1 hc
    have hplace := hd.configurations i c₀ hc₀
    split_ifs at hmodified
    · subst hmodified
      refine ⟨hplace.value, hplace.device_eq, (List.length_modify ..).trans hplace.length,
        fun j interface hj => ?_⟩
      rw [List.getElem?_modify] at hj
      obtain ⟨interface₀, hinterface₀, hchanged⟩ := Option.map_eq_some_iff.1 hj
      have hinterface := hplace.interfaces j interface₀ hinterface₀
      split_ifs at hchanged
      · subst hchanged
        exact ⟨hinterface.number, hinterface.device_eq, hinterface.endpoints⟩
      · rw [← hchanged]
        exact hinterface
    · rw [← hmodified]
      exact hplace
  · exact hd

theorem Changes.inPlace {d changed : Device} {o : Outcome Unit} {tree : DeviceTree}
    (h : d.Changes changed o) (hchanged : changed.InPlace tree) (hd : d.InPlace tree) :
    o.2.InPlace tree := by
  obtain heq | heq := h.eq_or
  · exact heq ▸ hchanged
  · exact heq ▸ hd

/-- Each operation leaves each part in its place. -/
theorem InPlace.perform {d : Device} {tree : DeviceTree} (hd : d.InPlace tree) (op : Operation) :
    Always (fun o => o.2.InPlace tree) (op.perform d) := by
  rintro ⟨host, registries⟩
  cases op with
  | «open» => exact (keeps_open d host).1.inPlace hd
  | close => exact ((Keeps.refl d).passes_close registries host).inPlace hd
  | claimInterface number => exact (keeps_claimInterface d number host).inPlace hd
  | releaseInterface number => exact (keeps_releaseInterface d number host).inPlace hd
  | selectConfiguration value =>
    exact (changes_selectConfiguration d value host).inPlace ⟨hd.length, hd.configurations⟩ hd
  | selectAlternate number alternate =>
    exact (changes_selectAlternate d number alternate host).inPlace
      (hd.setAlternate number alternate) hd
  | beginDefault => exact (passes_beginDefault d registries host).inPlace hd
  | endDefault number => exact (passes_endDefault d number registries host).inPlace hd
  | drop => exact ((Keeps.refl d).passes_close registries host).inPlace hd

/-- Along every run each part stays in its place. -/
theorem Run.inPlace {allowed : Operation → Device → Session → Prop} {d₀ d : Device} {s₀ s : Session}
    {tree : DeviceTree} (run : Run allowed d₀ s₀ d s) (hd₀ : d₀.InPlace tree) : d.InPlace tree := by
  induction run with
  | start => exact hd₀
  | elsewhere files registries run ih => exact ih
  | operation op run hallowed ih => exact ih.perform op _

/-! ## Where devices come from -/

/-- The device comes from this tree of records: it was put together from it, or it was found at a
node with this tree, when stock was taken or to be opened. -/
inductive ComesFrom (tree : DeviceTree) : Device → Prop
  | assembled {σ : Type} (settings : Settings) (files : FileTree) (ask : Path → Inquiry σ)
      (hints : Hints) (s : σ) :
      ComesFrom tree (Assembly.assemble settings files ask tree hints s).1.device
  | listed {settings : Settings} {host : Host} {address : BusAddress} {path : Path} {a : Assembled}
      (hfound : (.node address path, .ok a) ∈ Inventory.findings settings host)
      (hrecords : host.files.recordsAt path = .ok tree) : ComesFrom tree a.device
  | opened {settings : Settings} {host : Host} {address : BusAddress} {d : Device}
      (hopened : (Inventory.openAt settings address host).1 = .ok d)
      (hrecords : host.files.recordsAt (nodePath settings.nodeRoot address) = .ok tree) :
      ComesFrom tree d

/-- A device that is listed comes from the tree at a node. -/
theorem comesFrom_of_mem_list {settings : Settings} {host : Host} {d : Device}
    (hd : d ∈ (Inventory.list settings host).1.devices) :
    ∃ address path tree, .node address path ∈ Inventory.sights settings host.files ∧
      host.files.recordsAt path = .ok tree ∧ d.ComesFrom tree := by
  obtain ⟨sight, a, hfinding, rfl⟩ := Inventory.exists_finding_of_mem_list hd
  obtain ⟨address, path, tree, -, -, rfl, hrecords, -⟩ :=
    (Inventory.yields_of_mem_findings hfinding).of_ok
  have hsight : .node address path ∈ Inventory.sights settings host.files := by
    rw [← Inventory.survey_fst settings (Inventory.sights settings host.files) host]
    exact List.mem_map_of_mem hfinding
  exact ⟨address, path, tree, hsight, hrecords, .listed hfinding hrecords⟩

/-- The device was put together from this tree of records, and nothing has been changed but what is
held of it. -/
def MadeFrom (tree : DeviceTree) (d : Device) : Prop :=
  ∃ (σ : Type) (settings : Settings) (files : FileTree) (ask : Path → Inquiry σ)
    (hints : Hints) (s : σ),
    (Assembly.assemble settings files ask tree hints s).1.device.Keeps d

theorem MadeFrom.assembled {σ : Type} (settings : Settings) (files : FileTree)
    (ask : Path → Inquiry σ) (tree : DeviceTree) (hints : Hints) (s : σ) :
    (Assembly.assemble settings files ask tree hints s).1.device.MadeFrom tree :=
  ⟨σ, settings, files, ask, hints, s, .refl _⟩

theorem MadeFrom.keeps {tree : DeviceTree} {d d' : Device} (h : d.MadeFrom tree)
    (hkeeps : d.Keeps d') :
    d'.MadeFrom tree := by
  obtain ⟨σ, settings, files, ask, hints, s, hmade⟩ := h
  exact ⟨σ, settings, files, ask, hints, s, hmade.trans hkeeps⟩

theorem MadeFrom.inPlace {tree : DeviceTree} {d : Device} (h : d.MadeFrom tree) :
    d.InPlace tree := by
  obtain ⟨σ, settings, files, ask, hints, s, hmade⟩ := h
  exact hmade.inPlace (Assembly.assemble_inPlace settings files ask tree hints s)

/-- What is read at a node has been put together from the records there. -/
theorem assembled_of_readDevice {settings : Settings} {host : Host} {address : BusAddress}
    {path : Path} {a : Assembled}
    (hread : (Inventory.readDevice settings address path host).1 = .ok a) :
    ∃ tree ask host₁, host.files.recordsAt path = .ok tree ∧
      a = (Assembly.assemble (σ := Host) settings host.files ask tree ⟨address, none⟩ host₁).1 := by
  rw [Inventory.readDevice_eq] at hread
  cases hnode : host.files.nodeAt path with
  | error fault =>
    rw [hnode] at hread
    cases hread
  | ok l =>
    rw [hnode] at hread
    cases hrecords : host.files.recordsAt path with
    | error e =>
      rw [hrecords] at hread
      cases hread
    | ok tree =>
      rw [hrecords] at hread
      cases hread
      exact ⟨tree, _, _, rfl, rfl⟩

theorem madeFrom_of_readDevice {settings : Settings} {host : Host} {address : BusAddress}
    {path : Path} {a : Assembled}
    (hread : (Inventory.readDevice settings address path host).1 = .ok a) :
    ∃ tree, host.files.recordsAt path = .ok tree ∧ a.device.MadeFrom tree := by
  obtain ⟨tree, ask, host₁, hrecords, rfl⟩ := assembled_of_readDevice hread
  exact ⟨tree, hrecords, .assembled ..⟩

/-- A device that is opened at an address has been read there, and then opened. -/
theorem exists_open_of_openAt {settings : Settings} {host : Host} {address : BusAddress}
    {d : Device} (hopened : (Inventory.openAt settings address host).1 = .ok d) :
    ∃ (a : Assembled) (host₁ : Host),
      (Inventory.readDevice settings address (nodePath settings.nodeRoot address) host).1 = .ok a ∧
        (a.device.open host₁).1 = (.ok (), d) := by
  unfold Inventory.openAt at hopened
  have hget : (get : StateM Host Host) host = (host, host) := rfl
  rw [Inventory.bind_apply, hget] at hopened
  split_ifs at hopened with hexists
  · rw [Inventory.bind_apply] at hopened
    cases hread :
      (Inventory.readDevice settings address (nodePath settings.nodeRoot address) host).1 with
    | error e =>
      rw [hread] at hopened
      cases hopened
    | ok a =>
      rw [hread] at hopened
      set host₁ :=
        (Inventory.readDevice settings address (nodePath settings.nodeRoot address) host).2
      change ((a.device.open host₁).1.1.map fun _ => (a.device.open host₁).1.2) = .ok d at hopened
      cases houtcome : (a.device.open host₁).1.1 with
      | error e =>
        rw [houtcome] at hopened
        cases hopened
      | ok _ =>
        rw [houtcome] at hopened
        cases hopened
        exact ⟨a, host₁, rfl, Prod.ext houtcome rfl⟩
  · cases hopened

/-- Since it has been read only what is held of it has changed. -/
theorem exists_read_of_openAt {settings : Settings} {host : Host} {address : BusAddress}
    {d : Device} (hopened : (Inventory.openAt settings address host).1 = .ok d) :
    ∃ a : Assembled,
      (Inventory.readDevice settings address (nodePath settings.nodeRoot address) host).1 = .ok a ∧
        a.device.Keeps d := by
  obtain ⟨a, host₁, hread, hopen⟩ := exists_open_of_openAt hopened
  have hkeeps := (keeps_open a.device host₁).1
  rw [hopen] at hkeeps
  exact ⟨a, hread, hkeeps⟩

theorem madeFrom_of_openAt {settings : Settings} {host : Host} {address : BusAddress} {d : Device}
    (hopened : (Inventory.openAt settings address host).1 = .ok d) :
    ∃ tree, host.files.recordsAt (nodePath settings.nodeRoot address) = .ok tree ∧
      d.MadeFrom tree := by
  obtain ⟨a, hread, hkeeps⟩ := exists_read_of_openAt hopened
  obtain ⟨tree, hrecords, hmade⟩ := madeFrom_of_readDevice hread
  exact ⟨tree, hrecords, hmade.keeps hkeeps⟩

theorem inPlace_of_openAt {settings : Settings} {host : Host} {address : BusAddress} {d : Device}
    (hopened : (Inventory.openAt settings address host).1 = .ok d) :
    ∃ tree, host.files.recordsAt (nodePath settings.nodeRoot address) = .ok tree ∧
      d.InPlace tree := by
  obtain ⟨tree, hrecords, hmade⟩ := madeFrom_of_openAt hopened
  exact ⟨tree, hrecords, hmade.inPlace⟩

theorem ComesFrom.made {tree : DeviceTree} {d : Device} (hd : d.ComesFrom tree) :
    d.MadeFrom tree := by
  cases hd with
  | assembled => exact .assembled ..
  | listed hfound hrecords =>
    obtain ⟨_, _, tree', _, _, heq, hrecords', rfl⟩ :=
      (Inventory.yields_of_mem_findings hfound).of_ok
    cases heq
    rw [hrecords', Except.ok.injEq] at hrecords
    subst hrecords
    exact .assembled ..
  | opened hopened hrecords =>
    obtain ⟨tree', hrecords', hmade⟩ := madeFrom_of_openAt hopened
    rw [hrecords', Except.ok.injEq] at hrecords
    subst hrecords
    exact hmade

theorem ComesFrom.inPlace {tree : DeviceTree} {d : Device} (hd : d.ComesFrom tree) :
    d.InPlace tree :=
  hd.made.inPlace

/-! ## Looking an interface up -/

theorem interface_eq_ok {d : Device} {n : UInt8} {i : Interface} (hok : d.interface n = .ok i) :
    ∃ c, d.activeConfiguration? = some c ∧ c.interfaces[n.toNat]? = some i := by
  unfold Device.interface at hok
  split at hok
  · cases hok
  · next c hc =>
    split_ifs at hok
    split at hok
    · next i' hi' =>
      cases hok
      exact ⟨c, hc, hi'⟩
    · cases hok

/-- A number is invalid just where the active configuration has interfaces, but none of this number.
-/
theorem interface_invalid_iff {d : Device} {n : UInt8} :
    (∃ fault, d.interface n = .error (.invalidArgument fault)) ↔
      ∃ c, d.activeConfiguration? = some c ∧ c.interfaces ≠ [] ∧ c.interfaces.length ≤ n.toNat := by
  unfold Device.interface
  cases d.activeConfiguration? with
  | none => simp
  | some c =>
    by_cases hnone : c.interfaces = []
    · simp [hnone]
    · have hsome : ¬ c.interfaces.isEmpty = true := by rwa [List.isEmpty_iff]
      simp only [if_neg hsome]
      by_cases hn : n.toNat < c.interfaces.length
      · simp [hn]
      · simp [hnone, Nat.le_of_not_lt hn]

/-- Whatever a program does with a device that comes from a tree of records, and whatever happens
elsewhere, the parts of the device stay in their places. Therefore an interface that is looked up by
its number has this number and is one of the active configuration, and a number is invalid just
where that configuration has interfaces, but none of this number. Every device that is listed, found
or opened comes from the tree of a node. -/
theorem parts_in_place :
    (∀ (tree : DeviceTree) (allowed : Operation → Device → Session → Prop) (d₀ d : Device)
        (s₀ s : Session),
      d₀.ComesFrom tree → Run allowed d₀ s₀ d s → d.InPlace tree ∧
        (∀ n i, d.interface n = .ok i →
          i.number = n ∧ ∃ c, d.activeConfiguration? = some c ∧ i ∈ c.interfaces) ∧
        ∀ n, (∃ fault, d.interface n = .error (.invalidArgument fault)) ↔
          ∃ c, d.activeConfiguration? = some c ∧ c.interfaces ≠ [] ∧
            c.interfaces.length ≤ n.toNat) ∧
    (∀ settings host d, d ∈ (Inventory.list settings host).1.devices →
      ∃ address path tree, .node address path ∈ Inventory.sights settings host.files ∧
        host.files.recordsAt path = .ok tree ∧ d.ComesFrom tree) ∧
    ∀ settings host address d, (Inventory.openAt settings address host).1 = .ok d →
      ∃ tree, host.files.recordsAt (nodePath settings.nodeRoot address) = .ok tree ∧
        d.ComesFrom tree := by
  refine ⟨fun tree allowed d₀ d s₀ s hcomes run => ?_, fun settings host d => comesFrom_of_mem_list,
    fun settings host address d hopened => ?_⟩
  · have hplace : d.InPlace tree := run.inPlace hcomes.inPlace
    refine ⟨hplace, fun n i hi => ?_, fun n => interface_invalid_iff⟩
    obtain ⟨c, hc, hinterface⟩ := interface_eq_ok hi
    obtain ⟨index, -, hindex⟩ := Option.bind_eq_some_iff.1 hc
    have hnumber : i.number.toNat = n.toNat :=
      ((hplace.configurations index c hindex).interfaces n.toNat i hinterface).number
    exact ⟨UInt8.toNat_inj.1 hnumber, c, hc, List.mem_of_getElem? hinterface⟩
  · obtain ⟨tree, hrecords, -⟩ := inPlace_of_openAt hopened
    exact ⟨tree, hrecords, .opened hopened hrecords⟩

end Device

/-- The device of the small tree, put together without files. -/
def smallMade : Device :=
  (Assembly.assemble ⟨.ofText "/", .ofText "/s", none⟩ (.empty []) Inquiry.ofNode smallTree
    ⟨⟨1, 2⟩, none⟩
    (smallSession grantingKernel).host).1.device

/-- After an attempt to open it, it still has its one configuration, and interface 0, if there is
one, has this number. -/
theorem parts_in_place_smallMade :
    ∃ d s, Device.Run (fun _ _ _ => True) smallMade (smallSession grantingKernel) d s ∧
      d.InPlace smallTree ∧ d.configurations.length = 1 ∧ ∀ i, d.interface 0 = .ok i →
        i.number = 0 := by
  have hrun : Device.Run (fun _ _ _ => True) smallMade (smallSession grantingKernel)
      (Device.Operation.open.perform smallMade (smallSession grantingKernel)).1.2
      (Device.Operation.open.perform smallMade (smallSession grantingKernel)).2 :=
    Device.Run.start.operation .open trivial
  obtain ⟨hplace, hnumber, -⟩ := Device.parts_in_place.1 smallTree _ _ _ _ _ (.assembled ..) hrun
  exact ⟨_, _, hrun, hplace, hplace.length, fun i hi => (hnumber 0 i hi).1⟩

end UsbAccess
