import Mathlib
import UsbAccess.Proofs.Parts
import UsbAccess.Proofs.UpstreamPorts

/-!
# How long a way is

The ports of a device are those of the hubs above it, and then its own. Of hubs, seven at most are
visited, but the device's own port comes on top of that, so that the way has an eighth port where
seven hubs stand above the device and each of them, like the device, is plugged into a port.

Results:
* `PortPath.le_length_found_iff`: when every hub that may be visited gives a port.
* `Device.Plugged.tiered`: how many ports a device has.
* `Device.ports_of_tiers`: this, however the device arises.
-/

namespace UsbAccess

/-! ## Hubs above a directory -/

/-- The directories of some hubs, one above the other, above that of a device; each names a port
that is not 0. -/
structure DeviceDir.Hubs (files : FileTree) (d : DeviceDir) (hubs : List DeviceDir) : Prop where
  above : (d :: hubs).IsChain (DeviceDir.IsAbove files)
  ports : ∀ hub ∈ hubs, ∃ port, hub.port = .ok port ∧ port ≠ 0

theorem DeviceDir.Hubs.nil (files : FileTree) (d : DeviceDir) : d.Hubs files [] :=
  ⟨.singleton d, fun _ h => nomatch h⟩

theorem DeviceDir.hubs_cons_iff {files : FileTree} {d hub : DeviceDir} {hubs : List DeviceDir} :
    d.Hubs files (hub :: hubs) ↔
      d.above files = .ok (some hub) ∧ (∃ port, hub.port = .ok port ∧ port ≠ 0) ∧
      hub.Hubs files hubs := by
  constructor
  · rintro ⟨habove, hports⟩
    rw [List.isChain_cons_cons] at habove
    exact ⟨habove.1, hports hub List.mem_cons_self, habove.2,
      fun h hh => hports h (List.mem_cons_of_mem _ hh)⟩
  · rintro ⟨habove, hport, hhubs⟩
    exact ⟨List.isChain_cons_cons.2 ⟨habove, hhubs.above⟩,
      List.forall_mem_cons.2 ⟨hport, hhubs.ports⟩⟩

/-- Above a directory there are one more hubs than above the next one. -/
theorem DeviceDir.exists_hubs_succ_iff {files : FileTree} {d : DeviceDir} {n : ℕ} :
    (∃ hubs, hubs.length = n + 1 ∧ d.Hubs files hubs) ↔
      ∃ hub, d.above files = .ok (some hub) ∧ (∃ port, hub.port = .ok port ∧ port ≠ 0) ∧
        ∃ hubs, hubs.length = n ∧ hub.Hubs files hubs := by
  constructor
  · rintro ⟨hubs, hlength, hd⟩
    obtain ⟨hub, rest, rfl⟩ := List.exists_cons_of_length_eq_add_one hlength
    obtain ⟨habove, hport, hrest⟩ := hubs_cons_iff.1 hd
    exact ⟨hub, habove, hport, rest, Nat.succ.inj hlength, hrest⟩
  · rintro ⟨hub, habove, hport, rest, rfl, hrest⟩
    exact ⟨hub :: rest, rfl, hubs_cons_iff.2 ⟨habove, hport, hrest⟩⟩

/-- The port that is told of a directory is 0 unless the directory names another one. -/
theorem DeviceDir.port_getD_ne_zero_iff {hub : DeviceDir} :
    hub.port.toOption.getD 0 ≠ 0 ↔ ∃ port, hub.port = .ok port ∧ port ≠ 0 := by
  cases hub.port with
  | ok port => simp [Except.toOption]
  | error e => simp [Except.toOption]

namespace PortPath

theorem length_found_le {κ : Type} (look : κ → Option (UInt8 × Option κ)) (limit : ℕ)
    (start : Option κ) :
    (found look limit start).length ≤ limit := by
  rw [found, List.length_map]
  exact (List.length_filterMap_le _ _).trans (length_visits_le look limit start)

/-- As many ports other than 0 are found as hubs may be visited just if there are so many hubs with
ports. -/
theorem le_length_found_iff (files : FileTree) (limit : ℕ) (d : DeviceDir) :
    limit ≤ ((found (lookDir files) limit ((d.above files).toOption.getD none)).filter fun port =>
      port ≠ 0).length ↔
      ∃ hubs, hubs.length = limit ∧ d.Hubs files hubs := by
  induction limit generalizing d with
  | zero => exact ⟨fun _ => ⟨[], rfl, .nil files d⟩, fun _ => Nat.zero_le _⟩
  | succ limit ih =>
    rw [DeviceDir.exists_hubs_succ_iff]
    cases habove : d.above files with
    | error e => simp [Except.toOption, found_none]
    | ok next =>
      cases next with
      | none => simp [Except.toOption, found_none]
      | some hub =>
        have hone : ∀ hub', Except.ok (ε := Error) (some hub) = .ok (some hub') ↔ hub' = hub := by
          intro hub'
          simp [eq_comm]
        simp only [hone, exists_eq_left, ← DeviceDir.port_getD_ne_zero_iff, ← ih]
        show limit + 1 ≤ ((found (lookDir files) (limit + 1) (some hub)).filter fun port =>
          port ≠ 0).length ↔ _
        rw [found_some (lookDir_eq files hub), List.filter_cons]
        -- a hub without a port takes a visit and gives nothing
        by_cases hport : hub.port.toOption.getD 0 = 0
        · have hfilter := List.length_filter_le (fun port : UInt8 => decide (port ≠ 0))
            (found (lookDir files) limit ((hub.above files).toOption.getD none))
          have hfound :=
            length_found_le (lookDir files) limit ((hub.above files).toOption.getD none)
          simp only [hport, ne_eq, not_true_eq_false, decide_false, Bool.false_eq_true, if_false,
            false_and, iff_false]
          simp only [ne_eq] at hfilter
          omega
        · simp [hport]

/-- The hubs above a directory give as many ports as hubs may be visited just if there are so many
hubs with ports. -/
theorem le_length_upstream_iff (files : FileTree) (d : DeviceDir) :
    maxTiers ≤ (upstream (lookDir files) ((d.above files).toOption.getD none)).length ↔
      ∃ hubs, hubs.length = maxTiers ∧ d.Hubs files hubs := by
  rw [upstream_eq, List.filter_reverse, List.length_reverse]
  exact le_length_found_iff files maxTiers d

end PortPath

/-! ## The ports of a device -/

namespace Device

/-- The device has a directory, a port, and seven hubs with ports above it. -/
def Deep (files : FileTree) (d : Device) : Prop :=
  d.port ≠ 0 ∧ ∃ dir hubs, d.source = .directory dir ∧ hubs.length = PortPath.maxTiers ∧
    dir.Hubs files hubs

/-- None of the device's ports is 0, and there are eight at most. There are more than seven just if
the device is deep. -/
structure Tiered (files : FileTree) (d : Device) : Prop where
  nonzero : 0 ∉ d.ports
  length : d.ports.length ≤ PortPath.maxTiers + 1
  deep_iff : PortPath.maxTiers < d.ports.length ↔ d.Deep files

/-- The ports of the hubs above a device. -/
theorem upstream_of_source (files : FileTree) (source : Source) :
    (Assembly.upstream files source).1.2 =
      match source with
      | .directory dir =>
        PortPath.upstream (PortPath.lookDir files) ((dir.above files).toOption.getD none)
      | .node => [] := by
  cases source with
  | directory dir => rw [Assembly.upstream_directory, PortPath.ofDir_getD]
  | node => rfl

theorem deep_iff_of_directory {files : FileTree} {d : Device} {dir : DeviceDir}
    (hsource : d.source = .directory dir) :
    d.Deep files ↔ d.port ≠ 0 ∧ ∃ hubs, hubs.length = PortPath.maxTiers ∧ dir.Hubs files hubs := by
  simp [Deep, hsource]

/-- How many ports a device has follows from what it tells of its plug. -/
theorem Plugged.tiered {files : FileTree} {d : Device} (h : d.Plugged files) : d.Tiered files := by
  have hports := h.ports
  rw [upstream_of_source] at hports
  cases hsource : d.source with
  | node =>
    have hport : d.port = 0 := by
      rw [h.port, hsource]
      rfl
    rw [hsource, if_pos hport] at hports
    have hnone : d.ports = [] := hports
    refine ⟨by simp [hnone], by simp [hnone], ?_⟩
    simp [Deep, hnone, hport]
  | directory dir =>
    rw [hsource] at hports
    change d.ports = PortPath.upstream (PortPath.lookDir files)
      ((dir.above files).toOption.getD none) ++ _ at hports
    have hbound :=
      PortPath.length_upstream_le (PortPath.lookDir files) ((dir.above files).toOption.getD none)
    have hzero :=
      PortPath.zero_not_mem_upstream (PortPath.lookDir files) ((dir.above files).toOption.getD none)
    have hmany := PortPath.le_length_upstream_iff files dir
    by_cases hport : d.port = 0
    · rw [if_pos hport, List.append_nil] at hports
      refine ⟨hports ▸ hzero, hports ▸ hbound.trans (Nat.le_succ _), ?_⟩
      rw [hports, deep_iff_of_directory hsource]
      simp only [hport, ne_eq, not_true_eq_false, false_and, iff_false]
      omega
    · rw [if_neg hport] at hports
      refine ⟨?_, ?_, ?_⟩
      · rw [hports, List.mem_append, List.mem_singleton, not_or]
        exact ⟨hzero, Ne.symm hport⟩
      · rw [hports, List.length_append, List.length_singleton]
        omega
      · rw [hports, List.length_append, List.length_singleton,
          deep_iff_of_directory hsource, ← hmany]
        simp only [hport, ne_eq, not_false_eq_true, true_and]
        omega

theorem Plugged.keeps {files : FileTree} {d d' : Device} (h : d.Plugged files)
    (hkeeps : d.Keeps d') :
    d'.Plugged files := by
  obtain ⟨handle, claims, rfl, -⟩ := hkeeps
  exact ⟨h.port, h.parent, h.ports⟩

/-- A device that is opened at an address tells of its plug what its source tells. -/
theorem plugged_of_openAt {settings : Settings} {host : Host} {address : BusAddress} {d : Device}
    (hopened : (Inventory.openAt settings address host).1 = .ok d) : d.Plugged host.files := by
  obtain ⟨a, hread, hkeeps⟩ := exists_read_of_openAt hopened
  obtain ⟨tree, ask, host₁, -, rfl⟩ := assembled_of_readDevice hread
  exact (Assembly.assemble_plugged ..).keeps hkeeps

/-- The device has been put together, listed, or opened at an address, with these files. -/
inductive Arises (files : FileTree) : Device → Prop
  | assembled {σ : Type} (settings : Settings) (ask : Path → Inquiry σ)
      (tree : Descriptor.DeviceTree) (hints : Hints) (s : σ) :
      Arises files (Assembly.assemble settings files ask tree hints s).1.device
  | listed {settings : Settings} {host : Host} {d : Device} (hfiles : host.files = files)
      (hd : d ∈ (Inventory.list settings host).1.devices) : Arises files d
  | opened {settings : Settings} {host : Host} {address : BusAddress} {d : Device}
      (hfiles : host.files = files) (hd : (Inventory.openAt settings address host).1 = .ok d) :
      Arises files d

/-- However the device arises, it tells of its plug what its source tells. -/
theorem Arises.plugged {files : FileTree} {d : Device} (h : d.Arises files) : d.Plugged files := by
  cases h with
  | assembled => exact Assembly.assemble_plugged ..
  | listed hfiles hd => exact hfiles ▸ Inventory.plugged_of_mem_list hd
  | opened hfiles hd => exact hfiles ▸ plugged_of_openAt hd

/-- However many and however odd the directories above a device are, none of its ports is 0 and
there are eight at most. There are no more than seven unless the device is deep. -/
theorem ports_of_tiers {files : FileTree} {d : Device} (h : d.Arises files) :
    0 ∉ d.ports ∧ d.ports.length ≤ PortPath.maxTiers + 1 ∧
      (d.ports.length ≤ PortPath.maxTiers ↔ ¬ d.Deep files) := by
  have htiered : d.Tiered files := h.plugged.tiered
  refine ⟨htiered.nonzero, htiered.length, ?_⟩
  rw [← htiered.deep_iff, not_lt]

end Device

/-! ## Eight tiers -/

/-- A directory inside others, all named `1`. -/
def tiers (n : ℕ) : Location := List.replicate n (Text.Utf8.bytes "1")

/-- Eight directories of devices, one inside the other. -/
def eightTiers : FileTree :=
  (List.range 8).foldl (fun files n => files.putDevice (tiers (n + 1)) "1\n") (.empty [])

/-- What is put together there for the innermost directory. -/
def eightMade : Assembled :=
  (Assembly.assemble smallSettings eightTiers Inquiry.ofNode Descriptor.smallTree
    ⟨⟨1, 1⟩, some (tiers 8).path⟩ ⟨eightTiers, grantingKernel, [], 0⟩).1

theorem ports_eightMade : eightMade.device.ports = [1, 1, 1, 1, 1, 1, 1, 1] := by
  have hplugged : eightMade.device.Plugged eightTiers := Assembly.assemble_plugged ..
  have hsource : eightMade.device.source = .directory ⟨(tiers 8).path⟩ := rfl
  have hown : (Source.directory ⟨(tiers 8).path⟩).port.toOption.getD 0 = 1 := by
    cbv
  have hhubs : (PortPath.ofDir eightTiers ⟨(tiers 8).path⟩).toOption.getD [] =
      [1, 1, 1, 1, 1, 1, 1] := by
    cbv
  have hport : eightMade.device.port = 1 := by
    rw [hplugged.port, hsource, hown]
  rw [hplugged.ports, hsource, Assembly.upstream_directory, hhubs, hport]
  rfl

/-- The device at an address is opened if its node can be read, has records and can be opened to
update. -/
theorem Inventory.exists_openAt (settings : Settings) (host : Host) (address : BusAddress)
    {tree : Descriptor.DeviceTree} {l : Location} (hbus : address.bus ≠ 0)
    (hnumber : address.number ≠ 0)
    (hexists : host.files.exists? (nodePath settings.nodeRoot address) = true)
    (hrecords : host.files.recordsAt (nodePath settings.nodeRoot address) = .ok tree)
    (hnode : host.files.openToUpdate (nodePath settings.nodeRoot address) = .ok l) :
    ∃ d, (openAt settings address host).1 = .ok d := by
  obtain ⟨l', hread⟩ := FileTree.nodeAt_of_recordsAt hrecords
  obtain ⟨⟨hfiles, -⟩, -⟩ :=
    visit_spares settings (.node address (nodePath settings.nodeRoot address)) host
  rw [visit, readDevice_eq, hread, hrecords] at hfiles
  unfold openAt
  have hget : (get : StateM Host Host) host = (host, host) := rfl
  rw [bind_apply, hget]
  simp only [hexists, if_true, bind_apply, readDevice_eq, hread, hrecords]
  rw [Device.open_of_node rfl]
  · exact ⟨_, rfl⟩
  · rw [hfiles, Device.node, Assembly.assemble_address _ _ _ _ _ _ hbus hnumber]
    exact hnode

namespace Device

/-- The innermost of eight directories is deep, and its eight ports are more than seven. A device
that is listed and one that is opened below a single hub have no port 0 either, and eight at most.
-/
theorem ports_of_tiers_eightTiers :
    (eightMade.device.ports = [1, 1, 1, 1, 1, 1, 1, 1] ∧ eightMade.device.Deep eightTiers) ∧
    (∃ d ∈ (Inventory.list smallSettings hubHost).1.devices, 0 ∉ d.ports ∧ d.ports.length ≤ 8) ∧
    ∃ d, (Inventory.openAt smallSettings ⟨1, 2⟩ hubHost).1 = .ok d ∧ 0 ∉ d.ports ∧
      d.ports.length ≤ 8 := by
  refine ⟨⟨ports_eightMade, ?_⟩, ?_, ?_⟩
  · have hmade : eightMade.device.Arises eightTiers := .assembled ..
    obtain ⟨-, -, hdeep⟩ := ports_of_tiers hmade
    by_contra hshallow
    have hshort := hdeep.2 hshallow
    rw [ports_eightMade] at hshort
    exact absurd hshort (by decide)
  · obtain ⟨hub, d, hdevices, -⟩ := Inventory.list_hubHost
    have hd : d ∈ (Inventory.list smallSettings hubHost).1.devices := by
      simp [hdevices]
    obtain ⟨hnonzero, hlength, -⟩ := ports_of_tiers (.listed rfl hd)
    exact ⟨d, hd, hnonzero, hlength⟩
  · have hrecords : hubFiles.recordsAt (nodePath smallSettings.nodeRoot ⟨1, 2⟩) =
        .ok Descriptor.smallTree := by
      cbv
    have hnode : hubFiles.openToUpdate (nodePath smallSettings.nodeRoot ⟨1, 2⟩) =
        .ok (located ["n", "001", "002"]) := by
      cbv
    obtain ⟨d, hd⟩ :=
      Inventory.exists_openAt smallSettings hubHost ⟨1, 2⟩ (by decide) (by decide) (by cbv) hrecords
      hnode
    obtain ⟨hnonzero, hlength, -⟩ := ports_of_tiers (.opened rfl hd)
    exact ⟨d, hd, hnonzero, hlength⟩

end Device

end UsbAccess
