import Mathlib
import UsbAccess.Proofs.ChosenDevices

/-!
# When there is no such device

A registry that is asked for the first device of some identifiers tells either the device, or that
there is none, or a failure. There is one failure for all: the last one while stock was taken,
unless the device itself cannot be opened. So a failure at a node that has nothing to do with the
identifiers is told in place of the answer that there is no such device. Whoever looks a device up
without a registry is told that there is none, whatever has failed.

Which devices are listed, and which failure is the last, depends on the files alone and not on the
kernel.

Results:
* `Inventory.lacks_list_iff`: no device of some identifiers is listed just if no node in view shows
  them.
* `Inventory.error_list`: the failure that an inventory keeps is the last one in view.
* `Inventory.openFirst_of_find?_eq_none`, `Inventory.openFirst_ne_of_find?_eq_some`: what a registry
  tells.
* `Inventory.findDevice_eq_notFound_iff`: what is told without a registry.
* `Inventory.none_told_iff`: when a registry tells that there is no such device, and what it tells
  otherwise.
-/

namespace UsbAccess

open Descriptor

/-- The device has these identifiers. -/
def Device.IsOf (d : Device) (vendor product : UInt16) : Prop :=
  d.vendor = vendor ∧ d.product = product

namespace Inventory

/-- No device of the inventory has these identifiers. -/
def Lacks (i : Inventory) (vendor product : UInt16) : Prop :=
  ∀ d ∈ i.devices, ¬ d.IsOf vendor product

/-! ## What the files tell -/

/-- Why no device is listed for a sight, if none is. -/
def Sight.failure? (files : FileTree) : Sight → Option Error
  | .closed _ fault => some (.io fault)
  | .node _ path =>
    match files.recordsAt path with
    | .ok _ => none
    | .error e => some e

/-- The records at a sight are those of a device with these identifiers. -/
def Sight.Shows (files : FileTree) (vendor product : UInt16) : Sight → Prop
  | .closed .. => False
  | .node _ path =>
    ∃ tree, files.recordsAt path = .ok tree ∧ tree.record.vendor = vendor ∧
      tree.record.product = product

section

variable {settings : Settings} {host : Host} {vendor product : UInt16}

theorem Sight.Yields.failure? {sight : Sight} {outcome : Except Error Assembled} :
    sight.Yields settings host outcome →
      sight.failure? host.files = match outcome with | .ok _ => none | .error e => some e := by
  intro hyields
  cases hyields with
  | closed bus fault => rfl
  | broken hrecords => rw [Sight.failure?, hrecords]
  | device _ hrecords => rw [Sight.failure?, hrecords]

theorem Sight.shows_node_iff {files : FileTree} {address : BusAddress} {path : Path}
    {tree : DeviceTree} (hrecords : files.recordsAt path = .ok tree) :
    (Sight.node address path).Shows files vendor product ↔
      tree.record.vendor = vendor ∧ tree.record.product = product := by
  constructor
  · rintro ⟨tree', hrecords', hsame⟩
    rw [hrecords] at hrecords'
    cases hrecords'
    exact hsame
  · exact fun hsame => ⟨tree, hrecords, hsame⟩

/-- A device has the identifiers that its records have. -/
theorem Sight.Yields.isOf_iff {sight : Sight} {a : Assembled}
    (hyields : sight.Yields settings host (.ok a)) :
    a.device.IsOf vendor product ↔ sight.Shows host.files vendor product := by
  obtain ⟨address, path, tree, ask, host₁, rfl, hrecords, rfl⟩ := hyields.of_ok
  exact (Sight.shows_node_iff hrecords).symm

/-- What fails shows no identifiers. -/
theorem Sight.Shows.failure? {files : FileTree} {sight : Sight}
    (hshows : sight.Shows files vendor product) :
    sight.failure? files = none := by
  cases sight with
  | closed bus fault => cases hshows
  | node address path =>
    obtain ⟨tree, hrecords, -, -⟩ := hshows
    rw [Sight.failure?, hrecords]

/-- No device of some identifiers is listed just if no node in view shows them, whatever the kernel
answers. -/
theorem lacks_list_iff : (list settings host).1.Lacks vendor product ↔
    ∀ sight : Sight, sight.InView settings host.files →
      ¬ sight.Shows host.files vendor product := by
  constructor
  · intro hlacks sight hview hshows
    cases sight with
    | closed bus fault => cases hshows
    | node address path =>
      have ⟨tree, hrecords, _⟩ := hshows
      obtain ⟨a, hfinding⟩ := exists_made_of_inView hview hrecords
      have hlisted : a.device ∈ (list settings host).1.devices := by
        rw [list_eq_made]
        exact List.mem_map_of_mem (mem_made.2 ⟨_, hfinding⟩)
      exact hlacks a.device hlisted ((yields_of_mem_findings hfinding).isOf_iff.2 hshows)
  · intro hno d hd hof
    obtain ⟨sight, a, hfinding, rfl⟩ := exists_finding_of_mem_list hd
    exact hno sight (inView_of_mem_findings hfinding)
      ((yields_of_mem_findings hfinding).isOf_iff.1 hof)

theorem failures_findings :
    failures (findings settings host) =
      (sights settings host.files).filterMap (Sight.failure? host.files) := by
  rw [← survey_fst settings (sights settings host.files) host, List.filterMap_map]
  exact List.filterMap_congr fun finding hfinding => (yields_of_mem_findings hfinding).failure?.symm

/-- The failure that an inventory keeps is the last one in view, whatever the kernel answers. -/
theorem error_list :
    (list settings host).1.error =
      ((sights settings host.files).filterMap (Sight.failure? host.files)).getLast? := by
  rw [list_eq_made, failures_findings]

theorem error_list_eq_none_iff : (list settings host).1.error = none ↔
    ∀ sight : Sight, sight.InView settings host.files → sight.failure? host.files = none := by
  rw [error_list, List.getLast?_eq_none_iff, List.filterMap_eq_nil_iff]
  simp only [mem_sights]

theorem find?_eq_none_iff {i : Inventory} :
    i.find? vendor product = none ↔ i.Lacks vendor product := by
  simp [find?, Lacks, Device.IsOf]

/-! ## What is told -/

/-- Whoever looks a device up without a registry is told that there is none just if none is listed.
-/
theorem findDevice_eq_notFound_iff :
    (findDevice settings vendor product host).1 = .error .notFound ↔
    (list settings host).1.Lacks vendor product := by
  rw [← find?_eq_none_iff]
  unfold findDevice
  rw [bind_apply]
  cases (list settings host).1.find? vendor product with
  | none => exact ⟨fun _ => rfl, fun _ => rfl⟩
  | some d => exact ⟨by rintro ⟨⟩, by rintro ⟨⟩⟩

end

section

variable {k : ℕ} {r : Registry} {s : Session} {vendor product : UInt16}

/-- Where no device of the identifiers is listed, the failure of the inventory is told, if there is
one. -/
theorem openFirst_of_find?_eq_none (hr : s.registries[k]? = some r)
    (hnone : (list r.settings s.host).1.find? vendor product = none) :
    (openFirst k r.settings vendor product s).1 =
      match (list r.settings s.host).1.error with | some e => .error e | none => .ok none := by
  obtain ⟨opening, s', hopening⟩ : ∃ opening s',
    openDevices k r.settings (chooseFirst vendor product) false s = (opening, s') := ⟨_, _, rfl⟩
  have hlist : list r.settings s.host = ((list r.settings s.host).1, (list r.settings s.host).2) :=
    rfl
  obtain ⟨r', htakes⟩ := takes_openDevices hr hlist hopening
  obtain ⟨hdevices, herror⟩ := (htakes.first rfl).2.1 hnone
  rw [openFirst_of_openDevices hopening, hdevices, herror]
  cases (list r.settings s.host).1.error <;> rfl

/-- Where one is listed, it is not told that there is none. -/
theorem openFirst_ne_of_find?_eq_some (hr : s.registries[k]? = some r) {d : Device}
    (hfirst : (list r.settings s.host).1.find? vendor product = some d) :
    (openFirst k r.settings vendor product s).1 ≠ .ok none := by
  obtain ⟨opening, s', hopening⟩ : ∃ opening s',
    openDevices k r.settings (chooseFirst vendor product) false s = (opening, s') := ⟨_, _, rfl⟩
  have hlist : list r.settings s.host = ((list r.settings s.host).1, (list r.settings s.host).2) :=
    rfl
  obtain ⟨r', htakes⟩ := takes_openDevices hr hlist hopening
  obtain ⟨hrefuses, hgives⟩ := (htakes.first rfl).2.2 d hfirst
  rw [openFirst_of_openDevices hopening]
  cases hrefused : d.refusal? (list r.settings s.host).2.files with
  | some e =>
    obtain ⟨hdevices, herror⟩ := hrefuses e hrefused
    rw [hdevices, herror]
    rintro ⟨⟩
  | none =>
    obtain ⟨d', -, hdevices⟩ := hgives (Device.refusal?_eq_none_iff.1 hrefused)
    rw [hdevices]
    rintro ⟨⟩

/-- Whatever the files are: a registry that is asked for the first device of some identifiers tells
that there is none just if none is listed and nothing in view has failed, be it ever so far from
these identifiers. That none is listed is to be read off the nodes in view. If none is listed and
something has failed, the last failure is told instead. Without a registry it is told that there is
none just if none is listed. -/
theorem none_told_iff (hr : s.registries[k]? = some r) (vendor product : UInt16) :
    ((openFirst k r.settings vendor product s).1 = .ok none ↔
      (list r.settings s.host).1.Lacks vendor product ∧ ∀ sight : Sight,
        sight.InView r.settings s.host.files → sight.failure? s.host.files = none) ∧
    ((list r.settings s.host).1.Lacks vendor product ↔
      ∀ sight : Sight, sight.InView r.settings s.host.files →
        ¬ sight.Shows s.host.files vendor product) ∧
    ((list r.settings s.host).1.Lacks vendor product → ∀ e,
      (openFirst k r.settings vendor product s).1 = .error e ↔
        ((sights r.settings s.host.files).filterMap (Sight.failure? s.host.files)).getLast? =
          some e) ∧
    ((findDevice r.settings vendor product s.host).1 = .error .notFound ↔
      (list r.settings s.host).1.Lacks vendor product) := by
  refine ⟨?_, lacks_list_iff, fun hlacks e => ?_, findDevice_eq_notFound_iff⟩
  · rw [← find?_eq_none_iff, ← error_list_eq_none_iff]
    cases hfirst : (list r.settings s.host).1.find? vendor product with
    | none =>
      rw [openFirst_of_find?_eq_none hr hfirst]
      cases (list r.settings s.host).1.error with
      | none => simp
      | some e => simp
    | some d => simp [openFirst_ne_of_find?_eq_some hr hfirst]
  · rw [openFirst_of_find?_eq_none hr (find?_eq_none_iff.2 hlacks), ← error_list]
    cases (list r.settings s.host).1.error with
    | none => simp
    | some e' => simp

end

/-- A registry is asked for a device that neither host has. Beside the empty node it tells the
failure there. -/
theorem none_told_iff_twoNodes :
    (openFirst 0 smallSettings 0xdead 0xbeef ⟨oneNode, [.new smallSettings]⟩).1 = .ok none ∧
    (list smallSettings twoNodes).1.Lacks 0xdead 0xbeef ∧
    (openFirst 0 smallSettings 0xdead 0xbeef ⟨twoNodes, [.new smallSettings]⟩).1 =
      .error (.invalidDescriptor .missingDevice) ∧
    (findDevice smallSettings 0xdead 0xbeef twoNodes).1 = .error .notFound := by
  have hsights : sights smallSettings oneNode.files = [.node ⟨1, 1⟩ (Location.path nodeOne)] := by
    cbv
  have hsights' : sights smallSettings twoNodes.files =
      [.node ⟨1, 1⟩ (Location.path nodeOne), .node ⟨1, 2⟩ (Location.path nodeTwo)] := by cbv
  have hrecords : oneNode.files.recordsAt (Location.path nodeOne) = .ok smallTree := by cbv
  have hrecords' : twoNodes.files.recordsAt (Location.path nodeOne) = .ok smallTree := by cbv
  have hempty : twoNodes.files.recordsAt (Location.path nodeTwo) =
      .error (.invalidDescriptor .missingDevice) := by cbv
  have hsmall : smallTree.record.vendor ≠ 0xdead := by decide
  have hr : (⟨oneNode, [.new smallSettings]⟩ : Session).registries[0]? =
      some (.new smallSettings) := rfl
  have hr' : (⟨twoNodes, [.new smallSettings]⟩ : Session).registries[0]? =
      some (.new smallSettings) := rfl
  obtain ⟨htold, hlacks, -, -⟩ := none_told_iff hr 0xdead 0xbeef
  obtain ⟨-, hlacks', htold', hlooked'⟩ := none_told_iff hr' 0xdead 0xbeef
  have hnone : (list smallSettings oneNode).1.Lacks 0xdead 0xbeef := by
    refine hlacks.2 fun sight hview => ?_
    change sight.InView smallSettings oneNode.files at hview
    rw [← mem_sights, hsights, List.mem_singleton] at hview
    subst hview
    exact fun hshows => hsmall ((Sight.shows_node_iff hrecords).1 hshows).1
  have hnone' : (list smallSettings twoNodes).1.Lacks 0xdead 0xbeef := by
    refine hlacks'.2 fun sight hview => ?_
    change sight.InView smallSettings twoNodes.files at hview
    rw [← mem_sights, hsights', List.mem_pair] at hview
    obtain rfl | rfl := hview
    · exact fun hshows => hsmall ((Sight.shows_node_iff hrecords').1 hshows).1
    · intro hshows
      have hfailed := hshows.failure?
      change Sight.failure? twoNodes.files _ = none at hfailed
      rw [Sight.failure?, hempty] at hfailed
      cases hfailed
  refine ⟨htold.2 ⟨hnone, fun sight hview => ?_⟩, hnone', (htold' hnone' _).2 ?_, hlooked'.2 hnone'⟩
  · change sight.InView smallSettings oneNode.files at hview
    rw [← mem_sights, hsights, List.mem_singleton] at hview
    subst hview
    show Sight.failure? oneNode.files _ = none
    rw [Sight.failure?, hrecords]
  · show ((sights smallSettings twoNodes.files).filterMap
      (Sight.failure? twoNodes.files)).getLast? = _
    rw [hsights']
    simp [Sight.failure?, hrecords', hempty]

end Inventory

end UsbAccess
