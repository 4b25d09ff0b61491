import Mathlib
import UsbAccess.Proofs.Isolation
import UsbAccess.Proofs.Locations

/-!
# Ports above a device

The ports of the hubs above a device are told in two ways: by the directories above its own, and by
the devices of an inventory, each of which knows its hub. The ways agree hub by hub where each
directory is that of a listed device.

Results:
* `Assembly.assemble_plugged`: what a device tells of its plug is what its source tells.
* `Inventory.found_look`: from hub to hub the inventory tells the ports that the directories tell.
* `Inventory.upstreamPorts_eq_ports`: the ports of a device, told both ways.
-/

namespace UsbAccess

/-! ## What a device tells of its plug -/

/-- What the device tells of its port and of the hubs above it is what its source tells. -/
structure Device.Plugged (files : FileTree) (d : Device) : Prop where
  port : d.port = d.source.port.toOption.getD 0
  parent : d.parent = (Assembly.upstream files d.source).1.1
  ports : d.ports = (Assembly.upstream files d.source).1.2 ++ if d.port = 0 then [] else [d.port]

theorem Assembly.assemble_plugged {σ : Type} (settings : Settings) (files : FileTree)
    (ask : Path → Inquiry σ) (tree : Descriptor.DeviceTree) (hints : Hints) (s : σ) :
    (assemble settings files ask tree hints s).1.device.Plugged files where
  port := by
    rw [← Remark.note_fst .port]
    rfl
  parent := rfl
  ports := rfl

theorem Assembly.assemble_source {σ : Type} (settings : Settings) (files : FileTree)
    (ask : Path → Inquiry σ) (tree : Descriptor.DeviceTree) (hints : Hints) (s : σ) :
    (assemble settings files ask tree hints s).1.device.source = (source settings files hints).1 :=
  rfl

/-- Numbers that are known are not asked for. -/
theorem Assembly.assemble_address {σ : Type} (settings : Settings) (files : FileTree)
    (ask : Path → Inquiry σ) (tree : Descriptor.DeviceTree) (hints : Hints) (s : σ)
    (hbus : hints.address.bus ≠ 0)
    (hnumber : hints.address.number ≠ 0) :
    (assemble settings files ask tree hints s).1.device.address = hints.address := by
  show (⟨(busNumber files (source settings files hints).1 hints.address.bus).1,
    (deviceNumber files (source settings files hints).1
      (ask (nodePath settings.nodeRoot hints.address))
      hints.address.number s).1.1⟩ : BusAddress) = hints.address
  rw [busNumber, if_neg hbus, deviceNumber, if_neg hnumber]
  rfl

theorem Inventory.plugged_of_mem_list {settings : Settings} {host : Host} {d : Device}
    (hd : d ∈ (list settings host).1.devices) : d.Plugged host.files := by
  obtain ⟨tree, ask, address, host₁, rfl⟩ := assembled_of_mem_list hd
  exact Assembly.assemble_plugged ..

theorem Assembly.upstream_directory (files : FileTree) (dir : DeviceDir) :
    (upstream files (.directory dir)).1 =
      ((dir.parent files).toOption.getD none, (PortPath.ofDir files dir).toOption.getD []) := by
  rw [← Remark.note_fst .parent, ← Remark.note_fst .parent]
  rfl

/-! ## Two ways up -/

/-- The directory above. -/
def DeviceDir.IsAbove (files : FileTree) (d h : DeviceDir) : Prop := d.above files = .ok (some h)

/-- The inventory has a device at the address in the directory, with a source that leads to this
directory by a path with the same last name. -/
structure Inventory.Knows (i : Inventory) (files : FileTree) (h : DeviceDir) (a : BusAddress)
    (hub : Device) (dir : DeviceDir) (l : Location) : Prop where
  address : h.address files = .ok a
  get : i.get? a = some hub
  source : hub.source = .directory dir
  canonical : files.canonical dir.path = .ok l
  path : h.path = Location.path l
  name : dir.path.fileName? = h.path.fileName?

namespace Inventory

variable {i : Inventory} {files : FileTree} {h : DeviceDir} {a : BusAddress} {hub : Device}
  {dir : DeviceDir} {l : Location}

theorem mem_of_get? {d : Device} (hget : i.get? a = some d) : d ∈ i.devices :=
  List.mem_of_find?_eq_some hget

/-- The hub's own directory has the same one above it. -/
theorem Knows.above (hknows : i.Knows files h a hub dir l) : dir.above files = h.above files := by
  obtain ⟨path⟩ := h
  obtain rfl : path = Location.path l := hknows.path
  have hsettled : files.Settled l := FileTree.settled_of_canonical hknows.canonical
  have hcanonical : files.canonical (Location.path l) = .ok l :=
    DeviceDir.canonical_of_address hsettled hknows.address
  exact (DeviceDir.above_eq hknows.canonical).trans
    (DeviceDir.above_eq (d := ⟨l.path⟩) hcanonical).symm

theorem Knows.port (hknows : i.Knows files h a hub dir l) (hplugged : hub.Plugged files) :
    hub.port = h.port.toOption.getD 0 := by
  rw [hplugged.port, hknows.source]
  show (DeviceDir.portOfName dir.path.fileName).toOption.getD 0 =
    (DeviceDir.portOfName h.path.fileName).toOption.getD 0
  rw [Path.fileName, Path.fileName, hknows.name]

theorem Knows.parent (hknows : i.Knows files h a hub dir l) (hplugged : hub.Plugged files) :
    hub.parent = (h.parent files).toOption.getD none := by
  rw [hplugged.parent, hknows.source, Assembly.upstream_directory]
  show (dir.parent files).toOption.getD none = (h.parent files).toOption.getD none
  rw [DeviceDir.parent, DeviceDir.parent, hknows.above]

end Inventory

/-- The ports that are found on the way. -/
def PortPath.found {κ : Type} (look : κ → Option (UInt8 × Option κ)) (limit : ℕ)
    (start : Option κ) : List UInt8 :=
  ((visits look limit start).filterMap Prod.snd).map Prod.fst

theorem PortPath.found_some {κ : Type} {look : κ → Option (UInt8 × Option κ)} {hub : κ}
    {port : UInt8} {next : Option κ} (hlook : look hub = some (port, next)) (limit : ℕ) :
    found look (limit + 1) (some hub) = port :: found look limit next := by
  rw [found, visits, hlook]
  rfl

theorem PortPath.found_none {κ : Type} (look : κ → Option (UInt8 × Option κ)) (limit : ℕ) :
    found look limit none = [] := by
  rw [found, visits_none]
  rfl

theorem PortPath.upstream_eq {κ : Type} (look : κ → Option (UInt8 × Option κ)) (start : Option κ) :
    upstream look start = (found look maxTiers start).reverse.filter fun port => port ≠ 0 := rfl

theorem PortPath.lookDir_eq (files : FileTree) (h : DeviceDir) :
    lookDir files h = some (h.port.toOption.getD 0, (h.above files).toOption.getD none) := rfl

/-- The ports above a directory, none where it cannot be told what stands above it. -/
theorem PortPath.ofDir_getD (files : FileTree) (d : DeviceDir) :
    (ofDir files d).toOption.getD [] = upstream (lookDir files)
    ((d.above files).toOption.getD none) := by
  unfold ofDir
  cases d.above files with
  | ok start => rfl
  | error e =>
    show [] = upstream (lookDir files) none
    rw [upstream_eq, found_none]
    rfl

namespace Inventory

variable {i : Inventory} {files : FileTree}

theorem look_eq {a : BusAddress} {d : Device} (hget : i.get? a = some d) :
    i.look a = some (d.port, d.parent) := by
  rw [look, hget]
  rfl

/-- From directory to directory the inventory tells the same ports as the directories. -/
theorem found_look (hplugged : ∀ d ∈ i.devices, d.Plugged files) (limit : ℕ) (g : DeviceDir)
    (hknows : ∀ h, Relation.TransGen (DeviceDir.IsAbove files) g h → ∃ a hub dir l,
      i.Knows files h a hub dir l) :
    PortPath.found i.look limit ((g.parent files).toOption.getD none) =
      PortPath.found (PortPath.lookDir files) limit ((g.above files).toOption.getD none) := by
  induction limit generalizing g with
  | zero => rfl
  | succ limit ih =>
    unfold DeviceDir.parent
    cases habove : g.above files with
    | error e => exact (PortPath.found_none ..).trans (PortPath.found_none ..).symm
    | ok next =>
      cases next with
      | none => exact (PortPath.found_none ..).trans (PortPath.found_none ..).symm
      | some h =>
        obtain ⟨a, hub, dir, l, hhub⟩ := hknows h (.single habove)
        have hhubPlugged : hub.Plugged files := hplugged hub (mem_of_get? hhub.get)
        have hhigher := ih h fun h' hh' => hknows h' (.head habove hh')
        simp only [hhub.address]
        show PortPath.found i.look (limit + 1) (some a) =
          PortPath.found (PortPath.lookDir files) (limit + 1) (some h)
        rw [PortPath.found_some (look_eq hhub.get),
          PortPath.found_some (PortPath.lookDir_eq files h), hhub.port hhubPlugged,
          hhub.parent hhubPlugged, hhigher]

/-- Let each directory that stands over that of a listed device have the address of a listed device
whose source leads to it. Then the ports that the inventory tells of the hubs above the device, and
then its own port, are the ports of the device. Without a directory there are none. -/
theorem upstreamPorts_eq_ports (settings : Settings) (host : Host) (d : Device)
    (hget : (list settings host).1.get? d.address = some d) :
    (∀ dir, d.source = .directory dir →
      (∀ h, Relation.TransGen (DeviceDir.IsAbove host.files) dir h →
        ∃ a hub dir' l, (list settings host).1.Knows host.files h a hub dir' l) →
      ((list settings host).1.upstreamPorts d.address ++ if d.port = 0 then [] else [d.port]) =
        d.ports) ∧
    (d.source = .node → (list settings host).1.upstreamPorts d.address = [] ∧ d.ports = []) := by
  have hplugged : ∀ d ∈ (list settings host).1.devices, d.Plugged host.files :=
    fun _ => plugged_of_mem_list
  have hdevice : d.Plugged host.files := hplugged d (mem_of_get? hget)
  have hupstream : (list settings host).1.upstreamPorts d.address =
      PortPath.upstream (list settings host).1.look d.parent := by
    rw [upstreamPorts, hget]
    rfl
  refine ⟨fun dir hsource hknows => ?_, fun hsource => ?_⟩
  · have hports : PortPath.upstream (list settings host).1.look d.parent =
        (PortPath.ofDir host.files dir).toOption.getD [] := by
      rw [hdevice.parent, hsource, Assembly.upstream_directory, PortPath.upstream_eq,
        found_look hplugged _ dir hknows, ← PortPath.upstream_eq, PortPath.ofDir_getD]
    rw [hdevice.ports, hupstream, hports, hsource, Assembly.upstream_directory]
  · have hparent : d.parent = none := by
      rw [hdevice.parent, hsource]
      rfl
    have hport : d.port = 0 := by
      rw [hdevice.port, hsource]
      rfl
    refine ⟨?_, ?_⟩
    · rw [hupstream, hparent, PortPath.upstream_eq, PortPath.found_none]
      rfl
    · rw [hdevice.ports, hsource, if_pos hport]
      rfl

end Inventory

/-! ## A device behind a hub -/

/-- The location of these names. -/
def located (names : List String) : Location := names.map Text.Utf8.bytes

/-- The tree with a directory that has the two numbers of a device on bus 1. -/
def FileTree.putDevice (t : FileTree) (l : Location) (number : String) : FileTree :=
  ((t.put l .dir).put (l ++ [Text.Utf8.bytes "busnum"]) (.file (Text.Utf8.bytes "1\n"))).put
    (l ++ [Text.Utf8.bytes "devnum"]) (.file (Text.Utf8.bytes number))

/-- The nodes of two devices, and their directories: that of a hub at port 1, and that of a device
at port 2 of the hub, to which a link leads. -/
def hubFiles : FileTree :=
  let nodes :=
    (((((FileTree.empty []).put (located ["n"]) .dir).put (located ["n", "001"]) .dir).put
    (located ["n", "001", "001"]) (.file Descriptor.smallTree.bytes)).put
    (located ["n", "001", "002"]) (.file Descriptor.smallTree.bytes)).put (located ["s"]) .dir
  ((nodes.putDevice (located ["s", "1-1"]) "1\n").putDevice
    (located ["s", "1-1", "1-1.2"]) "2\n").put
    (located ["s", "1-1.2"]) (.link (Text.Utf8.bytes "1-1/1-1.2"))

/-- A host with these files. -/
def hubHost : Host := ⟨hubFiles, grantingKernel, [], 0⟩

namespace Inventory

/-- Where the node has records and there is a directory for its address, a device with this address
and this directory is found. -/
theorem visit_of_recordsAt {settings : Settings} {host : Host} {address : BusAddress} {path : Path}
    {tree : Descriptor.DeviceTree} {dir : DeviceDir} (hbus : address.bus ≠ 0)
    (hnumber : address.number ≠ 0)
    (hrecords : host.files.recordsAt path = .ok tree)
    (hdir : DeviceDir.find? host.files settings.directoryRoot address = some dir) :
    ∃ a, (visit settings (.node address path) host).1 = .ok a ∧ a.device.address = address ∧
      a.device.source = .directory dir := by
  obtain ⟨l, hnode⟩ := FileTree.nodeAt_of_recordsAt hrecords
  rw [visit, readDevice_eq, hnode, hrecords]
  refine ⟨_, rfl, ?_, ?_⟩
  · exact Assembly.assemble_address _ _ _ _ ⟨address, none⟩ _ hbus hnumber
  · rw [Assembly.assemble_source, Assembly.source, hdir]

/-- Both devices are listed, each with its directory. -/
theorem list_hubHost :
    ∃ hub d : Device, (list smallSettings hubHost).1.devices = [hub, d] ∧
      (hub.address = ⟨1, 1⟩ ∧ hub.source = .directory ⟨.ofText "/s/1-1"⟩) ∧
      (d.address = ⟨1, 2⟩ ∧ d.source = .directory ⟨.ofText "/s/1-1.2"⟩) := by
  have hsights : sights smallSettings hubFiles =
      [.node ⟨1, 1⟩ (Location.path (located ["n", "001", "001"])),
      .node ⟨1, 2⟩ (Location.path (located ["n", "001", "002"]))] := by cbv
  have hhubRecords : hubFiles.recordsAt (Location.path (located ["n", "001", "001"])) =
      .ok Descriptor.smallTree := by cbv
  have hrecords : hubFiles.recordsAt (Location.path (located ["n", "001", "002"])) =
      .ok Descriptor.smallTree := by cbv
  have hvisit : ∀ number path dir outcome, number ≠ 0 →
      hubFiles.recordsAt path = .ok Descriptor.smallTree →
      DeviceDir.find? hubFiles smallSettings.directoryRoot ⟨1, number⟩ = some dir →
      (Sight.node ⟨1, number⟩ path, outcome) ∈ findings smallSettings hubHost →
      ∃ a : Assembled, outcome = .ok a ∧ a.device.address = ⟨1, number⟩ ∧
        a.device.source = .directory dir := by
    intro number path dir outcome hnumber hnode hdir hmem
    obtain ⟨host, ⟨hfiles, -⟩, houtcome⟩ := of_mem_survey hmem
    change host.files = hubFiles at hfiles
    rw [← hfiles] at hnode hdir
    have hbus : (1 : UInt8) ≠ 0 := by decide
    obtain ⟨a, ha, hdevice⟩ := visit_of_recordsAt hbus hnumber hnode hdir
    exact ⟨a, houtcome.trans ha, hdevice⟩
  have hfindings : (findings smallSettings hubHost).map Prod.fst = sights smallSettings hubFiles :=
    survey_fst ..
  rw [hsights] at hfindings
  obtain ⟨⟨_, o₁⟩, rest₁, hboth, rfl, hrest₁⟩ := List.map_eq_cons_iff.1 hfindings
  obtain ⟨⟨_, o₂⟩, rest₂, rfl, rfl, hrest₂⟩ := List.map_eq_cons_iff.1 hrest₁
  obtain rfl := List.map_eq_nil_iff.1 hrest₂
  rw [hboth] at hvisit
  obtain ⟨hub, rfl, hhub⟩ :=
    hvisit 1 _ ⟨.ofText "/s/1-1"⟩ o₁ (by decide) hhubRecords (by cbv) (by simp)
  obtain ⟨d, rfl, hd⟩ := hvisit 2 _ ⟨.ofText "/s/1-1.2"⟩ o₂ (by decide) hrecords (by cbv) (by simp)
  refine ⟨hub.device, d.device, ?_, hhub, hd⟩
  rw [list_eq_made, hboth]
  rfl

/-- Above the device stands the hub, and no more. -/
theorem above_hubFiles {h : DeviceDir}
    (hh : Relation.TransGen (DeviceDir.IsAbove hubFiles) ⟨.ofText "/s/1-1.2"⟩ h) :
    h = ⟨.ofText "/s/1-1"⟩ := by
  have hdevice : (DeviceDir.mk (.ofText "/s/1-1.2")).above hubFiles =
      .ok (some ⟨.ofText "/s/1-1"⟩) := by cbv
  have hhub : (DeviceDir.mk (.ofText "/s/1-1")).above hubFiles = .ok none := by cbv
  induction hh with
  | single habove =>
    rw [DeviceDir.IsAbove, hdevice] at habove
    cases habove
    rfl
  | tail _ habove ih =>
    rw [ih, DeviceDir.IsAbove, hhub] at habove
    cases habove

/-- The device at port 2 of the hub at port 1 has the ports 1 and 2, and the inventory tells the
same. -/
theorem upstreamPorts_eq_ports_hubHost :
    ∃ d, (list smallSettings hubHost).1.get? ⟨1, 2⟩ = some d ∧
      (list smallSettings hubHost).1.upstreamPorts ⟨1, 2⟩ ++ [2] = d.ports ∧ d.ports = [1, 2] := by
  obtain ⟨hub, d, hdevices, ⟨hhub, hhubSource⟩, ⟨hd, hdSource⟩⟩ := list_hubHost
  have hget : ∀ i : Inventory, i.devices = [hub, d] →
      i.get? ⟨1, 1⟩ = some hub ∧ i.get? ⟨1, 2⟩ = some d := by
    intro i hi
    simp [get?, hi, hhub, hd]
  obtain ⟨hgetHub, hgetDevice⟩ := hget _ hdevices
  have hknowsHub : (list smallSettings hubHost).1.Knows hubFiles ⟨.ofText "/s/1-1"⟩ ⟨1, 1⟩ hub
      ⟨.ofText "/s/1-1"⟩ (located ["s", "1-1"]) :=
    ⟨by cbv, hgetHub, hhubSource, by cbv, by cbv, rfl⟩
  have hknows : ∀ h, Relation.TransGen (DeviceDir.IsAbove hubFiles) ⟨.ofText "/s/1-1.2"⟩ h →
      ∃ a hub dir l, (list smallSettings hubHost).1.Knows hubFiles h a hub dir l := by
    intro h hh
    rw [above_hubFiles hh]
    exact ⟨_, _, _, _, hknowsHub⟩
  have hplugged : d.Plugged hubFiles := plugged_of_mem_list (mem_of_get? hgetDevice)
  have hport : d.port = 2 := by
    rw [hplugged.port, hdSource]
    cbv
  have hways : (PortPath.ofDir hubFiles ⟨.ofText "/s/1-1.2"⟩).toOption.getD [] = [1] := by cbv
  have hports : d.ports = [1, 2] := by
    rw [hplugged.ports, hdSource, Assembly.upstream_directory, hways, hport]
    rfl
  rw [← hd] at hgetDevice
  have hequal := (upstreamPorts_eq_ports smallSettings hubHost d hgetDevice).1 _ hdSource hknows
  rw [hport, hd] at hequal
  rw [hd] at hgetDevice
  exact ⟨d, hgetDevice, hequal, hports⟩

end Inventory

end UsbAccess
