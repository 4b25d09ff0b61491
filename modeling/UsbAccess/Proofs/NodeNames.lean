import Mathlib
import UsbAccess.Proofs.ChosenDevices
import UsbAccess.Proofs.Numerals
import UsbAccess.Proofs.Readings

/-!
# Names of nodes

Stock is taken of every bus and node whose name stands for a number, however it is written: `1` and
`+1` stand for the same as `001`. The name itself is kept nowhere. A device has the numbers it is
listed by, and its own path is made from these, in three digits. So it is the path that the device
was read from only for the names that the kernel gives, and only as long as the node does not tell
another number in place of 0. Elsewhere the device's path leads nowhere, or to another node.

Results:
* `Inventory.address_listed`: the numbers that a device is listed by.
* `Inventory.exists_readFrom`: the node that a device was read from, with its names.
* `Inventory.ReadFrom.node_eq_iff`: when the device's own path is that of the node.
* `Inventory.ReadFrom.node_of_openNode`: it is then this node that is opened.
* `Inventory.node_eq_path_read_iff`: this for every device of every inventory.
-/

namespace UsbAccess

open Descriptor

namespace Assembly

theorem busNumber_fst (files : FileTree) (source : Source) (hint : UInt8) :
    (busNumber files source hint).1 =
      if hint = 0 then (source.busNumber files).toOption.getD hint else hint := by
  unfold busNumber
  split_ifs
  · rw [← Remark.note_fst .busNumber]
  · rfl

theorem deviceNumber_fst {σ : Type} (files : FileTree) (source : Source) (ask : Inquiry σ)
    (hint : UInt8) (s : σ) :
    (deviceNumber files source ask hint s).1.1 =
      if hint = 0 then (source.deviceNumber files ask s).1.toOption.getD hint else hint := by
  unfold deviceNumber
  split_ifs
  · rw [← Remark.note_fst .deviceNumber]
    rfl
  · rfl

end Assembly

theorem Claim.toOption_failed {α : Type} (operation : String) (answer : Except Errno α) :
    (failed operation answer).toOption = answer.toOption := by
  cases answer <;> rfl

namespace Inventory

/-- The path of a node by its name and the name of its bus. -/
def namedNode (root : Path) (busName name : Bytes) : Path := (root.join ⟨busName⟩).join ⟨name⟩

theorem nodePath_eq (root : Path) (address : BusAddress) :
    nodePath root address = namedNode root (usualName address.bus) (usualName address.number) := rfl

/-- The number by which the device in the node at `l` is listed. That of the node's name counts,
unless it is 0 and no directory has the numbers of the device; then what the node tells counts, if
it tells any. -/
def numberListed (settings : Settings) (host : Host) (l : Location)
    (address : BusAddress) : UInt8 :=
  if address.number = 0 ∧ DeviceDir.find? host.files settings.directoryRoot address = none then
    ((Host.newHandle l host).1.deviceNumber (Host.newHandle l host).2).1.toOption.getD 0
  else address.number

theorem address_listed (settings : Settings) (host : Host) (l : Location)
    (tree : Descriptor.DeviceTree) (address : BusAddress) :
    (Assembly.assemble settings host.files
      (fun _ => .ofQueries (Host.newHandle l host).1.queries) tree
      ⟨address, none⟩ (Host.newHandle l host).2).1.device.address =
        ⟨address.bus, numberListed settings host l address⟩ := by
  show
    (⟨(Assembly.busNumber host.files
        (Assembly.source settings host.files ⟨address, none⟩).1 address.bus).1,
      (Assembly.deviceNumber host.files (Assembly.source settings host.files ⟨address, none⟩).1
        (.ofQueries (Host.newHandle l host).1.queries) address.number
        (Host.newHandle l host).2).1.1⟩ : BusAddress) = _
  rw [Assembly.busNumber_fst, Assembly.deviceNumber_fst, numberListed, Assembly.source]
  cases hfind : DeviceDir.find? host.files settings.directoryRoot address with
  | some dir =>
    obtain ⟨-, hbus, hnumber⟩ := DeviceDir.find?_eq_some hfind
    have hno : ¬ (address.number = 0 ∧ some dir = none) := by rintro ⟨-, ⟨⟩⟩
    rw [if_neg hno]
    show BusAddress.mk (if address.bus = 0 then (dir.busNumber host.files).toOption.getD address.bus
      else address.bus)
      (if address.number = 0 then (dir.deviceNumber host.files).toOption.getD address.number
        else address.number) = _
    rw [hbus, hnumber]
    exact congrArg₂ BusAddress.mk (ite_self _) (ite_self _)
  | none =>
    refine congrArg₂ BusAddress.mk (ite_self _) ?_
    show (if address.number = 0 then
      (Claim.failed "get connect info"
        ((Host.newHandle l host).1.deviceNumber (Host.newHandle l host).2).1).toOption.getD
          address.number
      else address.number) = _
    rw [Claim.toOption_failed]
    by_cases hzero : address.number = 0
    · rw [if_pos hzero, if_pos ⟨hzero, rfl⟩, hzero]
    · rw [if_neg hzero, if_neg fun h => hzero h.1]

/-! ## Where a device was read -/

/-- The device was put together from the records in the node at `l`. This node was opened, when the
host was `host₁`, by the names `busName` and `name`, which stand for the numbers of `address`. -/
structure ReadFrom (settings : Settings) (host : Host) (busName name : Bytes) (address : BusAddress)
    (l : Location) (host₁ : Host) (a : Assembled) : Prop where
  bus : number? busName = some address.bus
  number : number? name = some address.number
  opened : host.files.nodeAt (namedNode settings.nodeRoot busName name) = .ok l
  files : host₁.files = host.files
  kernel : host₁.kernel = host.kernel
  made : ∃ tree, host.files.recordsAt (namedNode settings.nodeRoot busName name) = .ok tree ∧
    a = (Assembly.assemble settings host.files
      (fun _ => .ofQueries (Host.newHandle l host₁).1.queries) tree
      ⟨address, none⟩ (Host.newHandle l host₁).2).1

section

variable {settings : Settings} {host host₁ : Host} {busName name : Bytes} {address : BusAddress}
  {l : Location} {a : Assembled}

theorem exists_readFrom {sight : Sight} (hfinding : (sight, .ok a) ∈ findings settings host) :
    ∃ busName name address l host₁,
      sight = .node address (namedNode settings.nodeRoot busName name) ∧
      ReadFrom settings host busName name address l host₁ a := by
  have hview := inView_of_mem_findings hfinding
  have hyields : sight.Yields settings host (.ok a) := yields_of_mem_findings hfinding
  generalize houtcome : (Except.ok a : Except Error Assembled) = outcome at hyields
  cases hyields with
  | closed | broken => cases houtcome
  | device hnode hrecords hfiles hkernel =>
    cases houtcome
    cases hview with
    | node _ _ hbus _ _ hnumber =>
      exact ⟨_, _, _, _, _, rfl, hbus, hnumber, hnode, hfiles, hkernel, _, hrecords, rfl⟩

theorem ReadFrom.address_eq (hread : ReadFrom settings host busName name address l host₁ a) :
    a.device.address = ⟨address.bus, numberListed settings host₁ l address⟩ := by
  obtain ⟨tree, -, rfl⟩ := hread.made
  rw [← hread.files]
  exact address_listed settings host₁ l tree address

/-- The device's own path is made from the numbers that it is listed by. -/
theorem ReadFrom.node_eq (hread : ReadFrom settings host busName name address l host₁ a) :
    a.device.node = nodePath settings.nodeRoot a.device.address := by
  obtain ⟨tree, -, rfl⟩ := hread.made
  rfl

/-- The path made from the numbers of the device is that of its node just if the node and its bus
have the usual names and the device has kept its number. -/
theorem ReadFrom.node_eq_iff (hread : ReadFrom settings host busName name address l host₁ a) :
    a.device.node = namedNode settings.nodeRoot busName name ↔
      busName = usualName address.bus ∧ name = usualName address.number ∧
      a.device.address = address := by
  have hbus : a.device.address.bus = address.bus := by rw [hread.address_eq]
  rw [hread.node_eq, nodePath_eq, hbus, namedNode, namedNode,
    Path.join_join_inj _ (isName_of_number? (number?_usualName _))
      (isName_of_number? (number?_usualName _))
      (isName_of_number? hread.bus) (isName_of_number? hread.number)]
  constructor
  · rintro ⟨rfl, rfl⟩
    have hnumber := hread.number
    rw [number?_usualName, Option.some.injEq] at hnumber
    have hkept : a.device.address = ⟨a.device.address.bus, a.device.address.number⟩ := rfl
    exact ⟨rfl, by rw [hnumber], by rw [hkept, hbus, hnumber]⟩
  · rintro ⟨rfl, rfl, hkept⟩
    exact ⟨rfl, by rw [hkept]⟩

/-- Who opens the device by its own path, where that is the path it was read from, opens the node
that was read. -/
theorem ReadFrom.node_of_openNode (hread : ReadFrom settings host busName name address l host₁ a)
    (hnode : a.device.node = namedNode settings.nodeRoot busName name) {host' host'' : Host}
    {h : Handle}
    (hfiles : host'.files = host.files)
    (hopens : Host.openNode a.device.node host' = (.ok h, host'')) :
    h.node = l := by
  have hopened := hread.opened
  rw [← hnode, ← hfiles, FileTree.nodeAt] at hopened
  cases hupdate : host'.files.openToUpdate a.device.node with
  | ok l' =>
    rw [hupdate] at hopened
    cases hopened
    rw [Host.openNode_of_ok hupdate] at hopens
    cases hopens
    rfl
  | error fault =>
    rw [Host.openNode_of_error hupdate] at hopens
    cases hopens

/-- Whatever the names of the nodes are and whatever the kernel answers: the devices of an inventory
are those that have been read from a node with records, each under names that stand for numbers. A
device is listed by these numbers, but that the node may replace the number 0. Its own path is the
one that it was read from just if its bus and its node have the usual names, in three digits, and
its number was kept. Then who opens it by its path, as long as the files are the same, opens the
node that was read. -/
theorem node_eq_path_read_iff (settings : Settings) (host : Host) :
    (list settings host).1.devices = (made (findings settings host)).map Assembled.device ∧
    ∀ sight a, (sight, .ok a) ∈ findings settings host → ∃ busName name address l host₁,
      sight = .node address (namedNode settings.nodeRoot busName name) ∧
      ReadFrom settings host busName name address l host₁ a ∧
      a.device.address = ⟨address.bus, numberListed settings host₁ l address⟩ ∧
      (a.device.node = namedNode settings.nodeRoot busName name ↔
        busName = usualName address.bus ∧ name = usualName address.number ∧
        a.device.address = address) ∧
      (a.device.node = namedNode settings.nodeRoot busName name → ∀ (host' : Host),
        host'.files = host.files →
        ∀ h host'', Host.openNode a.device.node host' = (.ok h, host'') → h.node = l) := by
  refine ⟨by rw [list_eq_made], fun sight a hfinding => ?_⟩
  obtain ⟨busName, name, address, l, host₁, hsight, hread⟩ := exists_readFrom hfinding
  exact ⟨busName, name, address, l, host₁, hsight, hread, hread.address_eq, hread.node_eq_iff,
    fun hnode _ hfiles _ _ hopens => hread.node_of_openNode hnode hfiles hopens⟩

end

end Inventory

/-! ## Odd names -/

/-- A host with the nodes of these names, each with the same records. -/
def namedHost (kernel : Kernel) (nodes : List (String × String)) : Host where
  files := nodes.foldl (fun files node =>
    ((files.put (located ["n"]) .dir).put (located ["n", node.1]) .dir).put
      (located ["n", node.1, node.2])
      (.file smallTree.bytes)) (.empty [])
  kernel := kernel
  history := []
  opened := 0

/-- A kernel that grants whatever it is asked for, and tells a number. -/
def numberingKernel (n : UInt8) : Kernel where
  answer history h node request :=
    match request with
    | .connectInfo => .ok ⟨0, [n]⟩
    | _ => grantingKernel.answer history h node request
  delays _ _ _ _ := false

theorem deviceNumber_numberingKernel (n : UInt8) {host : Host} {l : Location}
    (hkernel : host.kernel = numberingKernel n) :
    ((Host.newHandle l host).1.deviceNumber (Host.newHandle l host).2).1 = .ok n := by
  obtain ⟨files, kernel, history, opened⟩ := host
  cases hkernel
  rfl

/-- Node 4 on bus 1, each named by one digit. -/
def shortHost : Host := namedHost grantingKernel [("1", "4")]

/-- Node 000, which tells the number 4, beside node 004. -/
def zeroHost : Host := namedHost (numberingKernel 4) [("001", "000"), ("001", "004")]

namespace Inventory

theorem found_shortHost :
    ∃ a, (.node ⟨1, 4⟩ (.ofText "/n/1/4"), .ok a) ∈ findings smallSettings shortHost := by
  have hsights : sights smallSettings shortHost.files = [.node ⟨1, 4⟩ (.ofText "/n/1/4")] := by cbv
  have hrecords : shortHost.files.recordsAt (.ofText "/n/1/4") = .ok smallTree := by cbv
  exact exists_made_of_inView (mem_sights.1 (hsights ▸ List.mem_cons_self)) hrecords

theorem found_zeroHost :
    ∃ a, (.node ⟨1, 0⟩ (.ofText "/n/001/000"), .ok a) ∈ findings smallSettings zeroHost := by
  have hsights : sights smallSettings zeroHost.files =
      [.node ⟨1, 0⟩ (.ofText "/n/001/000"), .node ⟨1, 4⟩ (.ofText "/n/001/004")] := by cbv
  have hrecords : zeroHost.files.recordsAt (.ofText "/n/001/000") = .ok smallTree := by cbv
  exact exists_made_of_inView (mem_sights.1 (hsights ▸ List.mem_cons_self)) hrecords

/-- The device that is listed from node 4 on bus 1 has another path, and cannot be opened. The one
that is listed from node 000 has the path of node 004. -/
theorem node_eq_path_read_iff_oddNames :
    (∃ a, (.node ⟨1, 4⟩ (.ofText "/n/1/4"), .ok a) ∈ findings smallSettings shortHost ∧
      a.device.node ≠ .ofText "/n/1/4" ∧
      a.device.open shortHost = ((.error .notFound, a.device), shortHost)) ∧
    ∃ a, (.node ⟨1, 0⟩ (.ofText "/n/001/000"), .ok a) ∈ findings smallSettings zeroHost ∧
      a.device.node ≠ .ofText "/n/001/000" ∧ a.device.node = .ofText "/n/001/004" := by
  obtain ⟨a, hfinding⟩ := found_shortHost
  obtain ⟨a', hfinding'⟩ := found_zeroHost
  obtain ⟨-, hread⟩ := node_eq_path_read_iff smallSettings shortHost
  obtain ⟨-, hread'⟩ := node_eq_path_read_iff smallSettings zeroHost
  refine ⟨⟨a, hfinding, ?_⟩, a', hfinding', ?_⟩
  · obtain ⟨busName, name, address, l, host₁, hsight, hfrom, haddress, -, -⟩ := hread _ a hfinding
    obtain ⟨rfl, -⟩ := Sight.node.inj hsight
    have hnode : a.device.node = .ofText "/n/001/004" := by
      rw [hfrom.node_eq, haddress, numberListed, if_neg fun h => absurd h.1 (by decide)]
      cbv
    have hgone : shortHost.files.openToUpdate (.ofText "/n/001/004") =
        .error (.refused .noEntry) := by cbv
    refine ⟨by rw [hnode]; decide, Device.open_of_refusal? ?_ ?_⟩
    · obtain ⟨tree, -, rfl⟩ := hfrom.made
      rfl
    · rw [Device.refusal?, hnode, hgone]
      rfl
  · obtain ⟨busName, name, address, l, host₁, hsight, hfrom, haddress, hiff, -⟩ :=
      hread' _ a' hfinding'
    obtain ⟨rfl, hpath⟩ := Sight.node.inj hsight
    have hnone : DeviceDir.find? zeroHost.files smallSettings.directoryRoot ⟨1, 0⟩ = none := by cbv
    have hnumber : numberListed smallSettings host₁ l ⟨1, 0⟩ = 4 := by
      rw [numberListed, hfrom.files, if_pos ⟨rfl, hnone⟩,
        deviceNumber_numberingKernel 4 hfrom.kernel]
      rfl
    constructor
    · rw [hpath]
      intro hsame
      have hkept := (hiff.1 hsame).2.2
      rw [haddress, hnumber] at hkept
      exact absurd hkept (by decide)
    · rw [hfrom.node_eq, haddress, hnumber]
      cbv

end Inventory

end UsbAccess
