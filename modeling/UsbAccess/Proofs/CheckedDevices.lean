import Mathlib
import UsbAccess.Proofs.CheckedRecords
import UsbAccess.Proofs.Isolation

/-!
# Devices without traps

What a device answers comes in buffers, and the kernel says how much of a buffer counts. As long as
it never says more than the buffer holds, texts are read, devices are put together and all of them
are listed without a trap, whatever the files and the answers are.

Results:
* `Handle.checkedText_agrees`: a text is read.
* `Assembly.checkedAssemble_agrees`: a device is put together.
* `Inventory.never_traps`: nothing traps from the bytes of a node to the list of all devices.
-/

namespace UsbAccess

open Checked Text

/-! ## Texts -/

namespace DeviceText

/-- The first language that the record at index 0 lists. -/
def checkedFirstLanguage? (bytes : Bytes) : Checked (Option UInt16) := do
  if bytes.length < 4 then return none
  if (← get bytes 1) ≠ kind then return none
  if (← get bytes 0) < 4 then return none
  return some (Bytes.word (← get bytes 2) (← get bytes 3))

/-- The chunks of two in `bytes`; an odd byte at the end is left over. -/
def chunks : Bytes → List Bytes
  | low :: high :: rest => [low, high] :: chunks rest
  | _ => []

/-- The unit of a chunk. -/
def checkedUnit (chunk : Bytes) : Checked UInt16 := do
  return Bytes.word (← get chunk 0) (← get chunk 1)

/-- The text of a record. -/
def checkedDecode (bytes : Bytes) : Checked (Except Errno String) := do
  if bytes.length < 2 then return .error .protocol
  if (← get bytes 1) ≠ kind then return .error .protocol
  let length := min (← get bytes 0).toNat bytes.length
  if length < 2 then return .error .protocol
  let units ← (chunks (← slice bytes 2 length)).mapM checkedUnit
  return .ok (String.ofList (Utf16.decode units))

theorem checkedFirstLanguage?_eq (bytes : Bytes) :
    checkedFirstLanguage? bytes = .ok (firstLanguage? bytes) := by
  match bytes with
  | [] | [_] | [_, _] | [_, _, _] => rfl
  | length :: k :: low :: high :: rest =>
    have hlong : ¬ (length :: k :: low :: high :: rest).length < 4 := by simp
    unfold checkedFirstLanguage? firstLanguage?
    rw [if_neg hlong]
    show (if k ≠ kind then .ok none else if length < 4 then .ok none
      else .ok (some (Bytes.word low high))) =
      Except.ok (if k = kind ∧ 4 ≤ length then some (Bytes.word low high) else none)
    by_cases hkind : k = kind
    · by_cases hlength : length < 4
      · rw [if_neg (not_not.2 hkind), if_pos hlength, if_neg fun h => UInt8.not_le.2 hlength h.2]
      · rw [if_neg (not_not.2 hkind), if_neg hlength, if_pos ⟨hkind, UInt8.not_lt.1 hlength⟩]
    · rw [if_pos hkind, if_neg fun h => hkind h.1]

theorem mapM_checkedUnit (bytes : Bytes) :
    (chunks bytes).mapM checkedUnit = .ok (Utf16.units bytes) := by
  fun_induction chunks bytes with
  | case1 low high rest ih =>
    have hunit : checkedUnit [low, high] = .ok (Bytes.word low high) := rfl
    rw [List.mapM_cons, bind_of_ok hunit, bind_of_ok ih]
    rfl
  | case2 bytes hshort =>
    rw [Utf16.units]
    · rfl
    · exact hshort

theorem checkedDecode_eq (bytes : Bytes) : checkedDecode bytes = .ok (decode bytes) := by
  match bytes with
  | [] | [_] => rfl
  | length :: k :: rest =>
    have hlong : ¬ (length :: k :: rest).length < 2 := by simp
    have hk : get (length :: k :: rest) 1 = .ok k := get_eq_ok_iff.2 rfl
    have hlength : get (length :: k :: rest) 0 = .ok length := get_eq_ok_iff.2 rfl
    unfold checkedDecode decode
    simp only [if_neg hlong, bind_of_ok hk, bind_of_ok hlength]
    by_cases hkind : k = kind
    · by_cases hshort : length.toNat < 2
      · have hmin : min length.toNat (length :: k :: rest).length < 2 := by omega
        have hbelow : ¬ 2 ≤ length := fun h => absurd (UInt8.le_iff_toNat_le.1 h) (not_le.2 hshort)
        simp only [if_neg (not_not.2 hkind), if_pos hmin, if_neg fun h : k = kind ∧
          2 ≤ length => hbelow h.2]
        rfl
      · have hmin : 2 ≤ min length.toNat (length :: k :: rest).length := by
          rw [List.length_cons, List.length_cons]
          omega
        have habove : 2 ≤ length := UInt8.le_iff_toNat_le.2 (not_lt.1 hshort)
        have hcut :
            ((length :: k :: rest).take (min length.toNat (length :: k :: rest).length)).drop 2 =
            rest.take (length.toNat - 2) := by
          rw [List.drop_take, List.drop_succ_cons, List.drop_succ_cons, List.drop_zero,
            List.take_eq_take_iff, List.length_cons, List.length_cons]
          omega
        simp only [if_neg (not_not.2 hkind), if_neg (not_lt.2 hmin),
          if_pos (And.intro hkind habove), bind_of_ok (slice_of_le hmin (min_le_right _ _)), hcut,
          bind_of_ok (mapM_checkedUnit _)]
        rfl
    · simp only [if_pos hkind, if_neg fun h : k = kind ∧ 2 ≤ length => hkind h.1]
      rfl

end DeviceText

/-! ## Questions -/

/-- The kernel never says that a control transfer has brought more than its buffer holds. -/
def Kernel.KeepsToBuffers (kernel : Kernel) : Prop :=
  ∀ history h node requestType request value index length timeout reply,
    kernel.answer history h node (.control requestType request value index length timeout) =
      .ok reply →
      reply.count ≤ length.toNat

/-- The kernel behind the nodes keeps to the buffers. -/
def Host.KeepsToBuffers (host : Host) : Prop := host.kernel.KeepsToBuffers

namespace Handle

/-- The text at `index`, in the first language that the device lists. -/
def checkedText (h : Handle) (index : UInt8) : On Host (Except Errno String) := do
  if index = 0 then return .ok ""
  match ← run (h.controlIn 0x06 (textValue 0) 0 (List.replicate 255 0)) with
  | .error e => return .error e
  | .ok (count, buffer) =>
    let language? ← here do DeviceText.checkedFirstLanguage? (← slice buffer 0 count)
    match ← run (h.controlIn 0x06 (textValue index)
      (language?.getD DeviceText.defaultLanguage) buffer) with
    | .error e => return .error e
    | .ok (count, buffer) => here do DeviceText.checkedDecode (← slice buffer 0 count)

/-- The value of the active configuration, one byte. -/
def checkedActiveConfiguration (h : Handle) : On Host (Except Errno UInt8) := do
  match ← run (h.controlIn 0x08 0 0 [0]) with
  | .ok (count, buffer) =>
    if count = 1 then return .ok (← here (Checked.get buffer 0)) else return .error .protocol
  | .error e => return .error e

/-- No more of a buffer that comes back counts than it holds, and it is as long as before. -/
def Received (buffer : Bytes) (answer : Except Errno (ℕ × Bytes)) : Prop :=
  ∀ count received, answer = .ok (count, received) →
    count ≤ received.length ∧ received.length = buffer.length

theorem relates_ask (h : Handle) (request : NodeRequest) :
    Relates (fun host host' => host = host' ∧ host.KeepsToBuffers) (Host.ask h request)
    (Host.ask h request) := by
  rintro host _ ⟨rfl, hhost⟩
  exact ⟨rfl, rfl, hhost⟩

theorem controlIn_fst (h : Handle) (request : UInt8) (value index : UInt16) (buffer : Bytes)
    (host : Host) :
    (h.controlIn request value index buffer host).1 =
      (Host.ask h (.control 0x80 request value index buffer.length.toUInt16 controlTimeout)
        host).1.map fun reply =>
        (reply.count, Bytes.overwrite buffer reply.data) := by
  rw [controlIn, Inventory.bind_apply]
  cases (Host.ask h (.control 0x80 request value index buffer.length.toUInt16 controlTimeout)
    host).1 with
  | ok reply => rfl
  | error e => rfl

/-- A kernel that keeps to the buffers goes on to, and so do its answers. -/
theorem controlIn_received (h : Handle) (request : UInt8) (value index : UInt16) (buffer : Bytes)
    (host : Host) (hhost : host.KeepsToBuffers) :
    Received buffer (h.controlIn request value index buffer host).1 ∧
      (h.controlIn request value index buffer host).2.KeepsToBuffers := by
  refine ⟨fun count received hanswer => ?_,
    (Relates.controlIn h.relates_ask request value index buffer host host ⟨rfl, hhost⟩).2.2⟩
  rw [controlIn_fst] at hanswer
  cases hask : (Host.ask h
      (.control 0x80 request value index buffer.length.toUInt16 controlTimeout) host).1 with
  | error e =>
    rw [hask] at hanswer
    cases hanswer
  | ok reply =>
    rw [hask] at hanswer
    cases hanswer
    have hcount : reply.count ≤ buffer.length.toUInt16.toNat := hhost _ _ _ _ _ _ _ _ _ reply hask
    have hlength : buffer.length.toUInt16.toNat ≤ buffer.length := by
      rw [UInt16.toNat_ofNat']
      exact Nat.mod_le _ _
    rw [Bytes.length_overwrite]
    exact ⟨hcount.trans hlength, rfl⟩

theorem checkedText_agrees (h : Handle) (index : UInt8) :
    Agrees Host.KeepsToBuffers (h.checkedText index) (h.text index) := by
  unfold checkedText text
  split_ifs
  · exact .pure _
  refine .run_bind (h.controlIn_received 0x06 (textValue 0) 0 (List.replicate 255 0))
    fun languages hlanguages => ?_
  cases languages with
  | error e => exact .pure _
  | ok received =>
    obtain ⟨count, buffer⟩ := received
    obtain ⟨hcount, -⟩ := hlanguages count buffer rfl
    refine .bind_here (a := DeviceText.firstLanguage? (buffer.take count)) ?_ ?_
    · rw [bind_of_ok (slice_of_le (Nat.zero_le _) hcount)]
      exact DeviceText.checkedFirstLanguage?_eq _
    refine .run_bind (h.controlIn_received 0x06 (textValue index) _ buffer) fun answer hanswer => ?_
    cases answer with
    | error e => exact .pure _
    | ok received =>
      obtain ⟨count, buffer⟩ := received
      obtain ⟨hcount, -⟩ := hanswer count buffer rfl
      refine .here ?_
      rw [bind_of_ok (slice_of_le (Nat.zero_le _) hcount)]
      exact DeviceText.checkedDecode_eq _

theorem checkedActiveConfiguration_agrees (h : Handle) :
    Agrees Host.KeepsToBuffers h.checkedActiveConfiguration h.activeConfiguration := by
  refine .run_bind (h.controlIn_received 0x08 0 0 [0]) fun answer hanswer => ?_
  cases answer with
  | error e => exact .pure _
  | ok received =>
    obtain ⟨count, buffer⟩ := received
    obtain ⟨-, hlength⟩ := hanswer count buffer rfl
    obtain ⟨value, rfl⟩ := List.length_eq_one_iff.1 hlength
    show Agrees Host.KeepsToBuffers (if count = 1 then _ else _)
      (pure (if count = 1 then Except.ok value else .error Errno.protocol))
    split_ifs
    · exact .bind_here rfl (.pure _)
    · exact .pure _

end Handle

/-- How a device is asked with operations that may trap. -/
structure CheckedInquiry (σ : Type) where
  text : String → UInt8 → On σ (Except Error String)
  activeConfiguration : On σ (Except Error UInt8)
  speed : On σ (Except Error Speed)
  deviceNumber : On σ (Except Error UInt8)

namespace CheckedInquiry

/-- Asks at an open node. -/
def ofOpen (h : Handle) : CheckedInquiry Host where
  text operation index := do return Claim.failed operation (← h.checkedText index)
  activeConfiguration := do return Claim.failed "get configuration" (← h.checkedActiveConfiguration)
  speed := do return Claim.failed "get speed" (← run h.speed)
  deviceNumber := do return Claim.failed "get connect info" (← run h.deviceNumber)

/-- Opens the node for one operation. -/
def withNode {α : Type} (node : Path) (operation : String)
    (ask : Handle → On Host (Except Errno α)) :
    On Host (Except Error α) := do
  match ← run (Host.openNode node) with
  | .error fault => return .error (.io fault)
  | .ok h => return Claim.failed operation (← ask h)

/-- Asks by opening the node for each question. -/
def ofNode (node : Path) : CheckedInquiry Host where
  text operation index := withNode node operation fun h => h.checkedText index
  activeConfiguration := withNode node "get configuration" Handle.checkedActiveConfiguration
  speed := withNode node "get speed" fun h => run h.speed
  deviceNumber := withNode node "get connect info" fun h => run h.deviceNumber

/-- Asks by the open handle, or else by opening the node. -/
def ofHandle (handle : Option Handle) (node : Path) : CheckedInquiry Host :=
  match handle with
  | some h => ofOpen h
  | none => ofNode node

/-- Each question goes through and is answered as without traps. -/
structure Agrees {σ : Type} (I : σ → Prop) (checked : CheckedInquiry σ)
    (plain : Inquiry σ) : Prop where
  text : ∀ operation index,
    Checked.Agrees I (checked.text operation index) (plain.text operation index)
  activeConfiguration : Checked.Agrees I checked.activeConfiguration plain.activeConfiguration
  speed : Checked.Agrees I checked.speed plain.speed
  deviceNumber : Checked.Agrees I checked.deviceNumber plain.deviceNumber

theorem speed_agrees (h : Handle) : Checked.Agrees Host.KeepsToBuffers (run h.speed) h.speed :=
  .run fun host hhost => (Relates.speed h.relates_ask host host ⟨rfl, hhost⟩).2.2

theorem deviceNumber_agrees (h : Handle) :
    Checked.Agrees Host.KeepsToBuffers (run h.deviceNumber) h.deviceNumber :=
  .run fun host hhost => (Relates.deviceNumber h.relates_ask host host ⟨rfl, hhost⟩).2.2

theorem agrees_ofOpen (h : Handle) :
    (ofOpen h).Agrees Host.KeepsToBuffers (.ofQueries h.queries) where
  text _ index := (h.checkedText_agrees index).bind fun _ => .pure _
  activeConfiguration := h.checkedActiveConfiguration_agrees.bind fun _ => .pure _
  speed := (speed_agrees h).bind fun _ => .pure _
  deviceNumber := (deviceNumber_agrees h).bind fun _ => .pure _

theorem withNode_agrees {α : Type} (node : Path) (operation : String)
    {ask : Handle → On Host (Except Errno α)} {plain : Handle → StateM Host (Except Errno α)}
    (hask : ∀ h, Checked.Agrees Host.KeepsToBuffers (ask h) (plain h)) :
    Checked.Agrees Host.KeepsToBuffers (withNode node operation ask)
    (Inquiry.withNode node operation plain) := by
  have hopen : ∀ host : Host, host.KeepsToBuffers → (Host.openNode node host).2.KeepsToBuffers := by
    intro host hhost
    unfold Host.openNode
    split
    · exact hhost
    · exact hhost
  refine (Checked.Agrees.run hopen).bind fun opened => ?_
  cases opened with
  | error fault => exact .pure _
  | ok h => exact (hask h).bind fun _ => .pure _

theorem agrees_ofNode (node : Path) : (ofNode node).Agrees Host.KeepsToBuffers (.ofNode node) where
  text operation index := withNode_agrees node operation fun h => h.checkedText_agrees index
  activeConfiguration := withNode_agrees node _ Handle.checkedActiveConfiguration_agrees
  speed := withNode_agrees node _ speed_agrees
  deviceNumber := withNode_agrees node _ deviceNumber_agrees

theorem agrees_ofHandle (handle : Option Handle) (node : Path) :
    (ofHandle handle node).Agrees Host.KeepsToBuffers (.ofHandle handle node) := by
  cases handle with
  | none => exact agrees_ofNode node
  | some h => exact agrees_ofOpen h

end CheckedInquiry

/-! ## Putting a device together -/

namespace Source

variable {σ α : Type} {I : σ → Prop}

/-- Reads in the directory, or else asks the device. -/
def ask (s : Source) (read : DeviceDir → Except Error α) (question : StateM σ (Except Error α)) :
    StateM σ (Except Error α) :=
  match s with
  | directory dir => return read dir
  | node => question

/-- Reads in the directory, or else asks the device. -/
def checkedAsk (s : Source) (read : DeviceDir → Except Error α) (question : On σ (Except Error α)) :
    On σ (Except Error α) :=
  match s with
  | directory dir => return read dir
  | node => question

theorem checkedAsk_agrees (s : Source) (read : DeviceDir → Except Error α)
    {checked : On σ (Except Error α)} {plain : StateM σ (Except Error α)}
    (hquestion : Agrees I checked plain) :
    Agrees I (s.checkedAsk read checked) (s.ask read plain) := by
  cases s with
  | directory dir => exact .pure _
  | node => exact hquestion

end Source

namespace Assembly

variable {σ : Type}

/-- The index of the active configuration among `count`, the first where its value cannot be told.
-/
def checkedActive (count : ℕ) (value : Except Error UInt8) : Checked (Option ℕ × List Remark) :=
  let first := if count = 0 then none else some 0
  match value with
  | .ok v =>
    if 1 ≤ v.toNat ∧ v.toNat ≤ count then do return (some (← sub v.toNat 1), [])
    else return (first, [activeRemark v count])
  | .error e => return (first, [⟨.activeConfiguration, e.message⟩])

/-- The hub above the device and the ports of the hubs above it. -/
def checkedUpstream (files : FileTree) : Source →
    Checked ((Option BusAddress × List UInt8) × List Remark)
  | .directory dir => do
    let (parent, parentRemarks) := Remark.note .parent (dir.parent files)
    let (ports, portRemarks) := Remark.note .parent (← PortPath.checkedOfDir files dir)
    return ((parent.getD none, ports.getD []), parentRemarks ++ portRemarks)
  | .node => return ((none, []), [])

/-- The number of the device, asked for when the hint is 0. -/
def checkedDeviceNumber (files : FileTree) (source : Source) (ask : CheckedInquiry σ)
    (hint : UInt8) :
    On σ (UInt8 × List Remark) := do
  if hint = 0 then
    let (number, remarks) := Remark.note .deviceNumber
      (← source.checkedAsk (fun dir => dir.deviceNumber files) ask.deviceNumber)
    return (number.getD hint, remarks)
  else return (hint, [])

/-- Puts a device together. -/
def checkedAssemble (settings : Settings) (files : FileTree) (ask : Path → CheckedInquiry σ)
    (tree : Descriptor.DeviceTree) (hints : Hints) : On σ Assembled := do
  let configurations ← here (Placement.checkedConfigurations tree hints.address)
  let (source, sourceRemarks) := source settings files hints
  let (number, numberRemarks) ←
    checkedDeviceNumber files source
      (ask (nodePath settings.nodeRoot hints.address)) hints.address.number
  let (bus, busRemarks) := busNumber files source hints.address.bus
  let address : BusAddress := ⟨bus, number⟩
  let ask := ask (nodePath settings.nodeRoot address)
  let (vendorName, vendorRemarks) := Remark.note .vendorName
    (← source.checkedAsk (fun dir => dir.manufacturer files)
      (ask.text "read manufacturer string" tree.record.manufacturerText))
  let (productName, productRemarks) := Remark.note .productName
    (← source.checkedAsk (fun dir => dir.product files)
      (ask.text "read product string" tree.record.productText))
  let (port, portRemarks) := Remark.note .port source.port
  let (active, activeRemarks) ← here (checkedActive configurations.length
    (← source.checkedAsk (fun dir => dir.activeConfiguration files) ask.activeConfiguration))
  let (speed, speedRemarks) :=
    Remark.note .speed (← source.checkedAsk (fun dir => dir.speed files) ask.speed)
  let ((parent, upstream), upstreamRemarks) ← here (checkedUpstream files source)
  let port := port.getD 0
  return {
    device := {
      address := address
      port := port
      ports := upstream ++ if port = 0 then [] else [port]
      vendor := tree.record.vendor
      product := tree.record.product
      names := {
        listedVendor := settings.names.bind fun t => t.vendor? tree.record.vendor
        listedProduct := settings.names.bind fun t =>
          t.product? tree.record.vendor tree.record.product
        ownVendor := vendorName.getD ""
        ownProduct := productName.getD "" }
      parent := parent
      speed := speed.getD .unknown
      configurations := configurations.map fun c => c.relink address
      active := active
      texts := ⟨tree.record.manufacturerText, tree.record.productText, tree.record.serialText⟩
      source := source
      nodeRoot := settings.nodeRoot
      handle := none
      claims := Claims.none
      registration := none }
    remarks := Placement.remarks tree ++ sourceRemarks ++ numberRemarks ++ busRemarks ++
      vendorRemarks ++
      productRemarks ++ portRemarks ++ activeRemarks ++ speedRemarks ++ upstreamRemarks }

theorem checkedActive_eq (count : ℕ) (value : Except Error UInt8) :
    checkedActive count value = .ok (active count value) := by
  unfold checkedActive active
  cases value with
  | error e => rfl
  | ok v =>
    by_cases hv : 1 ≤ v.toNat ∧ v.toNat ≤ count
    · simp only [if_pos hv, bind_of_ok (sub_of_le hv.1)]
      rfl
    · simp only [if_neg hv]
      rfl

theorem checkedUpstream_eq (files : FileTree) (source : Source) :
    checkedUpstream files source = .ok (upstream files source) := by
  cases source with
  | directory dir => exact bind_of_ok (PortPath.checkedOfDir_eq files dir) _
  | node => rfl

variable {I : σ → Prop} {checked : Path → CheckedInquiry σ} {plain : Path → Inquiry σ}

theorem checkedDeviceNumber_agrees (hask : ∀ node, (checked node).Agrees I (plain node))
    (files : FileTree) (source : Source) (node : Path) (hint : UInt8) :
    Agrees I (checkedDeviceNumber files source (checked node) hint)
      (deviceNumber files source (plain node) hint) := by
  unfold checkedDeviceNumber deviceNumber
  split_ifs
  · exact (source.checkedAsk_agrees _ (hask node).deviceNumber).bind fun answer => .pure _
  · exact .pure _

theorem checkedAssemble_agrees (hask : ∀ node, (checked node).Agrees I (plain node))
    (settings : Settings) (files : FileTree) (tree : Descriptor.DeviceTree) (hints : Hints) :
    Agrees I (checkedAssemble settings files checked tree hints)
    (assemble settings files plain tree hints) := by
  refine .bind_here (Placement.checkedConfigurations_eq tree hints.address) ?_
  unfold assemble
  generalize source settings files hints = found
  obtain ⟨source, sourceRemarks⟩ := found
  refine (checkedDeviceNumber_agrees hask files source _ _).bind fun number => ?_
  refine (source.checkedAsk_agrees _ ((hask _).text _ _)).bind fun vendorName => ?_
  refine (source.checkedAsk_agrees _ ((hask _).text _ _)).bind fun productName => ?_
  refine (source.checkedAsk_agrees _ (hask _).activeConfiguration).bind fun value => ?_
  refine .bind_here (checkedActive_eq _ value) ?_
  refine (source.checkedAsk_agrees _ (hask _).speed).bind fun speed => ?_
  exact .bind_here (checkedUpstream_eq files source) (.pure _)

end Assembly

/-! ## Parts of a device -/

namespace Device

/-- Interface `number` of the active configuration. The last number is told where there is no such
interface. -/
def checkedInterface (d : Device) (number : UInt8) : Checked (Except Error Interface) :=
  match d.activeConfiguration? with
  | none => return .error (.invalidState (.unconfigured d.address))
  | some c =>
    if c.interfaces.isEmpty then return .error (.invalidState (.noInterfaces c.value))
    else
      match c.interfaces[number.toNat]? with
      | some i => return .ok i
      | none => do
        let last ← sub c.interfaces.length 1
        return .error (.invalidArgument (.interfaceRange number (last + 1)))

/-- The endpoint of an address in the active configuration. It is searched for without an index. -/
def checkedEndpoint (d : Device) (address : UInt8) : Checked (Except Error Endpoint) :=
  match d.activeConfiguration? with
  | none => return .error (.invalidState (.unconfigured d.address))
  | some c =>
    match (c.interfaces.flatMap Interface.endpoints).find? fun e => e.address == address with
    | some e => return .ok e
    | none => return .error (.invalidArgument (.noEndpoint address c.value))

theorem checkedInterface_eq (d : Device) (number : UInt8) :
    d.checkedInterface number = .ok (d.interface number) := by
  unfold checkedInterface interface
  cases d.activeConfiguration? with
  | none => rfl
  | some c =>
    by_cases hempty : c.interfaces.isEmpty
    · simp only [if_pos hempty]
      rfl
    · simp only [if_neg hempty]
      cases c.interfaces[number.toNat]? with
      | some i => rfl
      | none =>
        have hlength : 1 ≤ c.interfaces.length :=
          List.length_pos_iff.2 fun h => hempty (List.isEmpty_iff.2 h)
        simp only [bind_of_ok (sub_of_le hlength), Nat.sub_add_cancel hlength]
        rfl

theorem checkedEndpoint_eq (d : Device) (address : UInt8) :
    d.checkedEndpoint address = .ok (d.endpoint address) := by
  unfold checkedEndpoint endpoint
  cases d.activeConfiguration? with
  | none => rfl
  | some c =>
    dsimp only
    cases (c.interfaces.flatMap Interface.endpoints).find? fun e => e.address == address with
    | some e => rfl
    | none => rfl

end Device

/-! ## Taking stock -/

namespace Inventory

/-- Puts the device of a node together. -/
def checkedReadDevice (settings : Settings) (address : BusAddress) (path : Path) :
    On Host (Except Error Assembled) := do
  match ← run (Host.openNodeToRead path) with
  | .error fault => return .error (.io fault)
  | .ok h =>
    match (← MonadState.get).readNode h with
    | .error fault => return .error (.io fault)
    | .ok bytes =>
      match ← here (Descriptor.checkedTree bytes) with
      | .error fault => return .error (.invalidDescriptor fault)
      | .ok tree =>
        let assembled ← Assembly.checkedAssemble settings (← MonadState.get).files
            (fun _ => .ofOpen h) tree
          ⟨address, none⟩
        return .ok assembled

/-- The inventory with the device of one node. -/
def checkedListNode (settings : Settings) (bus : UInt8) (i : Inventory) (node : UInt8 × Path) :
    On Host Inventory := do
  match ← checkedReadDevice settings ⟨bus, node.1⟩ node.2 with
  | .ok assembled => return i.add assembled
  | .error e => return i.fail e

/-- The inventory with the devices of one bus. -/
def checkedListBus (settings : Settings) (i : Inventory) (bus : UInt8 × Path) : On Host Inventory :=
  do
  match numbered (← MonadState.get).files bus.2 with
  | .ok nodes => nodes.foldlM (checkedListNode settings bus.1) i
  | .error fault => return i.fail (.io fault)

/-- All devices. -/
def checkedList (settings : Settings) : On Host Inventory := do
  match numbered (← MonadState.get).files settings.nodeRoot with
  | .ok buses => buses.foldlM (checkedListBus settings) empty
  | .error fault => return empty.fail (.io fault)

theorem checkedReadDevice_agrees (settings : Settings) (address : BusAddress) (path : Path) :
    Agrees Host.KeepsToBuffers (checkedReadDevice settings address path)
    (readDevice settings address path) := by
  have hopen : ∀ host : Host, host.KeepsToBuffers →
      (Host.openNodeToRead path host).2.KeepsToBuffers := by
    intro host hhost
    rw [Host.openNodeToRead_eq]
    cases host.files.nodeAt path with
    | ok l => exact hhost
    | error fault => exact hhost
  refine (Agrees.run hopen).bind fun opened => ?_
  cases opened with
  | error fault => exact .pure _
  | ok h =>
    refine Agrees.get.bind fun host => ?_
    cases host.readNode h with
    | error fault => exact .pure _
    | ok bytes =>
      refine .bind_here (Descriptor.checkedTree_eq bytes) ?_
      dsimp only
      cases Descriptor.DeviceTree.ofBytes? bytes with
      | error fault => exact .pure _
      | ok tree =>
        refine Agrees.get.bind fun host => ?_
        exact (Assembly.checkedAssemble_agrees
          (fun _ => CheckedInquiry.agrees_ofOpen h) settings _ tree _).bind
          fun _ => .pure _

theorem checkedListNode_agrees (settings : Settings) (bus : UInt8) (i : Inventory)
    (node : UInt8 × Path) :
    Agrees Host.KeepsToBuffers (checkedListNode settings bus i node)
    (listNode settings bus i node) := by
  refine (checkedReadDevice_agrees settings _ _).bind fun found => ?_
  cases found with
  | ok assembled => exact .pure _
  | error e => exact .pure _

theorem checkedListBus_agrees (settings : Settings) (i : Inventory) (bus : UInt8 × Path) :
    Agrees Host.KeepsToBuffers (checkedListBus settings i bus) (listBus settings i bus) := by
  refine Agrees.get.bind fun host => ?_
  cases numbered host.files bus.2 with
  | ok nodes => exact .foldlM (checkedListNode_agrees settings bus.1) nodes i
  | error fault => exact .pure _

theorem checkedList_agrees (settings : Settings) :
    Agrees Host.KeepsToBuffers (checkedList settings) (list settings) := by
  refine Agrees.get.bind fun host => ?_
  cases numbered host.files settings.nodeRoot with
  | ok buses => exact .foldlM (checkedListBus_agrees settings) buses empty
  | error fault => exact .pure _

/-- Whatever the bytes of a node, the files, the hints and the answers of the kernel are, as long as
the kernel keeps to the buffers, nothing traps: not when bytes are cut into records and nested, not
when a device is put together with an open node or without one, not when all devices are listed or a
text is read, and not when a part of a device is looked up. -/
theorem never_traps (settings : Settings) (host : Host) (hkernel : host.kernel.KeepsToBuffers) :
    (∀ c : Descriptor.Cursor, c.checkedNext = .ok c.next) ∧
    (∀ bytes, Descriptor.checkedTree bytes = .ok (Descriptor.DeviceTree.ofBytes? bytes)) ∧
    (∀ files handle tree hints,
      Assembly.checkedAssemble settings files (CheckedInquiry.ofHandle handle) tree hints host =
        .ok (Assembly.assemble settings files (Inquiry.ofHandle handle) tree hints host)) ∧
    checkedList settings host = .ok (list settings host) ∧
    (∀ (h : Handle) index, h.checkedText index host = .ok (h.text index host)) ∧
    (∀ (d : Device) number, d.checkedInterface number = .ok (d.interface number)) ∧
    (∀ (d : Device) address, d.checkedEndpoint address = .ok (d.endpoint address)) := by
  refine ⟨Descriptor.Cursor.checkedNext_eq, Descriptor.checkedTree_eq,
    fun files handle tree hints => ?_, (checkedList_agrees settings host hkernel).1,
      fun h index => (h.checkedText_agrees index host hkernel).1,
    Device.checkedInterface_eq, Device.checkedEndpoint_eq⟩
  exact (Assembly.checkedAssemble_agrees
    (CheckedInquiry.agrees_ofHandle handle) settings files tree hints host
    hkernel).1

end Inventory

/-! ## A kernel with one answer -/

/-- A kernel that answers control transfers by these bytes where they fit in, and says that `result`
bytes count. -/
def answeringKernel (result : Int32) (data : Bytes) : Kernel where
  answer _ _ _ request :=
    match request with
    | .control _ _ _ _ length _ =>
      if data.length ≤ length.toNat then .ok ⟨result, data⟩ else .error .protocol
    | _ => .ok ⟨0, []⟩
  delays _ _ _ _ := false

theorem answeringKernel_keepsToBuffers {result : Int32} {data : Bytes}
    (hcount : (⟨result, data⟩ : Reply).count ≤ data.length) :
    (answeringKernel result data).KeepsToBuffers := by
  intro history h node requestType request value index length timeout reply hanswer
  change (if data.length ≤ length.toNat then Except.ok (⟨result, data⟩ : Reply)
    else .error Errno.protocol) = .ok reply at hanswer
  split_ifs at hanswer with hfits
  cases hanswer
  exact hcount.trans hfits

/-- A host with one node, where every text is the letter A. -/
def letterHost : Host := { oneNode with kernel := answeringKernel 4 [4, 3, 0x41, 0] }

/-- On this host the devices are listed, and the text at index 1 is read. -/
theorem never_traps_letterHost :
    letterHost.kernel.KeepsToBuffers ∧
    Inventory.checkedList smallSettings letterHost = .ok (Inventory.list smallSettings letterHost) ∧
    ((⟨nodeOne, 0, 0⟩ : Handle).checkedText 1 letterHost).toOption.map Prod.fst =
      some (.ok "A") := by
  have hkernel : letterHost.kernel.KeepsToBuffers := answeringKernel_keepsToBuffers (by decide)
  obtain ⟨-, -, -, hlist, htext, -, -⟩ := Inventory.never_traps smallSettings letterHost hkernel
  refine ⟨hkernel, hlist, ?_⟩
  rw [htext]
  decide +kernel

/-- A kernel that says that more bytes count than the buffer holds makes the reading of a text trap.
-/
example : ((⟨nodeOne, 0, 0⟩ : Handle).checkedText 1
    { oneNode with kernel := answeringKernel 256 [] }).map Prod.fst =
      .error (.slice 0 256 255) := by
  decide +kernel

end UsbAccess
