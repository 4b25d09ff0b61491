import Mathlib
import UsbAccess.Proofs.Remarks

/-!
# What a device is told by its source

A device's records do not tell its place, its names, its speed or what is active. These come from
its source, one question after another, and each question can fail by itself. Here is told what a
device and its remarks are for every combination of answers: a field has what the source answered,
or it has its default, and then the remarks on this field are exactly those that its failure calls
for.

The remarks are read topic by topic. That the list of a topic is known says both that no failure is
passed over in silence and that nothing is remarked without a failure.

Results:
* `DeviceDir.find?_eq_some`, `DeviceDir.find?_eq_none`: which directory is found, and when there is
  none.
* `Assembly.located_source`: the source of a device.
* `Assembly.climbed_upstream`, `Assembly.activated_active`: the hubs above, the active
  configuration.
* `Assembly.assemble_remarks_eq`: the remarks on a device, topic by topic.
* `Assembly.mem_note_of_mem_remarks`: where remarks on the port and on the hubs above come from.
* `Assembly.assemble_reflects`: every device is as its source answered, and its remarks tell the
  rest.
-/

namespace UsbAccess

open Descriptor

/-! ## Fields -/

/-- A field after a reading: it has what was read, or else its default, and then there is one remark
on it with the text of the error. -/
inductive Taken {α : Type} (topic : Topic) (default : α) : Except Error α → α → List Remark → Prop
  | told (a : α) : Taken topic default (.ok a) a []
  | failed (e : Error) : Taken topic default (.error e) default [⟨topic, e.message⟩]

/-- A number of a device's place: a hint other than 0 is kept, and one of 0 gives way to what is
read. -/
inductive Resolved (topic : Topic) : UInt8 → Option (Except Error UInt8) → UInt8 →
    List Remark → Prop
  | known {hint : UInt8} (hhint : hint ≠ 0) (reading : Option (Except Error UInt8)) :
      Resolved topic hint reading hint []
  | asked {reading : Except Error UInt8} {value : UInt8} {remarks : List Remark}
      (htaken : Taken topic 0 reading value remarks) : Resolved topic 0 (some reading) value remarks

/-- The active configuration among `count`: the one at the value that was read. Where this is not a
value of the device or nothing was read, it is the first, if any, and there is one remark. -/
inductive Activated (count : ℕ) : Except Error UInt8 → Option ℕ → List Remark → Prop
  | told {v : UInt8} (hpos : 1 ≤ v.toNat) (hle : v.toNat ≤ count) : Activated count (.ok v)
      (some (v.toNat - 1)) []
  | outside {v : UInt8} (hout : ¬(1 ≤ v.toNat ∧ v.toNat ≤ count)) :
      Activated count (.ok v) (if count = 0 then none else some 0) [Assembly.activeRemark v count]
  | failed (e : Error) :
      Activated count (.error e) (if count = 0 then none else some 0)
      [⟨.activeConfiguration, e.message⟩]

/-- The way up: from a node nothing is known of it and nothing remarked, and in a directory the hub
and the ports of the hubs above are each read. -/
inductive Climbed (files : FileTree) : Source → Option BusAddress → List UInt8 → List Remark → Prop
  | node : Climbed files .node none [] []
  | directory {dir : DeviceDir} {parent : Option BusAddress} {ports : List UInt8}
      {above way : List Remark} (hparent : Taken .parent none (dir.parent files) parent above)
      (hports : Taken .parent [] (PortPath.ofDir files dir) ports way) :
      Climbed files (.directory dir) parent ports (above ++ way)

/-- The directory is an entry of the root, and both its numbers are told and are those of the
address. -/
structure DeviceDir.Answers (dir : DeviceDir) (files : FileTree) (root : Path)
    (address : BusAddress) : Prop where
  entry : ∃ names, files.entriesOf root = .ok names ∧ ∃ name ∈ names, dir = ⟨root.join ⟨name⟩⟩
  bus : dir.busNumber files = .ok address.bus
  number : dir.deviceNumber files = .ok address.number

/-- The source of a device: the directory that is given; else one that answers to the hints; and
only if none does, the node, with one remark. -/
inductive Located (settings : Settings) (files : FileTree) : Hints → Source → List Remark → Prop
  | given (address : BusAddress) (path : Path) :
      Located settings files ⟨address, some path⟩ (.directory ⟨path⟩) []
  | found {address : BusAddress} {dir : DeviceDir}
      (hdir : dir.Answers files settings.directoryRoot address) :
      Located settings files ⟨address, none⟩ (.directory dir) []
  | missing {address : BusAddress}
      (hno : ∀ dir : DeviceDir, ¬dir.Answers files settings.directoryRoot address) :
      Located settings files ⟨address, none⟩ .node
        [⟨.directory, "no entry in " ++ settings.directoryRoot.display ++
          ", falling back to usbfs"⟩]

/-! ## Questions -/

/-- What a source answers about a device, each answer for itself. The number is asked for only if it
is not known. -/
structure Readings where
  number : Option (Except Error UInt8)
  vendorName : Except Error String
  productName : Except Error String
  activeConfiguration : Except Error UInt8
  speed : Except Error Speed

namespace Source

variable {σ : Type}

/-- Asks for the number if the hint is 0. -/
def numberIfUnknown (source : Source) (files : FileTree) (ask : Inquiry σ) (hint : UInt8) :
    StateM σ (Option (Except Error UInt8)) := do
  if hint = 0 then
    let number ← source.deviceNumber files ask
    return some number
  else return none

/-- The questions that follow that for the number, in their order. -/
def readingsWith (source : Source) (files : FileTree) (ask : Inquiry σ) (record : DeviceRecord)
    (number : Option (Except Error UInt8)) : StateM σ Readings := do
  let vendorName ← source.vendorName files ask record.manufacturerText
  let productName ← source.productName files ask record.productText
  let activeConfiguration ← source.activeConfiguration files ask
  let speed ← source.speed files ask
  return ⟨number, vendorName, productName, activeConfiguration, speed⟩

/-- The questions to a source: the number at the node of the hints, all else at the node of the
address. -/
def readings (source : Source) (files : FileTree) (ask : BusAddress → Inquiry σ)
    (record : DeviceRecord) (hint address : BusAddress) : StateM σ Readings := do
  let number ← source.numberIfUnknown files (ask hint) hint.number
  source.readingsWith files (ask address) record number

end Source

/-- The remarks on one topic. -/
def Remark.on (topic : Topic) (remarks : List Remark) : List Remark :=
  remarks.filter fun r => r.topic = topic

/-- The device and its remarks are as the hints, the files and the readings have it. -/
structure Assembled.Reflects (made : Assembled) (settings : Settings) (files : FileTree)
    (hints : Hints) (readings : Readings) : Prop where
  source : Located settings files hints made.device.source (Remark.on .directory made.remarks)
  number : Resolved .deviceNumber hints.address.number readings.number made.device.address.number
    (Remark.on .deviceNumber made.remarks)
  bus : Resolved .busNumber hints.address.bus
    (some (made.device.source.busNumber files)) made.device.address.bus
    (Remark.on .busNumber made.remarks)
  vendorName : Taken .vendorName "" readings.vendorName made.device.names.ownVendor
    (Remark.on .vendorName made.remarks)
  productName : Taken .productName "" readings.productName made.device.names.ownProduct
    (Remark.on .productName made.remarks)
  port : Taken .port 0 made.device.source.port made.device.port (Remark.on .port made.remarks)
  active : Activated made.device.configurations.length readings.activeConfiguration
    made.device.active
    (Remark.on .activeConfiguration made.remarks)
  speed : Taken .speed .unknown readings.speed made.device.speed (Remark.on .speed made.remarks)
  ports : ∃ upstream, Climbed files made.device.source made.device.parent upstream
      (Remark.on .parent made.remarks) ∧
    made.device.ports = upstream ++ if made.device.port = 0 then [] else [made.device.port]

/-! ## Remarks by topic -/

namespace Remark

theorem on_append (topic : Topic) (first second : List Remark) :
    on topic (first ++ second) = on topic first ++ on topic second :=
  List.filter_append ..

/-- Where the remarks stand part by part, each part on a topic of its own, those on a topic are its
part. -/
theorem on_flatMap {part : Topic → List Remark} (hpart : ∀ own, ∀ r ∈ part own, r.topic = own)
    {topics : List Topic} (hdistinct : topics.Nodup) {topic : Topic} (htopic : topic ∈ topics) :
    on topic (topics.flatMap part) = part topic := by
  have hown : on topic (part topic) = part topic := by
    apply List.filter_eq_self.2
    intro r hr
    exact decide_eq_true (hpart topic r hr)
  have helse : ∀ own, own ≠ topic → on topic (part own) = [] := by
    intro own hne
    apply List.filter_eq_nil_iff.2
    intro r hr
    simp [hpart own r hr, hne]
  induction topics with
  | nil => cases htopic
  | cons first rest ih =>
    obtain ⟨hfirst, hrest⟩ := List.nodup_cons.1 hdistinct
    rw [List.flatMap_cons, on_append]
    by_cases h : first = topic
    · subst h
      have hnone : on first (rest.flatMap part) = [] := by
        rw [on, List.filter_flatMap, List.flatMap_eq_nil_iff]
        intro own hmem
        apply helse
        rintro rfl
        exact hfirst hmem
      rw [hown, hnone, List.append_nil]
    · rw [helse first h, List.nil_append]
      exact ih hrest (List.mem_of_ne_of_mem (Ne.symm h) htopic)

theorem on_placement {topic : Topic} (h : topic ≠ .configuration ∧ topic ≠ .interface)
    (tree : DeviceTree) :
    on topic (Placement.remarks tree) = [] := by
  apply List.filter_eq_nil_iff.2
  intro r hr
  rw [decide_eq_true_eq]
  rintro rfl
  rcases Placement.topic_of_mem_remarks hr with hinterface | hconfiguration
  · exact h.2 hinterface
  · exact h.1 hconfiguration

end Remark

/-! ## The directory of a device -/

namespace DeviceDir

theorem address_eq_ok_iff {d : DeviceDir} {files : FileTree} {a : BusAddress} :
    d.address files = .ok a ↔ d.busNumber files = .ok a.bus ∧
    d.deviceNumber files = .ok a.number := by
  unfold address
  obtain ⟨bus, number⟩ := a
  cases d.busNumber files with
  | error e => simp
  | ok n =>
    cases d.deviceNumber files with
    | error e => simp
    | ok m => simp

variable {files : FileTree} {root : Path} {device : BusAddress}

/-- An entry is looked for by its address: one whose numbers cannot be told is passed over. -/
theorem toOption_address_beq {d : DeviceDir} :
    ((d.address files).toOption == some device) = true ↔ d.address files = .ok device := by
  rw [beq_iff_eq]
  cases d.address files with
  | error e => simp [Except.toOption]
  | ok a => simp [Except.toOption]

theorem find?_eq_some {d : DeviceDir} (h : find? files root device = some d) :
    d.Answers files root device := by
  unfold find? at h
  cases hnames : files.entriesOf root with
  | error e =>
    rw [hnames] at h
    cases h
  | ok names =>
    rw [hnames] at h
    have haddress : d.address files = .ok device :=
      toOption_address_beq.1 (List.find?_some (p := fun d : DeviceDir =>
      (d.address files).toOption == some device) h)
    obtain ⟨name, hname, rfl⟩ := List.mem_map.1 (List.mem_of_find?_eq_some h)
    obtain ⟨hbus, hnumber⟩ := address_eq_ok_iff.1 haddress
    exact ⟨⟨names, hnames, name, hname, rfl⟩, hbus, hnumber⟩

theorem find?_eq_none (h : find? files root device = none) (d : DeviceDir) :
    ¬d.Answers files root device := by
  rintro ⟨⟨names, hnames, name, hname, rfl⟩, hbus, hnumber⟩
  unfold find? at h
  rw [hnames] at h
  have hpassed := List.find?_eq_none.1 h _ (List.mem_map_of_mem hname)
  apply hpassed
  exact toOption_address_beq.2 (address_eq_ok_iff.2 ⟨hbus, hnumber⟩)

end DeviceDir

/-! ## Field by field -/

theorem Remark.taken_note {α : Type} (topic : Topic) (default : α) (reading : Except Error α) :
    Taken topic default reading ((note topic reading).1.getD default) (note topic reading).2 := by
  cases reading with
  | ok a => exact .told a
  | error e => exact .failed e

namespace Assembly

theorem located_source (settings : Settings) (files : FileTree) (hints : Hints) :
    Located settings files hints (source settings files hints).1
      (source settings files hints).2 := by
  obtain ⟨address, directory⟩ := hints
  unfold source
  cases directory with
  | some path => exact .given address path
  | none =>
    cases hfind : DeviceDir.find? files settings.directoryRoot address with
    | some dir => exact .found (DeviceDir.find?_eq_some hfind)
    | none => exact .missing (DeviceDir.find?_eq_none hfind)

section

variable {files : FileTree}

theorem resolved_busNumber (source : Source) (hint : UInt8) :
    Resolved .busNumber hint (some (source.busNumber files)) (busNumber files source hint).1
      (busNumber files source hint).2 := by
  unfold busNumber
  by_cases h : hint = 0
  · subst h
    rw [if_pos rfl]
    exact .asked (Remark.taken_note .busNumber 0 _)
  · rw [if_neg h]
    exact .known h _

/-- The number is what the question tells, and the question is the only one asked. -/
theorem resolved_deviceNumber {σ : Type} (source : Source) (ask : Inquiry σ)
    (hint : UInt8) (s : σ) :
    Resolved .deviceNumber hint (source.numberIfUnknown files ask hint s).1
        (deviceNumber files source ask hint s).1.1 (deviceNumber files source ask hint s).1.2 ∧
      (source.numberIfUnknown files ask hint s).2 = (deviceNumber files source ask hint s).2 := by
  unfold deviceNumber Source.numberIfUnknown
  by_cases h : hint = 0
  · subst h
    rw [if_pos rfl, if_pos rfl]
    exact ⟨.asked (Remark.taken_note .deviceNumber 0 _), rfl⟩
  · rw [if_neg h, if_neg h]
    exact ⟨.known h _, rfl⟩

theorem activated_active (count : ℕ) (reading : Except Error UInt8) :
    Activated count reading (active count reading).1 (active count reading).2 := by
  unfold active
  cases reading with
  | error e => exact .failed e
  | ok v =>
    by_cases h : 1 ≤ v.toNat ∧ v.toNat ≤ count
    · simp only [if_pos h]
      exact .told h.1 h.2
    · simp only [if_neg h]
      exact .outside h

theorem climbed_upstream (source : Source) :
    Climbed files source (upstream files source).1.1 (upstream files source).1.2
      (upstream files source).2 := by
  cases source with
  | node => exact .node
  | directory dir =>
    exact .directory (Remark.taken_note .parent none _) (Remark.taken_note .parent [] _)

end

/-! ## Every device -/

section

variable {σ : Type} (settings : Settings) (files : FileTree) (ask : Path → Inquiry σ)
  (tree : DeviceTree) (hints : Hints) (s : σ)

/-- The questions that are asked while a device is put together, at its own source and address. -/
def readings (made : Device) : StateM σ Readings :=
  made.source.readings files (fun address =>
    ask (nodePath settings.nodeRoot address)) tree.record hints.address
    made.address

/-- The questions but that for the number are asked in the state in which that has left off. -/
theorem readings_apply :
    let made := (assemble settings files ask tree hints s).1
    let asked :=
      made.device.source.numberIfUnknown files (ask (nodePath settings.nodeRoot hints.address))
      hints.address.number s
    readings settings files ask tree hints made.device s =
      made.device.source.readingsWith files
        (ask (nodePath settings.nodeRoot made.device.address)) tree.record
        asked.1 (deviceNumber files made.device.source
          (ask (nodePath settings.nodeRoot hints.address))
          hints.address.number s).2 := by
  intro made asked
  rw [← (resolved_deviceNumber _ _ _ _).2]
  rfl

/-- The fields of a device that its source has been asked for. -/
theorem assemble_fields :
    let made := (assemble settings files ask tree hints s).1.device
    let told := (readings settings files ask tree hints made s).1
    made.names.ownVendor = (Remark.note .vendorName told.vendorName).1.getD "" ∧
      made.names.ownProduct = (Remark.note .productName told.productName).1.getD "" ∧
      made.active = (active made.configurations.length told.activeConfiguration).1 ∧
      made.speed = (Remark.note .speed told.speed).1.getD .unknown := by
  intro made told
  have hcount : made.configurations.length = (Placement.configurations tree hints.address).length :=
    List.length_map _
  have htold : told = _ := congrArg Prod.fst (readings_apply settings files ask tree hints s)
  rw [hcount, htold]
  exact ⟨rfl, rfl, rfl, rfl⟩

/-- The topics of what a source tells, in the order in which remarks are made on them. -/
def toldTopics : List Topic :=
  [.directory, .deviceNumber, .busNumber, .vendorName, .productName, .port, .activeConfiguration,
    .speed, .parent]

theorem ne_of_mem_toldTopics {topic : Topic} (h : topic ∈ toldTopics) :
    topic ≠ .configuration ∧ topic ≠ .interface := by
  constructor
  · rintro rfl
    exact absurd h (by decide)
  · rintro rfl
    exact absurd h (by decide)

/-- The remarks on a topic of what the source has told about the device that is made. -/
def remarksTold (asked : UInt8 × List Remark) (made : Device) (told : Readings) :
    Topic → List Remark
  | .configuration => []
  | .interface => []
  | .directory => (source settings files hints).2
  | .deviceNumber => asked.2
  | .busNumber => (busNumber files made.source hints.address.bus).2
  | .vendorName => (Remark.note .vendorName told.vendorName).2
  | .productName => (Remark.note .productName told.productName).2
  | .port => (Remark.note .port made.source.port).2
  | .activeConfiguration => (active made.configurations.length told.activeConfiguration).2
  | .speed => (Remark.note .speed told.speed).2
  | .parent => (upstream files made.source).2

theorem topic_of_mem_remarksTold {asked : UInt8 × List Remark}
    (hasked : ∀ r ∈ asked.2, r.topic = .deviceNumber) {made : Device} {told : Readings}
    (topic : Topic) {r : Remark}
    (hr : r ∈ remarksTold settings files hints asked made told topic) : r.topic = topic := by
  cases topic with
  | configuration => cases hr
  | interface => cases hr
  | directory => exact topic_of_mem_source hr
  | deviceNumber => exact hasked r hr
  | busNumber => exact topic_of_mem_busNumber hr
  | vendorName => exact Remark.topic_of_mem_note hr
  | productName => exact Remark.topic_of_mem_note hr
  | port => exact Remark.topic_of_mem_note hr
  | activeConfiguration => exact topic_of_mem_active hr
  | speed => exact Remark.topic_of_mem_note hr
  | parent => exact topic_of_mem_upstream hr

/-- The remarks on a device are those on its records and then those on what its source told. -/
theorem assemble_remarks_eq :
    let made := (assemble settings files ask tree hints s).1
    let told := (readings settings files ask tree hints made.device s).1
    let asked :=
      (deviceNumber files made.device.source (ask (nodePath settings.nodeRoot hints.address))
      hints.address.number s).1
    made.remarks = Placement.remarks tree ++
      toldTopics.flatMap (remarksTold settings files hints asked made.device told) := by
  intro made told asked
  have hcount : made.device.configurations.length =
      (Placement.configurations tree hints.address).length :=
    List.length_map _
  have htold : told = _ := congrArg Prod.fst (readings_apply settings files ask tree hints s)
  simp only [toldTopics, List.flatMap_cons, List.flatMap_nil, List.append_nil, ← List.append_assoc,
    remarksTold]
  rw [hcount, htold]
  rfl

theorem on_remarks {topic : Topic} (htopic : topic ∈ toldTopics) :
    let made := (assemble settings files ask tree hints s).1
    let told := (readings settings files ask tree hints made.device s).1
    let asked :=
      (deviceNumber files made.device.source (ask (nodePath settings.nodeRoot hints.address))
      hints.address.number s).1
    Remark.on topic made.remarks =
      remarksTold settings files hints asked made.device told topic := by
  intro made told asked
  have hremarks : made.remarks = _ := assemble_remarks_eq settings files ask tree hints s
  rw [hremarks, Remark.on_append, Remark.on_placement (ne_of_mem_toldTopics htopic),
    List.nil_append]
  apply Remark.on_flatMap
  · intro own r hr
    exact topic_of_mem_remarksTold settings files hints (fun _ => topic_of_mem_deviceNumber) own hr
  · decide
  · exact htopic

/-- A remark on the port or on the hubs above is made only where the source fails to tell them. -/
theorem mem_note_of_mem_remarks {settings : Settings} {files : FileTree} {ask : Path → Inquiry σ}
    {tree : DeviceTree} {hints : Hints} {s : σ} {r : Remark}
    (hr : r ∈ (assemble settings files ask tree hints s).1.remarks)
    (htopic : r.topic = .port ∨ r.topic = .parent) :
    r ∈ (Remark.note .port (source settings files hints).1.port).2 ∨
      r ∈ (upstream files (source settings files hints).1).2 := by
  have hon : r ∈ Remark.on r.topic (assemble settings files ask tree hints s).1.remarks :=
    List.mem_filter.2 ⟨hr, decide_eq_true rfl⟩
  rcases htopic with h | h
  · rw [h, on_remarks settings files ask tree hints s (by decide)] at hon
    exact .inl hon
  · rw [h, on_remarks settings files ask tree hints s (by decide)] at hon
    exact .inr hon

/-- However a device is put together: the questions to its source are those that were asked, and the
device and its remarks are as they were answered. -/
theorem assemble_reflects :
    let made := assemble settings files ask tree hints s
    let told := readings settings files ask tree hints made.1.device s
    told.2 = made.2 ∧ made.1.Reflects settings files hints told.1 := by
  intro made told
  have htold : told = _ := readings_apply settings files ask tree hints s
  obtain ⟨hvendor, hproduct, hactive, hspeed⟩ := assemble_fields settings files ask tree hints s
  have hon : ∀ {topic : Topic}, topic ∈ toldTopics → Remark.on topic made.1.remarks = _ :=
    fun htopic => on_remarks settings files ask tree hints s htopic
  constructor
  · rw [htold]
    rfl
  constructor
  case source =>
    rw [hon (by decide)]
    exact located_source settings files hints
  case number =>
    rw [hon (by decide), htold]
    exact (resolved_deviceNumber _ _ _ s).1
  case bus =>
    rw [hon (by decide)]
    exact resolved_busNumber _ _
  case vendorName =>
    rw [hon (by decide), hvendor]
    exact Remark.taken_note .vendorName "" _
  case productName =>
    rw [hon (by decide), hproduct]
    exact Remark.taken_note .productName "" _
  case port =>
    rw [hon (by decide)]
    exact Remark.taken_note .port 0 _
  case active =>
    rw [hon (by decide), hactive]
    exact activated_active _ _
  case speed =>
    rw [hon (by decide), hspeed]
    exact Remark.taken_note .speed Speed.unknown _
  case ports =>
    rw [hon (by decide)]
    exact ⟨_, climbed_upstream _, rfl⟩

end

end Assembly

end UsbAccess
