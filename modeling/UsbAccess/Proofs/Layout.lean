import Mathlib
import UsbAccess.Proofs.Parts
import UsbAccess.Proofs.Places
import UsbAccess.Proofs.Readings

/-!
# How records lay out a device

The configurations of a device are a table of its records. For each value and each number the table
tells which record counts, and it needs the device's address only to link its parts to the device.
Records that have no place in the table are complained of in the order in which they were read,
before anything else is remarked.

Results:
* `Placement.interfaces_eq_map_range`, `Placement.configurations_eq_layout`: records are placed as
  the table says.
* `DeviceTree.layout_relink`: the address of the device is in the links alone.
* `Placement.remarks_eq_filterMap`: the complaints, record by record.
* `Assembly.assemble_layout`: the configurations of every device, and the remarks on its records.
-/

namespace UsbAccess

open Descriptor

/-! ## The table -/

/-- What stands at number `j` of a configuration: the first record of that number with its alternate
setting and its endpoints, or an empty interface. -/
def Descriptor.ConfigurationTree.interfaceAt (t : ConfigurationTree) (device : BusAddress) (j : ℕ) :
    Interface :=
  match t.atNumber? j with
  | some i =>
    { number := j.toUInt8
      alternate := i.record.alternate
      endpoints := i.endpoints.map fun e =>
        { address := e.address
          transferType := e.transferType
          maxPacketSize := e.maxPacketSize
          maxIsochronousPacketSize := e.maxPacketSize
          interface := j.toUInt8 }
      device := device }
  | none => .empty j.toUInt8 device

/-- The configuration that a record describes. The attributes tell in bits 6 and 5 what it is
powered by and whether it wakes the host, and the power is counted in steps of 2 mA. -/
def Descriptor.ConfigurationTree.described (t : ConfigurationTree) (device : BusAddress) :
    Configuration where
  selfPowered := t.record.attributes.toNat.testBit 6
  remoteWakeup := t.record.attributes.toNat.testBit 5
  maxPower := (2 * t.record.power.toNat).toUInt16
  value := t.record.value
  interfaces := (List.range t.record.interfaceCount.toNat).map (t.interfaceAt device)
  device := device

/-- The configurations that the records of a device describe: at each value from 1 what the last
record of that value describes, or an empty configuration. -/
def Descriptor.DeviceTree.layout (t : DeviceTree) (device : BusAddress) : List Configuration :=
  (List.range t.record.configurationCount.toNat).map fun i =>
    match t.atValue? (i + 1) with
    | some c => c.described device
    | none => .empty (i + 1).toUInt8 device

/-! ## Complaints -/

/-- A record that has a place of its own in a device: one of a configuration, or one of an interface
together with the configuration that it follows. -/
inductive Part where
  | configuration (c : ConfigurationTree)
  | interface (c : ConfigurationTree) (i : InterfaceTree)

/-- The records of a device that have places, in the order in which they stand. -/
def Descriptor.DeviceTree.parts (t : DeviceTree) : List Part :=
  t.configurations.flatMap fun c => .configuration c :: c.interfaces.map (.interface c)

/-- The complaint about a record in a device of `count` configurations: one of a configuration whose
value is 0 or beyond the count, one of an interface whose number is beyond those of its
configuration, if that has a place. -/
def Part.complaint? (count : ℕ) : Part → Option Remark
  | configuration c =>
    if c.record.value.toNat = 0 ∨ count < c.record.value.toNat then
      some (Placement.configurationRemark c.record.value count)
    else none
  | interface c i =>
    if 1 ≤ c.record.value.toNat ∧ c.record.value.toNat ≤ count ∧
        c.record.interfaceCount.toNat ≤ i.record.number.toNat then
      some (Placement.interfaceRemark i.record.number c.record.value c.record.interfaceCount.toNat)
    else none

/-! ## Records are placed as the table says -/

/-- A byte masked with a single bit is that bit or nothing. -/
theorem UInt8.toNat_and_bit (x : UInt8) {bit : UInt8} {i : ℕ} (hbit : bit.toNat = 2 ^ i) :
    (x &&& bit).toNat = (x.toNat.testBit i).toNat * 2 ^ i := by
  rw [UInt8.toNat_and, hbit, Nat.and_two_pow]

/-- To mask a byte with a single bit is to test that bit. -/
theorem UInt8.and_ne_zero_eq_testBit {x bit : UInt8} {i : ℕ} (hbit : bit.toNat = 2 ^ i) :
    (x &&& bit != 0) = x.toNat.testBit i := by
  apply Bool.eq_iff_iff.2
  rw [bne_iff_ne, Ne, ← UInt8.toNat_inj, UInt8.toNat_and_bit x hbit]
  cases x.toNat.testBit i <;> simp

theorem ConfigurationTree.toNat_maxPower (t : ConfigurationTree) (device : BusAddress) :
    (t.described device).maxPower.toNat = 2 * t.record.power.toNat := by
  have hpower : t.record.power.toNat < 256 := t.record.power.toNat_lt
  show 2 * t.record.power.toNat % 2 ^ 16 = 2 * t.record.power.toNat
  omega

namespace Placement

variable {device : BusAddress}

theorem interfaceAt_eq (t : ConfigurationTree) (j : ℕ) :
    t.interfaceAt device j = ((t.atNumber? j).map (Interface.ofTree · device)).getD
      (.empty j.toUInt8 device) := by
  unfold ConfigurationTree.interfaceAt
  cases hfirst : t.atNumber? j with
  | none => rfl
  | some i =>
    have hnumber : i.record.number.toNat = j := by simpa using List.find?_some hfirst
    have hj : j.toUInt8 = i.record.number := by rw [← hnumber, Nat.toUInt8, UInt8.ofNat_toNat]
    rw [hj]
    rfl

theorem interfaces_eq_map_range (t : ConfigurationTree) :
    interfaces t device = (List.range t.record.interfaceCount.toNat).map
      (t.interfaceAt device) := by
  apply List.ext_getElem?
  intro j
  by_cases hj : j < t.record.interfaceCount.toNat
  · rw [getElem?_interfaces hj, List.getElem?_map, List.getElem?_range hj, Option.map_some,
      interfaceAt_eq]
  · rw [List.getElem?_eq_none (by rw [length_interfaces]; omega),
      List.getElem?_eq_none (by simp; omega)]

theorem configuration_eq_described (t : ConfigurationTree) :
    configuration t device = t.described device := by
  have hpower : t.record.power.toUInt16 * 2 = (2 * t.record.power.toNat).toUInt16 := by
    apply UInt16.toNat_inj.1
    show t.record.power.toNat * 2 % 2 ^ 16 = 2 * t.record.power.toNat % 2 ^ 16
    omega
  rw [configuration, interfaces_eq_map_range, hpower, ConfigurationRecord.selfPowered,
    ConfigurationRecord.remoteWakeup, UInt8.and_ne_zero_eq_testBit (i := 6) rfl,
    UInt8.and_ne_zero_eq_testBit (i := 5) rfl]
  rfl

theorem configurations_eq_layout (t : DeviceTree) : configurations t device = t.layout device := by
  apply List.ext_getElem?
  intro i
  by_cases hi : i < t.record.configurationCount.toNat
  · rw [getElem?_configurations hi, DeviceTree.layout, List.getElem?_map, List.getElem?_range hi,
      Option.map_some]
    cases hlast : t.atValue? (i + 1) with
    | none => rfl
    | some c => exact congrArg some (configuration_eq_described c)
  · rw [List.getElem?_eq_none (by rw [length_configurations]; omega),
      List.getElem?_eq_none (by simp [DeviceTree.layout]; omega)]

end Placement

/-! ## The links -/

theorem ConfigurationTree.relink_interfaceAt (t : ConfigurationTree) (a b : BusAddress) (j : ℕ) :
    { t.interfaceAt a j with device := b } = t.interfaceAt b j := by
  unfold ConfigurationTree.interfaceAt
  split <;> rfl

theorem ConfigurationTree.relink_described (t : ConfigurationTree) (a b : BusAddress) :
    (t.described a).relink b = t.described b := by
  simp only [ConfigurationTree.described, Configuration.relink, List.map_map, Function.comp_def,
    relink_interfaceAt]

/-- The table at one address differs from that at another in the links only. -/
theorem DeviceTree.layout_relink (t : DeviceTree) (a b : BusAddress) :
    ((t.layout a).map fun c => c.relink b) = t.layout b := by
  rw [DeviceTree.layout, DeviceTree.layout, List.map_map]
  apply List.map_congr_left
  intro i _
  rw [Function.comp_apply]
  split
  · exact ConfigurationTree.relink_described _ a b
  · rfl

/-! ## The remarks on records -/

namespace Placement

theorem hasPlace_iff {value : UInt8} {count : ℕ} :
    hasPlace value count = true ↔ 1 ≤ value.toNat ∧ value.toNat ≤ count := by
  rw [hasPlace, Bool.and_eq_true, decide_eq_true_eq, decide_eq_true_eq, Ne, ← UInt8.toNat_inj,
    UInt8.toNat_zero, Nat.one_le_iff_ne_zero]

/-- The complaints about the interfaces of a configuration that has a place. -/
theorem interfaceRemarks_eq_filterMap {c : ConfigurationTree} {count : ℕ}
    (h : hasPlace c.record.value count) :
    interfaceRemarks c = c.interfaces.filterMap fun i => (Part.interface c i).complaint? count := by
  obtain ⟨hpos, hle⟩ := hasPlace_iff.1 h
  rw [interfaceRemarks, ← List.filterMap_eq_map, List.filterMap_filter]
  apply List.filterMap_congr
  intro i _
  simp only [Part.complaint?, hpos, hle, true_and, UInt8.le_iff_toNat_le, decide_eq_true_eq,
    Function.comp_apply]

/-- One complaint for each record without a place, in the order of the records. -/
theorem remarks_eq_filterMap (t : DeviceTree) :
    remarks t = t.parts.filterMap (Part.complaint? t.record.configurationCount.toNat) := by
  unfold remarks DeviceTree.parts
  rw [List.filterMap_flatMap]
  congr 1
  funext c
  rw [List.filterMap_cons, List.filterMap_map]
  by_cases h : hasPlace c.record.value t.record.configurationCount.toNat
  · obtain ⟨hpos, hle⟩ := hasPlace_iff.1 h
    have hnone : (Part.configuration c).complaint? t.record.configurationCount.toNat = none :=
      if_neg (by omega)
    rw [if_pos h, interfaceRemarks_eq_filterMap h, hnone]
    rfl
  · have hout : ¬(1 ≤ c.record.value.toNat ∧
        c.record.value.toNat ≤ t.record.configurationCount.toNat) :=
      fun hin => h (hasPlace_iff.2 hin)
    have hsome : (Part.configuration c).complaint? t.record.configurationCount.toNat =
        some (configurationRemark c.record.value t.record.configurationCount.toNat) :=
      if_pos (by omega)
    -- Nothing is said of the interfaces of a configuration that has no place itself.
    have hrest : c.interfaces.filterMap
        (Part.complaint? t.record.configurationCount.toNat ∘ Part.interface c) = [] := by
      rw [List.filterMap_eq_nil_iff]
      intro i _
      exact if_neg fun hin => hout ⟨hin.1, hin.2.1⟩
    rw [if_neg h, hsome, hrest]

end Placement

/-! ## Every device -/

namespace Assembly

variable {σ : Type} (settings : Settings) (files : FileTree) (ask : Path → Inquiry σ)
  (tree : DeviceTree) (hints : Hints) (s : σ)

/-- The remarks on records stand before all others. -/
theorem exists_remarks_eq_append :
    ∃ rest, (assemble settings files ask tree hints s).1.remarks = Placement.remarks tree ++ rest ∧
      ∀ r ∈ rest, r.topic ≠ .configuration ∧ r.topic ≠ .interface := by
  refine ⟨_, assemble_remarks_eq settings files ask tree hints s, ?_⟩
  intro r hr
  obtain ⟨topic, htopic, hmem⟩ := List.mem_flatMap.1 hr
  have htold : r.topic = topic :=
    topic_of_mem_remarksTold settings files hints (fun _ => topic_of_mem_deviceNumber) topic hmem
  rw [htold]
  exact ne_of_mem_toldTopics htopic

theorem assemble_configurations_eq_layout :
    (assemble settings files ask tree hints s).1.device.configurations =
      tree.layout (assemble settings files ask tree hints s).1.device.address := by
  rw [assemble_configurations, Placement.configurations_eq_layout, DeviceTree.layout_relink]

/-- Whatever the settings, the files, the hints and the answers are: a device has the configurations
that the table of its records tells, of which the links alone depend on the address, with power
draws that are exactly twice those recorded; and its remarks begin with the complaints about its
records and hold no others of these. -/
theorem assemble_layout :
    (assemble settings files ask tree hints s).1.device.configurations =
        tree.layout (assemble settings files ask tree hints s).1.device.address ∧
      (∀ a b, ((tree.layout a).map fun c => c.relink b) = tree.layout b) ∧
      (∀ c ∈ tree.configurations, ∀ a, (c.described a).maxPower.toNat = 2 * c.record.power.toNat) ∧
      ∃ rest, (assemble settings files ask tree hints s).1.remarks =
          tree.parts.filterMap (Part.complaint? tree.record.configurationCount.toNat) ++ rest ∧
        ∀ r ∈ rest, r.topic ≠ .configuration ∧ r.topic ≠ .interface := by
  refine ⟨assemble_configurations_eq_layout settings files ask tree hints s,
    DeviceTree.layout_relink tree, fun c _ => ConfigurationTree.toNat_maxPower c, ?_⟩
  rw [← Placement.remarks_eq_filterMap]
  exact exists_remarks_eq_append settings files ask tree hints s

end Assembly

end UsbAccess
