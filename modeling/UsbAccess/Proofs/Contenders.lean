import Mathlib
import UsbAccess.Proofs.Alternates
import UsbAccess.Proofs.Layout

/-!
# Records that contend for a place

Two records of a device may ask for the same place. Of configurations with one value the last is
placed, of interfaces with one number the first, and nothing is remarked on the others. What becomes
of a record is told here by changing it: a part is built from a record if it changes with the
record, a remark is a record's own if it goes with the record, and a record is lost if the device is
the same without it.

Results:
* `Surroundings.device_make`: with other configurations a device is the same but for these.
* `Surroundings.buildsConfiguration_iff`: which record a configuration is built from.
* `Surroundings.hasOwnRemark_configuration_iff`, `Surroundings.hasOwnRemark_interface_iff`: which
  records are remarked.
* `Surroundings.accounted_iff`: every record is accounted for but those of a configuration that is
  replaced.
* `Surroundings.filled_by_first`: an interface is filled by its first record, of whatever alternate
  setting.
-/

namespace UsbAccess

open Descriptor

/-! ## Members at their positions -/

/-- A member of a list at its position, with what stands before it and after it. -/
structure Occurrence {α : Type} (xs : List α) where
  before : List α
  item : α
  after : List α
  eq : xs = before ++ item :: after

namespace Occurrence

variable {α : Type} {xs : List α}

/-- The list with another member in this position. -/
def replace (o : Occurrence xs) (x : α) : List α := o.before ++ x :: o.after

/-- The list without this member. -/
def erase (o : Occurrence xs) : List α := o.before ++ o.after

theorem replace_item (o : Occurrence xs) : o.replace o.item = xs := o.eq.symm

end Occurrence

/-! ## Devices of other records -/

/-- The records of a device with these configurations in the stead of its own. -/
def Descriptor.DeviceTree.withConfigurations (t : DeviceTree) (cs : List ConfigurationTree) :
    DeviceTree :=
  { t with configurations := cs }

/-- A configuration with these interfaces in the stead of its own. -/
def Descriptor.ConfigurationTree.withInterfaces (t : ConfigurationTree) (is : List InterfaceTree) :
    ConfigurationTree :=
  { t with interfaces := is }

/-- All that a device is put together from, but for its records. -/
structure Surroundings (σ : Type) where
  settings : Settings
  files : FileTree
  ask : Path → Inquiry σ
  hints : Hints
  state : σ

namespace Surroundings

variable {σ : Type}

/-- The device of these records, and the remarks on it. -/
def make (w : Surroundings σ) (tree : DeviceTree) : Assembled :=
  (Assembly.assemble w.settings w.files w.ask tree w.hints w.state).1

theorem configurations_make (w : Surroundings σ) (tree : DeviceTree) :
    (w.make tree).device.configurations = tree.layout (w.make tree).device.address :=
  Assembly.assemble_configurations_eq_layout ..

/-- With other configurations a device is the same but for these. -/
theorem device_make (w : Surroundings σ) (tree : DeviceTree) (cs : List ConfigurationTree) :
    (w.make (tree.withConfigurations cs)).device = { (w.make tree).device with
      configurations := (tree.withConfigurations cs).layout (w.make tree).device.address } := by
  have hother : (w.make (tree.withConfigurations cs)).device = { (w.make tree).device with
      configurations := (w.make (tree.withConfigurations cs)).device.configurations } := by
    unfold make Assembly.assemble
    simp only [Placement.length_configurations]
    rfl
  rw [hother, configurations_make]
  rfl

/-- What is remarked on other things than its records is the same for a device with other
configurations. -/
theorem exists_remarks_make (w : Surroundings σ) (tree : DeviceTree) :
    ∃ rest, ∀ cs, (w.make (tree.withConfigurations cs)).remarks =
      Placement.remarks (tree.withConfigurations cs) ++ rest := by
  obtain ⟨rest, hrest, -⟩ :=
    Assembly.exists_remarks_eq_append w.settings w.files w.ask tree w.hints w.state
  refine ⟨rest, fun cs => ?_⟩
  unfold Assembly.assemble at hrest
  unfold make Assembly.assemble
  simp only [Placement.length_configurations, List.append_assoc] at hrest ⊢
  rw [← List.append_cancel_left hrest]
  rfl

end Surroundings

/-! ## Configurations of one value -/

namespace Descriptor.DeviceTree

variable {tree : DeviceTree}

/-- The device has a configuration of this value. -/
def HasValue (t : DeviceTree) (value : UInt8) : Prop :=
  1 ≤ value.toNat ∧ value.toNat ≤ t.record.configurationCount.toNat

/-- The configuration record gives way to a later one: there is a place for it, and a later record
has the same. -/
structure Replaced (o : Occurrence tree.configurations) : Prop where
  hasValue : tree.HasValue o.item.record.value
  later : ∃ c ∈ o.after, c.record.value = o.item.record.value

theorem withConfigurations_replace_item (o : Occurrence tree.configurations) :
    tree.withConfigurations (o.replace o.item) = tree := by
  rw [withConfigurations, o.replace_item]

/-- The record that counts for a value: one that stands later, or this one, or one that stands
before. -/
theorem atValue?_replace (o : Occurrence tree.configurations) (c : ConfigurationTree) (value : ℕ) :
    (tree.withConfigurations (o.replace c)).atValue? value =
      (o.after.reverse.find? fun c => c.record.value.toNat = value).or
        ((if c.record.value.toNat = value then some c else none).or
          (o.before.reverse.find? fun c => c.record.value.toNat = value)) := by
  simp only [withConfigurations, Occurrence.replace, atValue?, List.reverse_append,
    List.reverse_cons, List.find?_append, Option.or_assoc, List.find?_singleton, decide_eq_true_eq]

theorem atValue?_erase (o : Occurrence tree.configurations) (value : ℕ) :
    (tree.withConfigurations o.erase).atValue? value =
      (o.after.reverse.find? fun c => c.record.value.toNat = value).or
        (o.before.reverse.find? fun c => c.record.value.toNat = value) := by
  simp only [withConfigurations, Occurrence.erase, atValue?, List.reverse_append, List.find?_append]

/-- Before a later record of its value, a record does not count, whatever it is. -/
theorem atValue?_replace_of_later {o : Occurrence tree.configurations}
    (hlater : ∃ c ∈ o.after, c.record.value = o.item.record.value) {c : ConfigurationTree}
    (hc : c.record.value = o.item.record.value) (value : ℕ) :
    (tree.withConfigurations (o.replace c)).atValue? value =
      (tree.withConfigurations o.erase).atValue? value := by
  rw [atValue?_replace, atValue?_erase]
  by_cases hvalue : c.record.value.toNat = value
  · obtain ⟨c', hc', hsame⟩ := hlater
    have hfound : (o.after.reverse.find? fun c => c.record.value.toNat = value).isSome := by
      rw [List.find?_isSome]
      exact ⟨c', List.mem_reverse.2 hc', decide_eq_true (by rw [hsame, ← hc, hvalue])⟩
    obtain ⟨last, hlast⟩ := Option.isSome_iff_exists.1 hfound
    rw [hlast, Option.some_or, Option.some_or]
  · rw [if_neg hvalue, Option.none_or]

/-- After the other records of its value, a record counts. -/
theorem atValue?_replace_of_last {o : Occurrence tree.configurations}
    (hlast : ∀ c ∈ o.after, c.record.value ≠ o.item.record.value) {c : ConfigurationTree}
    (hc : c.record.value = o.item.record.value) :
    (tree.withConfigurations (o.replace c)).atValue? o.item.record.value.toNat = some c := by
  have hnone : (o.after.reverse.find? fun c => c.record.value.toNat = o.item.record.value.toNat) =
      none := by
    rw [List.find?_eq_none]
    intro c' hc'
    simpa [UInt8.toNat_inj] using hlast c' (List.mem_reverse.1 hc')
  rw [atValue?_replace, hnone, Option.none_or, if_pos (by rw [hc]), Option.some_or]

theorem layout_congr {t t' : DeviceTree} (hrecord : t.record = t'.record)
    (hvalue : ∀ value, t.atValue? value = t'.atValue? value) (device : BusAddress) :
    t.layout device = t'.layout device := by
  simp only [layout, hrecord, hvalue]

/-- The configurations of a device are the same whatever record of its value stands before a later
one, and without it. -/
theorem layout_replace_of_later {o : Occurrence tree.configurations}
    (hlater : ∃ c ∈ o.after, c.record.value = o.item.record.value) {c : ConfigurationTree}
    (hc : c.record.value = o.item.record.value) (device : BusAddress) :
    (tree.withConfigurations (o.replace c)).layout device =
      (tree.withConfigurations o.erase).layout device := by
  apply layout_congr
  · rfl
  · exact atValue?_replace_of_later hlater hc

theorem getElem?_layout {t : DeviceTree} {value : UInt8} (hvalue : t.HasValue value)
    (device : BusAddress) :
    (t.layout device)[value.toNat - 1]? =
      some (((t.atValue? value.toNat).map (·.described device)).getD
      (.empty value device)) := by
  obtain ⟨hpos, hle⟩ := hvalue
  have hindex : value.toNat - 1 + 1 = value.toNat := by omega
  have hbyte : value.toNat.toUInt8 = value := by rw [Nat.toUInt8, UInt8.ofNat_toNat]
  rw [layout, List.getElem?_map, List.getElem?_range (by omega), Option.map_some, hindex, hbyte]
  cases t.atValue? value.toNat <;> rfl

end Descriptor.DeviceTree

/-! ## What a part is built from -/

/-- A remark of its own: the first device has one remark more than the second, and it is on this
topic. -/
def Assembled.HasOwnRemark (topic : Topic) (a b : Assembled) : Prop :=
  ∃ earlier r later, a.remarks = earlier ++ r :: later ∧ r.topic = topic ∧
    b.remarks = earlier ++ later

/-- The number of an interface record stands already before it, in a record of another alternate
setting. -/
def Occurrence.Repeats {is : List InterfaceTree} (p : Occurrence is) : Prop :=
  ∃ i ∈ p.before, i.record.number = p.item.record.number

namespace Surroundings

variable {σ : Type} (w : Surroundings σ) {tree : DeviceTree} (o : Occurrence tree.configurations)

/-- The configuration of a record's value is built from the record in this position: any record of
the value that stands there is the one that describes it. -/
def BuildsConfiguration : Prop :=
  ∀ c : ConfigurationTree, c.record.value = o.item.record.value →
    (w.make (tree.withConfigurations (o.replace c))).device.configurations[
      o.item.record.value.toNat - 1]? = some (c.described (w.make tree).device.address)

/-- The interface of a record's number, in the configuration of the value of the record before it,
is built from the record in this position: any record of the number that stands there is the one
that describes it. -/
def BuildsInterface (p : Occurrence o.item.interfaces) : Prop :=
  ∀ i : InterfaceTree, i.record.number = p.item.record.number →
    (w.make
      (tree.withConfigurations (o.replace (o.item.withInterfaces (p.replace i))))).device.slot?
        (o.item.record.value.toNat - 1) p.item.record.number.toNat =
      some (.ofTree i (w.make tree).device.address)

variable {w o}

theorem configurations_replace (c : ConfigurationTree) :
    (w.make (tree.withConfigurations (o.replace c))).device.configurations =
      (tree.withConfigurations (o.replace c)).layout (w.make tree).device.address := by
  rw [device_make]

/-- Before a later record of its value, no record describes anything. -/
theorem configurations_replace_of_later
    (hlater : ∃ c ∈ o.after, c.record.value = o.item.record.value) {c : ConfigurationTree}
    (hc : c.record.value = o.item.record.value) :
    (w.make (tree.withConfigurations (o.replace c))).device.configurations =
      (w.make tree).device.configurations := by
  have hself := configurations_replace (w := w) (o := o) o.item
  rw [DeviceTree.withConfigurations_replace_item] at hself
  rw [configurations_replace, hself, DeviceTree.layout_replace_of_later hlater hc,
    ← DeviceTree.layout_replace_of_later hlater rfl, DeviceTree.withConfigurations_replace_item]

theorem BuildsConfiguration.of_last (hvalue : tree.HasValue o.item.record.value)
    (hlast : ∀ c ∈ o.after, c.record.value ≠ o.item.record.value) : w.BuildsConfiguration o := by
  intro c hc
  have hcount : (tree.withConfigurations (o.replace c)).HasValue o.item.record.value := hvalue
  rw [configurations_replace, DeviceTree.getElem?_layout hcount,
    DeviceTree.atValue?_replace_of_last hlast hc]
  rfl

theorem BuildsConfiguration.hasValue (h : w.BuildsConfiguration o) :
    tree.HasValue o.item.record.value := by
  have hbuilt := h o.item rfl
  rw [DeviceTree.withConfigurations_replace_item] at hbuilt
  have hplace : (w.make tree).device.InPlace tree := Assembly.assemble_inPlace ..
  have hvalue : o.item.record.value.toNat = o.item.record.value.toNat - 1 + 1 :=
    (hplace.configurations _ _ hbuilt).value
  have hlength := hplace.length
  have hindex := (List.getElem?_eq_some_iff.1 hbuilt).1
  exact ⟨by omega, by omega⟩

theorem BuildsConfiguration.last (h : w.BuildsConfiguration o) :
    ∀ c ∈ o.after, c.record.value ≠ o.item.record.value := by
  intro c' hc' hsame
  have hlater : ∃ c ∈ o.after, c.record.value = o.item.record.value := ⟨c', hc', hsame⟩
  have hdescribed : ∀ c : ConfigurationTree, c.record.value = o.item.record.value →
      (w.make tree).device.configurations[o.item.record.value.toNat - 1]? =
        some (c.described (w.make tree).device.address) := by
    intro c hc
    have hbuilt := h c hc
    rwa [configurations_replace_of_later hlater hc] at hbuilt
  -- Two records of the value that draw different power do not describe the same.
  have hequal := (hdescribed ⟨{ o.item.record with power := 0 }, []⟩ rfl).symm.trans
    (hdescribed ⟨{ o.item.record with power := 1 }, []⟩ rfl)
  have hmax : (0 : UInt16) = 2 := congrArg Configuration.maxPower (Option.some_injective _ hequal)
  cases hmax

/-- A configuration is built from a record just if this is the last of its value, and the device has
such a configuration. -/
theorem buildsConfiguration_iff : w.BuildsConfiguration o ↔
    tree.HasValue o.item.record.value ∧ ∀ c ∈ o.after, c.record.value ≠ o.item.record.value :=
  ⟨fun h => ⟨h.hasValue, h.last⟩, fun h => .of_last h.1 h.2⟩

end Surroundings

/-! ## Remarks of their own -/

theorem Assembled.HasOwnRemark.countP_eq {topic : Topic} {a b : Assembled}
    (h : a.HasOwnRemark topic b) :
    a.remarks.countP (fun r => r.topic = topic) =
      b.remarks.countP (fun r => r.topic = topic) + 1 := by
  obtain ⟨earlier, r, later, ha, htopic, hb⟩ := h
  rw [ha, hb, List.countP_append, List.countP_append,
    List.countP_cons_of_pos (by simpa using htopic), Nat.add_assoc]

namespace Placement

/-- The remarks on a configuration record and its interfaces in a device of `count` configurations.
-/
def remarksOn (count : ℕ) (c : ConfigurationTree) : List Remark :=
  if hasPlace c.record.value count then interfaceRemarks c
  else [configurationRemark c.record.value count]

theorem remarksOn_of_hasValue {c : ConfigurationTree} {t : DeviceTree}
    (h : t.HasValue c.record.value) :
    remarksOn t.record.configurationCount.toNat c = interfaceRemarks c :=
  if_pos (hasPlace_iff.2 h)

theorem remarks_eq_flatMap (t : DeviceTree) :
    remarks t = t.configurations.flatMap (remarksOn t.record.configurationCount.toNat) := rfl

variable {tree : DeviceTree} (o : Occurrence tree.configurations)

/-- The remarks on the other configuration records stand around those on the record in this
position. -/
theorem remarks_replace (c : ConfigurationTree) :
    remarks (tree.withConfigurations (o.replace c)) =
      o.before.flatMap (remarksOn tree.record.configurationCount.toNat) ++
        (remarksOn tree.record.configurationCount.toNat c ++
          o.after.flatMap (remarksOn tree.record.configurationCount.toNat)) := by
  rw [remarks_eq_flatMap, DeviceTree.withConfigurations, Occurrence.replace, List.flatMap_append,
    List.flatMap_cons]

theorem remarks_erase :
    remarks (tree.withConfigurations o.erase) =
      o.before.flatMap (remarksOn tree.record.configurationCount.toNat) ++
        o.after.flatMap (remarksOn tree.record.configurationCount.toNat) := by
  rw [remarks_eq_flatMap, DeviceTree.withConfigurations, Occurrence.erase, List.flatMap_append]

theorem countP_configuration_interfaceRemarks (c : ConfigurationTree) :
    (interfaceRemarks c).countP (fun r => r.topic = .configuration) = 0 := by
  rw [List.countP_eq_zero]
  intro r hr
  obtain ⟨i, -, rfl⟩ := List.mem_map.1 hr
  simp [interfaceRemark]

theorem interfaceRemarks_withInterfaces (c : ConfigurationTree) (is : List InterfaceTree) :
    interfaceRemarks (c.withInterfaces is) =
      (is.filter fun i => c.record.interfaceCount ≤ i.record.number).map fun i =>
        interfaceRemark i.record.number c.record.value c.record.interfaceCount.toNat := rfl

/-- A record of an interface that the configuration does not have is remarked in its position, and
another one is not. -/
theorem interfaceRemarks_replace {c : ConfigurationTree} (p : Occurrence c.interfaces)
    (i : InterfaceTree) :
    interfaceRemarks (c.withInterfaces (p.replace i)) =
      interfaceRemarks (c.withInterfaces p.before) ++
        ((if c.record.interfaceCount ≤ i.record.number then
            [interfaceRemark i.record.number c.record.value c.record.interfaceCount.toNat]
              else []) ++
          interfaceRemarks (c.withInterfaces p.after)) := by
  simp only [interfaceRemarks_withInterfaces, Occurrence.replace, List.filter_append,
    List.map_append]
  by_cases hout : c.record.interfaceCount ≤ i.record.number <;> simp [hout]

theorem interfaceRemarks_erase {c : ConfigurationTree} (p : Occurrence c.interfaces) :
    interfaceRemarks (c.withInterfaces p.erase) =
      interfaceRemarks (c.withInterfaces p.before) ++
        interfaceRemarks (c.withInterfaces p.after) := by
  simp only [interfaceRemarks_withInterfaces, Occurrence.erase, List.filter_append, List.map_append]

end Placement

namespace Surroundings

variable {σ : Type} {w : Surroundings σ} {tree : DeviceTree} {o : Occurrence tree.configurations}

/-- The remarks on a device, and on one with another record in this position or with none. -/
theorem exists_remarks_replace (w : Surroundings σ) (o : Occurrence tree.configurations) :
    ∃ earlier later, (∀ c, (w.make (tree.withConfigurations (o.replace c))).remarks =
        earlier ++ (Placement.remarksOn tree.record.configurationCount.toNat c ++ later)) ∧
      (w.make (tree.withConfigurations o.erase)).remarks = earlier ++ later := by
  obtain ⟨rest, hrest⟩ := w.exists_remarks_make tree
  refine ⟨o.before.flatMap (Placement.remarksOn tree.record.configurationCount.toNat),
    o.after.flatMap (Placement.remarksOn tree.record.configurationCount.toNat) ++ rest,
    fun c => ?_, ?_⟩
  · rw [hrest, Placement.remarks_replace, List.append_assoc, List.append_assoc]
  · rw [hrest, Placement.remarks_erase, List.append_assoc]

/-- A configuration record has a remark of its own just if the device has no configuration of its
value. -/
theorem hasOwnRemark_configuration_iff (w : Surroundings σ) (o : Occurrence tree.configurations) :
    (w.make tree).HasOwnRemark .configuration (w.make (tree.withConfigurations o.erase)) ↔
      ¬ tree.HasValue o.item.record.value := by
  obtain ⟨earlier, later, hwith, hwithout⟩ := w.exists_remarks_replace o
  have hself := hwith o.item
  rw [DeviceTree.withConfigurations_replace_item] at hself
  constructor
  · intro hown hvalue
    have hcount := hown.countP_eq
    rw [hself, hwithout, Placement.remarksOn_of_hasValue hvalue, List.countP_append,
      List.countP_append, List.countP_append,
      Placement.countP_configuration_interfaceRemarks] at hcount
    omega
  · intro hvalue
    rw [Placement.remarksOn, if_neg fun hplace => hvalue (Placement.hasPlace_iff.1 hplace)] at hself
    exact ⟨earlier, _, later, hself, rfl, hwithout⟩

/-- An interface record of a configuration that has a place has a remark of its own just if the
configuration has no interface of its number. -/
theorem hasOwnRemark_interface_iff (w : Surroundings σ) (hvalue : tree.HasValue o.item.record.value)
    (p : Occurrence o.item.interfaces) :
    (w.make tree).HasOwnRemark .interface
        (w.make (tree.withConfigurations (o.replace (o.item.withInterfaces p.erase)))) ↔
      o.item.record.interfaceCount.toNat ≤ p.item.record.number.toNat := by
  obtain ⟨earlier, later, hwith, -⟩ := w.exists_remarks_replace o
  have hself := hwith (o.item.withInterfaces (p.replace p.item))
  have herased := hwith (o.item.withInterfaces p.erase)
  rw [Placement.remarksOn_of_hasValue (by exact hvalue),
    Placement.interfaceRemarks_replace] at hself
  rw [Placement.remarksOn_of_hasValue (by exact hvalue),
    Placement.interfaceRemarks_erase] at herased
  have hitem : o.item.withInterfaces (p.replace p.item) = o.item := by
    rw [ConfigurationTree.withInterfaces, p.replace_item]
  rw [hitem, DeviceTree.withConfigurations_replace_item] at hself
  constructor
  · intro hown
    by_contra hin
    rw [if_neg (by rw [UInt8.le_iff_toNat_le]; exact hin), List.nil_append] at hself
    have hcount := hown.countP_eq
    rw [hself, herased] at hcount
    omega
  · intro hout
    rw [if_pos (UInt8.le_iff_toNat_le.2 hout)] at hself
    refine ⟨earlier ++ Placement.interfaceRemarks (o.item.withInterfaces p.before),
      Placement.interfaceRemark p.item.record.number o.item.record.value
        o.item.record.interfaceCount.toNat,
      Placement.interfaceRemarks (o.item.withInterfaces p.after) ++ later, ?_, rfl, ?_⟩
    · rw [hself]
      simp only [List.append_assoc, List.cons_append, List.nil_append]
    · rw [herased]
      simp only [List.append_assoc]

/-! ## Interfaces of one number -/

/-- Where no record of its number stands before it, a record counts. -/
theorem atNumber?_replace_of_first {c : ConfigurationTree} {p : Occurrence c.interfaces}
    (hfirst : ¬ p.Repeats) {i : InterfaceTree} (hi : i.record.number = p.item.record.number) :
    (c.withInterfaces (p.replace i)).atNumber? p.item.record.number.toNat = some i := by
  have hnone : (p.before.find? fun i => i.record.number.toNat = p.item.record.number.toNat) =
      none := by
    rw [List.find?_eq_none]
    intro i' hi' hsame
    exact hfirst ⟨i', hi', UInt8.toNat_inj.1 (of_decide_eq_true hsame)⟩
  rw [ConfigurationTree.withInterfaces, ConfigurationTree.atNumber?, Occurrence.replace,
    List.find?_append, hnone, Option.none_or]
  exact List.find?_cons_of_pos (decide_eq_true (by rw [hi]))

variable {p : Occurrence o.item.interfaces}

theorem slot?_of_configuration {d : Device} {k j : ℕ} {c : ConfigurationTree} {device : BusAddress}
    (hc : d.configurations[k]? = some (c.described device))
    (hj : j < c.record.interfaceCount.toNat) :
    d.slot? k j =
      some (((c.atNumber? j).map (Interface.ofTree · device)).getD (.empty j.toUInt8 device)) := by
  rw [Device.slot?, hc, Option.bind_some, ConfigurationTree.described, List.getElem?_map,
    List.getElem?_range hj, Option.map_some, Placement.interfaceAt_eq]

theorem BuildsInterface.of_first (hconfiguration : w.BuildsConfiguration o)
    (hnumber : p.item.record.number.toNat < o.item.record.interfaceCount.toNat)
    (hfirst : ¬ p.Repeats) :
    w.BuildsInterface o p := by
  intro i hi
  rw [slot?_of_configuration (hconfiguration (o.item.withInterfaces (p.replace i)) rfl) hnumber,
    atNumber?_replace_of_first hfirst hi]
  rfl

/-- No interface is built from a record of a configuration that is replaced. -/
theorem BuildsInterface.not_replaced (h : w.BuildsInterface o p) : ¬ DeviceTree.Replaced o := by
  intro hreplaced
  have hslot : ∀ i : InterfaceTree, i.record.number = p.item.record.number →
      (w.make tree).device.slot? (o.item.record.value.toNat - 1) p.item.record.number.toNat =
        some (.ofTree i (w.make tree).device.address) := by
    intro i hi
    have hbuilt := h i hi
    rwa [Device.slot?_of_configurations (configurations_replace_of_later hreplaced.later (by rfl))]
      at hbuilt
  -- Two records of the number with different alternate settings do not describe the same.
  have hequal := (hslot ⟨{ p.item.record with alternate := 0 }, []⟩ rfl).symm.trans
    (hslot ⟨{ p.item.record with alternate := 1 }, []⟩ rfl)
  have halternate : (0 : UInt8) = 1 := congrArg Interface.alternate (Option.some_injective _ hequal)
  cases halternate

/-! ## Records that are lost -/

/-- Without a configuration record that is replaced, the device is the same. -/
theorem device_erase_of_replaced (w : Surroundings σ) (hreplaced : DeviceTree.Replaced o) :
    (w.make (tree.withConfigurations o.erase)).device = (w.make tree).device := by
  have hlayout :=
    DeviceTree.layout_replace_of_later hreplaced.later rfl (w.make tree).device.address
  rw [DeviceTree.withConfigurations_replace_item, ← configurations_make] at hlayout
  rw [device_make, ← hlayout]

/-- Neither is anything remarked on it, but for its interfaces. -/
theorem remarks_erase_of_replaced (w : Surroundings σ) (hreplaced : DeviceTree.Replaced o) :
    Remark.on .configuration (w.make (tree.withConfigurations o.erase)).remarks =
      Remark.on .configuration (w.make tree).remarks := by
  obtain ⟨earlier, later, hwith, hwithout⟩ := w.exists_remarks_replace o
  have hself := hwith o.item
  rw [DeviceTree.withConfigurations_replace_item,
    Placement.remarksOn_of_hasValue hreplaced.hasValue] at hself
  have hnone : Remark.on .configuration (Placement.interfaceRemarks o.item) = [] := by
    rw [Remark.on, ← List.length_eq_zero_iff, ← List.countP_eq_length_filter]
    exact Placement.countP_configuration_interfaceRemarks o.item
  rw [hself, hwithout, Remark.on_append, Remark.on_append, Remark.on_append, hnone, List.nil_append]

/-- Whatever the settings, the files, the hints and the answers are, and for every configuration
record of a device in its position: It is the one from which the configuration of its value is
built, or it has a remark of its own, unless it is replaced by a later record of its value. Then the
device is the same without it, and nothing is remarked on it. And of its interface records, if the
device has a configuration of its value: each is the one from which the interface of its number is
built, or repeats the number of an earlier one, or has a remark of its own, unless the configuration
is replaced and the record is the first of a number that this configuration has. -/
theorem accounted_iff (w : Surroundings σ) (tree : DeviceTree)
    (o : Occurrence tree.configurations) :
    (w.BuildsConfiguration o ∨
        (w.make tree).HasOwnRemark .configuration (w.make (tree.withConfigurations o.erase)) ↔
      ¬ DeviceTree.Replaced o) ∧
    (DeviceTree.Replaced o →
      (w.make (tree.withConfigurations o.erase)).device = (w.make tree).device ∧
      Remark.on .configuration (w.make (tree.withConfigurations o.erase)).remarks =
        Remark.on .configuration (w.make tree).remarks) ∧
    (tree.HasValue o.item.record.value → ∀ p : Occurrence o.item.interfaces,
      (w.BuildsInterface o p ∨ p.Repeats ∨
          (w.make tree).HasOwnRemark .interface
            (w.make (tree.withConfigurations (o.replace (o.item.withInterfaces p.erase)))) ↔
        ¬ (DeviceTree.Replaced o ∧ p.item.record.number.toNat < o.item.record.interfaceCount.toNat ∧
          ¬ p.Repeats))) := by
  have hlast : ¬ DeviceTree.Replaced o → tree.HasValue o.item.record.value →
      w.BuildsConfiguration o := by
    intro hkept hvalue
    exact .of_last hvalue fun c hc hsame => hkept ⟨hvalue, c, hc, hsame⟩
  refine ⟨⟨?_, fun hkept => ?_⟩, fun hreplaced => ?_, fun hvalue p => ⟨?_, fun haccounted => ?_⟩⟩
  · rintro (hbuilds | hown) ⟨hvalue, c, hc, hsame⟩
    · exact hbuilds.last c hc hsame
    · exact (hasOwnRemark_configuration_iff w o).1 hown hvalue
  · by_cases hvalue : tree.HasValue o.item.record.value
    · exact .inl (hlast hkept hvalue)
    · exact .inr ((hasOwnRemark_configuration_iff w o).2 hvalue)
  · exact ⟨device_erase_of_replaced w hreplaced, remarks_erase_of_replaced w hreplaced⟩
  · rintro (hbuilds | hrepeats | hown) ⟨hreplaced, hnumber, hfirst⟩
    · exact hbuilds.not_replaced hreplaced
    · exact hfirst hrepeats
    · exact absurd ((hasOwnRemark_interface_iff w hvalue p).1 hown) (by omega)
  · by_cases hrepeats : p.Repeats
    · exact .inr (.inl hrepeats)
    by_cases hnumber : p.item.record.number.toNat < o.item.record.interfaceCount.toNat
    · have hkept : ¬ DeviceTree.Replaced o :=
        fun hreplaced => haccounted ⟨hreplaced, hnumber, hrepeats⟩
      exact .inl (.of_first (hlast hkept hvalue) hnumber hrepeats)
    · exact .inr (.inr ((hasOwnRemark_interface_iff w hvalue p).2 (by omega)))

end Surroundings

/-! ## A device with two records of one value -/

/-- What surrounds the device of the alternate settings. -/
def smallSurroundings : Surroundings Host :=
  ⟨⟨.ofText "/", .ofText "/s", none⟩, .empty [], Inquiry.ofNode, ⟨⟨1, 2⟩, none⟩,
    (smallSession grantingKernel).host⟩

/-- A configuration with one interface, and another one of the same value without any. -/
def twiceTree : DeviceTree :=
  ⟨smallTree.record, [⟨⟨9, configurationKind, 25, 1, 1, 0, 0xc0, 50⟩, [receivingTree]⟩,
    ⟨⟨9, configurationKind, 9, 0, 1, 0, 0x80, 50⟩, []⟩]⟩

/-- The first of its configuration records. -/
def twiceFirst : Occurrence twiceTree.configurations := ⟨[], _, _, rfl⟩

/-- The interface record behind it. -/
def twiceInterface : Occurrence twiceFirst.item.interfaces := ⟨[], _, [], rfl⟩

/-- The first record is replaced: the device is the same without it, and it has no remark. The same
holds of its interface. -/
theorem Surroundings.accounted_iff_twiceTree :
    (¬ smallSurroundings.BuildsConfiguration twiceFirst ∧
      ¬ (smallSurroundings.make twiceTree).HasOwnRemark .configuration
        (smallSurroundings.make (twiceTree.withConfigurations twiceFirst.erase))) ∧
    (smallSurroundings.make (twiceTree.withConfigurations twiceFirst.erase)).device =
      (smallSurroundings.make twiceTree).device ∧
    ¬ smallSurroundings.BuildsInterface twiceFirst twiceInterface := by
  have hvalue : twiceTree.HasValue twiceFirst.item.record.value := ⟨by decide, by decide⟩
  have hreplaced : DeviceTree.Replaced twiceFirst := ⟨hvalue, _, List.mem_singleton_self _, rfl⟩
  have hfirst : ¬ twiceInterface.Repeats := by
    rintro ⟨i, hi, -⟩
    cases hi
  obtain ⟨hconfiguration, hlost, hinterfaces⟩ :=
    accounted_iff smallSurroundings twiceTree twiceFirst
  refine ⟨not_or.1 fun haccounted => hconfiguration.1 haccounted hreplaced, (hlost hreplaced).1,
    fun hbuilds => ?_⟩
  exact (hinterfaces hvalue twiceInterface).1 (.inl hbuilds) ⟨hreplaced, by decide, hfirst⟩

/-! ## Alternate settings of one interface -/

namespace Surroundings

variable {σ : Type} {w : Surroundings σ} {tree : DeviceTree} {o : Occurrence tree.configurations}

theorem atNumber?_eq_head? (c : ConfigurationTree) (j : ℕ) :
    c.atNumber? j = (c.interfaces.filter fun i => i.record.number.toNat = j).head? :=
  List.head?_filter.symm

/-- The first record of alternate setting 0 is the first of all if that has alternate setting 0. -/
theorem eq_of_alternate_zero {c : ConfigurationTree} {j : ℕ} {first r : InterfaceTree}
    (hfirst : c.atNumber? j = some first)
    (hr : (c.interfaces.find? fun i => i.record.number.toNat = j ∧ i.record.alternate = 0) = some r)
    (hzero : first.record.alternate = 0) : first = r := by
  rw [atNumber?_eq_head?] at hfirst
  obtain ⟨rest, hrest⟩ := List.head?_eq_some_iff.1 hfirst
  have hfound : ((c.interfaces.filter fun i => i.record.number.toNat = j).find? fun i =>
      i.record.alternate = 0) =
      some r := by
    rw [List.find?_filter, ← hr]
    simp only [Bool.decide_and, Bool.decide_eq_true]
  have hhead : ((first :: rest).find? fun i => i.record.alternate = 0) = some first :=
    List.find?_cons_of_pos (decide_eq_true hzero)
  rw [hrest, hhead] at hfound
  exact Option.some_injective _ hfound

/-- Let a configuration be built from a record that has, among the records of an interface, one of
alternate setting 0. Then the interface is what the first record of its number describes, of
whatever alternate setting this is; it has alternate 0 and the endpoints of the first record of
alternate setting 0 just if that record comes first; and the order in which the records of other
interfaces stand among them does not matter. -/
theorem filled_by_first (hbuilds : w.BuildsConfiguration o) {j : ℕ}
    (hj : j < o.item.record.interfaceCount.toNat) {r : InterfaceTree}
    (hr : (o.item.interfaces.find? fun i => i.record.number.toNat = j ∧ i.record.alternate = 0) =
      some r) :
    ∃ first i, o.item.atNumber? j = some first ∧
      (w.make tree).device.slot? (o.item.record.value.toNat - 1) j = some i ∧
      i.alternate = first.record.alternate ∧ i.endpoints = Interface.listed first ∧
      (i.alternate = 0 ∧ i.endpoints = Interface.listed r ↔ first.record.alternate = 0) ∧
      ∀ c : ConfigurationTree, c.record = o.item.record →
        (c.interfaces.filter fun i => i.record.number.toNat = j) =
          (o.item.interfaces.filter fun i => i.record.number.toNat = j) →
        (w.make (tree.withConfigurations (o.replace c))).device.slot?
          (o.item.record.value.toNat - 1) j = some i := by
  have hslot : ∀ c : ConfigurationTree, c.record = o.item.record →
      (w.make (tree.withConfigurations (o.replace c))).device.slot?
        (o.item.record.value.toNat - 1) j =
        some (((c.atNumber? j).map (Interface.ofTree · (w.make tree).device.address)).getD
          (.empty j.toUInt8 (w.make tree).device.address)) := by
    intro c hc
    exact slot?_of_configuration (hbuilds c (by rw [hc])) (by rwa [hc])
  have hnumber : (o.item.atNumber? j).isSome := by
    rw [ConfigurationTree.atNumber?, List.find?_isSome]
    have hfound := List.find?_some hr
    exact ⟨r, List.mem_of_find?_eq_some hr, decide_eq_true (of_decide_eq_true hfound).1⟩
  obtain ⟨first, hfirst⟩ := Option.isSome_iff_exists.1 hnumber
  have hself := hslot o.item rfl
  rw [DeviceTree.withConfigurations_replace_item, hfirst] at hself
  refine ⟨first, _, hfirst, hself, rfl, rfl, ⟨fun h => h.1, fun hzero => ⟨hzero, ?_⟩⟩,
    fun c hc hsame => ?_⟩
  · rw [← eq_of_alternate_zero hfirst hr hzero]
    rfl
  · rw [hslot c hc, atNumber?_eq_head?, hsame, ← atNumber?_eq_head?, hfirst]

end Surroundings

/-- A configuration whose interface is recorded in alternate setting 1 before it is recorded in
alternate setting 0. -/
def swappedTree : DeviceTree :=
  ⟨smallTree.record,
    [⟨⟨9, configurationKind, 41, 1, 1, 0, 0xc0, 50⟩, [sendingTree, receivingTree]⟩]⟩

/-- Its configuration record. -/
def swappedOnly : Occurrence swappedTree.configurations := ⟨[], _, [], rfl⟩

namespace Surroundings

theorem builds_swappedOnly : smallSurroundings.BuildsConfiguration swappedOnly :=
  .of_last ⟨by decide, by decide⟩ (by simp [swappedOnly])

/-- The interface of the swapped records has alternate 1 and sends; it is not that of alternate
setting 0. -/
theorem filled_by_first_swappedTree :
    ∃ i, (smallSurroundings.make swappedTree).device.slot? 0 0 = some i ∧ i.alternate = 1 ∧
      i.endpoints.map Endpoint.address = [0x02] ∧
      ¬ (i.alternate = 0 ∧ i.endpoints = Interface.listed receivingTree) := by
  obtain ⟨first, i, hfirst, hslot, halternate, hendpoints, hzero, -⟩ :=
    filled_by_first builds_swappedOnly (j := 0) (by decide) (r := receivingTree) rfl
  obtain rfl : sendingTree = first := Option.some_injective _ hfirst
  refine ⟨i, hslot, halternate, ?_, fun h => ?_⟩
  · rw [hendpoints]
    rfl
  · cases hzero.1 h

/-- Alternate setting 0 of an interface need not be the one that fills it. -/
theorem not_alternate_zero_swappedTree :
    ¬ ∀ (w : Surroundings Host) (tree : DeviceTree) (o : Occurrence tree.configurations) (j : ℕ)
      (r : InterfaceTree), w.BuildsConfiguration o → j < o.item.record.interfaceCount.toNat →
      (o.item.interfaces.find? fun i => i.record.number.toNat = j ∧ i.record.alternate = 0) =
        some r →
      ∃ i, (w.make tree).device.slot? (o.item.record.value.toNat - 1) j = some i ∧
        i.alternate = 0 ∧ i.endpoints = Interface.listed r := by
  intro hall
  obtain ⟨i, hslot, halternate, -⟩ := hall _ _ _ 0 receivingTree builds_swappedOnly (by decide) rfl
  have hfilled : (smallSurroundings.make swappedTree).device.slot? 0 0 =
      some (.ofTree sendingTree (smallSurroundings.make swappedTree).device.address) :=
    slot?_of_configuration (builds_swappedOnly swappedOnly.item rfl) (by decide)
  have hequal : Interface.ofTree sendingTree _ = i :=
    Option.some_injective _ (hfilled.symm.trans hslot)
  rw [← hequal] at halternate
  cases halternate

end Surroundings

end UsbAccess
