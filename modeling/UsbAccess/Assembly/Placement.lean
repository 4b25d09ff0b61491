import UsbAccess.Assembly.Remark
import UsbAccess.Interface

/-!
# Placing records

A device has as many configurations as it says, at the values from 1, and a configuration as many
interfaces as it says, at the numbers from 0. Records are placed one after another: the last record
of a configuration's value and the first record of an interface's number count, and a record without
a place leaves a remark.

Results:
* `length_configurations`: a device has as many configurations as it says.
* `length_interfaces`: a configuration has as many interfaces as it says.
-/

namespace UsbAccess.Placement

open Descriptor

/-! ## Interfaces -/

/-- The remark on an interface record whose number has no place. -/
def interfaceRemark (number value : UInt8) (count : Nat) : Remark :=
  ⟨.interface, "interface " ++ number.toNat.repr ++ " out of range in configuration " ++
    value.toNat.repr ++ " with " ++ count.repr ++ " interfaces"⟩

/-- Places one interface record, if its place is there and still free. -/
def placeInterface (device : BusAddress) (places : List (Option Interface)) (t : InterfaceTree) :
    List (Option Interface) :=
  match places[t.record.number.toNat]? with
  | some none => places.set t.record.number.toNat (some (.ofTree t device))
  | _ => places

/-- The interfaces of a configuration, an empty one at each number that has no record. -/
def interfaces (t : ConfigurationTree) (device : BusAddress) : List Interface :=
  (t.interfaces.foldl (placeInterface device)
    (List.replicate t.record.interfaceCount.toNat none)).mapIdx
    fun i place => place.getD (.empty i.toUInt8 device)

/-- The remarks on the interface records of a configuration that have no place. -/
def interfaceRemarks (t : ConfigurationTree) : List Remark :=
  (t.interfaces.filter fun i => t.record.interfaceCount ≤ i.record.number).map fun i =>
    interfaceRemark i.record.number t.record.value t.record.interfaceCount.toNat

/-! ## Configurations -/

/-- The configuration that a record and its interfaces describe. -/
def configuration (t : ConfigurationTree) (device : BusAddress) : Configuration where
  selfPowered := t.record.selfPowered
  remoteWakeup := t.record.remoteWakeup
  maxPower := t.record.power.toUInt16 * 2
  value := t.record.value
  interfaces := interfaces t device
  device := device

/-- The remark on a configuration record whose value has no place. -/
def configurationRemark (value : UInt8) (count : Nat) : Remark :=
  ⟨.configuration, "configuration value " ++ value.toNat.repr ++ " out of range for " ++
    count.repr ++
    " configurations"⟩

/-- A device of `count` configurations has a place for this value. -/
def hasPlace (value : UInt8) (count : Nat) : Bool :=
  value ≠ 0 && value.toNat ≤ count

/-- Places one configuration record, in the stead of an earlier one. -/
def placeConfiguration (device : BusAddress) (places : List Configuration) (t : ConfigurationTree) :
    List Configuration :=
  if hasPlace t.record.value places.length then
    places.set (t.record.value.toNat - 1) (configuration t device)
  else places

/-- The configurations of a device, an empty one at each value that has no record. -/
def configurations (t : DeviceTree) (device : BusAddress) : List Configuration :=
  t.configurations.foldl (placeConfiguration device)
    ((List.range t.record.configurationCount.toNat).map fun i => .empty (i + 1).toUInt8 device)

/-- The remarks on the records of a device, in their order: on a configuration without a place, or
else on its interfaces. -/
def remarks (t : DeviceTree) : List Remark :=
  t.configurations.flatMap fun c =>
    if hasPlace c.record.value t.record.configurationCount.toNat then interfaceRemarks c
    else [configurationRemark c.record.value t.record.configurationCount.toNat]

/-! ## Laws -/

theorem length_placeInterface (device : BusAddress) (places : List (Option Interface))
    (t : InterfaceTree) : (placeInterface device places t).length = places.length := by
  unfold placeInterface
  split <;> simp

theorem length_interfaces (t : ConfigurationTree) (device : BusAddress) :
    (interfaces t device).length = t.record.interfaceCount.toNat := by
  have h : ∀ (ts : List InterfaceTree) (places : List (Option Interface)),
      (ts.foldl (placeInterface device) places).length = places.length := by
    intro ts
    induction ts with
    | nil => simp
    | cons head rest ih => intro places; rw [List.foldl_cons, ih, length_placeInterface]
  simp [interfaces, h]

theorem length_placeConfiguration (device : BusAddress) (places : List Configuration)
    (t : ConfigurationTree) : (placeConfiguration device places t).length = places.length := by
  unfold placeConfiguration
  split <;> simp

theorem length_configurations (t : DeviceTree) (device : BusAddress) :
    (configurations t device).length = t.record.configurationCount.toNat := by
  have h : ∀ (ts : List ConfigurationTree) (places : List Configuration),
      (ts.foldl (placeConfiguration device) places).length = places.length := by
    intro ts
    induction ts with
    | nil => simp
    | cons head rest ih => intro places; rw [List.foldl_cons, ih, length_placeConfiguration]
  simp [configurations, h]

end UsbAccess.Placement
