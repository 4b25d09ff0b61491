import Mathlib
import UsbAccess.Assembly.Placement

/-!
# What stands at a place

Records are placed one after another. At each place there is afterwards what the record that counts
for it has put there: of an interface's number the first record, of a configuration's value the
last.

Results:
* `getElem?_interfaces`: which interface stands at a number.
* `getElem?_configurations`: which configuration stands at a value.
-/

namespace UsbAccess

open Descriptor

/-- The interface record that counts for a number: the first. -/
def Descriptor.ConfigurationTree.atNumber? (t : ConfigurationTree) (number : ℕ) :
    Option InterfaceTree :=
  t.interfaces.find? fun i => i.record.number.toNat = number

/-- The configuration record that counts for a value: the last. -/
def Descriptor.DeviceTree.atValue? (t : DeviceTree) (value : ℕ) : Option ConfigurationTree :=
  t.configurations.reverse.find? fun c => c.record.value.toNat = value

namespace Placement

variable {device : BusAddress}

theorem getElem?_placeInterface (places : List (Option Interface)) (t : InterfaceTree) (j : ℕ) :
    (placeInterface device places t)[j]? =
      if t.record.number.toNat = j then places[j]?.map fun place =>
        place.or (some (.ofTree t device))
      else places[j]? := by
  unfold placeInterface
  split
  · next hfree =>
    rw [List.getElem?_set]
    split_ifs with hj hlt
    · subst hj
      rw [hfree]
      rfl
    · subst hj
      rw [List.getElem?_eq_none (by omega)]
      rfl
    · rfl
  · next htaken =>
    split_ifs with hj
    · subst hj
      rcases hplace : places[t.record.number.toNat]? with _ | _ | i
      · rfl
      · exact absurd hplace htaken
      · rfl
    · rfl

theorem getElem?_foldl_placeInterface (ts : List InterfaceTree)
    (places : List (Option Interface)) (j : ℕ) :
    (ts.foldl (placeInterface device) places)[j]? = places[j]?.map fun place =>
      place.or ((ts.find? fun t => t.record.number.toNat = j).map (Interface.ofTree · device)) := by
  induction ts generalizing places with
  | nil => simp
  | cons t rest ih =>
    rw [List.foldl_cons, ih, getElem?_placeInterface, List.find?_cons]
    by_cases hj : t.record.number.toNat = j
    · simp [hj, Function.comp_def]
    · simp [hj]

/-- At each number there is the first record's interface, or an empty one. -/
theorem getElem?_interfaces {t : ConfigurationTree} {j : ℕ}
    (h : j < t.record.interfaceCount.toNat) :
    (interfaces t device)[j]? =
      some (((t.atNumber? j).map (Interface.ofTree · device)).getD (.empty j.toUInt8 device)) := by
  rw [interfaces, List.getElem?_mapIdx, getElem?_foldl_placeInterface,
    List.getElem?_replicate, if_pos h]
  rfl

theorem getElem?_placeConfiguration (places : List Configuration) (t : ConfigurationTree) (i : ℕ) :
    (placeConfiguration device places t)[i]? =
      if t.record.value.toNat = i + 1 then places[i]?.map fun _ => configuration t device
      else places[i]? := by
  have hplace : hasPlace t.record.value places.length = true ↔
      0 < t.record.value.toNat ∧ t.record.value.toNat ≤ places.length := by
    rw [hasPlace, Bool.and_eq_true, decide_eq_true_eq, decide_eq_true_eq, Ne, ← UInt8.toNat_inj,
      UInt8.toNat_zero, Nat.pos_iff_ne_zero]
  unfold placeConfiguration
  split_ifs with h hi hi
  · obtain ⟨hpos, hle⟩ := hplace.1 h
    rw [List.getElem?_set, if_pos (by omega), if_pos (by omega),
      List.getElem?_eq_getElem (by omega)]
    rfl
  · obtain ⟨hpos, hle⟩ := hplace.1 h
    rw [List.getElem?_set, if_neg (by omega)]
  · have hlong : places.length ≤ i := by
      by_contra hlt
      exact h (hplace.2 (by omega))
    rw [List.getElem?_eq_none hlong]
    rfl
  · rfl

theorem getElem?_foldl_placeConfiguration (ts : List ConfigurationTree)
    (places : List Configuration) (i : ℕ) :
    (ts.foldl (placeConfiguration device) places)[i]? = places[i]?.map fun place =>
      ((ts.reverse.find? fun t => t.record.value.toNat = i + 1).map
        (configuration · device)).getD place := by
  induction ts using List.reverseRecOn with
  | nil => simp
  | append_singleton ts t ih =>
    rw [List.foldl_concat, getElem?_placeConfiguration, ih, List.reverse_concat, List.find?_cons]
    by_cases hi : t.record.value.toNat = i + 1
    · simp [hi, Function.comp_def]
    · simp [hi]

/-- At each value there is the last record's configuration, or an empty one. -/
theorem getElem?_configurations {t : DeviceTree} {i : ℕ}
    (h : i < t.record.configurationCount.toNat) :
    (configurations t device)[i]? =
      some (((t.atValue? (i + 1)).map (configuration · device)).getD
        (.empty (i + 1).toUInt8 device)) := by
  rw [configurations, getElem?_foldl_placeConfiguration, List.getElem?_map, List.getElem?_range h]
  rfl

end Placement
end UsbAccess
