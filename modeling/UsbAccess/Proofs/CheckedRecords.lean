import Mathlib
import UsbAccess.Proofs.Traps
import UsbAccess.Proofs.Places
import UsbAccess.Proofs.UpstreamPorts

/-!
# Records without traps

A device writes its records as it likes, and they are read by their own lengths, numbers and counts:
the first byte of a record says how many to cut off, the number of an interface where to put it, the
value of a configuration where to put this. Here they are read and placed step by step with
operations that may trap, and none of them does, whatever the bytes are.

Results:
* `Cursor.checkedNext_eq`, `checkedTree_eq`: bytes are cut into records and nested.
* `Placement.checkedConfigurations_eq`: records are placed.
* `PortPath.checkedUpstream_eq`: the way up to the root hub is walked.
-/

namespace UsbAccess

open Checked

/-! ## Cutting into records -/

namespace Descriptor

/-- The record of this kind that `bytes` are. -/
def Record.checkedOfKind (kind : UInt8) (bytes : Bytes) : Checked (Option Record) := do
  if kind = textKind then return some (.text (← slice bytes 2 bytes.length))
  return Record.ofBytes? bytes

/-- The next item of a stream, and the place behind it. -/
def Cursor.checkedNext (c : Cursor) : Checked (Option (Except Fault Record) × Cursor) := do
  if c.rest.isEmpty || c.failed then return (none, c)
  let length := (← get c.rest 0).toNat
  if length < 2 ∨ c.rest.length < length then
    return (some (.error (.recordLength length c.rest.length)), ⟨c.rest, true⟩)
  let (bytes, rest) ← split c.rest length
  let kind ← get bytes 1
  match ← Record.checkedOfKind kind bytes with
  | some record => return (some (.ok record), ⟨rest, false⟩)
  | none => return (some (.error (.truncated kind length)), ⟨rest, true⟩)

theorem Record.checkedOfKind_eq (length kind : UInt8) (content : Bytes) :
    checkedOfKind kind (length :: kind :: content) =
      .ok (ofBytes? (length :: kind :: content)) := by
  unfold checkedOfKind
  by_cases htext : kind = textKind
  · subst htext
    rw [if_pos rfl, slice_of_le (by simp) le_rfl, List.take_length]
    rfl
  · rw [if_neg htext]
    rfl

theorem Cursor.checkedNext_eq (c : Cursor) : c.checkedNext = .ok c.next := by
  obtain ⟨bytes, failed⟩ := c
  unfold checkedNext next
  cases failed with
  | true => simp [Pure.pure, Except.pure]
  | false =>
    cases bytes with
    | nil => simp [Pure.pure, Except.pure]
    | cons first more =>
      have hfirst : get (first :: more) 0 = .ok first := get_eq_ok_iff.2 rfl
      simp only [List.isEmpty_cons, Bool.or_self, Bool.false_eq_true, if_false, bind_of_ok hfirst]
      have hcut : first.toNat < 2 ∨ ((first :: more).take first.toNat).length < first.toNat ↔
          first.toNat < 2 ∨ (first :: more).length < first.toNat := by
        rw [List.length_take]
        omega
      by_cases hlength : first.toNat < 2 ∨ (first :: more).length < first.toNat
      · rw [if_pos hlength, if_pos (hcut.2 hlength)]
        rfl
      · rw [if_neg hlength, if_neg fun h => hlength (hcut.1 h)]
        -- the record has two bytes at least, so that it has a kind
        obtain ⟨n, hn⟩ : ∃ n, first.toNat = n + 2 := ⟨first.toNat - 2, by omega⟩
        cases more with
        | nil => simp at hlength; omega
        | cons kind content =>
          have htake : (first :: kind :: content).take first.toNat =
              first :: kind :: content.take n := by
            rw [hn]
            rfl
          rw [bind_of_ok (split_of_le (by omega)), htake]
          have hkind : get (first :: kind :: content.take n) 1 = .ok kind := get_eq_ok_iff.2 rfl
          simp only [bind_of_ok hkind,
            bind_of_ok (Record.checkedOfKind_eq first kind (content.take n))]
          cases Record.ofBytes? (first :: kind :: content.take n) with
          | none => rfl
          | some record => rfl

/-- The items from a place on. -/
def Cursor.checkedScan (c : Cursor) : Checked Scan :=
  match _h : c.checkedNext with
  | .error trap => .error trap
  | .ok (some (.ok record), c') => do
    let rest ← c'.checkedScan
    return ⟨record :: rest.records, rest.fault⟩
  | .ok (some (.error fault), _) => return ⟨[], some fault⟩
  | .ok (none, _) => return ⟨[], none⟩
termination_by c.rest.length
decreasing_by
  rw [checkedNext_eq, Except.ok.injEq] at _h
  have := length_next _h
  omega

theorem Cursor.checkedScan_eq (c : Cursor) : c.checkedScan = .ok c.scan := by
  fun_induction Cursor.scan c with
  | case1 c record c' h rest ih =>
    have hchecked : c.checkedNext = .ok (some (.ok record), c') := by rw [checkedNext_eq, h]
    rw [checkedScan]
    -- of the four outcomes only the one that `hchecked` tells is left
    split <;> (rename_i heq; rw [hchecked] at heq; cases heq)
    rw [bind_of_ok ih]
    rfl
  | case2 c fault c' h =>
    have hchecked : c.checkedNext = .ok (some (.error fault), c') := by rw [checkedNext_eq, h]
    rw [checkedScan]
    split <;> (rename_i heq; rw [hchecked] at heq; cases heq)
    rfl
  | case3 c c' h =>
    have hchecked : c.checkedNext = .ok (none, c') := by rw [checkedNext_eq, h]
    rw [checkedScan]
    split <;> (rename_i heq; rw [hchecked] at heq; cases heq)
    rfl

/-- The tree of the bytes that a device node holds. -/
def checkedTree (bytes : Bytes) : Checked (Except Fault DeviceTree) := do
  return DeviceTree.ofScan? (← (Cursor.start bytes).checkedScan)

theorem checkedTree_eq (bytes : Bytes) : checkedTree bytes = .ok (DeviceTree.ofBytes? bytes) :=
  bind_of_ok (Cursor.checkedScan_eq _) _

end Descriptor

/-! ## Placing records -/

namespace Placement

open Descriptor

variable {device : BusAddress}

/-- Places one interface record among `count` interfaces, where `filled` tells which places are
taken. -/
def checkedPlaceInterface (device : BusAddress) (count : ℕ) (places : List Interface × List Bool)
    (t : InterfaceTree) :
    Checked (List Interface × List Bool) := do
  let slot := t.record.number.toNat
  if count ≤ slot then return places
  if ← get places.2 slot then return places
  return (← set places.1 slot (.ofTree t device), ← set places.2 slot true)

/-- The configuration that a record and its interfaces describe. -/
def checkedConfiguration (t : ConfigurationTree) (device : BusAddress) : Checked Configuration := do
  let count := t.record.interfaceCount.toNat
  let (interfaces, _) ← t.interfaces.foldlM (checkedPlaceInterface device count)
    ((List.range count).map fun i => .empty i.toUInt8 device, List.replicate count false)
  let maxPower ← mul16 t.record.power.toUInt16 2
  return {
    selfPowered := t.record.selfPowered
    remoteWakeup := t.record.remoteWakeup
    maxPower := maxPower
    value := t.record.value
    interfaces := interfaces
    device := device }

/-- Places one configuration record among `count` configurations. -/
def checkedPlaceConfiguration (device : BusAddress) (count : ℕ) (places : List Configuration)
    (t : ConfigurationTree) :
    Checked (List Configuration) := do
  let value := t.record.value.toNat
  if value = 0 ∨ count < value then return places
  let configuration ← checkedConfiguration t device
  set places (← sub value 1) configuration

/-- The configurations of a device. -/
def checkedConfigurations (t : DeviceTree) (device : BusAddress) : Checked (List Configuration) :=
  do
  let count := t.record.configurationCount.toNat
  let places ← (List.range count).mapM fun i =>
      do return Configuration.empty (← add8 i.toUInt8 1) device
  t.configurations.foldlM (checkedPlaceConfiguration device count) places

/-- Places as lists of interfaces, an empty one where nothing stands, and of whether they are taken.
-/
def spread (device : BusAddress) (places : List (Option Interface)) : List Interface × List Bool :=
  (places.mapIdx fun i place => place.getD (.empty i.toUInt8 device), places.map Option.isSome)

theorem checkedPlaceInterface_spread {count : ℕ} {places : List (Option Interface)}
    (hlength : places.length = count) (t : InterfaceTree) :
    checkedPlaceInterface device count (spread device places) t =
      .ok (spread device (placeInterface device places t)) := by
  unfold checkedPlaceInterface placeInterface
  by_cases hslot : count ≤ t.record.number.toNat
  · rw [List.getElem?_eq_none (by omega)]
    simp only [if_pos hslot]
    rfl
  · have hlt : t.record.number.toNat < places.length := by omega
    have htaken : get (spread device places).2 t.record.number.toNat =
        .ok places[t.record.number.toNat].isSome := by
      rw [get_eq_ok_iff, spread, List.getElem?_map, List.getElem?_eq_getElem hlt]
      rfl
    rw [List.getElem?_eq_getElem hlt]
    simp only [if_neg hslot, bind_of_ok htaken]
    cases places[t.record.number.toNat] with
    | some i => rfl
    | none =>
      have hinterfaces : t.record.number.toNat < (spread device places).1.length := by
        rwa [spread, List.length_mapIdx]
      have hfilled : t.record.number.toNat < (spread device places).2.length := by
        rwa [spread, List.length_map]
      simp only [Option.isSome_none, Bool.false_eq_true, if_false,
        bind_of_ok (set_of_lt hinterfaces _), bind_of_ok (set_of_lt hfilled _)]
      rw [spread, spread, List.mapIdx_set, List.map_set]
      rfl

theorem checkedConfiguration_eq (t : ConfigurationTree) (device : BusAddress) :
    checkedConfiguration t device = .ok (configuration t device) := by
  have hstart : ((List.range t.record.interfaceCount.toNat).map fun i =>
      Interface.empty i.toUInt8 device,
      List.replicate t.record.interfaceCount.toNat false) =
        spread device (List.replicate t.record.interfaceCount.toNat none) := by
    refine Prod.ext (List.ext_getElem (by simp [spread]) fun i _ _ => ?_) ?_
    · simp [spread]
    · simp [spread]
  have hfold := foldlM_eq_ok (f := checkedPlaceInterface device t.record.interfaceCount.toNat)
    (g := placeInterface device) (spread device)
      (fun places => places.length = t.record.interfaceCount.toNat)
    (fun places r hlength =>
      ⟨checkedPlaceInterface_spread hlength r,
        (length_placeInterface device places r).trans hlength⟩)
    t.interfaces (c := List.replicate t.record.interfaceCount.toNat none) List.length_replicate
  have hpower : mul16 t.record.power.toUInt16 2 = .ok (t.record.power.toUInt16 * 2) := by
    have := t.record.power.toNat_lt
    exact mul16_of_lt (by simp only [UInt8.toNat_toUInt16, UInt16.reduceToNat]; omega)
  unfold checkedConfiguration
  simp only [hstart, bind_of_ok hfold, bind_of_ok hpower]
  rfl

theorem checkedPlaceConfiguration_eq {count : ℕ} {places : List Configuration}
    (hlength : places.length = count) (t : ConfigurationTree) :
    checkedPlaceConfiguration device count places t = .ok (placeConfiguration device places t) := by
  have hplace : hasPlace t.record.value places.length = true ↔
      ¬ (t.record.value.toNat = 0 ∨ count < t.record.value.toNat) := by
    rw [hasPlace, Bool.and_eq_true, decide_eq_true_eq, decide_eq_true_eq, Ne, ← UInt8.toNat_inj,
      UInt8.toNat_zero, hlength]
    omega
  unfold checkedPlaceConfiguration placeConfiguration
  by_cases hvalue : t.record.value.toNat = 0 ∨ count < t.record.value.toNat
  · rw [if_neg fun h => hplace.1 h hvalue]
    simp only [if_pos hvalue]
    rfl
  · rw [if_pos (hplace.2 hvalue)]
    have hpositive : 1 ≤ t.record.value.toNat := by omega
    simp only [if_neg hvalue, bind_of_ok (checkedConfiguration_eq t device),
      bind_of_ok (sub_of_le hpositive)]
    exact set_of_lt (by omega) _

/-- Every configuration is placed, whatever the numbers and values of the records are. -/
theorem checkedConfigurations_eq (t : DeviceTree) (device : BusAddress) :
    checkedConfigurations t device = .ok (configurations t device) := by
  have hempty : ∀ i ∈ List.range t.record.configurationCount.toNat,
      (do return Configuration.empty (← add8 i.toUInt8 1) device : Checked Configuration) =
        .ok (Configuration.empty (i + 1).toUInt8 device) := by
    intro i hi
    have hcount := t.record.configurationCount.toNat_lt
    have hsmall : i + 1 < 2 ^ 8 := by
      have := List.mem_range.1 hi
      omega
    have hindex : i.toUInt8.toNat = i := UInt8.toNat_ofNat_of_lt (show i < 2 ^ 8 by omega)
    have hsum : add8 i.toUInt8 1 = .ok (i.toUInt8 + 1) := by
      apply add8_of_lt
      rw [hindex]
      exact hsmall
    have hnext : i.toUInt8 + 1 = (i + 1).toUInt8 := by
      apply UInt8.toNat_inj.1
      rw [UInt8.toNat_add, hindex]
      rfl
    rw [bind_of_ok hsum, hnext]
    rfl
  have hplaces := mapM_eq_ok hempty
  have hfold :=
    foldlM_eq_ok (f := checkedPlaceConfiguration device t.record.configurationCount.toNat)
    (g := placeConfiguration device) id (fun places =>
      places.length = t.record.configurationCount.toNat)
    (fun places r hlength =>
      ⟨checkedPlaceConfiguration_eq hlength r,
        (length_placeConfiguration device places r).trans hlength⟩)
    t.configurations (c := (List.range t.record.configurationCount.toNat).map fun i =>
      Configuration.empty (i + 1).toUInt8 device) (by simp)
  unfold checkedConfigurations
  simp only [bind_of_ok hplaces]
  exact hfold

end Placement

/-! ## The way up -/

namespace PortPath

variable {κ : Type} {look : κ → Option (UInt8 × Option κ)}

/-- Goes on upwards after `hops` hubs with these ports, that of the lowest hub first. -/
def checkedClimb (look : κ → Option (UInt8 × Option κ)) (hops : ℕ) (ports : List UInt8) :
    Option κ → Checked (List UInt8)
  | none => return ports.reverse
  | some hub =>
    if hops = maxTiers then return ports.reverse
    else
      match _h : add64 hops 1 with
      | .error trap => .error trap
      | .ok hops' =>
        match look hub with
        | none => return ports.reverse
        | some (port, next) =>
          checkedClimb look hops' (if port = 0 then ports else ports ++ [port]) next
termination_by 2 ^ 64 - hops
decreasing_by
  obtain ⟨hroom, hnext⟩ := add64_eq_ok_iff.1 _h
  omega

/-- The ports of the hubs above a device, that of the highest hub first. -/
def checkedUpstream (look : κ → Option (UInt8 × Option κ)) (start : Option κ) :
    Checked (List UInt8) :=
  checkedClimb look 0 [] start

/-- The ports of the hubs above the device of a directory. -/
def checkedOfDir (files : FileTree) (d : DeviceDir) : Checked (Except Error (List UInt8)) :=
  match d.above files with
  | .ok start => do return .ok (← checkedUpstream (lookDir files) start)
  | .error e => return .error e

theorem checkedClimb_eq {hops limit : ℕ} (hlimit : hops + limit = maxTiers) (ports : List UInt8)
    (node : Option κ) :
    checkedClimb look hops ports node =
      .ok (ports ++ (found look limit node).filter fun port => port ≠ 0).reverse := by
  induction limit generalizing hops ports node with
  | zero =>
    cases node with
    | none =>
      rw [checkedClimb, found_none, List.filter_nil, List.append_nil]
      rfl
    | some hub =>
      have hfound : found look 0 (some hub) = [] := rfl
      rw [checkedClimb, if_pos (by omega), hfound, List.filter_nil, List.append_nil]
      rfl
  | succ limit ih =>
    cases node with
    | none =>
      rw [checkedClimb, found_none, List.filter_nil, List.append_nil]
      rfl
    | some hub =>
      have hroom : add64 hops 1 = .ok (hops + 1) := add64_of_lt (by rw [maxTiers] at hlimit; omega)
      rw [checkedClimb, if_neg (by omega)]
      split
      · next trap htrap => rw [hroom] at htrap; cases htrap
      · next hops' hhops =>
        obtain rfl : hops + 1 = hops' := Except.ok.inj (hroom.symm.trans hhops)
        cases hlook : look hub with
        | none =>
          have hfound : found look (limit + 1) (some hub) = [] := by
            rw [found, visits, hlook]
            rfl
          rw [hfound, List.filter_nil, List.append_nil]
          rfl
        | some hop =>
          obtain ⟨port, next⟩ := hop
          rw [found_some hlook, List.filter_cons]
          show checkedClimb look (hops + 1) (if port = 0 then ports else ports ++ [port]) next = _
          rw [ih (by omega)]
          by_cases hport : port = 0
          · simp [hport]
          · simp [hport]

theorem checkedUpstream_eq (look : κ → Option (UInt8 × Option κ)) (start : Option κ) :
    checkedUpstream look start = .ok (upstream look start) := by
  rw [checkedUpstream, checkedClimb_eq (Nat.zero_add maxTiers), List.nil_append, upstream_eq,
    List.filter_reverse]

theorem checkedOfDir_eq (files : FileTree) (d : DeviceDir) :
    checkedOfDir files d = .ok (ofDir files d) := by
  unfold checkedOfDir ofDir
  cases d.above files with
  | error e => rfl
  | ok start => exact bind_of_ok (checkedUpstream_eq _ start) _

end PortPath

end UsbAccess
