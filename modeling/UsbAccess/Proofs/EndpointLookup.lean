import Mathlib
import UsbAccess.Proofs.ChosenDevices
import UsbAccess.Proofs.Contenders
import UsbAccess.Proofs.Failures
import UsbAccess.Proofs.Layout
import UsbAccess.Proofs.TransferLength

/-!
# Looking endpoints up

An endpoint is looked up by its address in the active configuration, or by a direction in an
interface. Several may have the address or the direction; the first is taken, by the number of the
interface and then by the order of the records. Bit 7 of the address decides twice what may be done
with the endpoint, once when it is taken as one of a direction and once before a transfer, and both
times alike.

Results:
* `Configuration.isFirst_of_find?`: a search through all interfaces ends at the first endpoint.
* `Interface.out?_eq_ok_iff` and `Interface.in?_eq_ok_iff`: what an interface gives for a direction.
* `BulkCall.invalid_iff`: an endpoint of the direction is refused just for its transfer type.
* `Device.Reachable.exists_origin`: the interfaces of a device list what the records list from which
  it was made.
* `Device.endpoints_looked_up`: all together.
-/

namespace UsbAccess

open Descriptor

/-! ## The first endpoint -/

/-- `e` is the first endpoint of the list with a property. -/
def Endpoint.IsFirst (p : Endpoint → Prop) (es : List Endpoint) (e : Endpoint) : Prop :=
  p e ∧ ∃ before after, es = before ++ e :: after ∧ ∀ e' ∈ before, ¬ p e'

/-- `e` is the first endpoint of the configuration with a property: interface `j` lists it, as its
first, and no interface of a lower number lists one. -/
def Configuration.IsFirst (p : Endpoint → Prop) (c : Configuration) (j : ℕ) (e : Endpoint) : Prop :=
  ∃ i, c.interfaces[j]? = some i ∧ Endpoint.IsFirst p i.endpoints e ∧
    ∀ j' < j, ∀ i', c.interfaces[j']? = some i' → ∀ e' ∈ i'.endpoints, ¬ p e'

section IsFirst

variable {p : Endpoint → Prop} {test : Endpoint → Bool} {es : List Endpoint} {e : Endpoint}

theorem Endpoint.IsFirst.mem (h : IsFirst p es e) : e ∈ es := by
  obtain ⟨-, before, after, rfl, -⟩ := h
  simp

theorem Endpoint.find?_eq_some_iff_isFirst (htest : ∀ e, test e = true ↔ p e) :
    es.find? test = some e ↔ IsFirst p es e := by
  simp only [List.find?_eq_some_iff_append, IsFirst, htest, Bool.not_eq_true', ← Bool.not_eq_true]

/-- There is a first endpoint with a property exactly if there is one. -/
theorem Endpoint.exists_isFirst_iff [DecidablePred p] : (∃ e, IsFirst p es e) ↔ ∃ e ∈ es, p e := by
  have htest : ∀ e, decide (p e) = true ↔ p e := fun e => decide_eq_true_iff
  simp only [← find?_eq_some_iff_isFirst htest, ← Option.isSome_iff_exists,
    List.find?_isSome, htest]

/-- A search through the interfaces, one after the other, ends at the first endpoint of the
configuration. -/
theorem Configuration.isFirst_of_find? {c : Configuration} (htest : ∀ e, test e = true ↔ p e)
    (hfind : (c.interfaces.flatMap Interface.endpoints).find? test = some e) :
    ∃ j, c.IsFirst p j e := by
  rw [List.find?_flatMap, List.findSome?_eq_some_iff] at hfind
  obtain ⟨before, i, after, hsplit, hi, hbefore⟩ := hfind
  refine ⟨before.length, i, by simp [hsplit], (Endpoint.find?_eq_some_iff_isFirst htest).1 hi,
    fun j' hj' i' hi' e' he' hp => ?_⟩
  rw [hsplit, List.getElem?_append_left hj'] at hi'
  have hnone := List.find?_eq_none.1 (hbefore i' (List.mem_of_getElem? hi')) e' he'
  exact hnone ((htest e').2 hp)

end IsFirst

/-! ## The direction -/

namespace Endpoint

theorem direction_eq_into_iff {e : Endpoint} :
    e.direction = .into ↔ e.address.toNat.testBit 7 = true := by
  have hmask : e.address &&& Direction.mask = Direction.intoBit ↔
      e.address.toNat.testBit 7 = true := by
    rw [← UInt8.toNat_inj, UInt8.toNat_and_bit e.address (i := 7) rfl]
    cases e.address.toNat.testBit 7 <;> decide
  rw [← hmask, direction, Direction.ofAddress]
  split_ifs with hin <;> simp [hin]

theorem direction_eq_out_iff {e : Endpoint} :
    e.direction = .out ↔ e.address.toNat.testBit 7 = false := by
  rw [← Bool.not_eq_true, ← direction_eq_into_iff]
  cases e.direction <;> decide

theorem toOut?_eq_ok_iff {e : Endpoint} {o : OutEndpoint} : e.toOut? = .ok o ↔ o.endpoint = e := by
  obtain ⟨e', hout⟩ := o
  unfold toOut?
  constructor
  · intro hok
    split_ifs at hok
    cases hok
    rfl
  · rintro rfl
    exact dif_pos hout

theorem toIn?_eq_ok_iff {e : Endpoint} {o : InEndpoint} : e.toIn? = .ok o ↔ o.endpoint = e := by
  obtain ⟨e', hin⟩ := o
  unfold toIn?
  constructor
  · intro hok
    split_ifs at hok
    cases hok
    rfl
  · rintro rfl
    exact dif_pos hin

/-- An endpoint is taken as one to which data goes exactly if the bit is clear. -/
theorem exists_toOut?_iff {e : Endpoint} :
    (∃ o, e.toOut? = .ok o) ↔ e.address.toNat.testBit 7 = false := by
  simp only [toOut?_eq_ok_iff, ← direction_eq_out_iff]
  exact ⟨fun ⟨o, ho⟩ => ho ▸ o.isOut, fun hout => ⟨⟨e, hout⟩, rfl⟩⟩

/-- An endpoint is taken as one from which data comes exactly if the bit is set. -/
theorem exists_toIn?_iff {e : Endpoint} :
    (∃ o, e.toIn? = .ok o) ↔ e.address.toNat.testBit 7 = true := by
  simp only [toIn?_eq_ok_iff, ← direction_eq_into_iff]
  exact ⟨fun ⟨o, ho⟩ => ho ▸ o.isIn, fun hin => ⟨⟨e, hin⟩, rfl⟩⟩

end Endpoint

namespace Interface

theorem first?_eq_some_iff {i : Interface} {direction : Direction} {e : Endpoint} :
    i.first? direction = some e ↔
    Endpoint.IsFirst (fun e => e.direction = direction) i.endpoints e :=
  Endpoint.find?_eq_some_iff_isFirst fun _ => beq_iff_eq

theorem out?_eq_ok_iff {i : Interface} {o : OutEndpoint} :
    i.out? = .ok o ↔
    Endpoint.IsFirst (fun e => e.address.toNat.testBit 7 = false) i.endpoints o.endpoint := by
  simp only [← Endpoint.direction_eq_out_iff, ← first?_eq_some_iff, out?]
  cases i.first? .out with
  | none => simp
  | some e =>
    rw [Option.some.injEq, eq_comm (a := e)]
    exact Endpoint.toOut?_eq_ok_iff

theorem in?_eq_ok_iff {i : Interface} {o : InEndpoint} :
    i.in? = .ok o ↔
    Endpoint.IsFirst (fun e => e.address.toNat.testBit 7 = true) i.endpoints o.endpoint := by
  simp only [← Endpoint.direction_eq_into_iff, ← first?_eq_some_iff, in?]
  cases i.first? .into with
  | none => simp
  | some e =>
    rw [Option.some.injEq, eq_comm (a := e)]
    exact Endpoint.toIn?_eq_ok_iff

theorem exists_out?_iff {i : Interface} :
    (∃ o, i.out? = .ok o) ↔ ∃ e ∈ i.endpoints, e.address.toNat.testBit 7 = false := by
  simp only [out?_eq_ok_iff, ← Endpoint.exists_isFirst_iff]
  exact ⟨fun ⟨o, ho⟩ => ⟨o.endpoint, ho⟩,
    fun ⟨e, he⟩ => ⟨⟨e, Endpoint.direction_eq_out_iff.2 he.1⟩, he⟩⟩

theorem exists_in?_iff {i : Interface} :
    (∃ o, i.in? = .ok o) ↔ ∃ e ∈ i.endpoints, e.address.toNat.testBit 7 = true := by
  simp only [in?_eq_ok_iff, ← Endpoint.exists_isFirst_iff]
  exact ⟨fun ⟨o, ho⟩ => ⟨o.endpoint, ho⟩,
    fun ⟨e, he⟩ => ⟨⟨e, Endpoint.direction_eq_into_iff.2 he.1⟩, he⟩⟩

end Interface

/-! ## The check before a transfer -/

/-- What a caller comes to while it waits is the answer or that the operation was cancelled. -/
theorem Device.await_eq_or {α : Type} (delayed : Bool) (answer : Except Error α) (later : Signal) :
    Device.await delayed answer later = answer ∨
    Device.await delayed answer later = .error .cancelled := by
  unfold await settle
  cases delayed <;> cases later.fired <;> simp

/-- An endpoint of the direction is refused exactly for carrying transfers of another type than
bulk. -/
theorem BulkCall.invalid_iff {d : Device} (hopen : d.isOpen = true) {e : Endpoint} {c : BulkCall}
    (hdirection : e.direction = c.direction) (hquiet : c.before.fired = false) (host : Host)
    (fault : ArgumentFault) :
    (c.run d e host).1 = .error (.invalidArgument fault) ↔
      e.transferType ≠ TransferType.bulk ∧ fault = .notBulk e.address e.transferType := by
  obtain ⟨h, hhandle⟩ := d.isOpen_iff.1 hopen
  by_cases hbulk : e.transferType = TransferType.bulk
  · have hfitting : d.bulkHandle e c.direction = .ok h :=
      Device.bulkHandle_of_fitting hhandle hdirection (beq_iff_eq.2 hbulk)
    have hnever : (c.run d e host).1 ≠ .error (.invalidArgument fault) := by
      rw [BulkCall.run_of_quiet hfitting hquiet]
      intro hinvalid
      obtain hanswer | hcancelled := Device.await_eq_or (host.delays h (c.request e.address))
        (c.result e.address (Host.ask h (c.request e.address) host).1) c.later
      · obtain ⟨errno, herror⟩ := error_of_result (hanswer.symm.trans hinvalid)
        cases herror
      · cases hcancelled.symm.trans hinvalid
    simp [hnever, hbulk]
  · have hrefused : d.bulkHandle e c.direction =
        .error (.invalidArgument (.notBulk e.address e.transferType)) := by
      simp [Device.bulkHandle, hhandle, hdirection, Endpoint.isBulk, hbulk]
    rw [c.run_eq, hquiet, if_neg Bool.false_ne_true, hrefused]
    simp [hbulk, eq_comm]

/-! ## What the interfaces list -/

namespace Device

/-- Each interface lists the endpoints that it lists in the other device. -/
def ListsAs (d d₀ : Device) : Prop :=
  ∀ k j, (d.slot? k j).map Interface.endpoints = (d₀.slot? k j).map Interface.endpoints

theorem ListsAs.of_configurations {d d₀ : Device} (h : d.configurations = d₀.configurations) :
    d.ListsAs d₀ :=
  fun k j => by rw [slot?_of_configurations h]

theorem ListsAs.trans {d d' d'' : Device} (h : d.ListsAs d') (h' : d'.ListsAs d'') :
    d.ListsAs d'' :=
  fun k j => (h k j).trans (h' k j)

/-- Every operation leaves each interface with its endpoints. -/
theorem listsAs_perform (d : Device) (op : Operation) :
    Always (fun o => o.2.ListsAs d) (op.perform d) := by
  intro s k j
  rw [slot?_perform d op k j s, Option.map_map]
  rfl

/-- An interface that lists endpoints was filled from a record, and lists what this record lists. -/
theorem MadeFrom.exists_fills {tree : DeviceTree} {d : Device} (h : d.MadeFrom tree) {k j : ℕ}
    {i : Interface} (hslot : d.slot? k j = some i) (hsome : i.endpoints ≠ []) :
    ∃ t r, Fills tree k j t r ∧ i.endpoints = Interface.listed r := by
  have hplace := h.inPlace
  obtain ⟨c, hc, hi⟩ := Option.bind_eq_some_iff.1 hslot
  have hk : k < tree.record.configurationCount.toNat := by
    rw [← hplace.length]
    exact (List.getElem?_eq_some_iff.1 hc).1
  have hlength := (hplace.configurations k c hc).length
  have hj : j < c.interfaces.length := (List.getElem?_eq_some_iff.1 hi).1
  cases hlast : tree.atValue? (k + 1) with
  | none => simp [hlast, hlength] at hj
  | some t =>
    have hnumber : j < t.record.interfaceCount.toNat := by simpa [hlast, hlength] using hj
    rw [h.slot?_of_record hk hlast hnumber, Option.some.injEq] at hslot
    subst hslot
    cases hfirst : t.atNumber? j with
    | none => exact absurd (by rw [hfirst]; rfl) hsome
    | some r => exact ⟨t, r, ⟨hk, hlast, hnumber, hfirst⟩, rfl⟩

/-- A device that a registry gives was listed before, and only what is held of it has changed since.
-/
theorem exists_origin_of_mem_openDevices {k : ℕ} {r : Registry} {s : Session}
    (hr : s.registries[k]? = some r) {γ : Type} {choose : γ → Device → Bool × γ} {start : γ}
    {d : Device}
    (hd : d ∈ (Inventory.openDevices k r.settings choose start s).1.devices) :
    ∃ tree d₀, d₀.ComesFrom tree ∧ d.ListsAs d₀ ∧ d.InPlace tree := by
  obtain ⟨d₀, hlisted, h, token, -, rfl⟩ := Inventory.exists_openedFor_of_mem_openDevices hr hd
  obtain ⟨address, path, tree, -, -, hcomes⟩ := comesFrom_of_mem_list hlisted
  exact ⟨tree, d₀, hcomes, .of_configurations rfl,
    ⟨hcomes.inPlace.length, hcomes.inPlace.configurations⟩⟩

/-- Every device that a program can have goes back to one that comes from records: its parts are in
their places, and its interfaces list what they listed there. -/
theorem Reachable.exists_origin {d : Device} (hd : d.Reachable) :
    ∃ tree d₀, d₀.ComesFrom tree ∧ d.ListsAs d₀ ∧ d.InPlace tree := by
  induction hd with
  | @comes tree d hd => exact ⟨tree, d, hd, fun _ _ => rfl, hd.inPlace⟩
  | given hr hd => exact exists_origin_of_mem_openDevices hr hd
  | first hr hd =>
    exact exists_origin_of_mem_openDevices hr (Inventory.mem_openDevices_of_openFirst hr hd)
  | perform op s _ ih =>
    obtain ⟨tree, d₀, hcomes, hlists, hplace⟩ := ih
    exact ⟨tree, d₀, hcomes, (listsAs_perform _ op s).trans hlists, hplace.perform op s⟩

/-! ## Endpoints by their address -/

variable {d : Device} {c : Configuration} {a : UInt8} {e : Endpoint}

/-- An address is found exactly if an endpoint of the active configuration has it. -/
theorem exists_endpoint_iff (hc : d.activeConfiguration? = some c) :
    (∃ e, d.endpoint a = .ok e) ↔ ∃ i ∈ c.interfaces, ∃ e ∈ i.endpoints, e.address = a := by
  have hlisted : (∃ i ∈ c.interfaces, ∃ e ∈ i.endpoints, e.address = a) ↔
      ((c.interfaces.flatMap Interface.endpoints).find? fun e => e.address == a).isSome = true := by
    simp only [List.find?_isSome, List.mem_flatMap, beq_iff_eq]
    exact ⟨fun ⟨i, hi, e, he, ha⟩ => ⟨e, ⟨i, hi, he⟩, ha⟩,
      fun ⟨e, ⟨i, hi, he⟩, ha⟩ => ⟨i, hi, e, he, ha⟩⟩
  simp only [hlisted, endpoint, hc]
  generalize (c.interfaces.flatMap Interface.endpoints).find? (fun e => e.address == a) = found
  cases found <;> simp

/-- What is found by an address is the first endpoint that has it. -/
theorem isFirst_of_endpoint (hc : d.activeConfiguration? = some c) (hok : d.endpoint a = .ok e) :
    ∃ j, c.IsFirst (fun e => e.address = a) j e := by
  simp only [endpoint, hc] at hok
  cases hfind : (c.interfaces.flatMap Interface.endpoints).find? fun e => e.address == a with
  | none => simp [hfind] at hok
  | some e' =>
    rw [hfind] at hok
    cases hok
    exact Configuration.isFirst_of_find? (fun e => beq_iff_eq) hfind

/-- The endpoint `e` is the right one for the address `a` of the configuration: it is the first of
this address by the number of its interface and by its place there, the interface is found by the
number that the endpoint names, and the endpoints of the interface stand in the order of the records
in the record that filled it. -/
structure Finds (tree : DeviceTree) (d : Device) (c : Configuration) (a : UInt8)
    (e : Endpoint) : Prop where
  first : c.IsFirst (fun e => e.address = a) e.interface.toNat e
  interface : ∃ i, d.interface e.interface = .ok i ∧ e ∈ i.endpoints ∧
    ∃ k t r, d.active = some k ∧ Fills tree k e.interface.toNat t r ∧
      i.endpoints = Interface.listed r

theorem finds_of_endpoint {tree : DeviceTree} {d₀ : Device} (hcomes : d₀.ComesFrom tree)
    (hlists : d.ListsAs d₀) (hplace : d.InPlace tree) (hc : d.activeConfiguration? = some c)
    (hok : d.endpoint a = .ok e) :
    d.Finds tree c a e := by
  obtain ⟨k, hactive, hck⟩ := Option.bind_eq_some_iff.1 hc
  obtain ⟨j, hfirst⟩ := isFirst_of_endpoint hc hok
  obtain ⟨i, hi, hfound, -⟩ := id hfirst
  obtain rfl : e.interface.toNat = j :=
    (((hplace.configurations k c hck).interfaces j i hi).endpoints e hfound.mem).1
  have hslot : d.slot? k e.interface.toNat = some i := Option.bind_eq_some_iff.2 ⟨c, hck, hi⟩
  -- The endpoints are those that the interface listed when the device was put together.
  have hsame := hlists k e.interface.toNat
  rw [hslot, Option.map_some] at hsame
  obtain ⟨i₀, hslot₀, hendpoints⟩ := Option.map_eq_some_iff.1 hsame.symm
  have hsome : i₀.endpoints ≠ [] := hendpoints ▸ List.ne_nil_of_mem hfound.mem
  obtain ⟨t, r, hfills, hrecords⟩ := hcomes.made.exists_fills hslot₀ hsome
  exact ⟨hfirst, i, interface_of_slot? hactive hslot, hfound.mem, k, t, r, hactive, hfills,
    hendpoints.symm.trans hrecords⟩

/-- Of every device that a program can have, an address of the active configuration is looked up to
the first endpoint that has it, and the interface that this endpoint names lists it. Of every
interface, a direction is looked up to the first endpoint whose address has bit 7 clear, for data
that goes out, or set. To take an endpoint as one of a direction is to look at the same bit, and
leaves the endpoint as it is. And an open device refuses such an endpoint exactly if it carries
transfers of another type than bulk, and for this only. -/
theorem endpoints_looked_up {d : Device} (hd : d.Reachable) {c : Configuration}
    (hc : d.activeConfiguration? = some c) :
    (∀ a, (∃ e, d.endpoint a = .ok e) ↔ ∃ i ∈ c.interfaces, ∃ e ∈ i.endpoints, e.address = a) ∧
    (∃ tree d₀, d₀.ComesFrom tree ∧ d.ListsAs d₀ ∧ ∀ a e, d.endpoint a = .ok e →
      d.Finds tree c a e) ∧
    (∀ i : Interface,
      ((∃ o, i.out? = .ok o) ↔ ∃ e ∈ i.endpoints, e.address.toNat.testBit 7 = false) ∧
      (∀ o, i.out? = .ok o →
        Endpoint.IsFirst (fun e => e.address.toNat.testBit 7 = false) i.endpoints o.endpoint) ∧
      ((∃ o, i.in? = .ok o) ↔ ∃ e ∈ i.endpoints, e.address.toNat.testBit 7 = true) ∧
      ∀ o, i.in? = .ok o →
        Endpoint.IsFirst (fun e => e.address.toNat.testBit 7 = true) i.endpoints o.endpoint) ∧
    (∀ e : Endpoint,
      ((∃ o, e.toOut? = .ok o) ↔ e.address.toNat.testBit 7 = false) ∧
      (∀ o, e.toOut? = .ok o → o.endpoint = e) ∧
      ((∃ o, e.toIn? = .ok o) ↔ e.address.toNat.testBit 7 = true) ∧ ∀ o, e.toIn? = .ok o →
        o.endpoint = e) ∧
    ∀ opened : Device, opened.isOpen = true → ∀ (timeout : UInt32) (host : Host)
      (fault : ArgumentFault),
      (∀ (o : OutEndpoint) (data : Bytes),
        (opened.send o.endpoint data timeout host).1 = .error (.invalidArgument fault) ↔
          o.endpoint.transferType ≠ TransferType.bulk ∧
          fault = .notBulk o.endpoint.address o.endpoint.transferType) ∧
      ∀ (o : InEndpoint) (buffer : Bytes),
        (opened.receive o.endpoint buffer timeout host).1 = .error (.invalidArgument fault) ↔
          o.endpoint.transferType ≠ TransferType.bulk ∧
            fault = .notBulk o.endpoint.address o.endpoint.transferType := by
  refine ⟨fun a => exists_endpoint_iff hc, ?_, fun i => ?_, fun e => ?_,
    fun opened hopen timeout host fault => ?_⟩
  · obtain ⟨tree, d₀, hcomes, hlists, hplace⟩ := hd.exists_origin
    exact ⟨tree, d₀, hcomes, hlists, fun a e hok => finds_of_endpoint hcomes hlists hplace hc hok⟩
  · exact ⟨i.exists_out?_iff, fun o => i.out?_eq_ok_iff.1, i.exists_in?_iff,
      fun o => i.in?_eq_ok_iff.1⟩
  · exact ⟨e.exists_toOut?_iff, fun o => e.toOut?_eq_ok_iff.1, e.exists_toIn?_iff,
      fun o => e.toIn?_eq_ok_iff.1⟩
  · exact ⟨
      fun o data =>
        BulkCall.invalid_iff (c := .send data timeout) hopen o.isOut rfl host fault,
      fun o buffer =>
        BulkCall.invalid_iff (c := .receive buffer timeout) hopen o.isIn rfl host fault⟩

end Device

/-! ## An address that two interfaces list -/

/-- Interface 0 has an interrupt endpoint. -/
def polledTree : InterfaceTree :=
  ⟨⟨9, interfaceKind, 0, 0, 1, 0xff, 0, 0, 0⟩, [⟨7, endpointKind, 0x81, 3, 8, 10⟩]⟩

/-- Interface 1 has bulk endpoints, one of them with the same address. -/
def streamedTree : InterfaceTree :=
  ⟨⟨9, interfaceKind, 1, 0, 2, 0xff, 0, 0, 0⟩,
    [⟨7, endpointKind, 0x02, 2, 64, 0⟩, ⟨7, endpointKind, 0x81, 2, 64, 0⟩]⟩

/-- The records of a device with these interfaces, the one with the higher number first. -/
def doubledTree : DeviceTree :=
  ⟨smallTree.record, [⟨⟨9, configurationKind, 55, 2, 1, 0, 0xc0, 50⟩, [streamedTree, polledTree]⟩]⟩

/-- The device of these records, put together without files. -/
def doubledMade : Device := (smallSurroundings.make doubledTree).device

/-- The device when it is open. -/
def doubledOpened : Device := { doubledMade with handle := some smallHandle }

theorem comesFrom_doubledMade : doubledMade.ComesFrom doubledTree := .assembled ..

theorem slot?_doubledMade : doubledMade.slot? 0 0 = some (.ofTree polledTree doubledMade.address) :=
  comesFrom_doubledMade.made.slot?_of_fills (t := ⟨⟨9, configurationKind, 55, 2, 1, 0, 0xc0, 50⟩,
    [streamedTree, polledTree]⟩) ⟨by decide, by decide, by decide, by decide⟩

/-- Its one configuration is active, and interface 0 is as its record says, though that comes last.
-/
theorem active_doubledMade :
    ∃ c, doubledMade.activeConfiguration? = some c ∧
      c.interfaces[0]? = some (.ofTree polledTree doubledMade.address) := by
  obtain ⟨c, hc, hi⟩ := Option.bind_eq_some_iff.1 slot?_doubledMade
  exact ⟨c, Option.bind_eq_some_iff.2 ⟨0, comesFrom_doubledMade.made.active_of_single rfl, hc⟩, hi⟩

/-- The address 0x81 is found in interface 0. It can be taken as one from which data comes, and a
bulk transfer is then refused for the type of the endpoint. -/
theorem endpoints_looked_up_doubledMade :
    ∃ (e : Endpoint) (o : InEndpoint), doubledMade.endpoint 0x81 = .ok e ∧ e.interface = 0 ∧
      e.toIn? = .ok o ∧
      (doubledOpened.receive o.endpoint [0, 0] 100 (smallOpenedSession grantingKernel).host).1 =
        .error (.invalidArgument (.notBulk 0x81 3)) := by
  obtain ⟨c, hc, hzero⟩ := active_doubledMade
  obtain ⟨hfound, ⟨tree, d₀, -, -, hfinds⟩, -, htaken, hrefused⟩ :=
    Device.endpoints_looked_up (.comes comesFrom_doubledMade) hc
  obtain ⟨e, hok⟩ :=
    (hfound 0x81).2 ⟨_, List.mem_of_getElem? hzero, _, List.mem_singleton_self _, rfl⟩
  obtain ⟨i, hi, hfirst, hbefore⟩ := (hfinds 0x81 e hok).first
  have hnumber : e.interface.toNat = 0 := by
    by_contra hlater
    exact hbefore 0 (Nat.pos_of_ne_zero hlater) _ hzero _ (List.mem_singleton_self _) rfl
  rw [hnumber, hzero, Option.some.injEq] at hi
  subst hi
  have he := List.mem_singleton.1 hfirst.mem
  obtain ⟨o, ho⟩ := (htaken e).2.2.1.2 (he ▸ by decide)
  obtain rfl : o.endpoint = e := (htaken e).2.2.2 o ho
  refine ⟨_, o, hok, UInt8.toNat_inj.1 hnumber, ho, ?_⟩
  obtain ⟨-, hreceive⟩ :=
    hrefused doubledOpened rfl 100 (smallOpenedSession grantingKernel).host (.notBulk 0x81 3)
  exact (hreceive o [0, 0]).2 (he ▸ by decide)

end UsbAccess
