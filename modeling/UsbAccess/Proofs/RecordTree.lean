import UsbAccess.Descriptor.Tree
import UsbAccess.Proofs.RecordStream

/-!
# The tree of a stream of records

A tree is read in preorder: the device, then each configuration with its interfaces, each of these
with its endpoints. A tree made from a stream has, read in this way, the records of the stream that
have a place, and a record's place is in the latest one before it.

Results:
* `preorder_ofList`: what is gathered from a part of a stream, given what stands before that part.
* `AttachedToLatest.of_ofList`: where each record of a stream stands in the tree.
* `DeviceTree.ofBytes?_bytes`: a tree is read back from its bytes.
* `DeviceTree.ofBytes?_congr`: texts and records of other kinds make no difference.
* `tree_of_stream`: which bytes have a tree, and which tree it is.
-/

namespace UsbAccess.Descriptor

/-! ## Preorder -/

/-- An interface setting and its endpoints, in order. -/
def InterfaceTree.preorder (t : InterfaceTree) : List Record :=
  .interface t.record :: t.endpoints.map .endpoint

/-- A configuration and its interface settings, each with what belongs to it. -/
def ConfigurationTree.preorder (t : ConfigurationTree) : List Record :=
  .configuration t.record :: t.interfaces.flatMap InterfaceTree.preorder

/-- A device and its configurations, each with what belongs to it. -/
def DeviceTree.preorder (t : DeviceTree) : List Record :=
  .device t.record :: t.configurations.flatMap ConfigurationTree.preorder

/-! ## Places -/

/-- The record is that of a configuration. -/
def Record.isConfiguration : Record → Bool
  | .configuration _ => true
  | _ => false

/-- The record is that of an interface. -/
def Record.isInterface : Record → Bool
  | .interface _ => true
  | _ => false

/-- The record is that of an endpoint. -/
def Record.isEndpoint : Record → Bool
  | .endpoint _ => true
  | _ => false

/-- Among the records before a place, the latest first, an interface comes since the latest
configuration, and there is one. -/
def interfaceSince : List Record → Bool
  | [] => false
  | .configuration _ :: _ => false
  | .interface _ :: earlier => earlier.any Record.isConfiguration
  | _ :: earlier => interfaceSince earlier

/-- The record has a place in a tree, given the records before it, the latest first. -/
def Record.hasPlace (before : List Record) : Record → Bool
  | .device _ => true
  | .configuration _ => true
  | .interface _ => before.any Record.isConfiguration
  | .endpoint _ => interfaceSince before
  | .text _ => false
  | .other _ _ => false

/-- The records that have a place in a tree, given those before them, the latest first. -/
def placed (before : List Record) : List Record → List Record
  | [] => []
  | r :: rest =>
    if r.hasPlace before then r :: placed (r :: before) rest else placed (r :: before) rest

/-- Each record of a stream that has a place stands in the latest configuration or interface before
it. A record is the one there whose number is that of the records of its kind before it. -/
structure AttachedToLatest (records : List Record) (t : DeviceTree) : Prop where
  configuration {p s : List Record} {c : ConfigurationRecord} :
    records = p ++ .configuration c :: s →
    ∃ ct, t.configurations[p.countP Record.isConfiguration]? = some ct ∧ ct.record = c
  interface {p q s : List Record} {c : ConfigurationRecord} {i : InterfaceRecord} :
    records = p ++ .configuration c :: (q ++ .interface i :: s) →
      q.any Record.isConfiguration = false →
    ∃ ct it, t.configurations[p.countP Record.isConfiguration]? = some ct ∧ ct.record = c ∧
      ct.interfaces[q.countP Record.isInterface]? = some it ∧ it.record = i
  endpoint {p q u s : List Record} {c : ConfigurationRecord} {i : InterfaceRecord}
      {e : EndpointRecord} :
    records = p ++ .configuration c :: (q ++ .interface i :: (u ++ .endpoint e :: s)) →
    q.any Record.isConfiguration = false → u.any Record.isConfiguration = false →
    u.any Record.isInterface = false →
    ∃ ct it, t.configurations[p.countP Record.isConfiguration]? = some ct ∧ ct.record = c ∧
      ct.interfaces[q.countP Record.isInterface]? = some it ∧ it.record = i ∧
      it.endpoints[u.countP Record.isEndpoint]? = some e

/-! ## Gathering -/

namespace Gathered

/-- What is gathered has the records with a place, read in preorder, but for those that what stands
before gives no place to. -/
theorem preorder_ofList {records : List Record} (h : records.any Record.isDevice = false)
    (before : List Record) :
    placed before records =
      (if interfaceSince before then (ofList records empty).endpoints.map .endpoint else []) ++
      (if before.any Record.isConfiguration then
        (ofList records empty).interfaces.flatMap InterfaceTree.preorder else []) ++
      (ofList records empty).configurations.flatMap ConfigurationTree.preorder := by
  induction records generalizing before with
  | nil => simp [placed, ofList, empty]
  | cons r rest ih =>
    rw [List.any_cons, Bool.or_eq_false_iff] at h
    have hrest := ih h.2 (r :: before)
    rw [placed, hrest]
    cases r with
    | device d => exact absurd h.1 (by simp [Record.isDevice])
    | configuration c =>
      simp [Record.hasPlace, interfaceSince, Record.isConfiguration, ofList, Gathered.before,
        ConfigurationTree.preorder]
    | text content => rfl
    | interface i =>
      cases hconf : before.any Record.isConfiguration <;>
        simp [Record.hasPlace, interfaceSince, Record.isConfiguration, ofList, Gathered.before,
          InterfaceTree.preorder, hconf]
    | endpoint e =>
      cases hopen : interfaceSince before <;>
        simp [Record.hasPlace, interfaceSince, Record.isConfiguration, ofList,
          Gathered.before, hopen]
    | other kind bytes => rfl

theorem configurations_ofList (records : List Record) (g : Gathered) :
    ∃ front, (ofList records g).configurations = front ++ g.configurations ∧
      front.length = records.countP Record.isConfiguration := by
  induction records with
  | nil => exact ⟨[], rfl, rfl⟩
  | cons r rest ih =>
    obtain ⟨front, hfront, hlength⟩ := ih
    cases r with
    | configuration c =>
      refine ⟨⟨c, (ofList rest g).interfaces⟩ :: front, ?_, ?_⟩
      · rw [List.cons_append, ← hfront]; rfl
      · rw [List.length_cons, hlength, List.countP_cons_of_pos rfl]
    | _ => exact ⟨front, hfront, by simp [hlength, Record.isConfiguration]⟩

theorem interfaces_ofList {records : List Record} (h : records.any Record.isConfiguration = false)
    (g : Gathered) :
    ∃ front, (ofList records g).interfaces = front ++ g.interfaces ∧
      front.length = records.countP Record.isInterface := by
  induction records with
  | nil => exact ⟨[], rfl, rfl⟩
  | cons r rest ih =>
    rw [List.any_cons, Bool.or_eq_false_iff] at h
    obtain ⟨front, hfront, hlength⟩ := ih h.2
    cases r with
    | configuration c => exact absurd h.1 (by simp [Record.isConfiguration])
    | interface i =>
      refine ⟨⟨i, (ofList rest g).endpoints⟩ :: front, ?_, ?_⟩
      · rw [List.cons_append, ← hfront]; rfl
      · rw [List.length_cons, hlength, List.countP_cons_of_pos rfl]
    | _ => exact ⟨front, hfront, by simp [hlength, Record.isInterface]⟩

theorem endpoints_ofList {records : List Record} (hc : records.any Record.isConfiguration = false)
    (hi : records.any Record.isInterface = false) (g : Gathered) :
    ∃ front, (ofList records g).endpoints = front ++ g.endpoints ∧
      front.length = records.countP Record.isEndpoint := by
  induction records with
  | nil => exact ⟨[], rfl, rfl⟩
  | cons r rest ih =>
    rw [List.any_cons, Bool.or_eq_false_iff] at hc hi
    obtain ⟨front, hfront, hlength⟩ := ih hc.2 hi.2
    cases r with
    | configuration c => exact absurd hc.1 (by simp [Record.isConfiguration])
    | interface i => exact absurd hi.1 (by simp [Record.isInterface])
    | endpoint e =>
      refine ⟨e :: front, ?_, ?_⟩
      · rw [List.cons_append, ← hfront]; rfl
      · rw [List.length_cons, hlength, List.countP_cons_of_pos rfl]
    | _ => exact ⟨front, hfront, by simp [hlength, Record.isEndpoint]⟩

end Gathered

/-- In a list that goes on with `a` behind `front`, `a` has the number of the things in `front`. -/
theorem getElem?_append_cons {α : Type} {l front rest : List α} {a : α} {n : ℕ}
    (h : l = front ++ a :: rest) (hn : front.length = n) : l[n]? = some a := by
  rw [h, ← hn]
  simp

/-- What is gathered from a stream has each record attached to the latest before it. -/
theorem AttachedToLatest.of_ofList {records : List Record} {t : DeviceTree}
    (h : t.configurations = (Gathered.ofList records .empty).configurations) :
    AttachedToLatest records t where
  configuration := by
    rintro p s c rfl
    rw [Gathered.ofList_append] at h
    obtain ⟨front, hfront, hlength⟩ := Gathered.configurations_ofList p _
    exact ⟨_, getElem?_append_cons (h.trans hfront) hlength, rfl⟩
  interface := by
    rintro p q s c i rfl hq
    rw [Gathered.ofList_append] at h
    obtain ⟨front, hfront, hlength⟩ := Gathered.configurations_ofList p _
    obtain ⟨front', hfront', hlength'⟩ :=
      Gathered.interfaces_ofList hq (.ofList (.interface i :: s) .empty)
    rw [← Gathered.ofList_append] at hfront'
    exact ⟨_, _, getElem?_append_cons (h.trans hfront) hlength, rfl,
      getElem?_append_cons hfront' hlength', rfl⟩
  endpoint := by
    rintro p q u s c i e rfl hq hu hui
    rw [Gathered.ofList_append] at h
    obtain ⟨front, hfront, hlength⟩ := Gathered.configurations_ofList p _
    obtain ⟨front', hfront', hlength'⟩ := Gathered.interfaces_ofList hq
      (.ofList (.interface i :: (u ++ .endpoint e :: s)) .empty)
    rw [← Gathered.ofList_append] at hfront'
    obtain ⟨front'', hfront'', hlength''⟩ := Gathered.endpoints_ofList hu hui
      (.ofList (.endpoint e :: s) .empty)
    rw [← Gathered.ofList_append] at hfront''
    exact ⟨_, _, getElem?_append_cons (h.trans hfront) hlength, rfl,
      getElem?_append_cons hfront' hlength', rfl, getElem?_append_cons hfront'' hlength''⟩

/-! ## Streams with a tree -/

theorem Spells.isDevice_iff {r : Bytes} {record : Record} (h : Spells r record) :
    record.isDevice = true ↔ kindOf r = deviceKind := by
  cases h with
  | device hkind beyond => simpa [Record.isDevice, kindOf, DeviceRecord.bytes] using hkind
  | configuration hkind beyond =>
    simp [Record.isDevice, kindOf, ConfigurationRecord.bytes, hkind]; decide
  | text length content => simp [Record.isDevice, kindOf]; decide
  | interface hkind beyond => simp [Record.isDevice, kindOf, InterfaceRecord.bytes, hkind]; decide
  | endpoint hkind beyond => simp [Record.isDevice, kindOf, EndpointRecord.bytes, hkind]; decide
  | other length content hkind =>
    simp only [List.mem_cons, not_or] at hkind
    simp [Record.isDevice, kindOf, hkind.1]

theorem any_isDevice_of_forall₂ {rs : List Bytes} {records : List Record}
    (h : List.Forall₂ Spells rs records) :
    records.any Record.isDevice = false ↔ ∀ q ∈ rs, kindOf q ≠ deviceKind := by
  induction h with
  | nil => simp
  | cons hspells _ ih =>
    rw [List.any_cons, Bool.or_eq_false_iff, ih, List.forall_mem_cons, Ne, ← hspells.isDevice_iff,
      Bool.not_eq_true]

/-- A stream has a tree exactly where its first record is that of a device, no later one is, and no
fault ends it. -/
theorem DeviceTree.ofScan?_eq_ok_iff {s : Scan} {t : DeviceTree} :
    ofScan? s = .ok t ↔ ∃ rest, s.records = .device t.record :: rest ∧
      rest.any Record.isDevice = false ∧ s.fault = none ∧
      t.configurations = (Gathered.ofList rest .empty).configurations := by
  unfold ofScan?
  constructor
  · intro h
    split at h
    · cases h
    · next d rest hrecords =>
      split_ifs at h with hsecond
      split at h
      · cases h
      · next hfault =>
        cases h
        exact ⟨rest, hrecords, by simpa using hsecond, hfault, rfl⟩
    · cases h
  · rintro ⟨rest, hrecords, hsecond, hfault, hconfigurations⟩
    simp only [hrecords, hsecond, hfault, ← hconfigurations]
    rfl

/-- Whole records in front of a stream are its first items. -/
theorem scan_flatten_append {rs : List Bytes} {records : List Record}
    (h : List.Forall₂ IsRecord rs records) (rest : Bytes) :
    scan (rs.flatten ++ rest) = ⟨records ++ (scan rest).records, (scan rest).fault⟩ := by
  induction h with
  | nil => rfl
  | cons hrecord _ ih => rw [List.flatten_cons, List.append_assoc, scan_append hrecord, ih]; rfl

theorem exists_isRecord {rs : List Bytes} (h : ∀ r ∈ rs, IsWhole r) :
    ∃ records, List.Forall₂ IsRecord rs records ∧ List.Forall₂ Spells rs records := by
  induction rs with
  | nil => exact ⟨[], .nil, .nil⟩
  | cons r rs ih =>
    obtain ⟨records, hrecords, hspells⟩ := ih fun q hq => h q (by simp [hq])
    obtain ⟨record, hspell, hrecord⟩ := (h r (by simp)).isRecord
    exact ⟨record :: records, .cons hrecord hrecords, .cons hspell hspells⟩

/-! ## Reading back -/

/-- The bytes of a record. A text record says how long it is. -/
def Record.bytes : Record → Bytes
  | .device d => d.bytes
  | .configuration c => c.bytes
  | .text content => (content.length + 2).toUInt8 :: textKind :: content
  | .interface i => i.bytes
  | .endpoint e => e.bytes
  | .other _ bytes => bytes

/-- The record says of itself how long it is and what its kind is. -/
def Record.IsExact : Record → Prop
  | .device d => d.length = 18 ∧ d.kind = deviceKind
  | .configuration c => c.length = 9 ∧ c.kind = configurationKind
  | .text content => content.length + 2 < 256
  | .interface i => i.length = 9 ∧ i.kind = interfaceKind
  | .endpoint e => e.length = 7 ∧ e.kind = endpointKind
  | .other kind bytes => IsWhole bytes ∧ Spells bytes (.other kind bytes)

/-- The records of a tree say of themselves how long they are and what their kinds are. -/
def DeviceTree.IsExact (t : DeviceTree) : Prop :=
  ∀ r ∈ t.preorder, r.IsExact

/-- The bytes of a tree: those of its records in preorder. -/
def DeviceTree.bytes (t : DeviceTree) : Bytes :=
  t.preorder.flatMap Record.bytes

theorem Record.IsExact.isRecord {r : Record} (h : r.IsExact) : IsRecord r.bytes r := by
  cases r with
  | device d =>
    have hspells := Spells.device h.2 []
    rw [List.append_nil] at hspells
    exact ⟨⟨d.length, rfl, by rw [h.1]; rfl, by simp [Record.bytes, DeviceRecord.bytes]⟩,
      Record.ofBytes?_of_spells hspells⟩
  | configuration c =>
    have hspells := Spells.configuration h.2 []
    rw [List.append_nil] at hspells
    exact ⟨⟨c.length, rfl, by rw [h.1]; rfl, by simp [Record.bytes, ConfigurationRecord.bytes]⟩,
      Record.ofBytes?_of_spells hspells⟩
  | text content =>
    refine ⟨⟨_, rfl, ?_, by simp [Record.bytes]⟩, rfl⟩
    have hlength : content.length + 2 < 256 := h
    simp only [Record.bytes, List.length_cons, Nat.toUInt8, UInt8.toNat_ofNat']
    omega
  | interface i =>
    have hspells := Spells.interface h.2 []
    rw [List.append_nil] at hspells
    exact ⟨⟨i.length, rfl, by rw [h.1]; rfl, by simp [Record.bytes, InterfaceRecord.bytes]⟩,
      Record.ofBytes?_of_spells hspells⟩
  | endpoint e =>
    have hspells := Spells.endpoint h.2 []
    rw [List.append_nil] at hspells
    exact ⟨⟨e.length, rfl, by rw [h.1]; rfl, by simp [Record.bytes, EndpointRecord.bytes]⟩,
      Record.ofBytes?_of_spells hspells⟩
  | other kind bytes =>
    obtain ⟨record, -, hrecord⟩ := h.1.isRecord
    exact ⟨hrecord.1, Record.ofBytes?_of_spells h.2⟩

namespace Gathered

theorem ofList_preorder_interface (t : InterfaceTree) (is : List InterfaceTree)
    (cs : List ConfigurationTree) : ofList t.preorder ⟨[], is, cs⟩ = ⟨[], t :: is, cs⟩ := by
  have hendpoints : ∀ es : List EndpointRecord,
      ofList (es.map .endpoint) ⟨[], is, cs⟩ = ⟨es, is, cs⟩ := by
    intro es
    induction es with
    | nil => rfl
    | cons e es ih => rw [List.map_cons, ofList, List.foldr_cons, ← ofList, ih]; rfl
  rw [InterfaceTree.preorder, ofList, List.foldr_cons, ← ofList, hendpoints]
  rfl

theorem ofList_preorder_configuration (t : ConfigurationTree) (cs : List ConfigurationTree) :
    ofList t.preorder ⟨[], [], cs⟩ = ⟨[], [], t :: cs⟩ := by
  have hinterfaces : ∀ is : List InterfaceTree,
      ofList (is.flatMap InterfaceTree.preorder) ⟨[], [], cs⟩ = ⟨[], is, cs⟩ := by
    intro is
    induction is with
    | nil => rfl
    | cons i is ih => rw [List.flatMap_cons, ofList_append, ih, ofList_preorder_interface]
  rw [ConfigurationTree.preorder, ofList, List.foldr_cons, ← ofList, hinterfaces]
  rfl

theorem ofList_preorder (cs : List ConfigurationTree) :
    ofList (cs.flatMap ConfigurationTree.preorder) empty = ⟨[], [], cs⟩ := by
  induction cs with
  | nil => rfl
  | cons c cs ih => rw [List.flatMap_cons, ofList_append, ih, ofList_preorder_configuration]

end Gathered

theorem InterfaceTree.any_isDevice_preorder (t : InterfaceTree) :
    t.preorder.any Record.isDevice = false := by
  simp [preorder, Record.isDevice]

theorem ConfigurationTree.any_isDevice_preorder (t : ConfigurationTree) :
    t.preorder.any Record.isDevice = false := by
  simp only [preorder, List.any_cons, List.any_flatMap, InterfaceTree.any_isDevice_preorder]
  simp [Record.isDevice]

theorem DeviceTree.ofBytes?_bytes {t : DeviceTree} (h : t.IsExact) : ofBytes? t.bytes = .ok t := by
  have hrecords : List.Forall₂ IsRecord (t.preorder.map Record.bytes) t.preorder := by
    rw [List.forall₂_map_left_iff, List.forall₂_same]
    exact fun r hr => (h r hr).isRecord
  have hscan := scan_flatten_append hrecords []
  rw [List.append_nil, scan_nil, List.append_nil, ← List.flatMap_def] at hscan
  rw [ofBytes?, bytes, hscan, ofScan?_eq_ok_iff]
  refine ⟨_, rfl, ?_, rfl, ?_⟩
  · rw [List.any_flatMap]
    simp [ConfigurationTree.any_isDevice_preorder]
  · rw [Gathered.ofList_preorder]

/-! ## Records without a place in any tree -/

/-- The record describes a part of a device: it is no text, and not of another kind. -/
def Record.isPart : Record → Bool
  | .text _ => false
  | .other _ _ => false
  | _ => true

/-- The bytes of a record that describes a part of a device. -/
def isPart (r : Bytes) : Bool :=
  kindOf r ∈ [deviceKind, configurationKind, interfaceKind, endpointKind]

theorem Spells.isPart_eq {r : Bytes} {record : Record} (h : Spells r record) :
    isPart r = true ↔ record.isPart = true := by
  cases h with
  | device hkind beyond => simp [isPart, Record.isPart, kindOf, DeviceRecord.bytes, hkind]
  | configuration hkind beyond =>
    simp [isPart, Record.isPart, kindOf, ConfigurationRecord.bytes, hkind]
  | text length content => simp [isPart, Record.isPart, kindOf]; decide
  | interface hkind beyond => simp [isPart, Record.isPart, kindOf, InterfaceRecord.bytes, hkind]
  | endpoint hkind beyond => simp [isPart, Record.isPart, kindOf, EndpointRecord.bytes, hkind]
  | other length content hkind =>
    simp only [List.mem_cons, List.not_mem_nil, or_false, not_or] at hkind
    simp [isPart, Record.isPart, kindOf, hkind]

theorem Gathered.ofList_filter (records : List Record) (g : Gathered) :
    ofList (records.filter Record.isPart) g = ofList records g := by
  induction records with
  | nil => rfl
  | cons r rest ih =>
    cases r with
    | text content => rw [List.filter_cons_of_neg (by simp [Record.isPart]), ih]; rfl
    | other kind bytes => rw [List.filter_cons_of_neg (by simp [Record.isPart]), ih]; rfl
    | _ =>
      rw [List.filter_cons_of_pos (by rfl), ofList, List.foldr_cons, ← ofList, ih]
      rfl

theorem any_isDevice_filter (records : List Record) :
    (records.filter Record.isPart).any Record.isDevice = records.any Record.isDevice := by
  rw [List.any_filter]
  congr 1
  funext r
  cases r <;> rfl

/-- The tree of a stream depends on the records that describe parts of the device only. -/
theorem DeviceTree.ofScan?_congr {r : Record} {records records' : List Record}
    {fault : Option Fault} (h : records.filter Record.isPart = records'.filter Record.isPart) :
    ofScan? ⟨r :: records, fault⟩ = ofScan? ⟨r :: records', fault⟩ := by
  cases r with
  | device d =>
    simp only [ofScan?]
    rw [← any_isDevice_filter, ← Gathered.ofList_filter, h, any_isDevice_filter,
      Gathered.ofList_filter]
  | _ => rfl

/-- Texts and records of other kinds behind the first record make no difference. -/
theorem DeviceTree.ofBytes?_congr {r rest : Bytes} {rs rs' : List Bytes} (hfirst : IsWhole r)
    (h : ∀ q ∈ rs, IsWhole q) (h' : ∀ q ∈ rs', IsWhole q)
    (hparts : rs.filter isPart = rs'.filter isPart) :
    ofBytes? (r ++ rs.flatten ++ rest) = ofBytes? (r ++ rs'.flatten ++ rest) := by
  obtain ⟨record, -, hrecord⟩ := hfirst.isRecord
  obtain ⟨records, hrecords, hspells⟩ := exists_isRecord h
  obtain ⟨records', hrecords', hspells'⟩ := exists_isRecord h'
  have hfilter : ∀ rs records, List.Forall₂ Spells rs records →
      List.Forall₂ Spells (rs.filter isPart) (records.filter Record.isPart) :=
    fun _ _ hall => List.rel_filter (R := Spells) (fun _ _ hspell => hspell.isPart_eq) hall
  have hunique : Relator.RightUnique Spells := by
    intro q a b ha hb
    have hread := Record.ofBytes?_of_spells ha
    rw [Record.ofBytes?_of_spells hb] at hread
    exact (Option.some.inj hread).symm
  have hsame : records.filter Record.isPart = records'.filter Record.isPart :=
    hunique.forall₂ (hfilter _ _ hspells) (hparts ▸ hfilter _ _ hspells')
  simp only [ofBytes?, List.append_assoc, scan_append hrecord, scan_flatten_append hrecords,
    scan_flatten_append hrecords']
  exact ofScan?_congr (by rw [List.filter_append, List.filter_append, hsame])

/-! ## Which bytes have a tree -/

theorem Splits.of_fault_eq_none {bytes : Bytes} (h : (scan bytes).fault = none) :
    ∃ rs, Splits rs bytes ∧ List.Forall₂ Spells rs (scan bytes).records := by
  obtain ⟨rs, front, rest, rfl, hsplits, hrecords, ⟨rfl, -⟩ | ⟨fault, -, hfault⟩⟩ :=
    exists_splits_scan bytes
  · rw [List.append_nil] at hrecords ⊢
    exact ⟨rs, hsplits, hrecords⟩
  · rw [h] at hfault
    cases hfault

/-- The tree of a stream, read in preorder, is the stream's records that have a place. -/
theorem DeviceTree.preorder_eq_placed {t : DeviceTree} {rest : List Record}
    (hsecond : rest.any Record.isDevice = false)
    (h : t.configurations = (Gathered.ofList rest .empty).configurations) :
    t.preorder = placed [] (.device t.record :: rest) := by
  have hplaced := Gathered.preorder_ofList hsecond [.device t.record]
  simp only [interfaceSince, List.any_cons, List.any_nil, Record.isConfiguration, ← h] at hplaced
  rw [preorder, placed, hplaced]
  rfl

/-- Bytes have a tree exactly where they split into whole records of which the first is that of a
device and no other is. The tree, read in preorder, has the records that have a place, each attached
to the latest before it. A tree whose records tell their lengths and kinds is read back from its
bytes. Behind the first record, texts and records of other kinds may be put in or left out. -/
theorem tree_of_stream :
    (∀ bytes, (∃ t, DeviceTree.ofBytes? bytes = .ok t) ↔
      ∃ r rest, Splits (r :: rest) bytes ∧ kindOf r = deviceKind ∧ ∀ q ∈ rest,
        kindOf q ≠ deviceKind) ∧
    (∀ bytes t, DeviceTree.ofBytes? bytes = .ok t → ∃ rs records, Splits rs bytes ∧
      List.Forall₂ Spells rs records ∧ t.preorder = placed [] records ∧
      AttachedToLatest records t) ∧
    (∀ t : DeviceTree, t.IsExact → DeviceTree.ofBytes? t.bytes = .ok t) ∧
    (∀ (r : Bytes) (rs rs' : List Bytes) (rest : Bytes), IsWhole r →
      (∀ q ∈ rs, IsWhole q) → (∀ q ∈ rs', IsWhole q) → rs.filter isPart = rs'.filter isPart →
      DeviceTree.ofBytes? (r ++ rs.flatten ++ rest) =
        DeviceTree.ofBytes? (r ++ rs'.flatten ++ rest)) := by
  refine ⟨fun bytes => ⟨?_, ?_⟩, fun bytes t h => ?_, fun t => DeviceTree.ofBytes?_bytes,
    fun r rs rs' rest => DeviceTree.ofBytes?_congr⟩
  · rintro ⟨t, h⟩
    obtain ⟨rest, hrecords, hsecond, hfault, -⟩ := DeviceTree.ofScan?_eq_ok_iff.mp h
    obtain ⟨rs, hsplits, hspells⟩ := Splits.of_fault_eq_none hfault
    rw [hrecords] at hspells
    obtain ⟨r, rs, hfirst, hlater, rfl⟩ := List.forall₂_cons_right_iff.mp hspells
    exact ⟨r, rs, hsplits, hfirst.isDevice_iff.mp rfl, (any_isDevice_of_forall₂ hlater).mp hsecond⟩
  · rintro ⟨r, rs, hsplits, hdevice, hlater⟩
    obtain ⟨hspells, hfault⟩ := hsplits.scan_eq
    obtain ⟨record, records, hfirst, hrest, hrecords⟩ := List.forall₂_cons_left_iff.mp hspells
    cases record with
    | device d =>
      refine ⟨⟨d, (Gathered.ofList records .empty).configurations⟩,
        DeviceTree.ofScan?_eq_ok_iff.mpr ⟨records, hrecords, ?_, hfault, rfl⟩⟩
      exact (any_isDevice_of_forall₂ hrest).mpr hlater
    | _ => exact absurd (hfirst.isDevice_iff.mpr hdevice) (by simp [Record.isDevice])
  · obtain ⟨rest, hrecords, hsecond, hfault, hconfigurations⟩ := DeviceTree.ofScan?_eq_ok_iff.mp h
    obtain ⟨rs, hsplits, hspells⟩ := Splits.of_fault_eq_none hfault
    refine ⟨rs, _, hsplits, hspells, ?_, ?_⟩ <;> rw [hrecords]
    · exact DeviceTree.preorder_eq_placed hsecond hconfigurations
    · exact AttachedToLatest.of_ofList hconfigurations

/-- A device with one configuration, of one interface that has one endpoint. -/
def smallTree : DeviceTree :=
  ⟨⟨18, deviceKind, 0x0200, 0, 0, 0, 64, 0x0483, 0x5740, 0x0100, 1, 2, 3, 1⟩,
    [⟨⟨9, configurationKind, 25, 1, 1, 0, 0xc0, 50⟩,
      [⟨⟨9, interfaceKind, 0, 0, 1, 0xff, 0, 0, 0⟩, [⟨7, endpointKind, 0x81, 2, 64, 0⟩]⟩]⟩]⟩

/-- The small tree is read back, has its records in their places, and stays as it is with a text put
in. -/
theorem tree_of_stream_smallTree :
    DeviceTree.ofBytes? smallTree.bytes = .ok smallTree ∧
    (∃ rs records, Splits rs smallTree.bytes ∧ List.Forall₂ Spells rs records ∧
      smallTree.preorder = placed [] records ∧ AttachedToLatest records smallTree) ∧
    DeviceTree.ofBytes? ((Record.device smallTree.record).bytes ++
      [[3, textKind, 65]].flatten ++ []) =
      DeviceTree.ofBytes? ((Record.device smallTree.record).bytes ++ [].flatten ++ []) := by
  have hexact : smallTree.IsExact := by
    simp [DeviceTree.IsExact, DeviceTree.preorder, ConfigurationTree.preorder,
      InterfaceTree.preorder, smallTree, Record.IsExact]
  have hread := tree_of_stream.2.2.1 smallTree hexact
  refine ⟨hread, tree_of_stream.2.1 _ _ hread, tree_of_stream.2.2.2 _ _ _ _ ?_ ?_ (by simp) ?_⟩
  · exact ⟨by decide, by decide⟩
  · simp only [List.mem_singleton, forall_eq]
    exact ⟨by decide, by decide⟩
  · decide

end UsbAccess.Descriptor
