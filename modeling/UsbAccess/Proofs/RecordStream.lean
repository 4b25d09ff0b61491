import UsbAccess.Descriptor.Stream
import Mathlib.Data.List.Forall2

/-!
# The grammar of a stream of records

A stream is read item by item. Which bytes are streams is said without a reader: a record is whole
when it is as long as its first byte says and fills the layout of its kind, and a stream is whole
records one after the other.

Results:
* `Record.spells_of_ofBytes?`, `Record.ofBytes?_of_spells`: a record is read exactly from the bytes
  that spell it.
* `Splits.unique`: bytes split into whole records in one way at most.
* `Cursor.items_eq`: the items of a stream, call by call.
* `items_of_longest_split`: the items are the records of the longest part of the bytes that splits,
  and one fault where that is not all of them.
-/

namespace UsbAccess.Descriptor

/-! ## Grammar -/

/-- The bytes of one record: they are as many as the first of them says, and they fill the layout of
the record's kind. -/
def IsWhole : Bytes → Prop
  | length :: kind :: content =>
    length.toNat = content.length + 2 ∧ layoutSize kind ≤ content.length + 2
  | _ => False

/-- The whole records `rs`, one after the other, are `bytes`. -/
structure Splits (rs : List Bytes) (bytes : Bytes) : Prop where
  whole : ∀ r ∈ rs, IsWhole r
  flatten : rs.flatten = bytes

/-- The bytes spell the record. Those beyond the layout of a kind do not matter. -/
inductive Spells : Bytes → Record → Prop
  | device {d : DeviceRecord} (hkind : d.kind = deviceKind) (beyond : Bytes) :
      Spells (d.bytes ++ beyond) (.device d)
  | configuration {c : ConfigurationRecord} (hkind : c.kind = configurationKind) (beyond : Bytes) :
      Spells (c.bytes ++ beyond) (.configuration c)
  | text (length : UInt8) (content : Bytes) : Spells (length :: textKind :: content) (.text content)
  | interface {i : InterfaceRecord} (hkind : i.kind = interfaceKind) (beyond : Bytes) :
      Spells (i.bytes ++ beyond) (.interface i)
  | endpoint {e : EndpointRecord} (hkind : e.kind = endpointKind) (beyond : Bytes) :
      Spells (e.bytes ++ beyond) (.endpoint e)
  | other (length : UInt8) {kind : UInt8} (content : Bytes)
      (hkind : kind ∉ [deviceKind, configurationKind, textKind, interfaceKind, endpointKind]) :
      Spells (length :: kind :: content) (.other kind (length :: kind :: content))

/-- Why no record can be cut off the start of the bytes. -/
inductive Refused : Bytes → Fault → Prop
  | length {length : UInt8} {more : Bytes} (h : length.toNat < 2 ∨ more.length + 1 < length.toNat) :
      Refused (length :: more) (.recordLength length.toNat (more.length + 1))
  | truncated {length kind : UInt8} {more : Bytes} (htwo : 2 ≤ length.toNat)
      (hremaining : length.toNat ≤ more.length + 2) (hlayout : length.toNat < layoutSize kind) :
      Refused (length :: kind :: more) (.truncated kind length.toNat)

/-! ## One record -/

theorem Record.spells_of_ofBytes? {r : Bytes} {record : Record}
    (h : Record.ofBytes? r = some record) :
    Spells r record := by
  unfold Record.ofBytes? at h
  split at h
  · next length kind content =>
    split_ifs at h with hd hc ht hi he
    · obtain ⟨⟨d, beyond⟩, hread, rfl⟩ := Option.map_eq_some_iff.mp h
      have hbytes := DeviceRecord.eq_bytes_append hread
      have hkind : kind = d.kind := (List.cons.inj (List.cons.inj hbytes).2).1
      rw [hbytes]
      exact .device (hkind.symm.trans hd) beyond
    · obtain ⟨⟨c, beyond⟩, hread, rfl⟩ := Option.map_eq_some_iff.mp h
      have hbytes := ConfigurationRecord.eq_bytes_append hread
      have hkind : kind = c.kind := (List.cons.inj (List.cons.inj hbytes).2).1
      rw [hbytes]
      exact .configuration (hkind.symm.trans hc) beyond
    · cases h
      rw [ht]
      exact .text length content
    · obtain ⟨⟨i, beyond⟩, hread, rfl⟩ := Option.map_eq_some_iff.mp h
      have hbytes := InterfaceRecord.eq_bytes_append hread
      have hkind : kind = i.kind := (List.cons.inj (List.cons.inj hbytes).2).1
      rw [hbytes]
      exact .interface (hkind.symm.trans hi) beyond
    · obtain ⟨⟨e, beyond⟩, hread, rfl⟩ := Option.map_eq_some_iff.mp h
      have hbytes := EndpointRecord.eq_bytes_append hread
      have hkind : kind = e.kind := (List.cons.inj (List.cons.inj hbytes).2).1
      rw [hbytes]
      exact .endpoint (hkind.symm.trans he) beyond
    · cases h
      exact .other length content (by simp [hd, hc, ht, hi, he])
  · cases h

theorem Record.ofBytes?_of_spells {r : Bytes} {record : Record} (h : Spells r record) :
    Record.ofBytes? r = some record := by
  cases h with
  | @device d hkind beyond =>
    have hread := DeviceRecord.read?_bytes d beyond
    simp only [DeviceRecord.bytes, List.cons_append] at hread ⊢
    rw [Record.ofBytes?, if_pos hkind, hread]
    rfl
  | @configuration c hkind beyond =>
    have hread := ConfigurationRecord.read?_bytes c beyond
    simp only [ConfigurationRecord.bytes, List.cons_append] at hread ⊢
    rw [Record.ofBytes?, if_neg (by rw [hkind]; decide), if_pos hkind, hread]
    rfl
  | text length content => rfl
  | @interface i hkind beyond =>
    have hread := InterfaceRecord.read?_bytes i beyond
    simp only [InterfaceRecord.bytes, List.cons_append] at hread ⊢
    rw [Record.ofBytes?, if_neg (by rw [hkind]; decide), if_neg (by rw [hkind]; decide),
      if_neg (by rw [hkind]; decide), if_pos hkind, hread]
    rfl
  | @endpoint e hkind beyond =>
    have hread := EndpointRecord.read?_bytes e beyond
    simp only [EndpointRecord.bytes, List.cons_append] at hread ⊢
    rw [Record.ofBytes?, if_neg (by rw [hkind]; decide), if_neg (by rw [hkind]; decide),
      if_neg (by rw [hkind]; decide), if_neg (by rw [hkind]; decide), if_pos hkind, hread]
    rfl
  | other length content hkind =>
    simp only [List.mem_cons, List.not_mem_nil, or_false, not_or] at hkind
    obtain ⟨hd, hc, ht, hi, he⟩ := hkind
    simp only [Record.ofBytes?, if_neg hd, if_neg hc, if_neg ht, if_neg hi, if_neg he]

theorem IsWhole.isRecord {r : Bytes} (h : IsWhole r) :
    ∃ record, Spells r record ∧ IsRecord r record := by
  match r, h with
  | length :: kind :: content, ⟨hlength, hlayout⟩ =>
    cases hrecord : Record.ofBytes? (length :: kind :: content) with
    | none =>
      rw [Record.ofBytes?_eq_none_iff] at hrecord
      omega
    | some record =>
      refine ⟨record, Record.spells_of_ofBytes? hrecord, ⟨length, rfl, hlength, ?_⟩, hrecord⟩
      simp

/-! ## One cut -/

/-- A stream is at its end, or a whole record is cut off its start, or it is refused. -/
theorem Cursor.next_cases (bytes : Bytes) :
    (bytes = [] ∧ (start bytes).next = (none, start bytes)) ∨
    (∃ r rest record, bytes = r ++ rest ∧ IsWhole r ∧ Spells r record ∧
      (start bytes).next = (some (.ok record), start rest)) ∨
    (∃ fault place, Refused bytes fault ∧
      (start bytes).next = (some (.error fault), ⟨place, true⟩)) := by
  cases bytes with
  | nil => exact Or.inl ⟨rfl, rfl⟩
  | cons length more =>
    right
    by_cases hcut : length.toNat < 2 ∨ ((length :: more).take length.toNat).length < length.toNat
    · right
      refine ⟨.recordLength length.toNat (more.length + 1), length :: more, .length ?_, ?_⟩
      · simp only [List.length_take, List.length_cons] at hcut
        omega
      · simp only [start, next, if_pos hcut, List.length_cons]
    · have hsplit : length :: more = (length :: more).take length.toNat ++
          (length :: more).drop length.toNat := (List.take_append_drop _ _).symm
      have htwo : 2 ≤ length.toNat := by omega
      have hremaining : length.toNat ≤ more.length + 1 := by
        simp only [List.length_take, List.length_cons] at hcut
        omega
      cases more with
      | nil => simp at hremaining; omega
      | cons kind more =>
        simp only [List.length_cons] at hremaining
        obtain ⟨n, hn⟩ : ∃ n, length.toNat = n + 2 := ⟨length.toNat - 2, by omega⟩
        have htake : (length :: kind :: more).take length.toNat =
            length :: kind :: more.take n := by
          rw [hn]; rfl
        have hlength : (more.take n).length = n := by
          rw [List.length_take]; omega
        cases hrecord : Record.ofBytes? ((length :: kind :: more).take length.toNat) with
        | none =>
          right
          refine ⟨.truncated kind length.toNat, (length :: kind :: more).drop length.toNat,
            .truncated htwo hremaining ?_, ?_⟩
          · rw [htake, Record.ofBytes?_eq_none_iff, hlength] at hrecord
            omega
          · simp only [start, next, if_neg hcut, hrecord]
            rfl
        | some record =>
          left
          refine ⟨_, _, record, hsplit, ?_, Record.spells_of_ofBytes? hrecord, ?_⟩
          · rw [htake]
            refine ⟨by rw [hlength, hn], ?_⟩
            have hfits : ¬ (more.take n).length + 2 < layoutSize kind := by
              rw [← Record.ofBytes?_eq_none_iff length, ← htake, hrecord]
              simp
            omega
          · simp only [start, next, if_neg hcut, hrecord]

theorem IsWhole.length_eq {length : UInt8} {r : Bytes} (h : IsWhole (length :: r)) :
    length.toNat = r.length + 1 ∧ 2 ≤ length.toNat := by
  cases r with
  | nil => exact absurd h (by simp [IsWhole])
  | cons kind content =>
    have hlength := h.1
    rw [List.length_cons]
    omega

/-- Whole records that begin the same bytes are equal. -/
theorem IsWhole.eq_of_append_eq {r r' rest rest' : Bytes} (h : IsWhole r) (h' : IsWhole r')
    (heq : r ++ rest = r' ++ rest') : r = r' ∧ rest = rest' := by
  cases r with
  | nil => exact absurd h (by simp [IsWhole])
  | cons length r =>
    cases r' with
    | nil => exact absurd h' (by simp [IsWhole])
    | cons length' r' =>
      obtain rfl : length = length' := by simpa using congrArg List.head? heq
      have hlength : r.length = r'.length := by
        have hr := h.length_eq.1
        have hr' := h'.length_eq.1
        omega
      exact List.append_inj heq (by rw [List.length_cons, List.length_cons, hlength])

/-- Bytes that are refused do not begin with a whole record. -/
theorem Refused.not_isWhole {bytes r rest : Bytes} {fault : Fault} (h : Refused bytes fault)
    (heq : bytes = r ++ rest) : ¬ IsWhole r := by
  intro hwhole
  cases r with
  | nil => exact absurd hwhole (by simp [IsWhole])
  | cons b r =>
    have hlength := hwhole.length_eq
    rw [List.cons_append] at heq
    cases h with
    | @length length more h =>
      obtain ⟨rfl, rfl⟩ := List.cons.inj heq
      simp only [List.length_append] at h
      omega
    | @truncated length kind more htwo hremaining hlayout =>
      obtain ⟨rfl, htail⟩ := List.cons.inj heq
      cases r with
      | nil => simp at hlength; omega
      | cons kind' content =>
        obtain ⟨rfl, -⟩ := List.cons.inj htail
        obtain ⟨hsize, hfits⟩ := hwhole
        omega

/-! ## Splitting -/

theorem Splits.unique {rs rs' : List Bytes} {bytes : Bytes} (h : Splits rs bytes)
    (h' : Splits rs' bytes) : rs = rs' := by
  induction rs generalizing rs' bytes with
  | nil =>
    cases rs' with
    | nil => rfl
    | cons r rs' =>
      have hnil := h'.flatten.trans h.flatten.symm
      simp only [List.flatten_cons, List.flatten_nil, List.append_eq_nil_iff] at hnil
      exact absurd (h'.whole r (by simp)) (by simp [hnil.1, IsWhole])
  | cons r rs ih =>
    cases rs' with
    | nil =>
      have hnil := h.flatten.trans h'.flatten.symm
      simp only [List.flatten_cons, List.flatten_nil, List.append_eq_nil_iff] at hnil
      exact absurd (h.whole r (by simp)) (by simp [hnil.1, IsWhole])
    | cons r' rs' =>
      have heq : r ++ rs.flatten = r' ++ rs'.flatten := by
        simpa using h.flatten.trans h'.flatten.symm
      obtain ⟨rfl, hrest⟩ := (h.whole r (by simp)).eq_of_append_eq (h'.whole r' (by simp)) heq
      rw [ih ⟨fun q hq => h.whole q (by simp [hq]), rfl⟩
        ⟨fun q hq => h'.whole q (by simp [hq]), hrest.symm⟩]

/-- What splits at the start of the bytes does not go beyond the place where they are refused. -/
theorem Splits.isPrefix_of_refused {rs : List Bytes} {front rest : Bytes} {fault : Fault}
    (h : Splits rs front) (hrefused : Refused rest fault) {rs' : List Bytes} {front' : Bytes}
    (h' : Splits rs' front') (hstart : front' <+: front ++ rest) : front' <+: front := by
  induction rs' generalizing rs front front' with
  | nil =>
    rw [← h'.flatten]
    exact List.nil_prefix
  | cons r' rs' ih =>
    obtain ⟨beyond, hbeyond⟩ := hstart
    have hwhole' := h'.whole r' (by simp)
    have hfront' : front' = r' ++ rs'.flatten := by simpa using h'.flatten.symm
    rw [hfront', List.append_assoc] at hbeyond
    cases rs with
    | nil =>
      have hfront : front = [] := by simpa using h.flatten.symm
      rw [hfront, List.nil_append] at hbeyond
      exact absurd hwhole' (hrefused.not_isWhole hbeyond.symm)
    | cons r rs =>
      have hfront : front = r ++ rs.flatten := by simpa using h.flatten.symm
      rw [hfront, List.append_assoc] at hbeyond
      obtain ⟨rfl, hrest⟩ := hwhole'.eq_of_append_eq (h.whole r (by simp)) hbeyond
      rw [hfront', hfront, List.prefix_append_right_inj]
      exact ih ⟨fun q hq => h.whole q (by simp [hq]), rfl⟩
        ⟨fun q hq => h'.whole q (by simp [hq]), rfl⟩ ⟨beyond, hrest⟩

/-- The records of a stream are those of a part of the bytes that splits; the stream ends with the
bytes, or with the fault for which what is left is refused. -/
theorem exists_splits_scan (bytes : Bytes) :
    ∃ rs front rest, front ++ rest = bytes ∧ Splits rs front ∧
      List.Forall₂ Spells rs (scan bytes).records ∧
      ((rest = [] ∧ (scan bytes).fault = none) ∨
        ∃ fault, Refused rest fault ∧ (scan bytes).fault = some fault) := by
  induction hlength : bytes.length using Nat.strongRecOn generalizing bytes with
  | ind n ih =>
    rcases Cursor.next_cases bytes with ⟨rfl, hnext⟩ |
      ⟨r, tail, record, rfl, hwhole, hspells, hnext⟩ |
      ⟨fault, place, hrefused, hnext⟩
    · refine ⟨[], [], [], rfl, ⟨by simp, rfl⟩, ?_, Or.inl ⟨rfl, ?_⟩⟩ <;>
        rw [scan, Cursor.scan_of_next_none hnext]
      exact List.Forall₂.nil
    · have hscan : scan (r ++ tail) = ⟨record :: (scan tail).records, (scan tail).fault⟩ :=
        Cursor.scan_of_next_ok hnext
      have hshort : tail.length < n := by
        cases r with
        | nil => exact absurd hwhole (by simp [IsWhole])
        | cons b r => simp only [List.length_append, List.length_cons] at hlength; omega
      obtain ⟨rs, front, rest, rfl, hsplits, hrecords, hend⟩ := ih _ hshort tail rfl
      refine ⟨r :: rs, r ++ front, rest, by simp, ⟨?_, by simp [hsplits.flatten]⟩, ?_, ?_⟩
      · simpa using ⟨hwhole, hsplits.whole⟩
      · rw [hscan]; exact List.Forall₂.cons hspells hrecords
      · rw [hscan]; exact hend
    · have hscan : scan bytes = ⟨[], some fault⟩ := Cursor.scan_of_next_error hnext
      refine ⟨[], [], bytes, rfl, ⟨by simp, rfl⟩, ?_, Or.inr ⟨fault, hrefused, ?_⟩⟩ <;> rw [hscan]
      exact List.Forall₂.nil

/-! ## Items -/

/-- The place behind the first `n` items. -/
def Cursor.skip : Nat → Cursor → Cursor
  | 0, c => c
  | n + 1, c => skip n c.next.2

/-- What is given to who asks for an item for the time `i`, counted from 0. -/
def item (bytes : Bytes) (i : Nat) : Option (Except Fault Record) :=
  ((Cursor.start bytes).skip i).next.1

/-- The items of a stream: its records, and then the fault that ended it. -/
def Scan.items (s : Scan) : List (Except Fault Record) :=
  s.records.map .ok ++ s.fault.toList.map .error

theorem Cursor.next_of_failed {c : Cursor} (h : c.failed = true) : c.next = (none, c) := by
  obtain ⟨rest, failed⟩ := c
  obtain rfl : failed = true := h
  rfl

theorem Cursor.failed_of_next_error {c c' : Cursor} {fault : Fault}
    (h : c.next = (some (.error fault), c')) : c'.failed = true := by
  unfold next at h
  split at h
  · simp at h
  · simp at h
  · split_ifs at h
    · simp only [Prod.mk.injEq] at h
      rw [← h.2]
    · split at h <;> simp only [Prod.mk.injEq, Option.some.injEq, reduceCtorEq, false_and] at h
      rw [← h.2]

theorem Cursor.eq_of_next_none {c c' : Cursor} (h : c.next = (none, c')) : c' = c := by
  unfold next at h
  split at h
  · simpa using h.symm
  · simpa using h.symm
  · split_ifs at h
    · simp at h
    · split at h <;> simp at h

theorem Cursor.items_eq (c : Cursor) (i : ℕ) : (c.skip i).next.1 = c.scan.items[i]? := by
  induction i generalizing c with
  | zero =>
    rw [skip]
    rcases hnext : c.next with ⟨_ | fault | record, c'⟩
    · simp [scan_of_next_none hnext, Scan.items]
    · simp [scan_of_next_error hnext, Scan.items]
    · simp [scan_of_next_ok hnext, Scan.items]
  | succ i ih =>
    rw [skip, ih]
    rcases hnext : c.next with ⟨_ | fault | record, c'⟩
    · obtain rfl := eq_of_next_none hnext
      simp [scan_of_next_none hnext, Scan.items]
    · have hdone := next_of_failed (failed_of_next_error hnext)
      simp [scan_of_next_error hnext, scan_of_next_none hdone, Scan.items]
    · simp [scan_of_next_ok hnext, Scan.items]

theorem item_eq (bytes : Bytes) (i : ℕ) : item bytes i = (scan bytes).items[i]? :=
  (Cursor.start bytes).items_eq i

theorem length_items_le (bytes : Bytes) : (scan bytes).items.length ≤ bytes.length / 2 + 1 := by
  have hrecords := scan_length_le bytes
  have hfault : (scan bytes).fault.toList.length ≤ 1 := by cases (scan bytes).fault <;> simp
  simp only [Scan.items, List.length_append, List.length_map]
  omega

/-- Bytes that split are the records of their stream. -/
theorem Splits.scan_eq {rs : List Bytes} {bytes : Bytes} (h : Splits rs bytes) :
    List.Forall₂ Spells rs (scan bytes).records ∧ (scan bytes).fault = none := by
  obtain ⟨rs', front, rest, rfl, hsplits, hrecords, ⟨rfl, hfault⟩ | ⟨fault, hrefused, -⟩⟩ :=
    exists_splits_scan bytes
  · rw [List.append_nil] at h
    rw [h.unique hsplits]
    exact ⟨hrecords, hfault⟩
  · have hlonger := (hsplits.isPrefix_of_refused hrefused h List.prefix_rfl).length_le
    simp only [List.length_append] at hlonger
    obtain rfl : rest = [] := List.eq_nil_of_length_eq_zero (by omega)
    cases hrefused

theorem item_error_iff (bytes : Bytes) (fault : Fault) :
    (∃ i, item bytes i = some (.error fault)) ↔ (scan bytes).fault = some fault := by
  simp only [item_eq, ← List.mem_iff_getElem?, Scan.items, List.mem_append, List.mem_map,
    Option.mem_toList]
  constructor
  · rintro (⟨_, _, h⟩ | ⟨f, hfault, h⟩)
    · cases h
    · cases h; exact hfault
  · intro h
    exact Or.inr ⟨fault, h, rfl⟩

/-- The items of a stream are the records of the longest part of the bytes that splits into whole
records. Where that is all of them there is no other item; else there is one more, the fault for
which what is left is refused. Bytes split in one way at most, and there is one item at most for
every two bytes, and one more. -/
theorem items_of_longest_split (bytes : Bytes) :
    ((∀ i fault, item bytes i ≠ some (.error fault)) ↔ ∃ rs, Splits rs bytes) ∧
    (∀ rs rs', Splits rs bytes → Splits rs' bytes → rs = rs') ∧
    (∀ rs, Splits rs bytes → ∃ records, List.Forall₂ Spells rs records ∧
      ∀ i, item bytes i = (records.map .ok)[i]?) ∧
    ((¬ ∃ rs, Splits rs bytes) → ∃ rs front rest records fault,
      front ++ rest = bytes ∧ Splits rs front ∧
      (∀ rs' front', Splits rs' front' → front' <+: bytes → front' <+: front) ∧
      List.Forall₂ Spells rs records ∧ Refused rest fault ∧
      ∀ i, item bytes i = (records.map .ok ++ [.error fault])[i]?) ∧
    (∀ i, item bytes i ≠ none → i < bytes.length / 2 + 1) := by
  have hall : ∀ rs, Splits rs bytes → ∃ records, List.Forall₂ Spells rs records ∧
      ∀ i, item bytes i = (records.map .ok)[i]? := by
    intro rs h
    obtain ⟨hrecords, hfault⟩ := h.scan_eq
    exact ⟨_, hrecords, fun i => by simp [item_eq, Scan.items, hfault]⟩
  obtain ⟨rs, front, rest, hbytes, hsplits, hrecords, hend⟩ := exists_splits_scan bytes
  refine ⟨⟨fun hquiet => ?_, fun ⟨rs', h⟩ i fault => ?_⟩, fun _ _ h h' => h.unique h', hall,
    fun hnone => ?_, fun i hitem => ?_⟩
  · rcases hend with ⟨rfl, -⟩ | ⟨fault, -, hfault⟩
    · rw [List.append_nil] at hbytes
      exact ⟨rs, hbytes ▸ hsplits⟩
    · obtain ⟨i, hi⟩ := (item_error_iff bytes fault).mpr hfault
      exact absurd hi (hquiet i fault)
  · intro hi
    have hfault := (item_error_iff bytes fault).mp ⟨i, hi⟩
    rw [h.scan_eq.2] at hfault
    cases hfault
  · rcases hend with ⟨rfl, -⟩ | ⟨fault, hrefused, hfault⟩
    · rw [List.append_nil] at hbytes
      exact absurd ⟨rs, hbytes ▸ hsplits⟩ hnone
    · refine ⟨rs, front, rest, _, fault, hbytes, hsplits, ?_, hrecords, hrefused, ?_⟩
      · intro rs' front' h' hstart
        rw [← hbytes] at hstart
        exact hsplits.isPrefix_of_refused hrefused h' hstart
      · intro i
        simp [item_eq, Scan.items, hfault]
  · have hlength := length_items_le bytes
    by_contra hle
    rw [item_eq] at hitem
    exact hitem (List.getElem?_eq_none (by omega))

/-- A text record splits and is the only item. In front of a record of an interface that is too
short, it is the longest part that splits. -/
theorem items_of_longest_split_text :
    (∃ records, List.Forall₂ Spells [[3, 3, 65]] records ∧
      ∀ i, item [3, 3, 65] i = (records.map .ok)[i]?) ∧
    (∃ rs front rest records fault,
      front ++ rest = [3, 3, 65, 2, 4] ∧ Splits rs front ∧
      (∀ rs' front', Splits rs' front' → front' <+: [3, 3, 65, 2, 4] → front' <+: front) ∧
      List.Forall₂ Spells rs records ∧ Refused rest fault ∧
      ∀ i, item [3, 3, 65, 2, 4] i = (records.map .ok ++ [.error fault])[i]?) := by
  have hsplits : Splits [[3, 3, 65]] [3, 3, 65] := ⟨by simp [IsWhole, layoutSize]; decide, rfl⟩
  have hrefused : item [3, 3, 65, 2, 4] 1 = some (.error (.truncated 4 2)) := by rfl
  refine ⟨(items_of_longest_split [3, 3, 65]).2.2.1 _ hsplits,
    (items_of_longest_split [3, 3, 65, 2, 4]).2.2.2.1 fun hall => ?_⟩
  exact (items_of_longest_split [3, 3, 65, 2, 4]).1.mpr hall 1 _ hrefused

end UsbAccess.Descriptor
