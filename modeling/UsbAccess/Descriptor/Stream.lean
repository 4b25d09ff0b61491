import UsbAccess.Descriptor.Fault

/-!
# A stream of records

Bytes are cut into records by the length that each record begins with. The first record that cannot
be cut, or that is shorter than the layout of its kind, ends the stream.

Results:
* `next_append`: a whole record is the next item of a stream that begins with it.
* `scan_append`: a whole record in front of a stream is its first item.
* `scan_length_le`: every record takes two bytes at least.
-/

namespace UsbAccess.Descriptor

/-! ## Item by item -/

/-- The kind of the record at the start of `bytes`. -/
def kindOf (bytes : Bytes) : UInt8 :=
  bytes.tail.headD 0

/-- A place in a stream: the bytes from there on, and whether a fault has ended the stream. -/
structure Cursor where
  rest : Bytes
  failed : Bool
  deriving DecidableEq, Repr

namespace Cursor

/-- The start of a stream. -/
def start (bytes : Bytes) : Cursor := ⟨bytes, false⟩

/-- The next item of a stream, a record or the fault that ends it, and the place behind it. -/
def next (c : Cursor) : Option (Except Fault Record) × Cursor :=
  match c with
  | ⟨_, true⟩ => (none, c)
  | ⟨[], false⟩ => (none, c)
  | ⟨b :: more, false⟩ =>
    if b.toNat < 2 ∨ ((b :: more).take b.toNat).length < b.toNat then
      (some (.error (.recordLength b.toNat (b :: more).length)), ⟨b :: more, true⟩)
    else
      match Record.ofBytes? ((b :: more).take b.toNat) with
      | none =>
        (some (.error (.truncated (kindOf (b :: more)) b.toNat)), ⟨(b :: more).drop b.toNat, true⟩)
      | some record => (some (.ok record), ⟨(b :: more).drop b.toNat, false⟩)

theorem length_next {c c' : Cursor} {record : Record} (h : c.next = (some (.ok record), c')) :
    c'.rest.length + 2 ≤ c.rest.length := by
  unfold next at h
  split at h
  · simp at h
  · simp at h
  · split at h
    · simp at h
    · split at h
      · simp at h
      · simp only [Prod.mk.injEq] at h
        obtain ⟨-, rfl⟩ := h
        simp_all only [List.length_cons, List.length_take, List.length_drop]
        omega

end Cursor

/-! ## All items -/

/-- The records of a stream in their order, and the fault that ended it. -/
structure Scan where
  records : List Record
  fault : Option Fault
  deriving DecidableEq, Repr

/-- The items from a place on. -/
def Cursor.scan (c : Cursor) : Scan :=
  match _h : c.next with
  | (some (.ok record), c') =>
    let rest := c'.scan
    ⟨record :: rest.records, rest.fault⟩
  | (some (.error fault), _) => ⟨[], some fault⟩
  | (none, _) => ⟨[], none⟩
termination_by c.rest.length
decreasing_by have := length_next _h; omega

/-- The records of `bytes`. -/
def scan (bytes : Bytes) : Scan :=
  (Cursor.start bytes).scan

/-! ## Laws -/

theorem Cursor.scan_of_next_ok {c c' : Cursor} {record : Record}
    (h : c.next = (some (.ok record), c')) :
    c.scan = ⟨record :: c'.scan.records, c'.scan.fault⟩ := by
  rw [Cursor.scan]
  split <;> simp_all

theorem Cursor.scan_of_next_error {c c' : Cursor} {fault : Fault}
    (h : c.next = (some (.error fault), c')) : c.scan = ⟨[], some fault⟩ := by
  rw [Cursor.scan]
  split <;> simp_all

theorem Cursor.scan_of_next_none {c c' : Cursor} (h : c.next = (none, c')) :
    c.scan = ⟨[], none⟩ := by
  rw [Cursor.scan]
  split <;> simp_all

/-- `r` begins with its own length and fills the layout of its kind. -/
def IsRecord (r : Bytes) (record : Record) : Prop :=
  (∃ b, r.head? = some b ∧ b.toNat = r.length ∧ 2 ≤ r.length) ∧ Record.ofBytes? r = some record

theorem Cursor.next_append {r : Bytes} {record : Record} (h : IsRecord r record) (rest : Bytes) :
    (start (r ++ rest)).next = (some (.ok record), start rest) := by
  obtain ⟨⟨b, hhead, hlength, htwo⟩, hrecord⟩ := h
  cases r with
  | nil => simp at htwo
  | cons c r =>
    obtain rfl : c = b := by simpa using hhead
    have htake : (c :: (r ++ rest)).take c.toNat = c :: r := by
      rw [hlength]; exact @List.take_left _ (c :: r) rest
    have hdrop : (c :: (r ++ rest)).drop c.toNat = rest := by
      rw [hlength]; exact @List.drop_left _ (c :: r) rest
    have hcut : ¬ (c.toNat < 2 ∨ (c :: r).length < c.toNat) := by omega
    simp only [start, List.cons_append, next, htake, if_neg hcut, hrecord, hdrop]

theorem scan_append {r : Bytes} {record : Record} (h : IsRecord r record) (rest : Bytes) :
    scan (r ++ rest) = ⟨record :: (scan rest).records, (scan rest).fault⟩ :=
  Cursor.scan_of_next_ok (Cursor.next_append h rest)

theorem scan_nil : scan [] = ⟨[], none⟩ :=
  Cursor.scan_of_next_none rfl

theorem Cursor.length_scan_le (c : Cursor) : 2 * c.scan.records.length ≤ c.rest.length := by
  fun_induction Cursor.scan c with
  | case1 c record c' h rest ih =>
    have hlength := length_next h
    change 2 * rest.records.length ≤ _ at ih
    simp only [List.length_cons]
    omega
  | case2 => simp
  | case3 => simp

theorem scan_length_le (bytes : Bytes) : 2 * (scan bytes).records.length ≤ bytes.length :=
  (Cursor.start bytes).length_scan_le

end UsbAccess.Descriptor
