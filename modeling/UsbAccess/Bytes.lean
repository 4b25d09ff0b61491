/-!
# Bytes

Numbers of two and four bytes with the low byte first, and buffers that are written from their
start.

Results:
* `word_low_high`: a 16 bit number is its two bytes.
* `length_overwrite`: writing into a buffer keeps its length.
* `take_overwrite_zeros`: what is taken from a buffer of zeros needs no more room than what is
  taken.
-/

namespace UsbAccess

/-- A sequence of bytes. -/
abbrev Bytes := List UInt8

namespace Bytes

/-- The number whose low byte is `low` and whose high byte is `high`. -/
def word (low high : UInt8) : UInt16 :=
  low.toUInt16 + 256 * high.toUInt16

/-- The low byte of `w`. -/
def low (w : UInt16) : UInt8 := w.toUInt8

/-- The high byte of `w`. -/
def high (w : UInt16) : UInt8 := (w / 256).toUInt8

/-- `buffer` after `data` has been written to its start, as much of it as there is room for. -/
def overwrite (buffer data : Bytes) : Bytes :=
  data.take buffer.length ++ buffer.drop data.length

/-- The first `count` bytes of a buffer of `length` zeros after `data` has been written to its
start. -/
def received (length : Nat) (data : Bytes) (count : Nat) : Bytes :=
  let count := min count length
  data.take count ++ List.replicate (count - data.length) 0

theorem toNat_word (a b : UInt8) : (word a b).toNat = a.toNat + 256 * b.toNat := by
  have := a.toNat_lt
  have := b.toNat_lt
  simp only [word, UInt16.toNat_add, UInt16.toNat_mul, UInt8.toNat_toUInt16, UInt16.reduceToNat]
  omega

theorem word_low_high (w : UInt16) : word (low w) (high w) = w := by
  have := w.toNat_lt
  apply UInt16.toNat_inj.1
  rw [toNat_word]
  simp only [low, high, UInt16.toNat_toUInt8, UInt16.toNat_div, UInt16.reduceToNat]
  omega

theorem low_word (a b : UInt8) : low (word a b) = a := by
  have := a.toNat_lt
  apply UInt8.toNat_inj.1
  rw [low, UInt16.toNat_toUInt8, toNat_word]
  omega

theorem high_word (a b : UInt8) : high (word a b) = b := by
  have := a.toNat_lt
  have := b.toNat_lt
  apply UInt8.toNat_inj.1
  rw [high, UInt16.toNat_toUInt8, UInt16.toNat_div, toNat_word]
  simp only [UInt16.reduceToNat]
  omega

theorem length_overwrite (buffer data : Bytes) :
    (overwrite buffer data).length = buffer.length := by
  simp only [overwrite, List.length_append, List.length_take, List.length_drop]
  omega

theorem take_overwrite_zeros (length : Nat) (data : Bytes) (count : Nat) :
    (overwrite (List.replicate length 0) data).take count = received length data count := by
  rw [overwrite, received, List.take_append, List.take_take, List.length_replicate,
    List.drop_replicate, List.take_replicate, List.length_take]
  congr 2
  omega

end Bytes

end UsbAccess
