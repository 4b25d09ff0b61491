import UsbAccess.Bytes
import UsbAccess.Errno.Basic
import UsbAccess.Text.Utf16
import UsbAccess.Text.Utf8

/-!
# Texts of devices

How a device hands out its texts: a record with its length and kind, then units of sixteen bits. The
record at index 0 lists the languages instead.

Results:
* `decode_eq_error_iff`: the records that are refused.
-/

namespace UsbAccess.DeviceText

open Text

/-- The kind of a text record. -/
def kind : UInt8 := 3

/-- The language asked for when the device lists none: English of the United States. -/
def defaultLanguage : UInt16 := 0x0409

/-- The first language that the record at index 0 lists. -/
def firstLanguage? : Bytes → Option UInt16
  | length :: k :: low :: high :: _ =>
    if k = kind ∧ 4 ≤ length then some (Bytes.word low high) else none
  | _ => none

/-- The text of a record. Its own length counts where it is below the number of bytes received. -/
def decode : Bytes → Except Errno String
  | length :: k :: rest =>
    if k = kind ∧ 2 ≤ length then
      .ok (String.ofList (Utf16.decode (Utf16.units (rest.take (length.toNat - 2)))))
    else .error .protocol
  | _ => .error .protocol

/-- The name of a driver: the bytes before the first zero. -/
def driverName (raw : Bytes) : String :=
  Utf8.lossy (raw.takeWhile fun b => b ≠ 0)

/-- The record that hands out `units`. -/
def encode (units : List UInt16) : Bytes :=
  (2 + 2 * units.length).toUInt8 :: kind :: units.flatMap fun u => [Bytes.low u, Bytes.high u]

theorem decode_eq_error_iff (bs : Bytes) :
    decode bs = .error .protocol ↔ ∀ length rest, bs = length :: kind :: rest → length < 2 := by
  unfold decode
  split
  · next length k rest =>
    split
    · next h =>
      simp only [reduceCtorEq, List.cons.injEq, false_iff]
      intro hall
      exact absurd (hall length rest ⟨rfl, h.1, rfl⟩) (by simpa using h.2)
    · next h =>
      simp only [true_iff]
      intro l r heq
      obtain ⟨rfl, rfl, rfl⟩ : length = l ∧ k = kind ∧ rest = r := by simpa using heq
      simpa using h
  · next h =>
    simp only [true_iff]
    intro l r heq
    exact absurd heq (h l kind r)

end UsbAccess.DeviceText
