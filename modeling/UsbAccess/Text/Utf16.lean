import UsbAccess.Bytes

/-!
# UTF-16

Text in units of sixteen bits, as devices hand it out, with the low byte of a unit first. A
surrogate without its partner decodes to one replacement character.
-/

namespace UsbAccess.Text.Utf16

/-- The character that stands for half a pair, U+FFFD. -/
def replacement : Char := Char.ofNat 0xfffd

/-- The whole units in `bs`; an odd byte at the end is left over. -/
def units : Bytes → List UInt16
  | low :: high :: rest => Bytes.word low high :: units rest
  | _ => []

/-- `u` is the first half of a pair. -/
def isHigh (u : UInt16) : Bool :=
  0xd800 ≤ u && u ≤ 0xdbff

/-- `u` is the second half of a pair. -/
def isLow (u : UInt16) : Bool :=
  0xdc00 ≤ u && u ≤ 0xdfff

/-- The character of the pair `high`, `low`. -/
def pair (high low : UInt16) : Char :=
  Char.ofNat (0x10000 + (high.toNat - 0xd800) * 0x400 + (low.toNat - 0xdc00))

/-- The character of a unit that is not part of a pair. -/
def single (u : UInt16) : Char :=
  if isHigh u || isLow u then replacement else Char.ofNat u.toNat

/-- The characters that the units write. -/
def decode : List UInt16 → List Char
  | [] => []
  | [u] => [single u]
  | u :: v :: rest =>
    if isHigh u && isLow v then pair u v :: decode rest else single u :: decode (v :: rest)

/-- The units of one character. -/
def encodeChar (c : Char) : List UInt16 :=
  if c.toNat < 0x10000 then [c.toNat.toUInt16]
  else
    [(0xd800 + (c.toNat - 0x10000) / 0x400).toUInt16,
      (0xdc00 + (c.toNat - 0x10000) % 0x400).toUInt16]

/-- The units of a text. -/
def encode (cs : List Char) : List UInt16 :=
  cs.flatMap encodeChar

end UsbAccess.Text.Utf16
