import UsbAccess.Text.Hidden
import UsbAccess.Text.Numeral
import UsbAccess.Text.Utf8

/-!
# Quoted text

A text between double quotes in which nothing is invisible: tabs, line ends, the zero character,
backslashes and quotes have escapes of two characters, and every other character that does not show
by itself is written by its code point in hexadecimal, in braces after a backslash and the letter u.
Bytes that are no text are written each in hexadecimal after a backslash and the letter x.

Results:
* `quotedBytes_bytes`: the bytes of a text are quoted as that text.
-/

namespace UsbAccess.Text

/-- One character inside quotes. -/
def quotedChar (c : Char) : List Char :=
  if c = Char.ofNat 0 then ['\\', '0']
  else if c = '\t' then ['\\', 't']
  else if c = '\r' then ['\\', 'r']
  else if c = '\n' then ['\\', 'n']
  else if c = '\\' then ['\\', '\\']
  else if c = '"' then ['\\', '"']
  else if c.toNat < 0x20 || c.toNat = 0x7f || isHidden c then
    ['\\', 'u', '\x7b'] ++ Nat.toDigits 16 c.toNat ++ ['\x7d']
  else [c]

/-- `s` in quotes. -/
def quoted (s : String) : String :=
  String.ofList ('"' :: s.toList.flatMap quotedChar ++ ['"'])

/-- One piece of bytes inside quotes. -/
def quotedPiece : Utf8.Piece → List Char
  | .char c => quotedChar c
  | .malformed bytes => bytes.flatMap fun b => '\\' :: 'x' :: (hexCapital 2 b.toNat).toList

/-- `bytes` in quotes. -/
def quotedBytes (bytes : List UInt8) : String :=
  String.ofList ('"' :: (Utf8.pieces bytes).flatMap quotedPiece ++ ['"'])

theorem quotedBytes_bytes (s : String) : quotedBytes (Utf8.bytes s) = quoted s := by
  rw [quotedBytes, Utf8.pieces_bytes, List.flatMap_map]
  rfl

end UsbAccess.Text
