/-!
# Numerals

How numbers are written and read: decimal and hexadecimal digits filled with zeros up to a width,
and the decimal numerals of one byte.

Results:
* `ofHexBytes?_hexBytes`: bytes written in hexadecimal read back.
* `decimalValue_length`: reading by halves gives the number that reading digit by digit gives.
* `byte?_plus`: a leading plus sign changes nothing.
* `byte?_decimal`: a byte written in decimal, with any number of leading zeros, reads back.
-/

namespace UsbAccess.Text

/-- `cs` with zeros in front, up to `width` places. -/
def zeroFill (width : Nat) (cs : List Char) : List Char :=
  List.replicate (width - cs.length) '0' ++ cs

/-- `n` in decimal, in at least `width` places. -/
def decimal (width n : Nat) : String :=
  String.ofList (zeroFill width (Nat.toDigits 10 n))

/-- `n` in hexadecimal with small letters, in at least `width` places. -/
def hex (width n : Nat) : String :=
  String.ofList (zeroFill width (Nat.toDigits 16 n))

/-- `n` in hexadecimal with capital letters, in at least `width` places. -/
def hexCapital (width n : Nat) : String :=
  String.ofList ((zeroFill width (Nat.toDigits 16 n)).map Char.toUpper)

/-- The bytes as hexadecimal, two places each. -/
def hexBytes (bytes : List UInt8) : String :=
  String.join (bytes.map fun b => hex 2 b.toNat)

/-- The value of a hexadecimal digit. -/
def hexDigit? (c : Char) : Option Nat :=
  if '0' ≤ c ∧ c ≤ '9' then some (c.toNat - 48)
  else if 'a' ≤ c ∧ c ≤ 'f' then some (c.toNat - 87)
  else if 'A' ≤ c ∧ c ≤ 'F' then some (c.toNat - 55)
  else none

/-- The number that one or more hexadecimal digits write. -/
def hexDigits? (cs : List Char) : Option Nat :=
  if cs.isEmpty then none else cs.foldlM (fun n c => (hexDigit? c).map fun d => 16 * n + d) 0

/-- The byte that two hexadecimal digits write. -/
def hexPair? : List Char → Option UInt8
  | [high, low] => (hexDigit? high).bind fun m => (hexDigit? low).map fun n => (16 * m + n).toUInt8
  | _ => none

/-- The bytes that hexadecimal digits write, two for each byte. -/
def ofHexBytes? : List Char → Option (List UInt8)
  | [] => some []
  | high :: low :: rest =>
    (hexPair? [high, low]).bind fun b => (ofHexBytes? rest).map fun bytes => b :: bytes
  | [_] => none

/-- The number that `length` decimal digits write. Many digits are read by halves, so that both
factors of every product are about as long. -/
def decimalValue (length : Nat) (cs : List Char) : Nat :=
  if length ≤ 64 then Nat.ofDigitChars 10 cs 0
  else
    decimalValue (length / 2) (cs.take (length / 2)) * Nat.pow 10 (length - length / 2) +
      decimalValue (length - length / 2) (cs.drop (length / 2))
termination_by length

/-- The number that one or more decimal digits write. -/
def digits? (cs : List Char) : Option Nat :=
  if cs.isEmpty || !cs.all Char.isDigit then none else some (decimalValue cs.length cs)

/-- `cs` without one leading plus sign. -/
def withoutPlus : List Char → List Char
  | '+' :: rest => rest
  | cs => cs

/-- The byte that `cs` writes: an optional plus sign and decimal digits, of value 255 at most. -/
def byte? (cs : List Char) : Option UInt8 :=
  (digits? (withoutPlus cs)).bind fun n => if n < 256 then some n.toUInt8 else none

/-! ## Reading back -/

theorem hexPair?_hex (b : UInt8) : hexPair? (hex 2 b.toNat).toList = some b := by
  have h : ∀ n : Fin 256, hexPair? (hex 2 n.val).toList = some n.val.toUInt8 := by decide +kernel
  simpa using h ⟨b.toNat, b.toNat_lt⟩

theorem ofHexBytes?_append {pair : List Char} {b : UInt8} (h : hexPair? pair = some b)
    (rest : List Char) :
    ofHexBytes? (pair ++ rest) = (ofHexBytes? rest).map fun bytes => b :: bytes := by
  match pair with
  | [high, low] =>
    change (hexPair? [high, low]).bind _ = _
    rw [h]
    rfl
  | [] => simp [hexPair?] at h
  | [_] => simp [hexPair?] at h
  | _ :: _ :: _ :: _ => simp [hexPair?] at h

theorem ofHexBytes?_hexBytes (bytes : List UInt8) :
    ofHexBytes? (hexBytes bytes).toList = some bytes := by
  induction bytes with
  | nil => rfl
  | cons b rest ih =>
    have h : (hexBytes (b :: rest)).toList = (hex 2 b.toNat).toList ++ (hexBytes rest).toList := by
      simp only [hexBytes, List.map_cons, String.join_cons, String.toList_append]
    rw [h, ofHexBytes?_append (hexPair?_hex b), ih]
    rfl

theorem isDigit_of_mem_zeroFill {width n : Nat} {c : Char}
    (h : c ∈ zeroFill width (Nat.toDigits 10 n)) : c.isDigit := by
  rcases List.mem_append.1 h with h | h
  · rw [List.eq_of_mem_replicate h]; rfl
  · exact Nat.isDigit_of_mem_toDigits (by decide) (by decide) h

theorem ofDigitChars_eq_add (cs : List Char) (n : Nat) :
    Nat.ofDigitChars 10 cs n = n * Nat.pow 10 cs.length + Nat.ofDigitChars 10 cs 0 := by
  induction cs generalizing n with
  | nil => simp
  | cons c rest ih =>
    rw [Nat.ofDigitChars_cons, Nat.ofDigitChars_cons, ih, ih (10 * 0 + _), List.length_cons]
    simp only [Nat.pow_eq, Nat.pow_succ]
    grind

theorem decimalValue_length (cs : List Char) :
    decimalValue cs.length cs = Nat.ofDigitChars 10 cs 0 := by
  have h : ∀ length (cs : List Char), cs.length = length →
      decimalValue length cs = Nat.ofDigitChars 10 cs 0 := by
    intro length
    induction length using Nat.strongRecOn with
    | ind length ih =>
      intro cs hlength
      rw [decimalValue]
      split
      · rfl
      · have hfirst := ih (length / 2) (by omega) (cs.take (length / 2)) (by simp; omega)
        have hsecond := ih (length - length / 2) (by omega) (cs.drop (length / 2)) (by simp; omega)
        have hdrop : (cs.drop (length / 2)).length = length - length / 2 := by simp; omega
        rw [hfirst, hsecond, ← hdrop]
        conv => rhs; rw [← List.take_append_drop (length / 2) cs, Nat.ofDigitChars_append,
          ofDigitChars_eq_add (cs.drop _)]
  exact h cs.length cs rfl

theorem digits?_zeroFill (width n : Nat) :
    digits? (zeroFill width (Nat.toDigits 10 n)) = some n := by
  have hall : (zeroFill width (Nat.toDigits 10 n)).all Char.isDigit = true :=
    List.all_eq_true.2 fun _ h => isDigit_of_mem_zeroFill h
  have hne : (zeroFill width (Nat.toDigits 10 n)).isEmpty = false := by
    simp [zeroFill, Nat.toDigits_ne_nil]
  rw [digits?, hall, hne, decimalValue_length]
  simp [zeroFill, Nat.ofDigitChars_append]

theorem withoutPlus_of_head {cs : List Char} (h : cs.head? ≠ some '+') : withoutPlus cs = cs := by
  unfold withoutPlus
  split
  · simp at h
  · rfl

theorem byte?_plus {cs : List Char} (h : cs.head? ≠ some '+') : byte? ('+' :: cs) = byte? cs := by
  rw [byte?, byte?, withoutPlus_of_head h]
  rfl

theorem byte?_decimal (width : Nat) (b : UInt8) :
    byte? (decimal width b.toNat).toList = some b := by
  have hplus : (zeroFill width (Nat.toDigits 10 b.toNat)).head? ≠ some '+' := by
    intro h
    have : ('+' : Char).isDigit := isDigit_of_mem_zeroFill (List.mem_of_head? h)
    exact absurd this (by decide)
  rw [decimal, String.toList_ofList, byte?, withoutPlus_of_head hplus, digits?_zeroFill]
  simpa using b.toNat_lt

end UsbAccess.Text
