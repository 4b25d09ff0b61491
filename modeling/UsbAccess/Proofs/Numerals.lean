import Mathlib
import UsbAccess.Proofs.Locations
import UsbAccess.Proofs.Survey

/-!
# Names that are numerals

Buses and nodes go by names that stand for numbers: decimal digits, any zeros before them, and one
plus sign at most. The names are bytes and are read as text, with a replacement for whatever is
malformed; a numeral has nothing of the kind, so that its bytes are those of its text.

Results:
* `Text.Utf8.bytes_lossy`: bytes that are shown as plain characters are those of what is shown.
* `Text.mem_of_byte?`: what a numeral of a byte is made of.
* `Inventory.mem_of_number?`: what the bytes of a name are that stands for a number.
* `Inventory.isName_of_number?`: such a name leads to where it stands.
* `Inventory.number?_usualName`: the number in three digits is one of the names for it.
-/

namespace UsbAccess

/-! ## Plain text -/

namespace Text.Utf8

/-- The character has one byte, and is not the zero byte. -/
def IsPlain (c : Char) : Prop := 0 < c.toNat ∧ c.toNat < 0x80

theorem bytes_eq_flatMap (s : String) : bytes s = s.toList.flatMap String.utf8EncodeChar := by
  conv => lhs; rw [← String.ofList_toList (s := s)]
  rw [bytes, String.toUTF8_eq_toByteArray, String.toByteArray_ofList, List.utf8Encode]
  simp

theorem bytes_of_plain {s : String} (hplain : ∀ c ∈ s.toList, IsPlain c) :
    bytes s = s.toList.map Char.toUInt8 := by
  rw [bytes_eq_flatMap]
  generalize s.toList = cs at hplain
  induction cs with
  | nil => rfl
  | cons c rest ih =>
    have hone : String.utf8EncodeChar c = [c.toUInt8] := by
      have hsize : c.utf8Size = 1 := by
        rw [Char.utf8Size_eq_one_iff, UInt32.le_iff_toNat_le]
        exact Nat.le_of_lt_succ (hplain c List.mem_cons_self).2
      exact String.utf8EncodeChar_eq_singleton hsize
    rw [List.flatMap_cons, hone, ih fun c' hc' => hplain c' (List.mem_cons_of_mem _ hc')]
    rfl

theorem bytes_of_text? {bs : List UInt8} {s : String} (h : text? bs = some s) : bytes s = bs := by
  unfold text? String.fromUTF8? at h
  split_ifs at h with hvalid
  cases h
  simp [bytes, String.fromUTF8]

/-- A plain character is not the zero that stands for numbers that are no character. -/
theorem toNat_of_plain {n : ℕ} (hplain : IsPlain (Char.ofNat n)) : (Char.ofNat n).toNat = n := by
  unfold Char.ofNat at hplain ⊢
  split_ifs at hplain ⊢ with hvalid
  · simp [Char.ofNatAux, Char.toNat]
  · exact absurd hplain.1 (by simp [Char.toNat])

theorem not_plain_of_le {n : ℕ} (hn : 0x80 ≤ n) : ¬ IsPlain (Char.ofNat n) := by
  intro hplain
  have hsmall := hplain.2
  rw [toNat_of_plain hplain] at hsmall
  omega

/-- Of a character of three bytes, the first two carry bits beyond those of the last. -/
theorem two_le_of_three {b c : UInt8} (hfirst : 0xe0 ≤ b.toNat ∧ b.toNat ≤ 0xef)
    (hsecond : isSecond b c = true) :
    2 ≤ b.toNat % 16 * 64 + tailBits c := by
  by_cases hlow : b = 0xe0
  · subst hlow
    have hrange : 0xa0 ≤ c.toNat ∧ c.toNat ≤ 0xbf := by
      simpa [isSecond, UInt8.le_iff_toNat_le] using hsecond
    show 2 ≤ _ + c.toNat % 64
    omega
  · have hne : b.toNat ≠ 0xe0 := fun h => hlow (UInt8.toNat_inj.1 h)
    omega

/-- So do the first two of a character of four bytes. -/
theorem two_le_of_four {b c : UInt8} (hfirst : 0xf0 ≤ b.toNat ∧ b.toNat ≤ 0xf4)
    (hsecond : isSecond b c = true) :
    2 ≤ b.toNat % 8 * 64 + tailBits c := by
  by_cases hlow : b = 0xf0
  · subst hlow
    have hrange : 0x90 ≤ c.toNat ∧ c.toNat ≤ 0xbf := by
      simpa [isSecond, UInt8.le_iff_toNat_le] using hsecond
    show 2 ≤ _ + c.toNat % 64
    omega
  · have hne : b.toNat ≠ 0xf0 := fun h => hlow (UInt8.toNat_inj.1 h)
    omega

/-- Where a plain character is read, it is the first byte. -/
theorem next_of_plain {b : UInt8} {rest : List UInt8} {c : Char} {more : ℕ} (hplain : IsPlain c) :
    next b rest = (some c, more) → b = c.toUInt8 ∧ more = 0 := by
  fun_cases next b rest with
  | case1 hlow =>
    rintro ⟨⟩
    have hcode : (Char.ofNat b.toNat).val.toNat = b.toNat := toNat_of_plain hplain
    refine ⟨UInt8.toNat_inj.1 ?_, rfl⟩
    rw [Char.toUInt8, UInt32.toNat_toUInt8, hcode, Nat.mod_eq_of_lt b.toNat_lt]
  | case2 hlow hfirst second tail htail =>
    rintro ⟨⟩
    simp only [Bool.and_eq_true, decide_eq_true_eq, UInt8.le_iff_toNat_le] at hfirst
    obtain ⟨hge, hle⟩ : 0xc2 ≤ b.toNat ∧ b.toNat ≤ 0xdf := hfirst
    exact absurd hplain (not_plain_of_le (by omega))
  | case6 hlow htwo hfirst second hsecond third tail hthird =>
    rintro ⟨⟩
    simp only [Bool.and_eq_true, decide_eq_true_eq, UInt8.le_iff_toNat_le] at hfirst
    have htop := two_le_of_three hfirst (by simpa using hsecond)
    exact absurd hplain (not_plain_of_le (by omega))
  | case12 hlow htwo hthree hfirst second hsecond third hthird fourth tail hfourth =>
    rintro ⟨⟩
    simp only [Bool.and_eq_true, decide_eq_true_eq, UInt8.le_iff_toNat_le] at hfirst
    have htop := two_le_of_four hfirst (by simpa using hsecond)
    exact absurd hplain (not_plain_of_le (by omega))
  | _ => rintro ⟨⟩

/-- The character that stands for a piece. -/
def Piece.shown : Piece → Char
  | .char c => c
  | .malformed _ => replacement

theorem lossy_eq (bs : List UInt8) : lossy bs = String.ofList ((pieces bs).map Piece.shown) := rfl

theorem cut_of_plain {bs : List UInt8} (hplain : ∀ piece ∈ cut bs, IsPlain piece.shown) :
    bs = (cut bs).map fun piece => piece.shown.toUInt8 := by
  induction bs using cut.induct with
  | case1 => rw [cut]; rfl
  | case2 b rest c more hnext ih =>
    rw [cut, hnext] at hplain ⊢
    obtain ⟨hfirst, hrest⟩ := List.forall_mem_cons.1 hplain
    cases c with
    | none =>
      change IsPlain replacement at hfirst
      exact absurd hfirst (by unfold IsPlain; decide)
    | some c =>
      change IsPlain c at hfirst
      obtain ⟨rfl, rfl⟩ := next_of_plain hfirst hnext
      exact congrArg _ (ih hrest)

/-- Bytes that are shown as plain characters are those of what is shown. -/
theorem bytes_lossy {bs : List UInt8} (hplain : ∀ c ∈ (lossy bs).toList, IsPlain c) :
    bytes (lossy bs) = bs := by
  cases htext : text? bs with
  | some s =>
    have hbytes := bytes_of_text? htext
    rw [← hbytes, lossy_bytes]
  | none =>
    have hshown : (lossy bs).toList = (cut bs).map Piece.shown := by
      rw [lossy_eq, pieces, htext, String.toList_ofList]
    rw [bytes_of_plain hplain, hshown, List.map_map]
    rw [hshown, List.forall_mem_map] at hplain
    exact (cut_of_plain hplain).symm

end Text.Utf8

/-! ## Numerals -/

namespace Text

theorem eq_or_mem_withoutPlus {cs : List Char} {c : Char} (hc : c ∈ cs) :
    c = '+' ∨ c ∈ withoutPlus cs := by
  unfold withoutPlus
  split
  · exact List.mem_cons.1 hc
  · exact .inr hc

/-- A numeral of a byte has digits, and at most a plus sign beside them. -/
theorem mem_of_byte? {cs : List Char} {n : UInt8} (hnumeral : byte? cs = some n) :
    cs ≠ [] ∧ ∀ c ∈ cs, c = '+' ∨ c.isDigit = true := by
  obtain ⟨value, hdigits, -⟩ := Option.bind_eq_some_iff.1 hnumeral
  unfold digits? at hdigits
  split_ifs at hdigits with hbad
  rw [Bool.or_eq_true, not_or] at hbad
  obtain ⟨hsome, hall⟩ := hbad
  constructor
  · rintro rfl
    exact hsome rfl
  · intro c hc
    exact (eq_or_mem_withoutPlus hc).imp_right fun hmem =>
      List.all_eq_true.1 (by simpa using hall) c hmem

end Text

namespace Inventory

/-! ## Names and numbers -/

/-- The usual name for a number: the number in three digits. -/
def usualName (n : UInt8) : Bytes := Text.Utf8.bytes (Text.decimal 3 n.toNat)

theorem number?_usualName (n : UInt8) : number? (usualName n) = some n := by
  rw [number?, usualName, Text.Utf8.lossy_bytes]
  exact Text.byte?_decimal 3 n

/-- A name that stands for a number is made of digits and at most a plus sign. -/
theorem mem_of_number? {name : Bytes} {n : UInt8} (hnumber : number? name = some n) :
    name ≠ [] ∧ ∀ b ∈ name, b = 0x2b ∨ 0x30 ≤ b.toNat ∧ b.toNat ≤ 0x39 := by
  obtain ⟨hsome, hchars⟩ := Text.mem_of_byte? hnumber
  have hcode : ∀ c ∈ (Text.Utf8.lossy name).toList, c = '+' ∨ 48 ≤ c.toNat ∧ c.toNat ≤ 57 :=
    fun c hc =>
    (hchars c hc).imp_right fun hdigit =>
      by simpa [Char.isDigit, UInt32.le_iff_toNat_le] using hdigit
  have hplain : ∀ c ∈ (Text.Utf8.lossy name).toList, Text.Utf8.IsPlain c := by
    intro c hc
    obtain rfl | hdigit := hcode c hc
    · unfold Text.Utf8.IsPlain
      decide
    · exact ⟨by omega, by omega⟩
  rw [← Text.Utf8.bytes_lossy hplain, Text.Utf8.bytes_of_plain hplain]
  refine ⟨by simpa using hsome, fun b hb => ?_⟩
  obtain ⟨c, hc, rfl⟩ := List.mem_map.1 hb
  obtain rfl | hdigit := hcode c hc
  · exact .inl rfl
  · have hbyte : c.toUInt8.toNat = c.toNat := by
      show c.val.toUInt8.toNat = c.val.toNat
      rw [UInt32.toNat_toUInt8]
      exact Nat.mod_eq_of_lt (by have : c.toNat = c.val.toNat := rfl; omega)
    exact .inr (hbyte ▸ hdigit)

/-- A name that stands for a number is a name in a directory. -/
theorem isName_of_number? {name : Bytes} {n : UInt8} (hnumber : number? name = some n) :
    Path.IsName name := by
  obtain ⟨hsome, hbytes⟩ := mem_of_number? hnumber
  have hdot : (0x2e : UInt8) ∉ name := fun h => absurd (hbytes _ h) (by decide)
  refine ⟨hsome, ?_, ?_, fun h => absurd (hbytes _ h) (by decide)⟩
  · rintro rfl
    exact hdot List.mem_cons_self
  · rintro rfl
    exact hdot List.mem_cons_self

end Inventory

end UsbAccess
