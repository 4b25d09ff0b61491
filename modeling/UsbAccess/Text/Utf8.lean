/-!
# UTF-8

Bytes as text: strictly, for files that have to hold text, and piece by piece, for names that are
shown whatever they hold.

Results:
* `text?_bytes`: the bytes of a text read back as that text.
* `pieces_bytes`: the pieces of a text are its characters.
* `lossy_bytes`: in a text nothing is replaced.
-/

namespace UsbAccess.Text.Utf8

/-- The character that stands for bytes that are no character, U+FFFD. -/
def replacement : Char := Char.ofNat 0xfffd

/-- The bytes of a text. -/
def bytes (s : String) : List UInt8 :=
  s.toUTF8.data.toList

/-- The text whose bytes these are. -/
def text? (bs : List UInt8) : Option String :=
  String.fromUTF8? ⟨bs.toArray⟩

/-! ## Pieces -/

/-- `b` continues a character. -/
def isTail (b : UInt8) : Bool :=
  0x80 ≤ b && b ≤ 0xbf

/-- The second byte that may follow the first byte `b` of a character of three or four bytes. -/
def isSecond (b second : UInt8) : Bool :=
  if b = 0xe0 then 0xa0 ≤ second && second ≤ 0xbf
  else if b = 0xed then 0x80 ≤ second && second ≤ 0x9f
  else if b = 0xf0 then 0x90 ≤ second && second ≤ 0xbf
  else if b = 0xf4 then 0x80 ≤ second && second ≤ 0x8f
  else isTail second

/-- The six low bits that a continuation byte carries. -/
def tailBits (b : UInt8) : Nat :=
  b.toNat % 64

/-- The character that begins with byte `b` and goes on in `rest`, none where it is malformed, and
how many bytes of `rest` belong to it. Of a malformed character the longest beginning that some
character has counts as one piece. -/
def next (b : UInt8) (rest : List UInt8) : Option Char × Nat :=
  if b < 0x80 then (some (Char.ofNat b.toNat), 0)
  else if 0xc2 ≤ b && b ≤ 0xdf then
    match rest with
    | c :: _ =>
      if isTail c then (some (Char.ofNat (b.toNat % 32 * 64 + tailBits c)), 1) else (none, 0)
    | [] => (none, 0)
  else if 0xe0 ≤ b && b ≤ 0xef then
    match rest with
    | c :: more =>
      if !isSecond b c then (none, 0)
      else match more with
        | d :: _ =>
          if isTail d then
            (some (Char.ofNat ((b.toNat % 16 * 64 + tailBits c) * 64 + tailBits d)), 2)
          else (none, 1)
        | [] => (none, 1)
    | [] => (none, 0)
  else if 0xf0 ≤ b && b ≤ 0xf4 then
    match rest with
    | c :: more =>
      if !isSecond b c then (none, 0)
      else match more with
        | d :: last =>
          if !isTail d then (none, 1)
          else match last with
            | e :: _ =>
              if isTail e then
                (some (Char.ofNat
                  (((b.toNat % 8 * 64 + tailBits c) * 64 + tailBits d) * 64 + tailBits e)), 3)
              else (none, 2)
            | [] => (none, 2)
        | [] => (none, 1)
    | [] => (none, 0)
  else (none, 0)

/-- A piece of a sequence of bytes: a character, or the bytes of a malformed one. -/
inductive Piece where
  | char (c : Char)
  | malformed (bytes : List UInt8)
  deriving DecidableEq, Repr

/-- `bs` cut into pieces from its start. -/
def cut : List UInt8 → List Piece
  | [] => []
  | b :: rest =>
    let (c, more) := next b rest
    (match c with
      | some c => .char c
      | none => .malformed (b :: rest.take more)) :: cut (rest.drop more)
termination_by bs => bs.length
decreasing_by simp only [List.length_cons, List.length_drop]; omega

/-- The pieces of `bs`. Those of a text are its characters. -/
def pieces (bs : List UInt8) : List Piece :=
  match text? bs with
  | some s => s.toList.map .char
  | none => cut bs

/-- The text of `bs`, a replacement character for each malformed piece. -/
def lossy (bs : List UInt8) : String :=
  String.ofList ((pieces bs).map fun piece =>
    match piece with
    | .char c => c
    | .malformed _ => replacement)

/-! ## Laws -/

theorem text?_bytes (s : String) : text? (bytes s) = some s := by
  have h : (⟨(bytes s).toArray⟩ : ByteArray) = s.toUTF8 := by simp [bytes]
  unfold text? String.fromUTF8?
  rw [h]
  simp only [String.toUTF8_eq_toByteArray, dif_pos s.isValidUTF8]
  rfl

theorem pieces_bytes (s : String) : pieces (bytes s) = s.toList.map .char := by
  rw [pieces, text?_bytes]

theorem lossy_bytes (s : String) : lossy (bytes s) = s := by
  rw [lossy, pieces_bytes, List.map_map]
  simp [Function.comp_def]

end UsbAccess.Text.Utf8
