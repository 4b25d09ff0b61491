/-!
# Blanks

The white space of Unicode (property White_Space), and trimming.

Results:
* `isBlank_of_isWhitespace`: the white space of ASCII is blank.
-/

namespace UsbAccess.Text

/-- The code points of white space. -/
def blanks : List (Nat × Nat) :=
  [(0x09, 0x0d), (0x20, 0x20), (0x85, 0x85), (0xa0, 0xa0), (0x1680, 0x1680), (0x2000, 0x200a),
   (0x2028, 0x2029), (0x202f, 0x202f), (0x205f, 0x205f), (0x3000, 0x3000)]

/-- `c` is white space. -/
def isBlank (c : Char) : Bool :=
  blanks.any fun range => range.1 ≤ c.toNat && c.toNat ≤ range.2

/-- `cs` without the characters at its end that satisfy `p`. -/
def dropEndWhile (p : Char → Bool) (cs : List Char) : List Char :=
  (cs.reverse.dropWhile p).reverse

/-- `cs` without the white space at both ends. -/
def trim (cs : List Char) : List Char :=
  dropEndWhile isBlank (cs.dropWhile isBlank)

/-! ## Laws -/

theorem isBlank_of_isWhitespace {c : Char} (h : c.isWhitespace = true) : isBlank c = true := by
  simp only [Char.isWhitespace, Bool.or_eq_true, decide_eq_true_eq] at h
  rcases h with ((rfl | rfl) | rfl) | rfl <;> decide

end UsbAccess.Text
