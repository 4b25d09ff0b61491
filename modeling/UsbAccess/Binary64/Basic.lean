/-!
# Binary64 numbers

The numbers of the 64 bit floating point format, as exact values: a finite one is an integer times a
power of two. Every number has one representation here, so equality of values is equality of
numbers, but for the two zeros.

Results:
* `truncate_le`: truncation to 32 bits stays within 32 bits.
-/

namespace UsbAccess

/-- A number of the format: a finite one is `mantissa * 2 ^ exponent`, with its sign. -/
inductive Binary64 where
  | nan
  | infinite (negative : Bool)
  | finite (negative : Bool) (mantissa : Nat) (exponent : Int)
  deriving DecidableEq, Repr

namespace Binary64

/-- A power of two. -/
def twoTo (n : Nat) : Nat := Nat.pow 2 n

/-- A power of ten. -/
def tenTo (n : Nat) : Nat := Nat.pow 10 n

/-- The least exponent a finite number has. -/
def minExponent : Int := -1074

/-- The greatest exponent a finite number has. -/
def maxExponent : Int := 971

/-- The number with these bits: one for the sign, eleven for the exponent, 52 for the fraction. -/
def ofBits (bits : UInt64) : Binary64 :=
  let negative := bits >>> 63 == 1
  let field := (bits >>> 52).toNat % 2048
  let fraction := bits.toNat % twoTo 52
  if field = 2047 then if fraction = 0 then infinite negative else nan
  else if field = 0 then finite negative fraction minExponent
  else finite negative (twoTo 52 + fraction) (field - 1075)

/-- `n / d` to the nearest integer; a half goes to the even neighbour. -/
def roundHalfEven (n d : Nat) : Nat :=
  let q := n / d
  let r := n % d
  if 2 * r < d then q else if d < 2 * r then q + 1 else q + q % 2

/-- The greatest `t` with `2 ^ t ≤ n / d`, for positive `n` and `d`. -/
def floorLog2 (n d : Nat) : Int :=
  let t : Int := n.log2 - d.log2
  if d * twoTo t.toNat ≤ n * twoTo (-t).toNat then t else t - 1

/-- The number nearest to `n / d`, the one with an even mantissa of two. -/
def ofRatio (negative : Bool) (n d : Nat) : Binary64 :=
  if n = 0 then finite negative 0 minExponent
  else
    let e := max (floorLog2 n d - 52) minExponent
    let m := roundHalfEven (n * twoTo (-e).toNat) (d * twoTo e.toNat)
    if m = twoTo 53 then
      if e + 1 > maxExponent then infinite negative else finite negative (twoTo 52) (e + 1)
    else if e > maxExponent then infinite negative
    else finite negative m e

/-- The greatest number of 32 bits. -/
def greatest32 : Nat := 4294967295

/-- The integer part as a 32 bit number. What lies below 0 or is no number gives 0, what lies above
gives the greatest. -/
def truncate : Binary64 → Nat
  | nan => 0
  | infinite negative => if negative then 0 else greatest32
  | finite negative m e =>
    if negative then 0 else min (m * twoTo e.toNat / twoTo (-e).toNat) greatest32

theorem truncate_le (x : Binary64) : x.truncate ≤ greatest32 := by
  unfold truncate
  split
  · exact Nat.zero_le _
  · split
    · exact Nat.zero_le _
    · exact Nat.le_refl _
  · split
    · exact Nat.zero_le _
    · exact Nat.min_le_right ..

end Binary64

end UsbAccess
