import UsbAccess.Binary64.Basic
import UsbAccess.Text.Numeral

/-!
# Shortest decimal text

A finite number is written with the fewest decimal digits that lie nearer to it than to any other
number of the format, and of those the nearest, of two equally near the greater; always
positionally, without an exponent.

The reals that round to `m * 2 ^ e` reach half a step to either side, but only a quarter of a step
below a power of two; the two ends belong to the number when its mantissa is even. In units of a
quarter of a step the number is `4 * m` and the ends are integers, so all comparisons are exact.
-/

namespace UsbAccess.Binary64

/-- The greatest `p` with `10 ^ p ≤ m * 2 ^ e`, for a positive `m`. -/
def magnitude (m : Nat) (e : Int) : Int :=
  let reaches (p : Int) : Bool :=
    tenTo p.toNat * twoTo (-e).toNat ≤ m * twoTo e.toNat * tenTo (-p).toNat
  let guess := ((m.log2 : Int) + e) * 30103 / 100000
  if reaches (guess + 1) then guess + 1 else if reaches guess then guess else guess - 1

/-- The integer `j` whose `j * 10 ^ p` is nearest to `m * 2 ^ e` among those that round to it, where
there is one; of two equally near the greater. -/
def onGrid? (m : Nat) (e p : Int) : Option Nat :=
  let step := twoTo (2 - e).toNat * tenTo p.toNat
  let unit := twoTo (e - 2).toNat * tenTo (-p).toNat
  let low := (4 * m - if m = twoTo 52 ∧ e > minExponent then 1 else 2) * unit
  let high := (4 * m + 2) * unit
  let value := 4 * m * unit
  let inside (j : Nat) : Bool :=
    if m % 2 = 0 then low ≤ j * step && j * step ≤ high else low < j * step && j * step < high
  let below := value / step
  if inside below && (!inside (below + 1) || value - below * step < (below + 1) * step - value) then
    some below
  else if inside (below + 1) then some (below + 1)
  else none

/-- The digits and the power of ten of the shortest decimal for `m * 2 ^ e`; seventeen digits are
always enough. -/
def shortest (m : Nat) (e : Int) : Nat × Int :=
  let top := magnitude m e
  let tries := (List.range 17).findSome? fun n : Nat =>
    (onGrid? m e (top - n)).map fun j => (j, top - n)
  tries.getD (0, 0)

/-- `digits * 10 ^ scale` written positionally. -/
def positional (digits : Nat) (scale : Int) : List Char :=
  let ds := Nat.toDigits 10 digits
  if scale ≥ 0 then ds ++ List.replicate scale.toNat '0'
  else
    let places := (-scale).toNat
    let filled := Text.zeroFill (places + 1) ds
    let whole := filled.take (filled.length - places)
    let fraction := ((filled.drop (filled.length - places)).reverse.dropWhile (· = '0')).reverse
    if fraction.isEmpty then whole else whole ++ '.' :: fraction

/-- The text of a number. -/
def text : Binary64 → String
  | nan => "NaN"
  | infinite negative => if negative then "-inf" else "inf"
  | finite negative m e =>
    let body := if m = 0 then ['0'] else positional (shortest m e).1 (shortest m e).2
    String.ofList (if negative then '-' :: body else body)

end UsbAccess.Binary64
