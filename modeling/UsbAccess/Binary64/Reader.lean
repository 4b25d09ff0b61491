import UsbAccess.Binary64.Basic
import UsbAccess.Text.Numeral

/-!
# Reading decimal fractions

The decimal notation of binary64 numbers: a sign, digits with a point among them, a power of ten; or
a name for infinity or for what is no number. The number read is the one nearest to what is written.
-/

namespace UsbAccess.Binary64

/-- `c` as a small letter. -/
def small (c : Char) : Char := c.toLower

/-- A sign in front: whether it is a minus, and what follows. -/
def sign : List Char → Bool × List Char
  | '-' :: rest => (true, rest)
  | '+' :: rest => (false, rest)
  | cs => (false, cs)

/-- The number that `digits` write, times `10 ^ scale`. A value far outside the format's range is
settled by its places alone. -/
def ofDecimal (negative : Bool) (digits : List Char) (scale : Int) : Binary64 :=
  let significant := digits.dropWhile (· = '0')
  let places := scale + significant.length
  if significant.isEmpty || places < -400 then finite negative 0 minExponent
  else if places > 400 then infinite negative
  else
    ofRatio negative (Text.decimalValue significant.length significant * tenTo scale.toNat)
      (tenTo (-scale).toNat)

/-- The power of ten at the end of a numeral: nothing, or a letter e with a signed number. -/
def power? : List Char → Option Int
  | [] => some 0
  | c :: rest =>
    if small c = 'e' then
      let (negative, digits) := sign rest
      (Text.digits? digits).map fun n => if negative then -(n : Int) else n
    else none

/-- An unsigned numeral: digits, a point and more digits, of which one digit has to be there. -/
def unsigned? (negative : Bool) (cs : List Char) : Option Binary64 :=
  let whole := cs.takeWhile Char.isDigit
  let rest := cs.dropWhile Char.isDigit
  let (fraction, rest) := match rest with
    | '.' :: more => (more.takeWhile Char.isDigit, more.dropWhile Char.isDigit)
    | _ => ([], rest)
  if whole.isEmpty && fraction.isEmpty then none
  else (power? rest).map fun p => ofDecimal negative (whole ++ fraction) (p - fraction.length)

/-- The number that `cs` writes. -/
def read? (cs : List Char) : Option Binary64 :=
  let (negative, rest) := sign cs
  let word := String.ofList (rest.map small)
  if word = "inf" || word = "infinity" then some (infinite negative)
  else if word = "nan" then some nan
  else unsigned? negative rest

end UsbAccess.Binary64
