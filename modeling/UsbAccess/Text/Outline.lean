import UsbAccess.Text.Quoted

/-!
# Values on one line

The form in which values are shown for inspection: a name with its fields in braces, a name with its
arguments in parentheses, lists in brackets.
-/

namespace UsbAccess.Text.Outline

/-- A name and its named fields, in braces. -/
def record (name : String) (fields : List (String × String)) : String :=
  name ++ " \x7b " ++ ", ".intercalate (fields.map fun f => f.1 ++ ": " ++ f.2) ++ " \x7d"

/-- A name and its arguments, as in `Pair(1, 2)`. -/
def apply (name : String) (args : List String) : String :=
  name ++ "(" ++ ", ".intercalate args ++ ")"

/-- A list, as in `[1, 2]`. -/
def list (items : List String) : String :=
  "[" ++ ", ".intercalate items ++ "]"

/-- A value that may be missing. -/
def optional (value : Option String) : String :=
  match value with
  | some v => apply "Some" [v]
  | none => "None"

/-- A truth value. -/
def bool (b : Bool) : String :=
  if b then "true" else "false"

/-- The bytes of a record, in decimal. -/
def bytes (bs : List UInt8) : String :=
  list (bs.map fun b => b.toNat.repr)

end UsbAccess.Text.Outline
