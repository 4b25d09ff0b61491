/-!
# Documents

The form in which values are handed to programs that store or exchange them: records of named
fields, lists, texts, numbers and truth values.
-/

namespace UsbAccess

/-- A value to be stored or exchanged. -/
inductive Document where
  | null
  | truth (b : Bool)
  | number (n : Nat)
  | text (s : String)
  | list (items : List Document)
  | record (fields : List (String × Document))

namespace Document

/-- The number of a byte. -/
def byte (b : UInt8) : Document := number b.toNat

/-- The number of two bytes. -/
def word (w : UInt16) : Document := number w.toNat

/-- A value that may be missing. -/
def optional {α : Type} (document : α → Document) : Option α → Document
  | some a => document a
  | none => null

/-- The document with more fields after its own. -/
def extend (d : Document) (more : List (String × Document)) : Document :=
  match d with
  | record fields => record (fields ++ more)
  | other => other

end Document

end UsbAccess
