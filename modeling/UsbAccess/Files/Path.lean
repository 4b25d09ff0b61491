import UsbAccess.Bytes
import UsbAccess.Text.Quoted

/-!
# Paths

A path is kept as it was written, in bytes, for a name need not be text. Its pieces stand between
slashes; empty pieces and single dots say nothing.

Results:
* `join_bytes`: joining a plain name to a path that does not end in a slash puts one slash between
  them.
* `display_ofText`, `outline_ofText`: a path that is text is shown as that text.
-/

namespace UsbAccess

open Text

/-- A path of a file. -/
structure Path where
  bytes : Bytes
  deriving DecidableEq, Repr

namespace Path

/-- The path that a text writes. -/
def ofText (s : String) : Path := ⟨Utf8.bytes s⟩

/-- The byte between pieces. -/
def slash : UInt8 := 0x2f

/-- The piece that stays where it is. -/
def here : Bytes := [0x2e]

/-- The piece that leads upwards. -/
def up : Bytes := [0x2e, 0x2e]

/-- The pieces of `bytes` between the bytes equal to `separator`. -/
def split (separator : UInt8) (bytes : Bytes) : List Bytes :=
  bytes.foldr (fun b pieces =>
    match pieces with
    | [] => [[b]]
    | piece :: rest => if b = separator then [] :: piece :: rest else (b :: piece) :: rest) [[]]

/-- No file can have the path, because a path ends before its first zero byte. -/
def hasZero (p : Path) : Bool :=
  p.bytes.contains 0

/-- The path begins at the root. -/
def isAbsolute (p : Path) : Bool :=
  p.bytes.head? == some slash

/-- The pieces of the path, in order. -/
def pieces (p : Path) : List Bytes :=
  split slash p.bytes

/-- The pieces that say something. -/
def parts (p : Path) : List Bytes :=
  p.pieces.filter fun piece => piece ≠ [] && piece ≠ here

/-- The path with another one below it. An absolute one stands for itself. -/
def join (p name : Path) : Path :=
  if name.isAbsolute || p.bytes.isEmpty then name
  else if p.bytes.getLast? == some slash then ⟨p.bytes ++ name.bytes⟩
  else ⟨p.bytes ++ slash :: name.bytes⟩

/-- The path of what has this name in the directory at `p`. -/
def child (p : Path) (name : String) : Path :=
  p.join (ofText name)

/-- The last piece that says something, unless it leads upwards. -/
def fileName? (p : Path) : Option Bytes :=
  match p.parts.getLast? with
  | some name => if name = up then none else some name
  | none => none

/-- The last piece that says something, or nothing, as text. -/
def fileName (p : Path) : String :=
  Utf8.lossy (p.fileName?.getD [])

/-- The path as text, for messages. -/
def display (p : Path) : String :=
  Utf8.lossy p.bytes

/-- The path, for inspection. -/
def outline (p : Path) : String :=
  quotedBytes p.bytes

/-! ## Laws -/

theorem join_bytes {p name : Path} (hname : name.isAbsolute = false)
    (hempty : p.bytes.isEmpty = false) (hslash : p.bytes.getLast? ≠ some slash) :
    (p.join name).bytes = p.bytes ++ slash :: name.bytes := by
  simp [join, hname, hempty, hslash]

theorem display_ofText (s : String) : (ofText s).display = s :=
  Utf8.lossy_bytes s

theorem outline_ofText (s : String) : (ofText s).outline = quoted s :=
  quotedBytes_bytes s

end Path

/-- A place in a file tree: the names on the way from the root. -/
abbrev Location := List Bytes

/-- What the system calls an open file that has been removed from a location. -/
def Location.gone (l : Location) : Location :=
  l.dropLast ++ [l.getLastD [] ++ Utf8.bytes " (deleted)"]

/-- The absolute path of a location. -/
def Location.path (l : Location) : Path :=
  ⟨Path.slash :: [Path.slash].intercalate l⟩

end UsbAccess
