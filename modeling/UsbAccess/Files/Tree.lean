import Std.Data.TreeMap
import UsbAccess.Errno.Basic
import UsbAccess.Error
import UsbAccess.Files.Path
import UsbAccess.Text.Utf8

/-!
# File trees

Directories, files and symbolic links by their locations, with the access rights of files, and what
a program can ask of them. A path is followed piece by piece; a link puts the pieces of its target
in its place, forty times at most. The system follows a path that it is handed as a whole, while
resolving the links of a path asks it about one location after another.

Results:
* `node?_root`: the root is a directory.
* `node?_put`, `node?_put_of_ne`: what has been put at a location is found there, and nothing else
  changes.
-/

namespace UsbAccess

/-- What stands at a location. -/
inductive FileNode where
  | dir
  | file (content : Bytes)
  | link (target : Bytes)
  deriving DecidableEq, Repr

/-- How a file may be opened. -/
inductive Rights where
  | full
  | readOnly
  | none
  deriving DecidableEq, Repr

/-- A file tree. `rights` goes by the path that a file is opened by, as it is written: another
spelling of the path is another path. `removed` lists the locations from which something has been
removed, the latest first. -/
structure FileTree where
  nodes : Std.TreeMap Location FileNode
  rights : List (Path × Rights)
  removed : List Location
  deriving Repr

/-- Where a path leads: to a node, or to a free place in a directory. -/
inductive Place where
  | taken (location : Location)
  | free (location : Location)
  deriving DecidableEq, Repr

/-- The location of a place at which there is a node. -/
def Place.location : Place → Except FileFault Location
  | .taken l => .ok l
  | .free _ => .error (.refused .noEntry)

/-- What a path is followed for. -/
inductive Purpose where
  /-- The node at its end, behind the last link. -/
  | follow
  /-- The node at its end, which may be a link. -/
  | stay
  /-- The file at its end, an old or a new one. -/
  | create
  deriving DecidableEq, Repr

namespace FileTree

/-- The tree of a root without anything below it. -/
def empty (rights : List (Path × Rights)) : FileTree :=
  ⟨∅, rights, []⟩

/-- The node at a location; the root is always a directory. -/
def node? (t : FileTree) (l : Location) : Option FileNode :=
  if l = [] then some .dir else t.nodes[l]?

/-- The rights of whoever opens a file by this path, unless stated otherwise full. -/
def rightsBy (t : FileTree) (p : Path) : Rights :=
  (t.rights.lookup p).getD .full

/-- How often the node at a location has been removed, by itself or with a directory above it. -/
def removals (t : FileTree) (l : Location) : Nat :=
  t.removed.countP fun gone => gone.isPrefixOf l

/-- How many links one path may lead through. -/
def maxLinks : Nat := 40

/-- The greatest length of a name. -/
def maxName : Nat := 255

/-- The greatest length of a path. -/
def maxPath : Nat := 4095

/-- The place to which `pieces` lead from directory `here`, through `links` links at most. A name
that is looked up has to have a possible length, and a file to be created no slash behind its name.
-/
def walk (t : FileTree) (purpose : Purpose) (links : Nat) (here : Location) (pieces : List Bytes) :
    Except Errno Place :=
  match pieces with
  | [] => .ok (.taken here)
  | piece :: rest =>
    if piece = [] ∨ piece = Path.here then t.walk purpose links here rest
    else if piece = Path.up then t.walk purpose links here.dropLast rest
    else if purpose = .create ∧ rest ≠ [] ∧ rest.all List.isEmpty then .error .isDirectory
    else if maxName < piece.length then .error .nameTooLong
    else
      match t.node? (here ++ [piece]) with
      | none => if rest = [] then .ok (.free (here ++ [piece])) else .error .noEntry
      | some .dir => t.walk purpose links (here ++ [piece]) rest
      | some (.file _) => if rest = [] then .ok (.taken (here ++ [piece])) else .error .notDirectory
      | some (.link target) =>
        if rest = [] ∧ purpose = .stay then .ok (.taken (here ++ [piece]))
        else
          match links with
          | 0 => .error .linkLoop
          | links + 1 =>
            t.walk purpose links (if (Path.mk target).isAbsolute then [] else here)
              ((Path.mk target).pieces ++ rest)
termination_by (links, pieces.length)

/-- What is empty, or ends before its end, is no path. -/
def requirePath (p : Path) : Except FileFault Unit :=
  if p.hasZero then .error .zeroInPath
  else if p.bytes.isEmpty then .error (.refused .noEntry)
  else .ok ()

/-- The system takes no path beyond the greatest length. -/
def requireWhole (p : Path) : Except FileFault Unit := do
  requirePath p
  if maxPath < p.bytes.length then .error (.refused .nameTooLong) else .ok ()

/-- The place to which a path leads. -/
def place (t : FileTree) (purpose : Purpose) (p : Path) : Except FileFault Place := do
  requireWhole p
  (t.walk purpose maxLinks [] p.pieces).mapError .refused

/-- The location of the node to which a path leads. -/
def locate (t : FileTree) (purpose : Purpose) (p : Path) : Except FileFault Location := do
  (← t.place purpose p).location

/-! ## Asking -/

/-- The path leads to a node. -/
def exists? (t : FileTree) (p : Path) : Bool :=
  (t.locate .follow p).isOk

/-- Opening by a path needs rights that satisfy `enough`, whether or not the path leads anywhere. -/
def permit (t : FileTree) (p : Path) (enough : Rights → Bool) : Except FileFault Unit :=
  if p.hasZero then .error .zeroInPath
  else if enough (t.rightsBy p) then .ok () else .error (.refused .accessDenied)

/-- Opens for reading: the location of the file or directory. -/
def openToRead (t : FileTree) (p : Path) : Except FileFault Location := do
  t.permit p fun r => r ≠ .none
  t.locate .follow p

/-- Opens for reading and writing: the location of the file. -/
def openToUpdate (t : FileTree) (p : Path) : Except FileFault Location := do
  t.permit p fun r => r = .full
  let l ← t.locate .follow p
  if t.node? l = some .dir then .error (.refused .isDirectory) else .ok l

/-- The bytes of the file at a location. -/
def contentAt (t : FileTree) (l : Location) : Except FileFault Bytes :=
  match t.node? l with
  | some (.file content) => .ok content
  | some .dir => .error (.refused .isDirectory)
  | _ => .error (.refused .noEntry)

/-- The bytes of a file. -/
def read (t : FileTree) (p : Path) : Except FileFault Bytes := do
  t.contentAt (← t.openToRead p)

/-- The text of a file. -/
def readText (t : FileTree) (p : Path) : Except FileFault String := do
  match Text.Utf8.text? (← t.read p) with
  | some text => .ok text
  | none => .error .notText

/-- The names in a directory, in ascending order. -/
def entriesOf (t : FileTree) (p : Path) : Except FileFault (List Bytes) := do
  let l ← t.locate .follow p
  if t.node? l = some .dir then
    .ok (t.nodes.keys.filterMap fun l' => if l'.dropLast = l then l'.getLast? else none)
  else .error (.refused .notDirectory)

/-- The target of a link. -/
def linkTarget (t : FileTree) (p : Path) : Except FileFault Bytes := do
  match t.node? (← t.locate .stay p) with
  | some (.link target) => .ok target
  | _ => .error (.refused .invalid)

/-! ## Resolving -/

/-- Only a directory can have `rest` behind it: `rest` names nothing, or begins with a step upwards.
-/
def wantsDir (rest : List Bytes) : Bool :=
  match rest.dropWhile fun piece => piece = [] || piece = Path.here with
  | [] => !rest.isEmpty
  | piece :: _ => piece = Path.up

/-- What stands under a name at `here`, looked up by the path of its own location. -/
def lookUp (t : FileTree) (here : Location) (name : Bytes) : Except Errno FileNode :=
  if maxPath < (Location.path (here ++ [name])).bytes.length then .error .nameTooLong
  else if t.node? here ≠ some .dir then .error .notDirectory
  else if maxName < name.length then .error .nameTooLong
  else
    match t.node? (here ++ [name]) with
    | some node => .ok node
    | none => .error .noEntry

/-- Makes sure that what has been found at `l` can stand before `rest`. Where only a directory can,
it is looked up once more, by the path of `l` with a slash behind it. -/
def confirm (l : Location) (found : Except Errno FileNode) (rest : List Bytes) :
    Except Errno Unit :=
  if wantsDir rest ∧ maxPath < l.path.bytes.length + 1 then .error .nameTooLong
  else
    match found with
    | .ok node => if wantsDir rest ∧ node ≠ .dir then .error .notDirectory else .ok ()
    | .error e => .error e

/-- The location to which `pieces` lead from `here`, through `links` links at most. The way may be
long, but no location on it. -/
def resolve (t : FileTree) (links : Nat) (here : Location) (pieces : List Bytes) :
    Except Errno Location :=
  match pieces with
  | [] => .ok here
  | piece :: rest =>
    if piece = [] ∨ piece = Path.here then t.resolve links here rest
    else if piece = Path.up then t.resolve links here.dropLast rest
    else
      match t.lookUp here piece, links with
      | .ok (.link _), 0 => .error .linkLoop
      | .ok (.link target), links + 1 =>
        t.resolve links (if (Path.mk target).isAbsolute then [] else here)
          ((Path.mk target).pieces ++ rest)
      | found, links =>
        match confirm (here ++ [piece]) found rest with
        | .ok _ => t.resolve links (here ++ [piece]) rest
        | .error e => .error e
termination_by (links, pieces.length)

/-- The location of the node to which a path leads, with all links resolved. -/
def canonical (t : FileTree) (p : Path) : Except FileFault Location := do
  requirePath p
  (t.resolve maxLinks [] p.pieces).mapError .refused

/-! ## Writing -/

/-- The tree with `node` at `l`. -/
def put (t : FileTree) (l : Location) (node : FileNode) : FileTree :=
  { t with nodes := t.nodes.insert l node }

/-- The tree with a file of this content, a new one where there was none, whatever the rights. -/
def putFile (t : FileTree) (p : Path) (content : Bytes) : Except FileFault FileTree := do
  match ← t.place .create p with
  | .free l => .ok (t.put l (.file content))
  | .taken l =>
    if t.node? l = some .dir then .error (.refused .isDirectory) else .ok (t.put l (.file content))

/-- The tree after a file has been written. -/
def write (t : FileTree) (p : Path) (content : Bytes) : Except FileFault FileTree := do
  t.permit p fun r => r = .full
  t.putFile p content

/-! ## Setting up -/

/-- The tree with the directories on the way along `parts`. -/
def makeDirs (t : FileTree) (here : Location) : List Bytes → Except FileFault FileTree
  | [] => .ok t
  | part :: rest =>
    match t.walk .follow maxLinks here [part] with
    | .ok (.taken l) =>
      if t.node? l = some .dir then t.makeDirs l rest else .error (.refused .notDirectory)
    | .ok (.free l) =>
      if l = here ++ [part] then (t.put l .dir).makeDirs l rest else .error (.refused .alreadyThere)
    | .error e => .error (.refused e)

/-- The tree with a directory at `p`. -/
def addDir (t : FileTree) (p : Path) : Except FileFault FileTree := do
  requireWhole p
  t.makeDirs [] p.parts

/-- The tree with a file at `p`, whatever its rights, and the directories above it. -/
def addFile (t : FileTree) (p : Path) (content : Bytes) : Except FileFault FileTree := do
  requireWhole p
  (← t.makeDirs [] p.parts.dropLast).putFile p content

/-- The tree with a link at `p`, where nothing may stand yet, and the directories above it. -/
def addLink (t : FileTree) (p : Path) (target : Bytes) : Except FileFault FileTree := do
  requireWhole p
  requireWhole ⟨target⟩
  let t ← t.makeDirs [] p.parts.dropLast
  match ← t.place .stay p with
  | .free l => .ok (t.put l (.link target))
  | .taken _ => .error (.refused .alreadyThere)

/-- The tree without the node at `p` and all that is below it. -/
def remove (t : FileTree) (p : Path) : Except FileFault FileTree := do
  let l ← t.locate .stay p
  .ok { t with nodes := t.nodes.filter fun l' _ => !(l.isPrefixOf l'), removed := l :: t.removed }

/-! ## Laws -/

theorem node?_root (t : FileTree) : t.node? [] = some .dir := rfl

theorem node?_put {t : FileTree} {l : Location} (h : l ≠ []) (node : FileNode) :
    (t.put l node).node? l = some node := by
  simp [node?, put, h]

theorem node?_put_of_ne {t : FileTree} {l l' : Location} (h : l ≠ l') (node : FileNode) :
    (t.put l node).node? l' = t.node? l' := by
  simp [node?, put, Std.TreeMap.getElem?_insert, h]

end FileTree

end UsbAccess
