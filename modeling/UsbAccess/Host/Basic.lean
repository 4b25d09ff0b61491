import UsbAccess.Files.Tree
import UsbAccess.Host.Request

/-!
# The host

What lies outside a program that uses devices: the file tree, the kernel behind the device nodes,
and the history of what has been asked. The kernel may answer anything, and its answers may depend
on all that has happened before.

Results:
* `nodeOf_newHandle`: a node has its own name when it is opened.
* `ask_history`: a request and its answer become the latest event.
-/

namespace UsbAccess

/-- An opened device node. No two openings have the same serial number, and `removals` tells how
often a node had been removed from this location before the opening. -/
structure Handle where
  node : Location
  serial : Nat
  removals : Nat
  deriving DecidableEq, Repr

/-- What has happened at the nodes. -/
inductive Event where
  /-- A node has been opened. -/
  | opened (handle : Handle)
  /-- A request by a handle, at the node as it is called then, has been answered. -/
  | answered (handle : Handle) (node : Location) (request : NodeRequest)
      (answer : Except Errno Reply)

/-- The kernel. `answer` is its answer to a request at a node after a history, the latest event
first; `delays` tells whether it keeps the asker waiting first. -/
structure Kernel where
  answer : List Event → Handle → Location → NodeRequest → Except Errno Reply
  delays : List Event → Handle → Location → NodeRequest → Bool

/-- The host. The history has the latest event first. -/
structure Host where
  files : FileTree
  kernel : Kernel
  history : List Event
  opened : Nat

namespace Host

/-- What the node of a handle is called: a node that has been removed since its opening is still
there for who has it open, under another name. -/
def nodeOf (host : Host) (handle : Handle) : Location :=
  if host.files.removals handle.node = handle.removals then handle.node else handle.node.gone

/-- Puts a request to the kernel. -/
def ask (handle : Handle) (request : NodeRequest) : StateM Host (Except Errno Reply) := fun host =>
  let node := host.nodeOf handle
  let answer := host.kernel.answer host.history handle node request
  (answer, { host with history := .answered handle node request answer :: host.history })

/-- The kernel keeps the asker of this request waiting. -/
def delays (host : Host) (handle : Handle) (request : NodeRequest) : Bool :=
  host.kernel.delays host.history handle (host.nodeOf handle) request

/-- A new handle on the node at `location`. -/
def newHandle (location : Location) : StateM Host Handle := fun host =>
  let handle : Handle := ⟨location, host.opened, host.files.removals location⟩
  (handle, { host with history := .opened handle :: host.history, opened := host.opened + 1 })

/-- Opens a node for all requests. -/
def openNode (path : Path) : StateM Host (Except FileFault Handle) := fun host =>
  match host.files.openToUpdate path with
  | .ok location => let (handle, host) := newHandle location host; (.ok handle, host)
  | .error fault => (.error fault, host)

/-- The access rights are at fault. -/
def isDenial (fault : FileFault) : Bool :=
  fault = .refused .accessDenied || fault = .refused .notPermitted

/-- Opens a node for reading, and for requests too where the access rights allow it. -/
def openNodeToRead (path : Path) : StateM Host (Except FileFault Handle) := fun host =>
  match openNode path host with
  | (.error fault, host) =>
    if isDenial fault then
      match host.files.openToRead path with
      | .ok location => let (handle, host) := newHandle location host; (.ok handle, host)
      | .error fault => (.error fault, host)
    else (.error fault, host)
  | opened => opened

/-- The bytes that the kernel keeps in a node: the device's descriptors. -/
def readNode (host : Host) (handle : Handle) : Except FileFault Bytes :=
  host.files.contentAt handle.node

theorem ask_history (handle : Handle) (request : NodeRequest) (host : Host) :
    (ask handle request host).2.history =
      .answered handle (host.nodeOf handle) request (ask handle request host).1 :: host.history :=
  rfl

theorem nodeOf_newHandle (location : Location) (host : Host) :
    (newHandle location host).2.nodeOf (newHandle location host).1 = location := by
  simp [newHandle, nodeOf]

end Host

end UsbAccess
