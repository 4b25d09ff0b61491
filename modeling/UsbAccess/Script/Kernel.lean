import UsbAccess.Host.Basic

/-!
# Scripted kernels

A kernel whose answers are laid down in advance: for each node and each kind of request a list, from
which every request takes the next answer. The last answer of a list repeats, and without a list
there is no such request.

Results:
* `next?_eq`: each request of a kind takes the next answer of its list.
* `answerAt_of_length_le`: behind the end of a list its last answer stands.
* `length_written_le`: no more is written into a buffer than it has room for.
-/

namespace UsbAccess.Script

/-- The number that a request returns. -/
inductive Returned where
  /-- The number of bytes that a transfer was to move. -/
  | wholeLength
  /-- This number. -/
  | number (n : Int32)
  deriving DecidableEq, Repr

/-- One answer of the kernel. -/
inductive Answer where
  /-- The request fails. -/
  | fails (errno : Errno)
  /-- The request is kept waiting, and its answer does not matter. -/
  | waits
  /-- The request succeeds; without a number of its own a transfer returns the number of bytes
  written. -/
  | succeeds (returned : Option Returned) (data : Bytes)
  deriving DecidableEq, Repr

/-- The answers of the nodes to the kinds of requests. -/
abbrev KernelScript := Location → String → List Answer

/-- The answer at a position of a list. -/
def answerAt? {α : Type} (answers : List α) (position : Nat) : Option α :=
  answers[min position (answers.length - 1)]?

/-- An event is the answer to a request of a kind at a node. -/
def isAnswer (node : Location) (kind : String) : Event → Bool
  | .answered _ answeredNode request _ => answeredNode == node && request.name == kind
  | .opened _ => false

/-- How many members satisfy `p`, `limit` at most: the rest is not looked at. -/
def countUpTo {α : Type} (p : α → Bool) : Nat → List α → Nat
  | 0, _ => 0
  | _ + 1, [] => 0
  | limit + 1, a :: rest => if p a then countUpTo p limit rest + 1 else countUpTo p (limit + 1) rest

/-- The answer that is next for a request. -/
def next? (script : KernelScript) (history : List Event) (node : Location) (request : NodeRequest) :
    Option Answer :=
  let answers := script node request.name
  answers[countUpTo (isAnswer node request.name) (answers.length - 1) history]?

/-- The room in a request's buffer. -/
def room : NodeRequest → Nat
  | .control _ _ _ _ length _ => length.toNat
  | .bulk endpoint length _ _ => if NodeRequest.carriesOut endpoint then 0 else length.toNat
  | .getDriver _ => 256
  | .connectInfo => 8
  | _ => 0

/-- What is written into a request's buffer. -/
def written (request : NodeRequest) (data : Bytes) : Bytes :=
  data.take (room request)

/-- The number that a successful request returns. -/
def resultOf (request : NodeRequest) (data : Bytes) : Option Returned → Int32
  | some (.number n) => n
  | some .wholeLength =>
    match request with
    | .bulk _ length _ _ => length.toInt32
    | .control _ _ _ _ length _ => length.toUInt32.toInt32
    | _ => 0
  | none =>
    match request with
    | .bulk .. => Int32.ofNat (written request data).length
    | .control .. => Int32.ofNat (written request data).length
    | _ => 0

/-- The reply to a request by an answer. -/
def reply (request : NodeRequest) : Option Answer → Except Errno Reply
  | none => .error .noRequest
  | some (.fails errno) => .error errno
  | some .waits => .error .noRequest
  | some (.succeeds returned data) => .ok ⟨resultOf request data returned, written request data⟩

/-- The kernel that follows a script. -/
def kernel (script : KernelScript) : Kernel where
  answer history _ node request := reply request (next? script history node request)
  delays history _ node request := next? script history node request == some .waits

/-! ## Laws -/

theorem answerAt_of_length_le {α : Type} {answers : List α} {position : Nat}
    (h : answers.length ≤ position) : answerAt? answers position = answers.getLast? := by
  rw [answerAt?, List.getLast?_eq_getElem?]
  congr 1
  omega

theorem countUpTo_eq {α : Type} (p : α → Bool) (limit : Nat) (events : List α) :
    countUpTo p limit events = min (events.countP p) limit := by
  fun_induction countUpTo p limit events with
  | case1 => simp
  | case2 => simp
  | case3 limit a rest h ih => rw [ih, List.countP_cons_of_pos h]; omega
  | case4 limit a rest h ih => rw [ih, List.countP_cons_of_neg h]

theorem next?_eq (script : KernelScript) (history : List Event) (node : Location)
    (request : NodeRequest) :
    next? script history node request =
      answerAt? (script node request.name) (history.countP (isAnswer node request.name)) := by
  rw [next?, countUpTo_eq, answerAt?]

theorem length_written_le (request : NodeRequest) (data : Bytes) :
    (written request data).length ≤ room request := by
  simp only [written, List.length_take]
  omega

end UsbAccess.Script
