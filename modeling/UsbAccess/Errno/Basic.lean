import UsbAccess.Errno.Table

/-!
# Failures of the operating system

A failure is known by its number. Numbers that Linux does not use all count as one unknown failure
where a request to the kernel fails; a failed access to a file keeps its number.

Results:
* `code_eq`: the code of a failure is its number or, for a number out of use, 0.
-/

namespace UsbAccess

/-- A failure of a request to the operating system. -/
structure Errno where
  number : Int
  deriving DecidableEq, Repr

namespace Errno

/-- What is known of the failure. -/
def known? (e : Errno) : Option Entry :=
  entries.find? fun entry => (entry.number : Int) = e.number

/-- The number, 0 when it is not in use. -/
def code (e : Errno) : Int :=
  match e.known? with
  | some entry => entry.number
  | none => 0

/-- The name and the meaning. -/
def describe (e : Errno) : String :=
  match e.known? with
  | some entry => entry.name ++ ": " ++ entry.meaning
  | none => "UnknownErrno: Unknown errno"

/-- What the system's library prints. -/
def report (e : Errno) : String :=
  let text := match e.known? with
    | some entry => entry.report
    | none => if e.number = 0 then "Success" else "Unknown error " ++ e.number.repr
  text ++ " (os error " ++ e.number.repr ++ ")"

/-- The operation is not permitted. -/
def notPermitted : Errno := ⟨1⟩

/-- There is no such file. -/
def noEntry : Errno := ⟨2⟩

/-- The access rights forbid it. -/
def accessDenied : Errno := ⟨13⟩

/-- There is such a file already. -/
def alreadyThere : Errno := ⟨17⟩

/-- A directory is needed here. -/
def notDirectory : Errno := ⟨20⟩

/-- A directory is not possible here. -/
def isDirectory : Errno := ⟨21⟩

/-- The argument makes no sense here. -/
def invalid : Errno := ⟨22⟩

/-- The file answers no such request. -/
def noRequest : Errno := ⟨25⟩

/-- The name or the path is too long. -/
def nameTooLong : Errno := ⟨36⟩

/-- There are too many links on the way. -/
def linkLoop : Errno := ⟨40⟩

/-- There is nothing to answer with. -/
def noData : Errno := ⟨61⟩

/-- The answer breaks the protocol. -/
def protocol : Errno := ⟨71⟩

theorem code_eq (e : Errno) : e.code = e.number ∨ e.code = 0 := by
  unfold code known?
  split
  · next h =>
    have := List.find?_some h
    left
    simpa using this
  · right; rfl

end Errno

end UsbAccess
