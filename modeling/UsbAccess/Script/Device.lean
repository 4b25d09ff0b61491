import UsbAccess.Source

/-!
# Scripted devices

A device whose answers are laid down in advance, with a record of what it has been asked. Each kind
of request has a list from which every request takes the next answer; the last answer repeats.
-/

namespace UsbAccess.Script

/-- What a device can be asked. -/
inductive Question where
  | claim (interface : UInt8)
  | release (interface : UInt8)
  | detach (interface : UInt8)
  | attach (interface : UInt8)
  | driver (interface : UInt8)
  | activeConfiguration
  | deviceNumber
  | speed
  | text (index : UInt8)
  deriving DecidableEq, Repr

/-- The question on one line. -/
def Question.describe : Question → String
  | claim interface => "claim " ++ interface.toNat.repr
  | release interface => "release " ++ interface.toNat.repr
  | detach interface => "detach " ++ interface.toNat.repr
  | attach interface => "attach " ++ interface.toNat.repr
  | driver interface => "driver " ++ interface.toNat.repr
  | activeConfiguration => "active_configuration"
  | deviceNumber => "device_number"
  | speed => "speed"
  | text index => "string " ++ index.toNat.repr

/-- The answers that are left, by the kind of question. -/
structure Answers where
  claim : List (Except Errno Unit)
  release : List (Except Errno Unit)
  detach : List (Except Errno Detachment)
  attach : List (Except Errno Unit)
  driver : List (Except Errno (Option String))
  activeConfiguration : List (Except Errno UInt8)
  deviceNumber : List (Except Errno UInt8)
  speed : List (Except Errno Speed)
  text : List (Except Errno String)

/-- A scripted device, and what it has been asked, the latest question first. -/
structure ScriptedDevice where
  left : Answers
  asked : List Question

/-- The next answer of a list, and the answers after it. -/
def next {α : Type} : List (Except Errno α) → Except Errno α × List (Except Errno α)
  | [] => (.error .noRequest, [])
  | [last] => (last, [last])
  | answer :: rest => (answer, rest)

/-- Asks a question whose answers `get` finds and `set` replaces. -/
def ask {α : Type} (question : Question) (get : Answers → List (Except Errno α))
    (set : Answers → List (Except Errno α) → Answers) : StateM ScriptedDevice (Except Errno α) :=
  fun device =>
    let (answer, rest) := next (get device.left)
    (answer, ⟨set device.left rest, question :: device.asked⟩)

/-- The requests about the interfaces of a scripted device. -/
def control : InterfaceControl ScriptedDevice where
  claim interface := ask (.claim interface) Answers.claim fun left rest =>
    { left with claim := rest }
  release interface :=
    ask (.release interface) Answers.release fun left rest => { left with release := rest }
  detach interface := ask (.detach interface) Answers.detach fun left rest =>
    { left with detach := rest }
  attach interface := ask (.attach interface) Answers.attach fun left rest =>
    { left with attach := rest }
  driver interface := ask (.driver interface) Answers.driver fun left rest =>
    { left with driver := rest }

/-- The questions to a scripted device. -/
def queries : DeviceQueries ScriptedDevice where
  text index := ask (.text index) Answers.text fun left rest => { left with text := rest }
  activeConfiguration :=
    ask .activeConfiguration Answers.activeConfiguration fun left rest =>
      { left with activeConfiguration := rest }
  speed := ask .speed Answers.speed fun left rest => { left with speed := rest }
  deviceNumber :=
    ask .deviceNumber Answers.deviceNumber fun left rest => { left with deviceNumber := rest }

end UsbAccess.Script
