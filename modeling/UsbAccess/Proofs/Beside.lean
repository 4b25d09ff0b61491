import Mathlib
import UsbAccess.Assembly.Build

/-!
# Computations side by side

Two runs of a computation, from two states, are alike when they give the same result and leave
states behind that are again related. What a device is asked while it is put together is asked
through `Host.ask` alone, so that a relation which `Host.ask` keeps is kept by all of it.

Results:
* `Relates.bind`: computations that follow each other are alike when both are.
* `Relates.assemble`: a device is put together alike when its questions are answered alike.
-/

namespace UsbAccess

/-- Run side by side from related states, the computations give the same result and leave related
states behind. -/
def Relates {σ τ α : Type} (R : σ → τ → Prop) (m : StateM σ α) (m' : StateM τ α) : Prop :=
  ∀ s t, R s t → (m s).1 = (m' t).1 ∧ R (m s).2 (m' t).2

namespace Relates

section

variable {σ τ α β : Type} {R : σ → τ → Prop} {m : StateM σ α} {m' : StateM τ α}

theorem pure (a : α) : Relates R (pure a) (pure a) := fun _ _ h => ⟨rfl, h⟩

theorem bind {f : α → StateM σ β} {f' : α → StateM τ β} (hm : Relates R m m')
    (hf : ∀ a, Relates R (f a) (f' a)) : Relates R (m >>= f) (m' >>= f') := by
  intro s t h
  obtain ⟨hresult, hstate⟩ := hm s t h
  have hrest := hf (m s).1 (m s).2 (m' t).2 hstate
  show (f (m s).1 (m s).2).1 = (f' (m' t).1 (m' t).2).1 ∧
    R (f (m s).1 (m s).2).2 (f' (m' t).1 (m' t).2).2
  rw [← hresult]
  exact hrest

end

section

variable {R : Host → Host → Prop} {h h' : Handle}
  (hask : ∀ request, Relates R (Host.ask h request) (Host.ask h' request))

include hask

theorem controlIn (request : UInt8) (value index : UInt16) (buffer : Bytes) :
    Relates R (h.controlIn request value index buffer)
    (h'.controlIn request value index buffer) := by
  refine (hask _).bind fun answer => ?_
  cases answer with
  | ok reply => exact .pure _
  | error e => exact .pure _

theorem text (index : UInt8) : Relates R (h.text index) (h'.text index) := by
  unfold Handle.text
  split_ifs
  · exact .pure _
  · refine (controlIn hask _ _ _ _).bind fun languages => ?_
    cases languages with
    | error e => exact .pure _
    | ok received =>
      refine (controlIn hask _ _ _ _).bind fun answer => ?_
      cases answer with
      | error e => exact .pure _
      | ok received => exact .pure _

theorem activeConfiguration : Relates R h.activeConfiguration h'.activeConfiguration := by
  refine (controlIn hask _ _ _ _).bind fun answer => ?_
  cases answer with
  | ok received => exact .pure _
  | error e => exact .pure _

theorem speed : Relates R h.speed h'.speed := by
  refine (hask _).bind fun answer => ?_
  cases answer with
  | ok reply => exact .pure _
  | error e => exact .pure _

theorem deviceNumber : Relates R h.deviceNumber h'.deviceNumber := by
  refine (hask _).bind fun answer => ?_
  cases answer with
  | ok reply => exact .pure _
  | error e => exact .pure _

end

end Relates

/-- Each question gets the same answer on both sides. -/
structure Inquiry.Relates {σ τ : Type} (R : σ → τ → Prop) (ask : Inquiry σ)
    (ask' : Inquiry τ) : Prop where
  text : ∀ operation index,
    UsbAccess.Relates R (ask.text operation index) (ask'.text operation index)
  activeConfiguration : UsbAccess.Relates R ask.activeConfiguration ask'.activeConfiguration
  speed : UsbAccess.Relates R ask.speed ask'.speed
  deviceNumber : UsbAccess.Relates R ask.deviceNumber ask'.deviceNumber

theorem Inquiry.Relates.ofQueries {R : Host → Host → Prop} {h h' : Handle}
    (hask : ∀ request, UsbAccess.Relates R (Host.ask h request) (Host.ask h' request)) :
    Inquiry.Relates R (.ofQueries h.queries) (.ofQueries h'.queries) where
  text _ index := (UsbAccess.Relates.text hask index).bind fun _ => .pure _
  activeConfiguration := (UsbAccess.Relates.activeConfiguration hask).bind fun _ => .pure _
  speed := (UsbAccess.Relates.speed hask).bind fun _ => .pure _
  deviceNumber := (UsbAccess.Relates.deviceNumber hask).bind fun _ => .pure _

theorem Relates.assemble {σ τ : Type} {R : σ → τ → Prop} {ask : Path → Inquiry σ}
    {ask' : Path → Inquiry τ} (hask : ∀ path, (ask path).Relates R (ask' path))
    (settings : Settings) (files : FileTree)
    (tree : Descriptor.DeviceTree) (hints : Hints) :
    Relates R (Assembly.assemble settings files ask tree hints)
      (Assembly.assemble settings files ask' tree hints) := by
  unfold Assembly.assemble
  generalize Assembly.source settings files hints = found
  obtain ⟨source, sourceRemarks⟩ := found
  refine .bind ?_ fun number => ?_
  · unfold Assembly.deviceNumber
    split_ifs
    · refine .bind ?_ fun answer => .pure _
      cases source with
      | directory dir => exact .pure _
      | node => exact (hask _).deviceNumber
    · exact .pure _
  refine .bind ?_ fun vendorName => ?_
  · cases source with
    | directory dir => exact .pure _
    | node => exact (hask _).text _ _
  refine .bind ?_ fun productName => ?_
  · cases source with
    | directory dir => exact .pure _
    | node => exact (hask _).text _ _
  refine .bind ?_ fun active => ?_
  · cases source with
    | directory dir => exact .pure _
    | node => exact (hask _).activeConfiguration
  refine .bind ?_ fun speed => .pure _
  cases source with
  | directory dir => exact .pure _
  | node => exact (hask _).speed

end UsbAccess
