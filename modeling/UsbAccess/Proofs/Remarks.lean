import Mathlib
import UsbAccess.Assembly.Build

/-!
# What remarks are about

While a device is put together a remark is made on each part that cannot be told, and each remark
names its part. A remark that names a part is therefore one that was made when this part was asked
for.

Results:
* `Remark.topic_of_mem_note`: a remark is about the part that could not be told.
* `Placement.topic_of_mem_remarks`, `Assembly.topic_of_mem_active` and the others: what each remark
  on a device is about.
-/

namespace UsbAccess

theorem Remark.topic_of_mem_note {α : Type} {topic : Topic} {found : Except Error α} {r : Remark}
    (hr : r ∈ (note topic found).2) : r.topic = topic := by
  cases found with
  | ok a => cases hr
  | error e => rw [List.mem_singleton.1 hr]

theorem Placement.topic_of_mem_remarks {tree : Descriptor.DeviceTree} {r : Remark}
    (hr : r ∈ remarks tree) :
    r.topic = .interface ∨ r.topic = .configuration := by
  obtain ⟨c, -, hc⟩ := List.mem_flatMap.1 hr
  split_ifs at hc
  · obtain ⟨i, -, rfl⟩ := List.mem_map.1 hc
    exact .inl rfl
  · rw [List.mem_singleton.1 hc]
    exact .inr rfl

namespace Assembly

theorem topic_of_mem_active {count : ℕ} {value : Except Error UInt8} {r : Remark}
    (hr : r ∈ (active count value).2) : r.topic = .activeConfiguration := by
  have hremarks : (active count value).2 = [] ∨ ∃ message,
      (active count value).2 = [⟨.activeConfiguration, message⟩] := by
    unfold active
    cases value with
    | ok v =>
      by_cases hrange : 1 ≤ v.toNat ∧ v.toNat ≤ count
      · exact .inl (by simp [hrange])
      · exact .inr ⟨_, by simp only [if_neg hrange]; rfl⟩
    | error e => exact .inr ⟨_, rfl⟩
  rcases hremarks with hnone | ⟨message, hone⟩
  · rw [hnone] at hr
    cases hr
  · rw [hone] at hr
    rw [List.mem_singleton.1 hr]

theorem topic_of_mem_source {settings : Settings} {files : FileTree} {hints : Hints} {r : Remark}
    (hr : r ∈ (source settings files hints).2) : r.topic = .directory := by
  unfold source at hr
  split at hr
  · cases hr
  · split at hr
    · cases hr
    · rw [List.mem_singleton.1 hr]

theorem topic_of_mem_deviceNumber {σ : Type} {files : FileTree} {source : Source} {ask : Inquiry σ}
    {hint : UInt8} {s : σ} {r : Remark} (hr : r ∈ (deviceNumber files source ask hint s).1.2) :
    r.topic = .deviceNumber := by
  unfold deviceNumber at hr
  split_ifs at hr
  · exact Remark.topic_of_mem_note hr
  · cases hr

theorem topic_of_mem_busNumber {files : FileTree} {source : Source} {hint : UInt8} {r : Remark}
    (hr : r ∈ (busNumber files source hint).2) : r.topic = .busNumber := by
  unfold busNumber at hr
  split_ifs at hr
  · exact Remark.topic_of_mem_note hr
  · cases hr

theorem topic_of_mem_upstream {files : FileTree} {source : Source} {r : Remark}
    (hr : r ∈ (upstream files source).2) : r.topic = .parent := by
  cases source with
  | node => cases hr
  | directory dir =>
    rcases List.mem_append.1 hr with h | h
    · exact Remark.topic_of_mem_note h
    · exact Remark.topic_of_mem_note h

end Assembly

end UsbAccess
