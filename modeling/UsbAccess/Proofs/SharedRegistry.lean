import Mathlib
import UsbAccess.Proofs.Membership

/-!
# Registries shared by threads

Threads that share a registry take turns at its lock, and a closing takes two turns: in the first
the devices are counted, in the second, if there were none, the signal is fired. Other threads may
register a device in between, and nothing looks at the count again, so that the signal may fire
while a device is registered. All the same a closing has the effect that it would have had in one go
when the devices were counted.

Results:
* `Shared.Sound.step`: every turn of every thread leaves the registry with the tokens of the live
  registrations.
* `Shared.Runs.fresh_of_few`: each registration gets a new token, up to their number.
* `Shared.Runs.fired_iff`: the signal has fired just if a thread has fired it.
* `Shared.fires_as_of_read`: what has been counted before a signal fires, and what may have been
  registered since.
-/

namespace UsbAccess

/-- A registry that threads share, the tokens of the registrations that are live, and what each
thread that is about to close has counted. -/
structure Shared where
  registry : Registry
  live : List UInt64
  counted : ℕ → Option ℕ

namespace Shared

/-- What a thread does in one turn. -/
inductive Act where
  | register (token : UInt64)
  | drop (token : UInt64)
  /-- The first turn of a closing. -/
  | read
  /-- The second turn of a closing, if no device was counted. -/
  | fire
  /-- The second turn of a closing, if devices were counted. -/
  | refuse
  deriving DecidableEq, Repr

/-- A new registry, which no thread has used. -/
def start (settings : Settings) : Shared := ⟨.new settings, [], fun _ => none⟩

/-- A turn of thread `t`, which registers and drops only when it is not about to close. -/
inductive Step (t : ℕ) (s : Shared) : Act → Shared → Prop
  | register (hidle : s.counted t = none) (hfresh : s.registry.next ∉ s.registry.tokens) :
      Step t s (.register s.registry.join.1)
        { s with registry := s.registry.join.2, live := s.live ++ [s.registry.join.1] }
  | drop {token : UInt64} (hidle : s.counted t = none) (hlive : token ∈ s.live) :
      Step t s (.drop token) { s with
        registry := s.registry.leave token, live := s.live.erase token }
  | read (hidle : s.counted t = none) :
      Step t s .read { s with counted := Function.update s.counted t (some s.registry.openCount) }
  | fire (hnone : s.counted t = some 0) :
      Step t s .fire
        { s with
          registry := { s.registry with signal := s.registry.signal.fire }
          counted := Function.update s.counted t none }
  | refuse {n : ℕ} (hsome : s.counted t = some (n + 1)) :
      Step t s .refuse { s with counted := Function.update s.counted t none }

/-- Turns of any threads, the latest first. -/
inductive Runs (s₀ : Shared) : List (ℕ × Act) → Shared → Prop
  | start : Runs s₀ [] s₀
  | step {log : List (ℕ × Act)} {s s' : Shared} {t : ℕ} {act : Act} (hrun : Runs s₀ log s)
      (hstep : Step t s act s') : Runs s₀ ((t, act) :: log) s'

variable {s₀ s s' s₁ s₂ : Shared} {t u : ℕ} {act : Act} {log : List (ℕ × Act)} {settings : Settings}

/-! ## What the registry counts -/

/-- The registry has the tokens of the live registrations, each once. -/
structure Sound (s : Shared) : Prop where
  members : s.live.Perm s.registry.tokens
  distinct : s.live.Nodup

theorem Sound.start (settings : Settings) : (start settings).Sound := ⟨.refl _, .nil⟩

theorem Sound.step (hs : s.Sound) (hstep : Step t s act s') : s'.Sound := by
  cases hstep with
  | register hidle hfresh =>
    have htokens : s.registry.join.2.tokens = s.registry.next :: s.registry.tokens := if_neg hfresh
    have hnew : s.registry.next ∉ s.live := fun hmem => hfresh (hs.members.mem_iff.1 hmem)
    constructor
    · show (s.live ++ [s.registry.next]).Perm s.registry.join.2.tokens
      rw [htokens]
      exact (List.perm_append_singleton _ _).trans (hs.members.cons _)
    · show (s.live ++ [s.registry.next]).Nodup
      exact List.nodup_append.2 ⟨hs.distinct, List.nodup_singleton _, by
        intro a ha b hb heq
        rw [List.mem_singleton.1 hb] at heq
        exact hnew (heq ▸ ha)⟩
  | @drop token hidle hlive =>
    constructor
    · have hfilter : s.live.erase token = s.live.filter fun t => t ≠ token := by
        rw [hs.distinct.erase_eq_filter]
        apply List.filter_congr
        intro t _
        rw [bne, Bool.eq_iff_iff]
        simp
      show (s.live.erase token).Perm (s.registry.tokens.filter fun t => t ≠ token)
      rw [hfilter]
      exact hs.members.filter _
    · exact hs.distinct.erase token
  | read => exact ⟨hs.members, hs.distinct⟩
  | fire => exact ⟨hs.members, hs.distinct⟩
  | refuse => exact ⟨hs.members, hs.distinct⟩

theorem Runs.sound (hrun : Runs s₀ log s) (hs₀ : s₀.Sound) : s.Sound := by
  induction hrun with
  | start => exact hs₀
  | step _ hstep ih => exact ih.step hstep

theorem Sound.openCount (hs : s.Sound) : s.registry.openCount = s.live.length :=
  hs.members.length_eq.symm

/-- How many registrations have been made in these turns. -/
def registered (log : List (ℕ × Act)) : ℕ := log.countP fun entry => entry.2 matches .register _

theorem Step.holds {n : ℕ} (hstep : Step t s act s') (hs : s.registry.Holds n s.live)
    (hn : n + registered [(t, act)] < 2 ^ 64) :
    s'.registry.Holds (n + registered [(t, act)]) s'.live := by
  cases hstep with
  | register => exact hs.join hn
  | @drop token hidle hlive =>
    obtain ⟨front, rest, -, hsplit, herase⟩ := List.exists_erase_eq hlive
    show (s.registry.leave token).Holds n (s.live.erase token)
    rw [herase]
    exact (hsplit ▸ hs).leave
  | read => exact hs
  | fire => exact ⟨hs.members, hs.distinct, hs.earlier, hs.next⟩
  | refuse => exact hs

theorem Runs.holds (hrun : Runs (.start settings) log s) (hfew : registered log < 2 ^ 64) :
    s.registry.Holds (registered log) s.live := by
  induction hrun with
  | start => exact .new settings
  | @step log s s' t act _ hstep ih =>
    have hcons : registered ((t, act) :: log) = registered log + registered [(t, act)] := by
      rw [registered, registered, registered, ← List.singleton_append, List.countP_append,
        Nat.add_comm]
    rw [hcons] at hfew ⊢
    exact hstep.holds (ih (by omega)) hfew

/-- Each registration gets a new token, as long as fewer have been made than there are tokens. -/
theorem Runs.fresh_of_few (hrun : Runs (.start settings) log s) (hfew : registered log < 2 ^ 64) :
    s.registry.next ∉ s.registry.tokens := by
  have hholds := hrun.holds hfew
  intro hmem
  have hearlier := hholds.earlier _ (hholds.members.mem_iff.2 hmem)
  rw [hholds.next] at hearlier
  exact lt_irrefl _ hearlier

/-- The signal has fired just if a thread has fired it. -/
theorem Runs.fired_iff (hrun : Runs (.start settings) log s) :
    s.registry.signal.fired = true ↔ ∃ t, (t, Act.fire) ∈ log := by
  induction hrun with
  | start => simp [Shared.start, Registry.new, Signal.new]
  | @step log s s' t act _ hstep ih =>
    cases hstep with
    | fire => exact ⟨fun _ => ⟨t, List.mem_cons_self⟩, fun _ => rfl⟩
    | register => simpa [Registry.join] using ih
    | drop => simpa [Registry.leave] using ih
    | read => simpa using ih
    | refuse => simpa using ih

/-! ## Closings -/

/-- The other threads leave alone what a thread has counted. -/
theorem Step.counted_of_ne (hstep : Step u s act s') (hne : u ≠ t) :
    s'.counted t = s.counted t := by
  cases hstep with
  | register => rfl
  | drop => rfl
  | read => exact Function.update_of_ne hne.symm _ _
  | fire => exact Function.update_of_ne hne.symm _ _
  | refuse => exact Function.update_of_ne hne.symm _ _

/-- A thread that has counted devices has done so in its latest turn. -/
theorem Step.act_of_counted {n : ℕ} (hstep : Step t s act s') (hcounted : s'.counted t = some n) :
    act = .read ∧ s.registry.openCount = n := by
  cases hstep with
  | read =>
    simp only [Function.update_self, Option.some.injEq] at hcounted
    exact ⟨rfl, hcounted⟩
  | register hidle => exact absurd (hidle.symm.trans hcounted) (by simp)
  | drop hidle => exact absurd (hidle.symm.trans hcounted) (by simp)
  | fire => simp at hcounted
  | refuse => simp at hcounted

/-- What is live after a turn was live before it or has been registered in it. -/
theorem Step.mem_live (hstep : Step t s act s') {token : UInt64} (hlive : token ∈ s'.live) :
    token ∈ s.live ∨ act = .register token := by
  cases hstep with
  | register =>
    obtain hold | hnew := List.mem_append.1 hlive
    · exact .inl hold
    · rw [List.mem_singleton.1 hnew]
      exact .inr rfl
  | drop => exact .inl (List.mem_of_mem_erase hlive)
  | read => exact .inl hlive
  | fire => exact .inl hlive
  | refuse => exact .inl hlive

theorem Runs.mem_live (hrun : Runs s₀ log s) {token : UInt64} (hlive : token ∈ s.live) :
    token ∈ s₀.live ∨ ∃ u, (u, Act.register token) ∈ log := by
  induction hrun with
  | start => exact .inl hlive
  | @step log s s' t act _ hstep ih =>
    obtain hold | rfl := hstep.mem_live hlive
    · obtain hfirst | ⟨u, hu⟩ := ih hold
      · exact .inl hfirst
      · exact .inr ⟨u, List.mem_cons_of_mem _ hu⟩
    · exact .inr ⟨t, List.mem_cons_self⟩

/-- Before a thread is about to close, it has counted the devices, and has done nothing since. -/
theorem Runs.exists_read {n : ℕ} (hrun : Runs s₀ log s) (hs₀ : s₀.counted t = none)
    (hcounted : s.counted t = some n) :
    ∃ later earlier s₁ s₂, log = later ++ (t, .read) :: earlier ∧ (∀ act, (t, act) ∉ later) ∧
      Runs s₀ earlier s₁ ∧ s₁.registry.openCount = n ∧ Step t s₁ .read s₂ ∧ Runs s₂ later s := by
  induction hrun with
  | start => exact absurd (hs₀.symm.trans hcounted) (by simp)
  | @step log s s' u act hrun hstep ih =>
    by_cases hu : u = t
    · subst hu
      obtain ⟨rfl, hopen⟩ := hstep.act_of_counted hcounted
      exact ⟨[], log, s, s', rfl, by simp, hrun, hopen, hstep, .start⟩
    · rw [hstep.counted_of_ne hu] at hcounted
      obtain ⟨later, earlier, s₁, s₂, rfl, hidle, hearlier, hopen, hread, hlater⟩ := ih hcounted
      refine ⟨(u, act) :: later, earlier, s₁, s₂, rfl, ?_, hearlier, hopen, hread,
        hlater.step hstep⟩
      intro act' hmem
      obtain heq | hmem := List.mem_cons.1 hmem
      · exact hu (Prod.mk.inj heq).1.symm
      · exact hidle act' hmem

/-- A signal may as well be fired before a turn of another thread. -/
theorem Step.swap_fire (hstep : Step u s act s₁) (hfire : Step t s₁ .fire s') (hne : u ≠ t) :
    ∃ s₂, Step t s .fire s₂ ∧ Step u s₂ act s' := by
  have hnone : s.counted t = some 0 := by
    rw [← hstep.counted_of_ne hne]
    cases hfire
    assumption
  refine ⟨_, .fire hnone, ?_⟩
  have hkeeps : Function.update s.counted t none u = s.counted u := Function.update_of_ne hne _ _
  cases hfire
  cases hstep with
  | register hidle hfresh => exact .register (hkeeps.trans hidle) hfresh
  | drop hidle hlive => exact .drop (hkeeps.trans hidle) hlive
  | read hidle =>
    rw [Function.update_comm hne]
    exact .read (hkeeps.trans hidle)
  | fire hother =>
    rw [Function.update_comm hne]
    exact .fire (hkeeps.trans hother)
  | refuse hother =>
    rw [Function.update_comm hne]
    exact .refuse (hkeeps.trans hother)

/-- A thread that does nothing for a while and fires then may as well fire at once. -/
theorem Runs.fire_first (hrun : Runs s₀ log s) (hidle : ∀ act, (t, act) ∉ log)
    (hfire : Step t s .fire s') :
    ∃ s₁, Step t s₀ .fire s₁ ∧ Runs s₁ log s' := by
  induction hrun generalizing s' with
  | start => exact ⟨s', hfire, .start⟩
  | @step log s s₂ u act _ hstep ih =>
    have hne : u ≠ t := by
      rintro rfl
      exact hidle act List.mem_cons_self
    obtain ⟨s₃, hfirst, hthen⟩ := hstep.swap_fire hfire hne
    obtain ⟨s₁, hs₁, hlater⟩ := ih (fun act hmem => hidle act (List.mem_cons_of_mem _ hmem)) hfirst
    exact ⟨s₁, hs₁, hlater.step hthen⟩

/-- A closing in which no other thread takes a turn closes the registry. -/
theorem Step.close_of_read (hread : Step t s .read s₁) (hfire : Step t s₁ .fire s₂) :
    s.registry.close = .ok s₂.registry ∧ s₂.live = s.live := by
  cases hread
  cases hfire with
  | fire hnone =>
    simp only [Function.update_self, Option.some.injEq] at hnone
    refine ⟨if_neg ?_, rfl⟩
    rw [hnone]
    exact lt_irrefl 0

/-- The signal fires only after the thread that fires it has counted no devices, and no registration
was live then; those that are live when it fires have all been made since. From there the run goes
on as if the registry had been closed in one go when the devices were counted. -/
theorem fires_as_of_read (hrun : Runs (.start settings) log s) (hfire : Step t s .fire s') :
    ∃ later earlier s₁ s₂, log = later ++ (t, .read) :: earlier ∧ (∀ act, (t, act) ∉ later) ∧
      Runs (.start settings) earlier s₁ ∧ s₁.live = [] ∧
      (∀ token ∈ s.live, ∃ u, (u, Act.register token) ∈ later) ∧
      s₁.registry.close = .ok s₂.registry ∧ s₂.live = [] ∧ Runs s₂ later s' := by
  have hnone : s.counted t = some 0 := by
    cases hfire
    assumption
  obtain ⟨later, earlier, s₁, s₂, hlog, hidle, hearlier, hopen, hread, hlater⟩ :=
    hrun.exists_read rfl hnone
  have hempty : s₁.live = [] := by
    rw [← List.length_eq_zero_iff, ← (hearlier.sound (.start settings)).openCount]
    exact hopen
  obtain ⟨s₃, hclosed, hagain⟩ := hlater.fire_first hidle hfire
  obtain ⟨hclose, hlive⟩ := hread.close_of_read hclosed
  refine ⟨later, earlier, s₁, s₃, hlog, hidle, hearlier, hempty, ?_, hclose,
    hlive.trans hempty, hagain⟩
  intro token htoken
  obtain hbefore | hsince := hlater.mem_live htoken
  · cases hread
    change token ∈ s₁.live at hbefore
    rw [hempty] at hbefore
    cases hbefore
  · exact hsince

/-! ## A closing that is interrupted -/

/-- Thread 0 counts no devices, and then thread 1 registers one. -/
theorem runs_interrupted :
    ∃ s s', Runs (.start smallSettings) [(1, .register 0), (0, .read)] s ∧
      Step 0 s .fire s' ∧ s.live = [0] := by
  have hread : Step 0 (.start smallSettings) .read _ := .read rfl
  exact ⟨_, _, (Runs.start.step hread).step (.register rfl List.not_mem_nil), .fire rfl, rfl⟩

/-- So the signal fires while a registration is live. -/
theorem not_idle_when_fired :
    ¬ ∀ (settings : Settings) (log : List (ℕ × Act)) (s s' : Shared) (t : ℕ),
      Runs (.start settings) log s → Step t s .fire s' → s.live = [] := by
  intro hidle
  obtain ⟨s, s', hrun, hfire, hlive⟩ := runs_interrupted
  rw [hidle _ _ _ _ _ hrun hfire] at hlive
  cases hlive

/-- The registration that is live then has been made after the devices were counted, and the run
ends as if it had been made after the registry was closed. -/
theorem fires_as_of_read_interrupted :
    ∃ s s' s₂, Runs (.start smallSettings) [(1, .register 0), (0, .read)] s ∧
      Step 0 s .fire s' ∧ s.live = [0] ∧ (Registry.new smallSettings).close = .ok s₂.registry ∧
      Runs s₂ [(1, .register 0)] s' := by
  obtain ⟨s, s', hrun, hfire, hlive⟩ := runs_interrupted
  obtain ⟨later, earlier, s₁, s₂, hlog, -, hearlier, -, hsince, hclose, -, hlater⟩ :=
    fires_as_of_read hrun hfire
  obtain ⟨u, hu⟩ := hsince 0 (by simp [hlive])
  obtain ⟨entry, rest, rfl⟩ := List.exists_cons_of_ne_nil (List.ne_nil_of_mem hu)
  rw [List.cons_append, List.cons.injEq] at hlog
  obtain ⟨rfl, hlog⟩ := hlog
  obtain ⟨rfl, rfl⟩ : rest = [] ∧ earlier = [] := by
    cases rest with
    | nil => simpa using hlog
    | cons entry rest => simp at hlog
  cases hearlier
  exact ⟨s, s', s₂, hrun, hfire, hlive, hclose, hlater⟩

end Shared

end UsbAccess
