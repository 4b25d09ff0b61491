import Mathlib.Tactic.ByContra
import UsbAccess.Proofs.Course

/-!
# Drivers and their interfaces

A kernel keeps for each interface what it is bound to: its driver, a program, or nothing. A driver
that has been detached for a claim is put back when the claim ends. Where the claim is refused there
is no claim to end, and nothing remembers the driver.

Results:
* `Course.bound`: what an interface is bound to follows from its claim and from whether a claim of
  it was ever refused.
* `driver_back_iff`: when the device is closed, exactly those drivers are back for whose interfaces
  no claim was refused.
-/

namespace UsbAccess

open Claim

/-! ## Bindings -/

/-- What an interface is bound to. -/
inductive Binding where
  | driver
  | program
  | nothing
  deriving DecidableEq, Repr

/-- What interface `n` is bound to after an event. -/
def Binding.after (n : UInt8) (b : Binding) : Event → Binding
  | .answered _ _ (.detach m) (.ok _) => if m = n ∧ b = .driver then .nothing else b
  | .answered _ _ (.claim m) (.ok _) => if m = n ∧ b = .nothing then .program else b
  | .answered _ _ (.release m) (.ok _) => if m = n ∧ b = .program then .nothing else b
  | .answered _ _ (.attach m) (.ok _) => if m = n ∧ b = .nothing then .driver else b
  | _ => b

/-- What interface `n` is bound to after all that has happened. -/
def binding (initial : UInt8 → Binding) (n : UInt8) : List Event → Binding
  | [] => initial n
  | e :: past => (binding initial n past).after n e

/-- The kernel keeps the bindings: it names the program's own driver exactly where a program is
bound, detaches a driver where there is one, and always lets an interface go and puts its driver
back. Claims it may refuse. -/
structure Kernel.KeepsBindings (kernel : Kernel) (initial : UInt8 → Binding) : Prop where
  driver : ∀ events h node n, named? (kernel.answer events h node (.getDriver n)) = some ownDriver ↔
    binding initial n events = .program
  detach : ∀ events h node n, binding initial n events ≠ .program →
    ((kernel.answer events h node (.detach n)).isOk = true ↔ binding initial n events = .driver)
  release : ∀ events h node n, (kernel.answer events h node (.release n)).isOk = true
  attach : ∀ events h node n, (kernel.answer events h node (.attach n)).isOk = true

/-- A claim of interface `n` is refused. -/
def Event.isRefusal (n : UInt8) : Event → Bool
  | .answered _ _ (.claim m) (.error _) => m == n
  | _ => false

/-- A claim of interface `n` was refused. -/
def Refused (n : UInt8) (events : List Event) : Prop :=
  ∃ e ∈ events, e.isRefusal n = true

instance (n : UInt8) (events : List Event) : Decidable (Refused n events) :=
  inferInstanceAs (Decidable (∃ e ∈ events, e.isRefusal n = true))

/-- What an interface with a driver of its own is bound to, by the claim on it: without a claim to
its driver, unless that is lost, and with one to the program, which remembers a driver unless it was
lost. -/
def Bound (lost : Prop) : Option Claim → Binding → Prop
  | none, b => (¬ lost → b = .driver) ∧ (lost → b = .nothing)
  | some claim, b => b = .program ∧ (claim.detached = true ↔ ¬ lost)

/-! ## Events about other interfaces -/

theorem Binding.after_of_not_concerns {n : UInt8} {e : Event} (he : e.concerns n = false)
    (b : Binding) :
    b.after n e = b := by
  unfold Binding.after
  split
  · exact if_neg fun heq => ne_of_beq_false he heq.1
  · exact if_neg fun heq => ne_of_beq_false he heq.1
  · exact if_neg fun heq => ne_of_beq_false he heq.1
  · exact if_neg fun heq => ne_of_beq_false he heq.1
  · rfl

theorem binding_append {n : UInt8} {events : List Event} (initial : UInt8 → Binding)
    (past : List Event) (hapart : Apart n events) :
    binding initial n (events ++ past) = binding initial n past := by
  induction events with
  | nil => rfl
  | cons e rest ih =>
    obtain ⟨he, hrest⟩ := List.forall_mem_cons.1 hapart
    rw [List.cons_append, binding, ih hrest, Binding.after_of_not_concerns he]

theorem refused_append {n : UInt8} {events past : List Event} :
    Refused n (events ++ past) ↔ Refused n events ∨ Refused n past := by
  simp only [Refused, List.mem_append, or_and_right, exists_or]

theorem Apart.not_refused {n : UInt8} {events : List Event} (hapart : Apart n events) :
    ¬ Refused n events := by
  rintro ⟨e, hmem, hrefusal⟩
  have hother := hapart e hmem
  unfold Event.isRefusal at hrefusal
  split at hrefusal
  · exact Bool.false_ne_true (hother.symm.trans hrefusal)
  · cases hrefusal

/-! ## Claims and their ends -/

section

variable {kernel : Kernel} {initial : UInt8 → Binding} {start past events : List Event}
  {h : Handle} {n : UInt8}

/-- Where no program is bound, nothing is bound once a driver has been seen to. -/
theorem Claim.Detaches.binding {detached : Bool} (hdetach : Detaches h n events detached)
    (hkeeps : kernel.KeepsBindings initial) (hhonest : kernel.Honest start (events ++ past))
    (hb : binding initial n (past ++ start) ≠ .program) :
    binding initial n (events ++ past ++ start) = .nothing ∧
      (detached = true ↔ binding initial n (past ++ start) = .driver) := by
  cases hdetach with
  | @own node answer hown =>
    rw [hhonest h node (.getDriver n) answer past (List.suffix_refl _)] at hown
    exact absurd ((hkeeps.driver _ _ _ _).1 hown) hb
  | @other node node' answer answer' hother =>
    have hanswer := hhonest h node' (.detach n) answer' _ (List.suffix_refl _)
    -- asking for the driver leaves the binding as it is
    have hdetached : answer'.isOk = true ↔ binding initial n (past ++ start) = .driver := by
      rw [hanswer]
      exact hkeeps.detach _ _ _ _ hb
    refine ⟨?_, hdetached⟩
    show (binding initial n (past ++ start)).after n (.answered h node' (.detach n) answer') =
      .nothing
    cases answer' with
    | ok reply => exact if_pos ⟨rfl, hdetached.1 rfl⟩
    | error e =>
      have hnone : binding initial n (past ++ start) ≠ .driver :=
        fun heq => Bool.false_ne_true (hdetached.2 heq)
      show binding initial n (past ++ start) = .nothing
      cases hbinding : binding initial n (past ++ start) with
      | driver => exact absurd hbinding hnone
      | program => exact absurd hbinding hb
      | nothing => rfl

/-- What is bound where there is no claim: the driver, unless it is lost. -/
theorem Bound.eq_driver_iff {lost : Prop} {b : Binding} (hbound : Bound lost none b) :
    b = .driver ↔ ¬ lost := by
  refine ⟨fun heq hlost => ?_, hbound.1⟩
  rw [hbound.2 hlost] at heq
  cases heq

theorem Bound.ne_program {lost : Prop} {b : Binding} (hbound : Bound lost none b) :
    b ≠ .program := by
  rintro rfl
  by_cases hlost : lost
  · cases hbound.2 hlost
  · cases hbound.1 hlost

theorem Bound.append {claim : Option Claim} (hapart : Apart n events)
    (hbound : Bound (Refused n past) claim (binding initial n (past ++ start))) :
    Bound (Refused n (events ++ past)) claim (binding initial n (events ++ past ++ start)) := by
  have hrefused : Refused n (events ++ past) = Refused n past := by
    rw [refused_append, or_iff_right (hapart.not_refused)]
  rwa [List.append_assoc, binding_append initial (past ++ start) hapart, hrefused]

theorem Claimless.not_refused (hclaimless : Claimless events) : ¬ Refused n events := by
  rintro ⟨e, hmem, hrefusal⟩
  unfold Event.isRefusal at hrefusal
  split at hrefusal
  · exact hclaimless _ _ _ _ hmem
  · cases hrefusal

/-- A claim after which the interface is claimed remembers the driver unless it was lost before; a
claim that is refused loses it. -/
theorem Claim.Takes.bound {taken : Option Claim} (htake : Takes h n events taken)
    (hkeeps : kernel.KeepsBindings initial) (hhonest : kernel.Honest start (events ++ past))
    (hbound : Bound (Refused n past) none (binding initial n (past ++ start))) :
    Bound (Refused n (events ++ past)) taken (binding initial n (events ++ past ++ start)) := by
  cases htake with
  | @accepted events claim node reply hdetach =>
    have hbefore := hhonest.of_suffix (List.suffix_cons _ (events ++ past))
    obtain ⟨hnothing, hdetached⟩ := hdetach.binding hkeeps hbefore hbound.ne_program
    have hrefused : Refused n (.answered h node (.claim n) (.ok reply) :: events ++ past) ↔
        Refused n past := by
      rw [refused_append, or_iff_right]
      rintro ⟨e, hmem, hrefusal⟩
      rcases List.mem_cons.1 hmem with rfl | hmem
      · cases hrefusal
      · exact hdetach.claimless.not_refused ⟨e, hmem, hrefusal⟩
    refine ⟨if_pos ⟨rfl, hnothing⟩, ?_⟩
    rw [hdetached, hbound.eq_driver_iff, hrefused]
  | @refused events detached node e hdetach =>
    have hbefore := hhonest.of_suffix (List.suffix_cons _ (events ++ past))
    obtain ⟨hnothing, -⟩ := hdetach.binding hkeeps hbefore hbound.ne_program
    have hlost : Refused n (.answered h node (.claim n) (.error e) :: events ++ past) :=
      ⟨_, List.mem_cons_self, beq_self_eq_true n⟩
    exact ⟨fun hkept => absurd hlost hkept, fun _ => hnothing⟩

/-- With the claim goes the binding to the program, and the driver comes back if it is remembered.
-/
theorem Claim.GivesBack.bound {claim : Claim} (hgive : GivesBack h n claim events true)
    (hkeeps : kernel.KeepsBindings initial) (hhonest : kernel.Honest start (events ++ past))
    (hbound : Bound (Refused n past) (some claim) (binding initial n (past ++ start))) :
    Bound (Refused n (events ++ past)) none (binding initial n (events ++ past ++ start)) := by
  obtain ⟨hprogram, hremembers⟩ := hbound
  have hrefused : Refused n (events ++ past) ↔ Refused n past := by
    rw [refused_append, or_iff_right hgive.claimless.not_refused]
  cases hgive with
  | @released node reply hdetached =>
    have hlost : Refused n past := by
      by_contra hkept
      rw [hremembers.2 hkept] at hdetached
      cases hdetached
    refine ⟨fun hkept => absurd (hrefused.2 hlost) hkept, fun _ => ?_⟩
    exact if_pos ⟨rfl, hprogram⟩
  | @attached node node' reply answer hdetached =>
    have hanswer := hhonest h node' (.attach n) answer _ (List.suffix_refl _)
    have hnothing : binding initial n (.answered h node (.release n) (.ok reply) :: past ++ start) =
        .nothing :=
      if_pos ⟨rfl, hprogram⟩
    have hok : answer.isOk = true := by
      rw [hanswer]
      exact hkeeps.attach _ _ _ _
    refine ⟨fun _ => ?_, fun hlost => absurd (hrefused.1 hlost) (hremembers.1 hdetached)⟩
    cases answer with
    | ok reply' => exact if_pos ⟨rfl, hnothing⟩
    | error e => cases hok

theorem Kernel.KeepsBindings.not_refused_release (hkeeps : kernel.KeepsBindings initial)
    (hhonest : kernel.Honest start events) {node : Location} {e : Errno} :
    .answered h node (.release n) (.error e) ∉ events := by
  intro hmem
  obtain ⟨later, earlier, rfl⟩ := List.append_of_mem hmem
  have hanswer := hhonest h node (.release n) (.error e) earlier (List.suffix_append later _)
  have hok := hkeeps.release (earlier ++ start) h node n
  rw [← hanswer] at hok
  cases hok

/-- A kernel that lets every interface go leaves no claim behind. -/
theorem Holding.Stuck.claims_eq_none {a : Holding} (hstuck : a.Stuck past)
    (hopen : a.handle = some h) (hkeeps : kernel.KeepsBindings initial)
    (hhonest : kernel.Honest start past) (n : UInt8) :
    a.claims n = none := by
  rw [← Option.not_isSome_iff_eq_none]
  intro hclaimed
  obtain ⟨node, e, hmem⟩ := hstuck h hopen n hclaimed
  exact hkeeps.not_refused_release hhonest hmem

end

/-! ## Courses -/

/-- What an interface with a driver of its own is bound to, along a course whose answers are the
kernel's. -/
theorem Course.bound {mayForget : Prop} {kernel : Kernel} {initial : UInt8 → Binding}
    {start past : List Event} {a : Holding} {n : UInt8} (hcourse : Course mayForget past a)
    (hkeeps : kernel.KeepsBindings initial)
    (hhonest : kernel.Honest start past) (hdriver : binding initial n start = .driver) :
    Bound (Refused n past) (a.claims n) (binding initial n (past ++ start)) := by
  induction hcourse with
  | start => exact ⟨fun _ => hdriver, fun ⟨_, hmem, _⟩ => absurd hmem List.not_mem_nil⟩
  | @step past events a b hpast hstep ih =>
    have hbefore : kernel.Honest start past := hhonest.of_suffix (List.suffix_append _ _)
    have hbound := ih hbefore
    cases hstep.turn n with
    | aside hhandle hclaims hapart =>
      rw [hclaims]
      exact hbound.append hapart
    | takes hhad hhandle hnone htake hclaims =>
      rw [hnone] at hbound
      rw [hclaims]
      exact htake.bound hkeeps hhonest hbound
    | gives hhad hhandle hclaim hgive hnone =>
      rw [hclaim] at hbound
      rw [hnone]
      exact hgive.bound hkeeps hhonest hbound
    | keeps hhad hhandle hclaim hgive hclaims =>
      obtain ⟨node, e, hmem⟩ := hgive.exists_refused
      exact absurd (List.mem_append_left past hmem) (hkeeps.not_refused_release hhonest)
    | ends hstuck hnone hapart hnew =>
      -- nothing was left that could be forgotten
      have hfree : a.claims n = none := by
        cases hhandle : a.handle with
        | none =>
          rw [hpast.claims_of_closed hhandle]
          rfl
        | some h => exact hstuck.claims_eq_none hhandle hkeeps hbefore n
      rw [hfree] at hbound
      rw [hnone]
      exact hbound.append hapart

/-! ## Runs -/

namespace Device

/-- After any run from a fresh device and its closing, an interface that had its driver at the start
has it again unless a claim of the interface was refused, and then it has none: a claim detaches the
driver before it is refused. -/
theorem driver_back_iff {initial : UInt8 → Binding} {allowed : Operation → Device → Session → Prop}
    {d₀ d : Device} {s₀ s : Session} (hkeeps : s₀.host.kernel.KeepsBindings initial)
    (hfresh : d₀.IsFresh)
    (run : Run allowed d₀ s₀ d s) (n : UInt8)
    (hdriver : binding initial n s₀.host.history = .driver) :
    ∃ events, (d.close s).2.host.history = events ++ s₀.host.history ∧
      (¬ Refused n events → binding initial n (d.close s).2.host.history = .driver) ∧
      (Refused n events → binding initial n (d.close s).2.host.history = .nothing) := by
  have hforget : ∀ op d s, allowed op d s → op.FailsReopening d (op.perform d s).1.1 → True :=
    fun _ _ _ _ _ => trivial
  obtain ⟨earlier, hearlier, hcourse⟩ := run.course hfresh hforget
  obtain ⟨later, hlater, -, hyield⟩ := Asks.close d s
  have hclosed : Course True (later ++ earlier) Holding.empty := hyield.leads_empty _ hcourse
  have hevolves := hearlier.trans hlater
  refine ⟨later ++ earlier, hevolves.history, ?_⟩
  rw [hevolves.history]
  exact hclosed.bound hkeeps hevolves.honest hdriver

end Device

/-- A kernel that keeps the bindings and refuses to let the interfaces that `refuses` tells be
claimed. -/
def bindingKernel (initial : UInt8 → Binding) (refuses : UInt8 → Bool) : Kernel where
  answer events _ _ request :=
    match request with
    | .getDriver n =>
      match binding initial n events with
      | .driver => .ok ⟨0, Text.Utf8.bytes "usbhid"⟩
      | .program => .ok ⟨0, Text.Utf8.bytes ownDriver⟩
      | .nothing => .error .noData
    | .detach n => if binding initial n events = .driver then .ok ⟨0, []⟩ else .error .noData
    | .claim n => if refuses n then .error ⟨16⟩ else .ok ⟨0, []⟩
    | _ => .ok ⟨0, []⟩
  delays _ _ _ _ := false

theorem bindingKernel_keepsBindings (initial : UInt8 → Binding) (refuses : UInt8 → Bool) :
    (bindingKernel initial refuses).KeepsBindings initial where
  driver events h node n := by
    have hdriver : named? (.ok ⟨0, Text.Utf8.bytes "usbhid"⟩) ≠ some ownDriver := by decide +kernel
    have hprogram : named? (.ok ⟨0, Text.Utf8.bytes ownDriver⟩) = some ownDriver := by
      decide +kernel
    show named? (match binding initial n events with
      | .driver => .ok ⟨0, Text.Utf8.bytes "usbhid"⟩
      | .program => .ok ⟨0, Text.Utf8.bytes ownDriver⟩
      | .nothing => .error .noData) = some ownDriver ↔ _
    cases binding initial n events with
    | driver => exact iff_of_false hdriver (by decide)
    | program => exact iff_of_true hprogram rfl
    | nothing => exact iff_of_false (fun heq => by cases heq) (by decide)
  detach events h node n _ := by
    show (if binding initial n events = .driver then Except.ok (⟨0, []⟩ : Reply)
      else .error Errno.noData).isOk = true ↔ _
    split_ifs with hdriver
    · exact iff_of_true rfl hdriver
    · exact iff_of_false Bool.false_ne_true hdriver
  release _ _ _ _ := rfl
  attach _ _ _ _ := rfl

/-- The kernel where both interfaces of the small device have a driver and interface 1 may not be
claimed. -/
def refusingKernel : Kernel := bindingKernel (fun _ => .driver) fun n => n == 1

/-- What becomes of the small device when interface 1 has been asked for after interface 0. -/
def smallRefused : Device.Outcome Unit × Session :=
  (Device.Operation.claimInterface 1).perform (smallClaimed refusingKernel).1.2
    (smallClaimed refusingKernel).2

/-- When the small device is closed, the driver of interface 0 is back, and interface 1 stays
without. -/
theorem driver_back_iff_smallDevice :
    let history := (smallRefused.1.2.close smallRefused.2).2.host.history
    binding (fun _ => .driver) 0 history = .driver ∧
      binding (fun _ => .driver) 1 history = .nothing := by
  intro history
  have hkeeps : refusingKernel.KeepsBindings fun _ => .driver := bindingKernel_keepsBindings _ _
  have hrun : Device.Run (fun _ _ _ => True) smallDevice
      (smallSession refusingKernel) smallRefused.1.2
      smallRefused.2 := by
    unfold smallRefused
    exact .operation (.claimInterface 1) (.smallClaimed trivial trivial) trivial
  obtain ⟨events, hhistory, hback, -⟩ := Device.driver_back_iff hkeeps ⟨rfl, rfl⟩ hrun 0 rfl
  obtain ⟨events', hhistory', -, hlost⟩ := Device.driver_back_iff hkeeps ⟨rfl, rfl⟩ hrun 1 rfl
  have hevents : events = history := (List.append_nil events).symm.trans hhistory.symm
  have hevents' : events' = history := (List.append_nil events').symm.trans hhistory'.symm
  have hkept : ¬ Refused 0 history := by decide +kernel
  have hrefused : Refused 1 history := by decide +kernel
  exact ⟨hback (hevents ▸ hkept), hlost (hevents' ▸ hrefused)⟩

end UsbAccess
