import UsbAccess.Proofs.Run
import UsbAccess.Proofs.Trace

/-!
# The course of what is held

Of a device only its handle and its claims bear on what it may ask next about interfaces. What a run
makes of them is a course of few kinds of steps, each with its events; what holds along every
course, holds along every run.

Results:
* `Course.of_surrenders`: claims given up one after another are steps of a course.
* `Transition.turn`: what a step is for a single interface.
* `Asks.perform`: what an operation asks leads from what is held to what is held after it.
* `Run.course`: a run from a fresh device follows a course.
-/

namespace UsbAccess

/-! ## Courses -/

/-- The event is neither a request to claim or to release an interface, nor one about its driver's
place. -/
def Event.isIdle : Event → Bool
  | .answered _ _ (.claim _) _ => false
  | .answered _ _ (.release _) _ => false
  | .answered _ _ (.detach _) _ => false
  | .answered _ _ (.attach _) _ => false
  | _ => true

/-- All events are idle. -/
def Idle (events : List Event) : Prop := ∀ e ∈ events, e.isIdle = true

theorem Idle.nil : Idle [] := fun _ hmem => nomatch hmem

theorem Idle.cons {e : Event} {events : List Event} (he : e.isIdle = true) (hevents : Idle events) :
    Idle (e :: events) :=
  List.forall_mem_cons.2 ⟨he, hevents⟩

theorem Idle.append {earlier later : List Event} (hlater : Idle later) (hearlier : Idle earlier) :
    Idle (later ++ earlier) :=
  List.forall_mem_append.2 ⟨hlater, hearlier⟩

/-- What is held of a device: a handle on its node, and claims. -/
structure Holding where
  handle : Option Handle
  claims : Claims

/-- What is held of a device. -/
def Device.holding (d : Device) : Holding := ⟨d.handle, d.claims⟩

namespace Holding

/-- No handle and no claims. -/
def empty : Holding := ⟨none, Claims.none⟩

/-- Whatever is still claimed, the kernel has refused to release before. -/
def Stuck (past : List Event) (a : Holding) : Prop :=
  ∀ h, a.handle = some h → ∀ n, (a.claims n).isSome = true →
    ∃ node e, .answered h node (.release n) (.error e) ∈ past

end Holding

open Claim Holding

/-- One step, after what is past: its events, and what is held before and after it. Claims may be
forgotten while the handle is kept only if `mayForget`. -/
inductive Transition (mayForget : Prop) (past : List Event) : Holding → List Event → Holding → Prop
  | idle {a : Holding} {e : Event} (hidle : e.isIdle = true) : Transition mayForget past a [e] a
  | takes {claims : Claims} {h : Handle} {n : UInt8} {events : List Event} {claim : Claim}
      (hfree : claims n = none) (htake : Takes h n events (some claim)) :
      Transition mayForget past ⟨some h, claims⟩ events ⟨some h, claims.insert n claim⟩
  | fails {claims : Claims} {h : Handle} {n : UInt8} {events : List Event}
      (hfree : claims n = none) (htake : Takes h n events none) :
      Transition mayForget past ⟨some h, claims⟩ events ⟨some h, claims⟩
  | gives {claims : Claims} {h : Handle} {n : UInt8} {events : List Event} {claim : Claim}
      (hclaim : claims n = some claim) (hgive : GivesBack h n claim events true) :
      Transition mayForget past ⟨some h, claims⟩ events ⟨some h, claims.erase n⟩
  | keeps {claims : Claims} {h : Handle} {n : UInt8} {events : List Event} {claim : Claim}
      (hclaim : claims n = some claim) (hgive : GivesBack h n claim events false) :
      Transition mayForget past ⟨some h, claims⟩ events ⟨some h, claims⟩
  | opens {a : Holding} (h : Handle) (hstuck : a.Stuck past) :
      Transition mayForget past a [.opened h] ⟨some h, Claims.none⟩
  | closes {a : Holding} (hstuck : a.Stuck past) : Transition mayForget past a [] Holding.empty
  | forgets {a : Holding} (hforget : mayForget) (hstuck : a.Stuck past) :
      Transition mayForget past a [] ⟨a.handle, Claims.none⟩

/-- What is held after events, from nothing on. -/
inductive Course (mayForget : Prop) : List Event → Holding → Prop
  | start : Course mayForget [] Holding.empty
  | step {past events : List Event} {a b : Holding} (hpast : Course mayForget past a)
      (hstep : Transition mayForget past a events b) : Course mayForget (events ++ past) b

namespace Course

variable {mayForget : Prop} {past : List Event}

theorem claims_of_closed {a : Holding} (hcourse : Course mayForget past a)
    (hclosed : a.handle = none) :
    a.claims = Claims.none := by
  induction hcourse with
  | start => rfl
  | step _ hstep ih =>
    cases hstep with
    | idle => exact ih hclosed
    | opens | closes | forgets => rfl
    | takes | fails | gives | keeps => cases hclosed

theorem of_idle {a : Holding} {events : List Event} (hcourse : Course mayForget past a)
    (hidle : Idle events) : Course mayForget (events ++ past) a := by
  induction events with
  | nil => exact hcourse
  | cons e rest ih =>
    have hrest := ih fun e he => hidle e (List.mem_cons_of_mem _ he)
    exact hrest.step (.idle (hidle e List.mem_cons_self))

/-- What is claimed after claims have been given up was claimed before, and the kernel has refused
to release it. -/
theorem of_surrenders {h : Handle} {claims : Claims} {given : List (UInt8 × Claim)}
    {events : List Event} (hcourse : Course mayForget past ⟨some h, claims⟩)
    (hgiven : (given.map Prod.fst).Nodup)
    (hclaims : ∀ p ∈ given, claims p.1 = some p.2) (hsurrender : Surrenders h given events) :
    ∃ left, Course mayForget (events ++ past) ⟨some h, left⟩ ∧
      ∀ n, (left n).isSome = true → (claims n).isSome = true ∧
        (n ∈ given.map Prod.fst → ∃ node e, .answered h node (.release n) (.error e) ∈ events) := by
  induction hsurrender generalizing past claims with
  | nil => exact ⟨claims, hcourse, fun n hn => ⟨hn, by simp⟩⟩
  | @cons m claim rest earlier later accepted hfirst _ ih =>
    rw [List.map_cons, List.nodup_cons] at hgiven
    have hclaim : claims m = some claim := hclaims _ List.mem_cons_self
    have hrest : ∀ p ∈ rest, claims p.1 = some p.2 :=
      fun p hp => hclaims p (List.mem_cons_of_mem _ hp)
    rw [List.append_assoc]
    cases accepted with
    | false =>
      obtain ⟨left, hleft, hstuck⟩ := ih (hcourse.step (.keeps hclaim hfirst)) hgiven.2 hrest
      refine ⟨left, hleft, fun n hn => ⟨(hstuck n hn).1, fun hmem => ?_⟩⟩
      rcases List.mem_cons.1 hmem with rfl | hmem
      · obtain ⟨node, e, he⟩ := hfirst.exists_refused
        exact ⟨node, e, List.mem_append_right _ he⟩
      · obtain ⟨node, e, he⟩ := (hstuck n hn).2 hmem
        exact ⟨node, e, List.mem_append_left _ he⟩
    | true =>
      have hkept : ∀ p ∈ rest, claims.erase m p.1 = some p.2 := by
        intro p hp
        have hne : p.1 ≠ m := by
          rintro rfl
          exact hgiven.1 (List.mem_map.2 ⟨p, hp, rfl⟩)
        rw [Claims.erase_of_ne hne]
        exact hrest p hp
      obtain ⟨left, hleft, hstuck⟩ := ih (hcourse.step (.gives hclaim hfirst)) hgiven.2 hkept
      refine ⟨left, hleft, fun n hn => ?_⟩
      obtain ⟨hclaimed, hrefused⟩ := hstuck n hn
      have hne : n ≠ m := by
        rintro rfl
        simp [Claims.erase_self] at hclaimed
      rw [Claims.erase_of_ne hne] at hclaimed
      refine ⟨hclaimed, fun hmem => ?_⟩
      obtain ⟨node, e, he⟩ := hrefused ((List.mem_cons.1 hmem).resolve_left hne)
      exact ⟨node, e, List.mem_append_left _ he⟩

end Course

/-! ## A single interface -/

/-- The event is about what interface `n` is bound to. -/
def Event.concerns (n : UInt8) : Event → Bool
  | .answered _ _ (.claim m) _ => m == n
  | .answered _ _ (.release m) _ => m == n
  | .answered _ _ (.detach m) _ => m == n
  | .answered _ _ (.attach m) _ => m == n
  | _ => false

/-- No event is about what interface `n` is bound to. -/
def Apart (n : UInt8) (events : List Event) : Prop := ∀ e ∈ events, e.concerns n = false

theorem Idle.apart {events : List Event} (hidle : Idle events) (n : UInt8) : Apart n events := by
  intro e he
  have hnothing := hidle e he
  unfold Event.isIdle at hnothing
  unfold Event.concerns
  split at hnothing <;> simp_all

theorem Apart.opened (n : UInt8) (h : Handle) : Apart n [.opened h] :=
  List.forall_mem_singleton.2 rfl

theorem Claim.Takes.apart {h : Handle} {n m : UInt8} {events : List Event} {taken : Option Claim}
    (htake : Takes h m events taken) (hne : n ≠ m) : Apart n events :=
  htake.forall_mem (fun _ _ => rfl) (fun _ _ => beq_false_of_ne hne.symm) fun _ _ _ =>
    beq_false_of_ne hne.symm

theorem Claim.GivesBack.apart {h : Handle} {n m : UInt8} {claim : Claim} {events : List Event}
    {given : Bool} (hgive : GivesBack h m claim events given) (hne : n ≠ m) : Apart n events :=
  hgive.forall_mem (fun _ _ _ => beq_false_of_ne hne.symm) fun _ _ => beq_false_of_ne hne.symm

/-- One step as interface `n` sees it: it stands apart, it is to be claimed or released itself, or
its claim ends with the handle or is forgotten. -/
inductive Turn (mayForget : Prop) (n : UInt8) (past : List Event) (a : Holding)
    (events : List Event) (b : Holding) : Prop
  | aside (hhandle : b.handle = a.handle) (hclaims : b.claims n = a.claims n)
      (hapart : Apart n events)
  | takes {h : Handle} {taken : Option Claim} (hopen : a.handle = some h)
      (hhandle : b.handle = a.handle) (hfree : a.claims n = none) (htake : Takes h n events taken)
      (hclaims : b.claims n = taken)
  | gives {h : Handle} {claim : Claim} (hopen : a.handle = some h) (hhandle : b.handle = a.handle)
      (hclaim : a.claims n = some claim) (hgive : GivesBack h n claim events true)
      (hfree : b.claims n = none)
  | keeps {h : Handle} {claim : Claim} (hopen : a.handle = some h) (hhandle : b.handle = a.handle)
      (hclaim : a.claims n = some claim) (hgive : GivesBack h n claim events false)
      (hclaims : b.claims n = a.claims n)
  | ends (hstuck : a.Stuck past) (hfree : b.claims n = none) (hapart : Apart n events)
      (hnew : ∀ h, b.handle = some h → mayForget ∨ events = [.opened h])

theorem Transition.turn {mayForget : Prop} {past events : List Event} {a b : Holding}
    (hstep : Transition mayForget past a events b) (n : UInt8) :
    Turn mayForget n past a events b := by
  cases hstep with
  | idle hidle => exact .aside rfl rfl ((Idle.cons hidle .nil).apart n)
  | @takes claims h m _ claim hfree htake =>
    by_cases hn : n = m
    · subst hn
      exact .takes rfl rfl hfree htake (Claims.insert_self claims n claim)
    · exact .aside rfl (Claims.insert_of_ne hn claims claim) (htake.apart hn)
  | @fails claims h m _ hfree htake =>
    by_cases hn : n = m
    · subst hn
      exact .takes rfl rfl hfree htake hfree
    · exact .aside rfl rfl (htake.apart hn)
  | @gives claims h m _ claim hclaim hgive =>
    by_cases hn : n = m
    · subst hn
      exact .gives rfl rfl hclaim hgive (Claims.erase_self claims n)
    · exact .aside rfl (Claims.erase_of_ne hn claims) (hgive.apart hn)
  | @keeps claims h m _ claim hclaim hgive =>
    by_cases hn : n = m
    · subst hn
      exact .keeps rfl rfl hclaim hgive rfl
    · exact .aside rfl rfl (hgive.apart hn)
  | opens h hstuck =>
    refine .ends hstuck rfl (.opened n h) fun h' heq => .inr ?_
    rw [Option.some.inj heq]
  | closes hstuck => exact .ends hstuck rfl (Idle.nil.apart n) fun h heq => nomatch heq
  | forgets hforget hstuck => exact .ends hstuck rfl (Idle.nil.apart n) fun _ _ => .inl hforget

/-! ## Operations -/

/-- Events that lead from what is held to what is held after them, whatever is past. -/
def Leads (mayForget : Prop) (a : Holding) (events : List Event) (b : Holding) : Prop :=
  ∀ past, Course mayForget past a → Course mayForget (events ++ past) b

/-- No interface is to be claimed. -/
def Claimless (events : List Event) : Prop :=
  ∀ h node n answer, .answered h node (.claim n) answer ∉ events

/-- No interface that is claimed is to be claimed. -/
def Spares (a : Holding) (events : List Event) : Prop :=
  ∀ n, (a.claims n).isSome = true → ∀ h node answer, .answered h node (.claim n) answer ∉ events

namespace Leads

variable {mayForget : Prop}

theorem refl (a : Holding) : Leads mayForget a [] a := fun _ hpast => hpast

theorem trans {a b c : Holding} {earlier later : List Event} (h₁ : Leads mayForget a earlier b)
    (h₂ : Leads mayForget b later c) : Leads mayForget a (later ++ earlier) c := by
  intro past hpast
  rw [List.append_assoc]
  exact h₂ _ (h₁ _ hpast)

theorem of_idle (a : Holding) {events : List Event} (hidle : Idle events) :
    Leads mayForget a events a :=
  fun _ hpast => hpast.of_idle hidle

theorem of_transition {a b : Holding} {events : List Event}
    (hstep : ∀ past, Transition mayForget past a events b) : Leads mayForget a events b :=
  fun past hpast => hpast.step (hstep past)

end Leads

theorem Claimless.of_idle {events : List Event} (hidle : Idle events) :
    Claimless events := by
  intro h node n answer hmem
  cases hidle _ hmem

theorem Claimless.append {earlier later : List Event} (hlater : Claimless later)
    (hearlier : Claimless earlier) : Claimless (later ++ earlier) := by
  intro h node n answer hmem
  rcases List.mem_append.1 hmem with hmem | hmem
  · exact hlater _ _ _ _ hmem
  · exact hearlier _ _ _ _ hmem

theorem Claimless.spares {events : List Event} (hevents : Claimless events) (a : Holding) :
    Spares a events :=
  fun n _ h node answer => hevents h node n answer

theorem Claim.Detaches.claimless {h : Handle} {n : UInt8} {events : List Event} {detached : Bool}
    (hdetach : Detaches h n events detached) : Claimless events := by
  intro h' node m answer hmem
  exact hdetach.forall_mem (P := fun e => e ≠ .answered h' node (.claim m) answer) (by simp)
    (by simp) _ hmem rfl

theorem Claim.Takes.spares {a : Holding} {h : Handle} {n : UInt8} {events : List Event}
    {taken : Option Claim} (htake : Takes h n events taken) (hfree : a.claims n = none) :
    Spares a events := by
  intro m hm h' node answer hmem
  have hne : n ≠ m := by
    rintro rfl
    simp [hfree] at hm
  exact htake.forall_mem (P := fun e => e ≠ .answered h' node (.claim m) answer) (by simp) (by simp)
    (by simp [hne]) _ hmem rfl

theorem Claim.GivesBack.claimless {h : Handle} {n : UInt8} {claim : Claim} {events : List Event}
    {given : Bool} (hgive : GivesBack h n claim events given) : Claimless events := by
  intro h' node m answer hmem
  exact hgive.forall_mem (P := fun e => e ≠ .answered h' node (.claim m) answer) (by simp)
    (by simp) _ hmem rfl

theorem Claim.Surrenders.claimless {h : Handle} {given : List (UInt8 × Claim)} {events : List Event}
    (hsurrender : Surrenders h given events) : Claimless events := by
  induction hsurrender with
  | nil => exact .of_idle .nil
  | cons hfirst _ ih => exact ih.append hfirst.claimless

namespace Device

/-- The requests by which a device gives up all its claims: there are none when it is closed. -/
inductive Yields (d : Device) : List Event → Prop
  | closed (hclosed : d.handle = none) : Yields d []
  | surrendered {h : Handle} {events : List Event} (hopen : d.handle = some h)
      (hsurrender : Surrenders h d.claims.toList events) : Yields d events

theorem Yields.claimless {d : Device} {events : List Event} (hyield : d.Yields events) :
    Claimless events := by
  cases hyield with
  | closed => exact .of_idle .nil
  | surrendered _ hsurrender => exact hsurrender.claimless

theorem Yields.course {mayForget : Prop} {d : Device} {events past : List Event}
    (hyield : d.Yields events) (hpast : Course mayForget past d.holding) :
    ∃ a : Holding, a.handle = d.handle ∧ Course mayForget (events ++ past) a ∧
      a.Stuck (events ++ past) := by
  cases hyield with
  | closed hclosed =>
    refine ⟨d.holding, rfl, hpast, fun h hopen => ?_⟩
    rw [holding, hclosed] at hopen
    cases hopen
  | @surrendered h _ hopen hsurrender =>
    have hcourse : Course mayForget past ⟨some h, d.claims⟩ := by
      rw [← hopen]
      exact hpast
    have hnodup : (d.claims.toList.map Prod.fst).Nodup :=
      d.claims.toList_ascending.imp UInt8.ne_of_lt
    obtain ⟨left, hleft, hstuck⟩ :=
      hcourse.of_surrenders hnodup (fun p hp => Claims.mem_toList.1 hp) hsurrender
    refine ⟨⟨some h, left⟩, hopen.symm, hleft, ?_⟩
    intro h' heq n hn
    cases heq
    obtain ⟨hclaimed, hrefused⟩ := hstuck n hn
    obtain ⟨claim, hclaim⟩ := Option.isSome_iff_exists.1 hclaimed
    obtain ⟨node, e, he⟩ := hrefused (List.mem_map.2 ⟨(n, claim), Claims.mem_toList.2 hclaim, rfl⟩)
    exact ⟨node, e, List.mem_append_left _ he⟩

theorem Yields.leads_empty {mayForget : Prop} {d : Device} {events : List Event}
    (hyield : d.Yields events) :
    Leads mayForget d.holding events Holding.empty := by
  intro past hpast
  obtain ⟨a, -, ha, hstuck⟩ := hyield.course hpast
  exact ha.step (.closes hstuck)

end Device

namespace Asks

open Device

variable (mayForget : Prop)

theorem releaseClaims (d : Device) :
    Asks id d.releaseClaims fun d' events => d' = { d with claims := Claims.none } ∧
      d.Yields events := by
  unfold Device.releaseClaims
  cases hhandle : d.handle with
  | none => exact .pure ⟨rfl, .closed hhandle⟩
  | some h =>
    refine (giveBackAll h d.claims.toList).bind fun _ earlier hearlier => ?_
    exact .pure ⟨rfl, .surrendered hhandle hearlier⟩

theorem openNode (path : Path) :
    Asks id (Host.openNode path) fun opened events =>
      (∃ h, opened = .ok h ∧ events = [.opened h]) ∨ ∃ fault,
        opened = .error fault ∧ events = [] := by
  intro host
  unfold Host.openNode
  cases host.files.openToUpdate path with
  | ok location => exact ⟨_, Host.newHandle_evolves location host, .inl ⟨_, rfl, rfl⟩⟩
  | error fault => exact ⟨[], .refl host, .inr ⟨fault, rfl, rfl⟩⟩

/-- Claims are forgotten only where an open device cannot be opened again. -/
theorem «open» (d : Device) :
    Asks id d.open fun outcome events =>
      ((Operation.FailsReopening .open d outcome.1 → mayForget) →
        Leads mayForget d.holding events outcome.2.holding) ∧ Claimless events := by
  unfold Device.open
  cases hopen : d.isOpen with
  | false =>
    have hclosed : d.handle = none := by simpa [isOpen] using hopen
    simp only [Bool.false_eq_true, if_false, pure_bind]
    refine (openNode d.node).bind fun opened earlier hearlier => ?_
    rcases hearlier with ⟨h, rfl, rfl⟩ | ⟨fault, rfl, rfl⟩
    · refine .pure ⟨fun _ past hpast => ?_, .of_idle (.cons rfl .nil)⟩
      have hclaims : d.claims = Claims.none := hpast.claims_of_closed hclosed
      have hstuck : d.holding.Stuck past := fun h hsome => by simp [holding, hclosed] at hsome
      rw [holding, hclaims]
      exact hpast.step (.opens h hstuck)
    · exact .pure ⟨fun _ => .refl _, .of_idle .nil⟩
  | true =>
    refine (releaseClaims d).bind fun d' yielded hyield => ?_
    obtain ⟨rfl, hyield⟩ := hyield
    refine (openNode _).bind fun opened earlier hearlier => ?_
    rcases hearlier with ⟨h, rfl, rfl⟩ | ⟨fault, rfl, rfl⟩
    · refine .pure ⟨fun _ past hpast => ?_, .append (.of_idle (.cons rfl .nil)) hyield.claimless⟩
      obtain ⟨a, -, ha, hstuck⟩ := hyield.course hpast
      exact ha.step (.opens h hstuck)
    · refine .pure ⟨fun hforget past hpast => ?_, hyield.claimless⟩
      obtain ⟨a, hhandle, ha, hstuck⟩ := hyield.course hpast
      rw [holding, ← hhandle]
      exact ha.step (.forgets (hforget ⟨rfl, hopen, _, rfl⟩) hstuck)

theorem onHost {α : Type} {m : StateM Host α} {P : α → List Event → Prop} (hm : Asks id m P) :
    Asks Session.host (Session.onHost m) P :=
  fun s => hm s.host

theorem deregister (registration : Registration) :
    Asks Session.host (Session.deregister registration) fun _ events => events = [] := by
  intro s
  refine ⟨[], ?_, rfl⟩
  unfold Session.deregister
  cases s.registries[registration.registry]? with
  | none => exact .refl s.host
  | some r => exact .refl s.host

/-- Closing asks for nothing but the end of the claims. -/
theorem close (d : Device) :
    Asks Session.host d.close fun d' events => d'.holding = Holding.empty ∧ d.Yields events := by
  unfold Device.close
  refine (onHost (releaseClaims d)).bind fun d' yielded hyield => ?_
  obtain ⟨rfl, hyield⟩ := hyield
  cases hregistration : d.registration with
  | none => exact .pure ⟨rfl, hyield⟩
  | some registration =>
    refine (deregister registration).bind fun _ later hlater => ?_
    subst hlater
    exact .pure ⟨rfl, hyield⟩

theorem claimInterface (d : Device) (n : UInt8) :
    Asks id (d.claimInterface n) fun outcome events =>
      Leads mayForget d.holding events outcome.2.holding ∧ Spares d.holding events := by
  have hnothing : Leads mayForget d.holding [] d.holding ∧ Spares d.holding [] :=
    ⟨.refl _, fun _ _ _ _ _ => List.not_mem_nil⟩
  unfold Device.claimInterface
  cases d.interface n with
  | error e => exact .pure hnothing
  | ok interface =>
    cases hfree : d.claims n with
    | some claim =>
      simp only [isClaimed, hfree, Option.isSome_some, if_true]
      exact .pure hnothing
    | none =>
      simp only [isClaimed, hfree, Option.isSome_none, Bool.false_eq_true, if_false]
      cases hhandle : d.handle with
      | none =>
        simp only [requireHandle, hhandle]
        exact .pure hnothing
      | some h =>
        simp only [requireHandle, hhandle]
        refine (take h n).bind fun taken earlier htake => ?_
        have hspares : Spares d.holding earlier := htake.spares hfree
        cases taken with
        | error e =>
          refine .pure ⟨?_, hspares⟩
          rw [holding, hhandle]
          exact .of_transition fun past => .fails hfree htake
        | ok claim =>
          refine .pure ⟨?_, hspares⟩
          rw [holding, hhandle]
          exact .of_transition fun past => .takes hfree htake

theorem releaseInterface (d : Device) (n : UInt8) :
    Asks id (d.releaseInterface n) fun outcome events =>
      Leads mayForget d.holding events outcome.2.holding ∧ Claimless events := by
  have hnothing : Leads mayForget d.holding [] d.holding ∧ Claimless [] := ⟨.refl _, .of_idle .nil⟩
  unfold Device.releaseInterface
  cases hclaim : d.claims n with
  | none => exact .pure hnothing
  | some claim =>
    cases hhandle : d.handle with
    | none =>
      simp only [requireHandle, hhandle]
      exact .pure hnothing
    | some h =>
      simp only [requireHandle, hhandle]
      refine (giveBack h n claim).bind fun given earlier hgive => ?_
      have hclaimless : Claimless earlier := hgive.claimless
      cases given with
      | error e =>
        refine .pure ⟨?_, hclaimless⟩
        rw [holding, hhandle]
        exact .of_transition fun past => .keeps hclaim hgive
      | ok _ =>
        refine .pure ⟨?_, hclaimless⟩
        rw [holding, hhandle]
        exact .of_transition fun past => .gives hclaim hgive

theorem withNode {α : Type} {inquire : Handle → StateM Host (Except Errno α)}
    (hinquire : ∀ h, Asks id (inquire h) fun _ events => Idle events) (node : Path)
      (operation : String) :
    Asks id (Inquiry.withNode node operation inquire) fun _ events => Idle events := by
  refine (openNode node).bind fun opened earlier hearlier => ?_
  rcases hearlier with ⟨h, rfl, rfl⟩ | ⟨fault, rfl, rfl⟩
  · exact (hinquire h).bind fun answer later hlater => .pure (hlater.append (.cons rfl .nil))
  · exact .pure .nil

theorem tell_idle (h : Handle) {request : NodeRequest}
    (hidle : ∀ node answer, (Event.answered h node request answer).isIdle = true) :
    Asks id (h.tell request) fun _ events => Idle events := by
  refine (tell h request).mono fun told events hevents => ?_
  obtain ⟨node, answer, rfl, -⟩ := hevents
  exact .cons (hidle node answer) .nil

/-- A configuration is selected by a file, or by a request that may need a handle of its own. -/
theorem sourceSelectConfiguration (d : Device) (value : UInt8) :
    Asks id (d.sourceSelectConfiguration value) fun _ events => Idle events := by
  have htell : ∀ h : Handle, Asks id (h.selectConfiguration value) fun _ events => Idle events :=
    fun h => tell_idle h fun _ _ => rfl
  unfold Device.sourceSelectConfiguration
  cases d.source with
  | directory dir =>
    intro host
    refine ⟨[], ?_, .nil⟩
    cases hfiles : dir.selectConfiguration host.files value with
    | ok files =>
      simp only [Bind.bind, StateT.bind, get, getThe, MonadStateOf.get, StateT.get,
        Pure.pure, hfiles]
      exact .files host files
    | error e =>
      simp only [Bind.bind, StateT.bind, get, getThe, MonadStateOf.get, StateT.get,
        Pure.pure, hfiles]
      exact .refl host
  | node =>
    cases d.handle with
    | some h => exact (htell h).bind fun told earlier hearlier => .pure hearlier
    | none => exact withNode htell d.node "set configuration"

theorem selectConfiguration (d : Device) (value : UInt8) :
    Asks id (d.selectConfiguration value) fun outcome events =>
      outcome.2.holding = d.holding ∧ Idle events := by
  unfold Device.selectConfiguration
  split_ifs
  · exact .pure ⟨rfl, .nil⟩
  · cases hhandle : d.handle with
    | some h =>
      simp only [pure_bind]
      refine (tell_idle h fun _ _ => rfl).bind fun told earlier hearlier => ?_
      cases told with
      | ok _ => exact .pure ⟨by rw [holding, holding, hhandle], hearlier⟩
      | error e => exact .pure ⟨rfl, hearlier⟩
    | none =>
      refine (sourceSelectConfiguration d value).bind fun selected earlier hearlier => ?_
      cases selected with
      | ok _ => exact .pure ⟨by rw [holding, holding, hhandle], hearlier⟩
      | error e => exact .pure ⟨rfl, hearlier⟩

theorem selectAlternate (d : Device) (n alternate : UInt8) :
    Asks id (d.selectAlternate n alternate) fun outcome events =>
      outcome.2.holding = d.holding ∧ Idle events := by
  unfold Device.selectAlternate
  cases d.interface n with
  | error e => exact .pure ⟨rfl, .nil⟩
  | ok interface =>
    cases d.requireHandle with
    | error e => exact .pure ⟨rfl, .nil⟩
    | ok h =>
      refine (tell_idle h fun _ _ => rfl).bind fun selected earlier hearlier => ?_
      cases selected with
      | error e => exact .pure ⟨rfl, hearlier⟩
      | ok _ =>
        refine .pure ⟨?_, hearlier⟩
        unfold setAlternate
        cases d.active <;> rfl

theorem beginDefault (d : Device) :
    Asks Session.host d.beginDefault fun outcome events =>
      Leads mayForget d.holding events outcome.2.holding ∧
        (d.isOpen = true → Spares d.holding events) := by
  have hnothing : Leads mayForget d.holding [] d.holding ∧
      (d.isOpen = true → Spares d.holding []) :=
    ⟨.refl _, fun _ => (Claimless.of_idle .nil).spares _⟩
  unfold Device.beginDefault
  cases d.interface 0 with
  | error e => exact .pure hnothing
  | ok interface =>
    cases hopen : d.isOpen with
    | true =>
      simp only [if_true, pure_bind]
      refine (onHost (claimInterface mayForget d 0)).bind fun claimed earlier hearlier => ?_
      obtain ⟨outcome, d'⟩ := claimed
      cases outcome with
      | error e => exact .pure ⟨hearlier.1, fun _ => hearlier.2⟩
      | ok _ => exact .pure ⟨hearlier.1, fun _ => hearlier.2⟩
    | false =>
      simp only [Bool.false_eq_true, if_false, false_implies, and_true]
      refine (onHost («open» mayForget d)).bind fun opened first hfirst => ?_
      obtain ⟨outcome, d₁⟩ := opened
      have hopened : Leads mayForget d.holding first d₁.holding :=
        hfirst.1 fun hfails => absurd (hopen.symm.trans hfails.2.1) Bool.false_ne_true
      cases outcome with
      | error e => exact .pure hopened
      | ok _ =>
        refine (onHost (claimInterface mayForget d₁ 0)).bind fun claimed second hsecond => ?_
        obtain ⟨outcome, d₂⟩ := claimed
        have hclaimed : Leads mayForget d.holding (second ++ first) d₂.holding :=
          hopened.trans hsecond.1
        cases outcome with
        | ok _ => exact .pure hclaimed
        | error e =>
          refine (close d₂).bind fun d₃ third hthird => ?_
          obtain ⟨hclosed, hyield⟩ := hthird
          have hended : Leads mayForget d₂.holding third d₃.holding := by
            rw [hclosed]
            exact hyield.leads_empty
          refine .pure ?_
          rw [List.nil_append, List.append_assoc]
          exact hclaimed.trans hended

theorem endDefault (d : Device) (n : UInt8) :
    Asks Session.host (d.endDefault n) fun d' events =>
      Leads mayForget d.holding events d'.holding ∧ Claimless events := by
  unfold Device.endDefault
  refine (onHost (releaseInterface mayForget d n)).bind fun released earlier hearlier => ?_
  refine (close released.2).mono fun d' later hlater => ?_
  obtain ⟨hclosed, hyield⟩ := hlater
  refine ⟨hearlier.1.trans ?_, hyield.claimless.append hearlier.2⟩
  rw [hclosed]
  exact hyield.leads_empty

/-- What an operation asks leads from what is held to what is held after it, and an open device does
not ask for an interface that it has. -/
theorem perform (d : Device) (op : Operation) :
    Asks Session.host (op.perform d) fun outcome events =>
      ((op.FailsReopening d outcome.1 → mayForget) →
        Leads mayForget d.holding events outcome.2.holding) ∧
        (d.isOpen = true → Spares d.holding events) := by
  have hclose : Asks Session.host d.close fun d' events =>
      Leads mayForget d.holding events d'.holding ∧ Claimless events := by
    refine (close d).mono fun d' events hclosed => ⟨?_, hclosed.2.claimless⟩
    rw [hclosed.1]
    exact hclosed.2.leads_empty
  cases op with
  | «open» =>
    refine (onHost («open» mayForget d)).mono fun outcome events hevents => ?_
    exact ⟨hevents.1, fun _ => hevents.2.spares _⟩
  | close | drop =>
    exact hclose.bind fun d' events hevents =>
      .pure ⟨fun _ => hevents.1, fun _ => hevents.2.spares _⟩
  | claimInterface n =>
    refine (onHost (claimInterface mayForget d n)).mono fun outcome events hevents => ?_
    exact ⟨fun _ => hevents.1, fun _ => hevents.2⟩
  | releaseInterface n =>
    refine (onHost (releaseInterface mayForget d n)).mono fun outcome events hevents => ?_
    exact ⟨fun _ => hevents.1, fun _ => hevents.2.spares _⟩
  | selectConfiguration value =>
    refine (onHost (selectConfiguration d value)).mono fun outcome events hevents => ?_
    rw [hevents.1]
    exact ⟨fun _ => .of_idle _ hevents.2, fun _ => (Claimless.of_idle hevents.2).spares _⟩
  | selectAlternate n alternate =>
    refine (onHost (selectAlternate d n alternate)).mono fun outcome events hevents => ?_
    rw [hevents.1]
    exact ⟨fun _ => .of_idle _ hevents.2, fun _ => (Claimless.of_idle hevents.2).spares _⟩
  | beginDefault =>
    exact (beginDefault mayForget d).bind fun begun events hevents =>
      .pure ⟨fun _ => hevents.1, hevents.2⟩
  | endDefault n =>
    refine (endDefault mayForget d n).bind fun d' events hevents => ?_
    exact .pure ⟨fun _ => hevents.1, fun _ => hevents.2.spares _⟩

end Asks

/-! ## Runs -/

namespace Device

variable {allowed : Operation → Device → Session → Prop} {d₀ d : Device} {s₀ s : Session}

theorem Run.leads {mayForget : Prop} (run : Run allowed d₀ s₀ d s)
    (hforget : ∀ op d s, allowed op d s → op.FailsReopening d (op.perform d s).1.1 → mayForget) :
    ∃ events, s₀.host.Evolves events s.host ∧ Leads mayForget d₀.holding events d.holding := by
  induction run with
  | start => exact ⟨[], .refl s₀.host, .refl d₀.holding⟩
  | elsewhere files registries run ih =>
    obtain ⟨events, hevolves, hleads⟩ := ih
    exact ⟨events, hevolves.trans (.files _ files), hleads⟩
  | @operation d s op run hallowed ih =>
    obtain ⟨earlier, hearlier, hleads⟩ := ih
    obtain ⟨later, hlater, hop, -⟩ := Asks.perform mayForget d op s
    exact ⟨later ++ earlier, hearlier.trans hlater, hleads.trans (hop (hforget op d s hallowed))⟩

/-- A run from a fresh device follows a course. Claims may be forgotten if an opening may fail while
the device is open. -/
theorem Run.course {mayForget : Prop} (run : Run allowed d₀ s₀ d s) (hfresh : d₀.IsFresh)
    (hforget : ∀ op d s, allowed op d s → op.FailsReopening d (op.perform d s).1.1 → mayForget) :
    ∃ events, s₀.host.Evolves events s.host ∧ Course mayForget events d.holding := by
  obtain ⟨events, hevolves, hleads⟩ := run.leads hforget
  have hstart : Course mayForget [] d₀.holding := by
    rw [holding, hfresh.handle, hfresh.claims]
    exact .start
  refine ⟨events, hevolves, ?_⟩
  have hcourse := hleads [] hstart
  rwa [List.append_nil] at hcourse

end Device

end UsbAccess
