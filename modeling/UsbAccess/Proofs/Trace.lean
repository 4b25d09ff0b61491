import Mathlib.Tactic.SplitIfs
import UsbAccess.Claim

/-!
# What a computation asks

A computation at the host leaves events behind, the latest first. What it asks is said by the shape
that these events have together with its result; shapes are put together as the computations are.

Results:
* `Host.Evolves.trans`: what happens in two stretches, happens in one.
* `Asks.bind`: what one computation after another asks.
* `Asks.take`, `Asks.giveBack`: the requests of a claim and of its end.
* `Asks.giveBackAll`: the requests by which claims end one after another.
-/

namespace UsbAccess

/-! ## Stretches of a history -/

/-- The event is the opening of a node. -/
def Event.isOpening : Event → Bool
  | .opened _ => true
  | .answered .. => false

/-- The number of openings among events. -/
def openings (events : List Event) : Nat := events.countP Event.isOpening

theorem openings_append (later earlier : List Event) :
    openings (later ++ earlier) = openings later + openings earlier :=
  List.countP_append

theorem openings_cons_opened (h : Handle) (events : List Event) :
    openings (.opened h :: events) = openings events + 1 :=
  List.countP_cons_of_pos rfl

/-- An event of two stretches, with what was before it, is of the earlier one or of the later one.
-/
theorem cons_suffix_append {e : Event} {past later earlier : List Event}
    (h : e :: past <:+ later ++ earlier) :
    e :: past <:+ earlier ∨ ∃ between, past = between ++ earlier ∧ e :: between <:+ later := by
  induction later with
  | nil => exact .inl h
  | cons latest rest ih =>
    rcases List.suffix_cons_iff.1 h with heq | hrest
    · obtain ⟨rfl, rfl⟩ := List.cons.inj heq
      exact .inr ⟨rest, rfl, List.suffix_refl _⟩
    · rcases ih hrest with hearlier | ⟨between, hpast, hlater⟩
      · exact .inl hearlier
      · exact .inr ⟨between, hpast, List.suffix_cons_iff.2 (.inr hlater)⟩

/-- Each answer is the kernel's, given all that was before it; `start` is what was before the
events. -/
def Kernel.Honest (kernel : Kernel) (start events : List Event) : Prop :=
  ∀ h node request answer past, .answered h node request answer :: past <:+ events →
    answer = kernel.answer (past ++ start) h node request

/-- The openings among the events have serial numbers one after the other, from `first` on. -/
def Numbered (first : Nat) (events : List Event) : Prop :=
  ∀ h past, .opened h :: past <:+ events → h.serial = first + openings past

theorem Kernel.Honest.of_suffix {kernel : Kernel} {start events earlier : List Event}
    (hhonest : kernel.Honest start events) (hearlier : earlier <:+ events) :
    kernel.Honest start earlier :=
  fun h node request answer past hmem => hhonest h node request answer past (hmem.trans hearlier)

theorem Numbered.of_suffix {first : Nat} {events earlier : List Event}
    (hnumbered : Numbered first events) (hearlier : earlier <:+ events) : Numbered first earlier :=
  fun h past hmem => hnumbered h past (hmem.trans hearlier)

/-- Just these events, the latest first, lead from one host to the other; the files may have changed
besides. -/
structure Host.Evolves (host : Host) (events : List Event) (host' : Host) : Prop where
  history : host'.history = events ++ host.history
  kernel : host'.kernel = host.kernel
  opened : host'.opened = host.opened + openings events
  honest : host.kernel.Honest host.history events
  numbered : Numbered host.opened events

namespace Host

/-- Other files are no event. -/
theorem Evolves.files (host : Host) (files : FileTree) :
    host.Evolves [] { host with files := files } where
  history := rfl
  kernel := rfl
  opened := rfl
  honest _ _ _ _ _ hmem := by simp at hmem
  numbered _ _ hmem := by simp at hmem

theorem Evolves.refl (host : Host) : host.Evolves [] host := .files host host.files

theorem Evolves.trans {host host₁ host₂ : Host} {earlier later : List Event}
    (h₁ : host.Evolves earlier host₁) (h₂ : host₁.Evolves later host₂) :
    host.Evolves (later ++ earlier) host₂ where
  history := by rw [h₂.history, h₁.history, List.append_assoc]
  kernel := h₂.kernel.trans h₁.kernel
  opened := by rw [h₂.opened, h₁.opened, openings_append]; omega
  honest _ _ _ _ _ hmem := by
    rcases cons_suffix_append hmem with hearlier | ⟨between, rfl, hlater⟩
    · exact h₁.honest _ _ _ _ _ hearlier
    · rw [h₂.honest _ _ _ _ _ hlater, h₁.kernel, h₁.history, List.append_assoc]
  numbered _ _ hmem := by
    rcases cons_suffix_append hmem with hearlier | ⟨between, rfl, hlater⟩
    · exact h₁.numbered _ _ hearlier
    · rw [h₂.numbered _ _ hlater, h₁.opened, openings_append]
      omega

theorem ask_evolves (h : Handle) (request : NodeRequest) (host : Host) :
    host.Evolves [.answered h (host.nodeOf h) request (ask h request host).1]
    (ask h request host).2 where
  history := rfl
  kernel := rfl
  opened := rfl
  honest _ _ _ _ _ hlast := by
    simp only [List.suffix_cons_iff, List.cons.injEq, Event.answered.injEq, List.suffix_nil,
      reduceCtorEq, or_false] at hlast
    obtain ⟨⟨rfl, rfl, rfl, rfl⟩, rfl⟩ := hlast
    rfl
  numbered _ _ hlast := by simp [List.suffix_cons_iff] at hlast

theorem openNode_of_ok {path : Path} {host : Host} {location : Location}
    (hnode : host.files.openToUpdate path = .ok location) :
    openNode path host = (.ok (newHandle location host).1, (newHandle location host).2) := by
  unfold openNode
  rw [hnode]
  rfl

theorem openNode_of_error {path : Path} {host : Host} {fault : FileFault}
    (hnode : host.files.openToUpdate path = .error fault) :
    openNode path host = (.error fault, host) := by
  unfold openNode
  rw [hnode]

theorem newHandle_evolves (location : Location) (host : Host) :
    host.Evolves [.opened (newHandle location host).1] (newHandle location host).2 where
  history := rfl
  kernel := rfl
  opened := rfl
  honest _ _ _ _ _ hlast := by simp [List.suffix_cons_iff] at hlast
  numbered _ _ hlast := by
    simp only [List.suffix_cons_iff, List.cons.injEq, Event.opened.injEq, List.suffix_nil,
      reduceCtorEq, or_false] at hlast
    obtain ⟨rfl, rfl⟩ := hlast
    rfl

end Host

/-! ## Computations -/

/-- Whatever the state, the events that `m` leaves behind at its host have this shape, together with
the result. -/
def Asks {σ α : Type} (host : σ → Host) (m : StateM σ α) (shape : α → List Event → Prop) : Prop :=
  ∀ s, ∃ events, (host s).Evolves events (host (m s).2) ∧ shape (m s).1 events

namespace Asks

section

variable {σ α β : Type} {host : σ → Host} {m : StateM σ α} {P : α → List Event → Prop}

theorem pure {a : α} (h : P a []) : Asks host (pure a) P :=
  fun s => ⟨[], .refl (host s), h⟩

theorem bind {f : α → StateM σ β} {Q : β → List Event → Prop} (hm : Asks host m P)
    (hf : ∀ a earlier, P a earlier → Asks host (f a) fun b later => Q b (later ++ earlier)) :
    Asks host (m >>= f) Q := by
  intro s
  obtain ⟨earlier, hearlier, ha⟩ := hm s
  obtain ⟨later, hlater, hb⟩ := hf _ earlier ha (m s).2
  exact ⟨later ++ earlier, hearlier.trans hlater, hb⟩

theorem mono {Q : α → List Event → Prop} (hm : Asks host m P)
    (h : ∀ a events, P a events → Q a events) :
    Asks host m Q := by
  intro s
  obtain ⟨events, hevents, ha⟩ := hm s
  exact ⟨events, hevents, h _ _ ha⟩

end

/-! ## Requests -/

theorem ask (h : Handle) (request : NodeRequest) :
    Asks id (Host.ask h request) fun answer events => ∃ node,
      events = [.answered h node request answer] :=
  fun host => ⟨_, Host.ask_evolves h request host, _, rfl⟩

theorem tell (h : Handle) (request : NodeRequest) :
    Asks id (h.tell request) fun told events =>
      ∃ node answer, events = [.answered h node request answer] ∧
        told = answer.map fun _ => () := by
  refine (ask h request).bind fun answer earlier hearlier => ?_
  obtain ⟨node, rfl⟩ := hearlier
  cases answer with
  | ok reply => exact .pure ⟨node, _, rfl, rfl⟩
  | error e => exact .pure ⟨node, _, rfl, rfl⟩

end Asks

namespace Claim

/-- The name of the driver in an answer. -/
def named? : Except Errno Reply → Option String
  | .ok reply => some (DeviceText.driverName (Bytes.overwrite (List.replicate 256 0) reply.data))
  | .error _ => none

/-- The driver of interface `n` is asked for, and detached unless it is the program's own: whether a
driver was detached. -/
inductive Detaches (h : Handle) (n : UInt8) : List Event → Bool → Prop
  | own {node : Location} {answer : Except Errno Reply} (hown : named? answer = some ownDriver) :
      Detaches h n [.answered h node (.getDriver n) answer] false
  | other {node node' : Location} {answer answer' : Except Errno Reply}
      (hother : named? answer ≠ some ownDriver) :
      Detaches h n [.answered h node' (.detach n) answer',
        .answered h node (.getDriver n) answer] answer'.isOk

/-- Interface `n` is claimed, after its driver has been seen to: the claim, unless it was refused.
-/
inductive Takes (h : Handle) (n : UInt8) : List Event → Option Claim → Prop
  | accepted {events : List Event} {claim : Claim} {node : Location} {reply : Reply}
      (hdetach : Detaches h n events claim.detached) :
      Takes h n (.answered h node (.claim n) (.ok reply) :: events) (some claim)
  | refused {events : List Event} {detached : Bool} {node : Location} {e : Errno}
      (hdetach : Detaches h n events detached) :
      Takes h n (.answered h node (.claim n) (.error e) :: events) none

/-- Interface `n` is released, and given back to its driver if one was detached: whether the release
was accepted. -/
inductive GivesBack (h : Handle) (n : UInt8) (claim : Claim) : List Event → Bool → Prop
  | refused {node : Location} {e : Errno} :
      GivesBack h n claim [.answered h node (.release n) (.error e)] false
  | released {node : Location} {reply : Reply} (hclaim : claim.detached = false) :
      GivesBack h n claim [.answered h node (.release n) (.ok reply)] true
  | attached {node node' : Location} {reply : Reply} {answer : Except Errno Reply}
      (hclaim : claim.detached = true) :
      GivesBack h n claim
        [.answered h node' (.attach n) answer, .answered h node (.release n) (.ok reply)] true

section

variable {h : Handle} {n : UInt8} {events : List Event} {P : Event → Prop}

/-- What holds of both requests about the driver, holds of all events. -/
theorem Detaches.forall_mem {detached : Bool} (hdetaches : Detaches h n events detached)
    (hdriver : ∀ node answer, P (.answered h node (.getDriver n) answer))
    (hdetach : ∀ node answer, P (.answered h node (.detach n) answer)) : ∀ e ∈ events, P e := by
  cases hdetaches with
  | own => exact List.forall_mem_singleton.2 (hdriver _ _)
  | other => exact List.forall_mem_cons.2 ⟨hdetach _ _, List.forall_mem_singleton.2 (hdriver _ _)⟩

theorem Takes.forall_mem {taken : Option Claim} (htakes : Takes h n events taken)
    (hdriver : ∀ node answer, P (.answered h node (.getDriver n) answer))
    (hdetach : ∀ node answer, P (.answered h node (.detach n) answer))
    (hclaim : ∀ node answer, answer.isOk = taken.isSome → P (.answered h node (.claim n) answer)) :
    ∀ e ∈ events, P e := by
  cases htakes with
  | accepted hdetaches | refused hdetaches =>
    exact List.forall_mem_cons.2 ⟨hclaim _ _ rfl, hdetaches.forall_mem hdriver hdetach⟩

theorem GivesBack.forall_mem {claim : Claim} {given : Bool}
    (hgives : GivesBack h n claim events given)
    (hrelease : ∀ node answer, answer.isOk = given → P (.answered h node (.release n) answer))
    (hattach : ∀ node answer, P (.answered h node (.attach n) answer)) : ∀ e ∈ events, P e := by
  cases hgives with
  | refused | released => exact List.forall_mem_singleton.2 (hrelease _ _ rfl)
  | attached =>
    exact List.forall_mem_cons.2 ⟨hattach _ _, List.forall_mem_singleton.2 (hrelease _ _ rfl)⟩

end

theorem GivesBack.exists_refused {h : Handle} {n : UInt8} {claim : Claim} {events : List Event}
    (hgive : GivesBack h n claim events false) :
    ∃ node e, .answered h node (.release n) (.error e) ∈ events := by
  cases hgive with
  | refused => exact ⟨_, _, List.mem_cons_self⟩

/-- Claims are given back one after another, accepted or not. -/
inductive Surrenders (h : Handle) : List (UInt8 × Claim) → List Event → Prop
  | nil : Surrenders h [] []
  | cons {n : UInt8} {claim : Claim} {rest : List (UInt8 × Claim)} {earlier later : List Event}
      {given : Bool} (hfirst : GivesBack h n claim earlier given)
      (hrest : Surrenders h rest later) :
      Surrenders h ((n, claim) :: rest) (later ++ earlier)

end Claim

namespace Asks

open Claim

theorem driver (h : Handle) (n : UInt8) :
    Asks id (h.driver n) fun bound events =>
      ∃ node answer, events = [.answered h node (.getDriver n) answer] ∧
        (bound.toOption = some (some ownDriver) ↔ named? answer = some ownDriver) := by
  refine (ask h (.getDriver n)).bind fun answer earlier hearlier => ?_
  obtain ⟨node, rfl⟩ := hearlier
  cases answer with
  | ok reply =>
    exact .pure ⟨node, _, rfl, by simp only [Except.toOption, named?, Option.some.injEq]⟩
  | error e =>
    exact .pure ⟨node, _, rfl, by by_cases he : e = .noData <;> simp [Except.toOption, named?, he]⟩

theorem detach (h : Handle) (n : UInt8) :
    Asks id (h.detach n) fun detachment events =>
      ∃ node answer, events = [.answered h node (.detach n) answer] ∧
        (detachment.toOption == some .detached) = answer.isOk := by
  refine (ask h (.detach n)).bind fun answer earlier hearlier => ?_
  obtain ⟨node, rfl⟩ := hearlier
  cases answer with
  | ok reply => exact .pure ⟨node, _, rfl, rfl⟩
  | error e =>
    exact .pure ⟨node, _, rfl, by by_cases he : e = .noData <;> simp [Except.toOption, he] <;> rfl⟩

theorem detachDriver (h : Handle) (n : UInt8) :
    Asks id (Claim.detachDriver h.control n) fun detached events =>
      Detaches h n events detached := by
  refine (driver h n).bind fun bound earlier hearlier => ?_
  obtain ⟨node, answer, rfl, hbound⟩ := hearlier
  split_ifs with hown
  · exact .pure (.own (hbound.1 hown))
  · refine (detach h n).bind fun detachment later hlater => ?_
    obtain ⟨node', answer', rfl, hdetachment⟩ := hlater
    rw [hdetachment]
    exact .pure (.other (mt hbound.2 hown))

theorem take (h : Handle) (n : UInt8) :
    Asks id (Claim.take h.control n) fun taken events => Takes h n events taken.toOption := by
  refine (detachDriver h n).bind fun detached earlier hearlier => ?_
  refine (tell h (.claim n)).bind fun claimed later hlater => ?_
  obtain ⟨node, answer, rfl, rfl⟩ := hlater
  cases answer with
  | ok reply => exact .pure (.accepted hearlier)
  | error e => exact .pure (.refused hearlier)

theorem giveBack (h : Handle) (n : UInt8) (claim : Claim) :
    Asks id (Claim.giveBack h.control n claim) fun given events =>
      GivesBack h n claim events given.isOk := by
  refine (tell h (.release n)).bind fun released earlier hearlier => ?_
  obtain ⟨node, answer, rfl, rfl⟩ := hearlier
  cases answer with
  | error e => exact .pure .refused
  | ok reply =>
    cases hclaim : claim.detached with
    | false => exact .pure (.released hclaim)
    | true =>
      refine (tell h (.attach n)).bind fun attached later hlater => ?_
      obtain ⟨node', answer', rfl, -⟩ := hlater
      exact .pure (.attached hclaim)

theorem giveBackAll (h : Handle) (claims : List (UInt8 × Claim)) :
    Asks id (Claim.giveBackAll h.control claims) fun _ events => Surrenders h claims events := by
  induction claims with
  | nil => exact .pure .nil
  | cons first rest ih =>
    refine (giveBack h first.1 first.2).bind fun given earlier hearlier => ?_
    exact ih.mono fun _ later hlater => .cons hearlier hlater

end Asks

end UsbAccess
