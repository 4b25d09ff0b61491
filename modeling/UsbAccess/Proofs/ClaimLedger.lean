import UsbAccess.Proofs.Course

/-!
# The ledger of claims

What a device has claimed is what the kernel has granted it: the history of its requests, read as a
ledger, tells of every interface whether it is claimed. A driver is put back once for a time that it
was detached, and only where its interface has just been released.

Results:
* `Course.opened`: a request that settles something is made at a handle opened before.
* `Course.backs`: a claim is backed by the latest request that settled the matter.
* `Course.ledger`: the laws of the ledger hold along every course that forgets no claim.
* `claims_follow_requests`: the same for every run in which no opening fails while the device is
  open.
-/

namespace UsbAccess

open Claim

/-! ## Reading the history -/

/-- The handle that the event is about. -/
def Event.handle : Event → Handle
  | .opened h => h
  | .answered h _ _ _ => h

/-- What the kernel's consent at `h` says about interface `n`: claimed after a claim, free after a
release. -/
def Event.settles (h : Handle) (n : UInt8) : Event → Option Bool
  | .answered h' _ (.claim m) (.ok _) => if h' = h ∧ m = n then some true else none
  | .answered h' _ (.release m) (.ok _) => if h' = h ∧ m = n then some false else none
  | _ => none

/-- The latest claim or release of interface `n` that was accepted at `h` is a claim. -/
def Holds (h : Handle) (n : UInt8) (events : List Event) : Prop :=
  events.findSome? (Event.settles h n) = some true

/-- Interface `n` is held by `h` through a claim before which a driver was detached. -/
def TakenFromDriver (h : Handle) (n : UInt8) (events : List Event) : Prop :=
  ∃ later node reply node' reply' earlier,
    events = later ++ .answered h node (.claim n) (.ok reply) ::
      .answered h node' (.detach n) (.ok reply') :: earlier ∧
    ∀ e ∈ later, e.settles h n = none

/-- The last event is that `h` has released interface `n`, held through a claim before which a
driver was detached. -/
def OwesDriver (h : Handle) (n : UInt8) (events : List Event) : Prop :=
  ∃ node reply earlier, events = .answered h node (.release n) (.ok reply) :: earlier ∧
    TakenFromDriver h n earlier

/-- The event is a request to put the driver of interface `n` back. -/
def Event.isAttach (n : UInt8) : Event → Bool
  | .answered _ _ (.attach m) _ => m == n
  | _ => false

/-- The driver of interface `n` was detached. -/
def Event.isDetachment (n : UInt8) : Event → Bool
  | .answered _ _ (.detach m) (.ok _) => m == n
  | _ => false

/-- The number of requests to put the driver of interface `n` back. -/
def attaches (n : UInt8) (events : List Event) : Nat := events.countP (Event.isAttach n)

/-- The number of times that the driver of interface `n` was detached. -/
def detachments (n : UInt8) (events : List Event) : Nat := events.countP (Event.isDetachment n)

/-- The laws of the requests for interface `n`. An event stands in front of all that was before it.
-/
structure Ledger (n : UInt8) (events : List Event) : Prop where
  /-- A claim is asked for only at a handle that does not hold the interface. -/
  sparing : ∀ h node answer past, .answered h node (.claim n) answer :: past <:+ events →
    ¬ Holds h n past
  /-- A driver is put back only directly after a release that owes it. -/
  earned : ∀ h node answer past, .answered h node (.attach n) answer :: past <:+ events →
    OwesDriver h n past
  /-- At no moment was the driver put back more often than it had been detached. -/
  balanced : ∀ past, past <:+ events → attaches n past ≤ detachments n past

/-- The history backs what is remembered of interface `n`. -/
def Backs (h : Handle) (n : UInt8) (events : List Event) : Option Claim → Prop
  | none => ¬ Holds h n events
  | some claim => Holds h n events ∧ (claim.detached = true → TakenFromDriver h n events)

/-! ## Events that settle nothing -/

/-- Nothing is settled about interface `n` at `h`. -/
def Silent (h : Handle) (n : UInt8) (events : List Event) : Prop :=
  ∀ e ∈ events, e.settles h n = none

theorem Silent.nil (h : Handle) (n : UInt8) : Silent h n [] := fun _ hmem => nomatch hmem

theorem Silent.cons {h : Handle} {n : UInt8} {e : Event} {events : List Event}
    (he : e.settles h n = none) (hevents : Silent h n events) : Silent h n (e :: events) :=
  List.forall_mem_cons.2 ⟨he, hevents⟩

theorem Event.settles_eq_some {e : Event} {h : Handle} {n : UInt8} {b : Bool}
    (hsettles : e.settles h n = some b) :
    e.isIdle = false ∧ e.handle = h := by
  unfold Event.settles at hsettles
  split at hsettles
  · split_ifs at hsettles with heq
    exact ⟨rfl, heq.1⟩
  · split_ifs at hsettles with heq
    exact ⟨rfl, heq.1⟩
  · cases hsettles

section

variable {h : Handle} {n : UInt8} {events past : List Event}

theorem Apart.silent (hapart : Apart n events) (h : Handle) : Silent h n events := by
  intro e he
  have hother := hapart e he
  unfold Event.concerns at hother
  unfold Event.settles
  split
  · exact if_neg fun heq => ne_of_beq_false hother heq.2
  · exact if_neg fun heq => ne_of_beq_false hother heq.2
  · rfl

theorem holds_cons {e : Event} {b : Bool} (hsettles : e.settles h n = some b) :
    Holds h n (e :: events) ↔ b = true := by
  rw [Holds, List.findSome?_cons, hsettles]
  exact Option.some_inj

theorem Silent.holds_iff (hsilent : Silent h n events) :
    Holds h n (events ++ past) ↔ Holds h n past := by
  have hnone : events.findSome? (Event.settles h n) = none := List.findSome?_eq_none_iff.2 hsilent
  rw [Holds, Holds, List.findSome?_append, hnone, Option.none_or]

theorem Silent.takenFromDriver (hsilent : Silent h n events) (htaken : TakenFromDriver h n past) :
    TakenFromDriver h n (events ++ past) := by
  obtain ⟨later, node, reply, node', reply', earlier, rfl, hlater⟩ := htaken
  refine ⟨events ++ later, node, reply, node', reply', earlier, by rw [List.append_assoc], ?_⟩
  exact List.forall_mem_append.2 ⟨hsilent, hlater⟩

theorem Silent.backs {claim : Option Claim} (hsilent : Silent h n events)
    (hbacks : Backs h n past claim) :
    Backs h n (events ++ past) claim := by
  cases claim with
  | none => exact mt hsilent.holds_iff.1 hbacks
  | some claim =>
    exact ⟨hsilent.holds_iff.2 hbacks.1,
      fun hdetached => hsilent.takenFromDriver (hbacks.2 hdetached)⟩

end

/-! ## Claims and their ends -/

section

variable {h : Handle} {n : UInt8} {events past : List Event}

theorem Claim.Detaches.silent {detached : Bool} (hdetach : Detaches h n events detached)
    (h' : Handle) (m : UInt8) : Silent h' m events :=
  hdetach.forall_mem (fun _ _ => rfl) fun _ _ => rfl

theorem Claim.Detaches.exists_detachment (hdetach : Detaches h n events true) :
    ∃ node reply earlier, events = .answered h node (.detach n) (.ok reply) :: earlier := by
  generalize hdetached : true = detached at hdetach
  cases hdetach with
  | own => cases hdetached
  | @other node node' answer answer' hother =>
    cases answer' with
    | ok reply => exact ⟨node', reply, _, rfl⟩
    | error e => cases hdetached

/-- After a claim, the history backs its outcome. -/
theorem Claim.Takes.backs {taken : Option Claim} (htake : Takes h n events taken)
    (hfree : Backs h n past none) : Backs h n (events ++ past) taken := by
  cases htake with
  | @accepted events claim node reply hdetach =>
    have hsettles : (Event.answered h node (.claim n) (.ok reply)).settles h n = some true :=
      if_pos ⟨rfl, rfl⟩
    refine ⟨(holds_cons hsettles).2 rfl, fun hdetached => ?_⟩
    rw [hdetached] at hdetach
    obtain ⟨node', reply', earlier, rfl⟩ := hdetach.exists_detachment
    exact ⟨[], node, reply, node', reply', earlier ++ past, rfl, Silent.nil h n⟩
  | @refused events _ node e hdetach =>
    have hsilent : Silent h n (.answered h node (.claim n) (.error e) :: events) :=
      .cons rfl (hdetach.silent h n)
    exact hsilent.backs hfree

theorem Claim.GivesBack.silent {claim : Claim} (hgive : GivesBack h n claim events false) :
    Silent h n events := by
  cases hgive with
  | refused => exact .cons rfl (.nil h n)

theorem Claim.GivesBack.backs {claim : Claim} (hgive : GivesBack h n claim events true) :
    Backs h n (events ++ past) none := by
  intro hholds
  have hsettles : ∀ node reply,
      (Event.answered h node (.release n) (.ok reply)).settles h n = some false :=
    fun node reply => if_pos ⟨rfl, rfl⟩
  -- putting the driver back settles nothing, so the release decides in both cases
  cases hgive with
  | released => exact Bool.false_ne_true ((holds_cons (hsettles _ _)).1 hholds)
  | attached => exact Bool.false_ne_true ((holds_cons (hsettles _ _)).1 hholds)

end

/-! ## Handles -/

theorem Claim.Takes.handle {h : Handle} {n : UInt8} {events : List Event} {taken : Option Claim}
    (htake : Takes h n events taken) : ∀ e ∈ events, e.handle = h :=
  htake.forall_mem (fun _ _ => rfl) (fun _ _ => rfl) fun _ _ _ => rfl

theorem Claim.GivesBack.handle {h : Handle} {n : UInt8} {claim : Claim} {events : List Event}
    {given : Bool} (hgive : GivesBack h n claim events given) : ∀ e ∈ events, e.handle = h :=
  hgive.forall_mem (fun _ _ _ => rfl) fun _ _ => rfl

theorem Transition.handle {mayForget : Prop} {past events : List Event} {a b : Holding}
    (hstep : Transition mayForget past a events b) :
    ∀ e ∈ events, e.isIdle = false → a.handle = some e.handle := by
  intro e he hactive
  cases hstep with
  | idle hidle =>
    rw [List.mem_singleton.1 he, hidle] at hactive
    cases hactive
  | takes _ htake | fails _ htake => rw [htake.handle e he]
  | gives _ hgive | keeps _ hgive => rw [hgive.handle e he]
  | opens h =>
    rw [List.mem_singleton.1 he] at hactive
    cases hactive
  | closes | forgets => cases he

theorem Transition.handle_or_opened {mayForget : Prop} {past events : List Event} {a b : Holding}
    {h : Handle} (hstep : Transition mayForget past a events b) (hopen : b.handle = some h) :
    a.handle = some h ∨ .opened h ∈ events := by
  cases hstep with
  | idle | takes | fails | gives | keeps | forgets => exact .inl hopen
  | opens h' =>
    cases hopen
    exact .inr List.mem_cons_self
  | closes => cases hopen

/-- A request that settles something is made at a handle opened before, as is the one that is held.
-/
theorem Course.opened {mayForget : Prop} {past : List Event} {a : Holding}
    (hcourse : Course mayForget past a) :
    (∀ h, a.handle = some h → .opened h ∈ past) ∧ ∀ e ∈ past, e.isIdle = false →
      .opened e.handle ∈ past := by
  induction hcourse with
  | start => exact ⟨by simp [Holding.empty], by simp⟩
  | step _ hstep ih =>
    refine ⟨fun h hopen => ?_, fun e he hactive => ?_⟩
    · rcases hstep.handle_or_opened hopen with hbefore | hopened
      · exact List.mem_append_right _ (ih.1 h hbefore)
      · exact List.mem_append_left _ hopened
    · rcases List.mem_append.1 he with he | he
      · exact List.mem_append_right _ (ih.1 _ (hstep.handle e he hactive))
      · exact List.mem_append_right _ (ih.2 e he hactive)

theorem Numbered.not_mem {first : Nat} {h : Handle} {past : List Event}
    (hnumbered : Numbered first (.opened h :: past)) : .opened h ∉ past := by
  intro hmem
  obtain ⟨later, earlier, rfl⟩ := List.append_of_mem hmem
  have hlast := hnumbered h _ (List.suffix_refl _)
  have hfirst := hnumbered h earlier ((List.suffix_append later _).trans (List.suffix_cons _ _))
  have hcount : openings (later ++ .opened h :: earlier) =
      openings later + (openings earlier + 1) := by
    rw [openings_append, openings_cons_opened]
  omega

/-- A handle that has just been opened holds nothing. -/
theorem Course.not_holds_opened {mayForget : Prop} {first : Nat} {h : Handle} {past : List Event}
    {a : Holding} (hcourse : Course mayForget past a)
    (hnumbered : Numbered first (.opened h :: past)) (n : UInt8) :
    ¬ Holds h n past := by
  intro hholds
  obtain ⟨e, he, hsettles⟩ := List.exists_of_findSome?_eq_some hholds
  obtain ⟨hactive, rfl⟩ := Event.settles_eq_some hsettles
  exact hnumbered.not_mem (hcourse.opened.2 e he hactive)

/-- What is remembered of an interface is backed by the requests at the handle. -/
theorem Course.backs {first : Nat} {past : List Event} {a : Holding} {h : Handle}
    (hcourse : Course False past a) (hnumbered : Numbered first past) (hopen : a.handle = some h)
    (n : UInt8) :
    Backs h n past (a.claims n) := by
  induction hcourse with
  | start => cases hopen
  | @step past events a b hpast hstep ih =>
    have hbefore := ih (hnumbered.of_suffix (List.suffix_append _ _))
    cases hstep.turn n with
    | aside hhandle hclaims hapart =>
      rw [hclaims]
      exact (hapart.silent h).backs (hbefore (hhandle.symm.trans hopen))
    | takes hhad hhandle hfree htake hclaims =>
      obtain rfl := Option.some.inj ((hhandle.trans hhad).symm.trans hopen)
      have hnothing := hbefore hhad
      rw [hfree] at hnothing
      rw [hclaims]
      exact htake.backs hnothing
    | gives hhad hhandle hclaim hgive hfree =>
      obtain rfl := Option.some.inj ((hhandle.trans hhad).symm.trans hopen)
      rw [hfree]
      exact hgive.backs
    | keeps hhad hhandle hclaim hgive hclaims =>
      obtain rfl := Option.some.inj ((hhandle.trans hhad).symm.trans hopen)
      rw [hclaims]
      exact hgive.silent.backs (hbefore hhad)
    | ends hstuck hfree hapart hnew =>
      rcases hnew h hopen with hforget | rfl
      · exact hforget.elim
      · have hnothing : Backs h n past none := hpast.not_holds_opened hnumbered n
        rw [hfree]
        exact (hapart.silent h).backs hnothing

/-! ## Drivers owed -/

/-- The number of drivers that are owed for what is remembered of an interface. -/
def owed : Option Claim → Nat
  | some ⟨true⟩ => 1
  | _ => 0

section

variable {h : Handle} {n : UInt8} {events : List Event}

theorem attaches_append (n : UInt8) (later earlier : List Event) :
    attaches n (later ++ earlier) = attaches n later + attaches n earlier :=
  List.countP_append

theorem detachments_append (n : UInt8) (later earlier : List Event) :
    detachments n (later ++ earlier) = detachments n later + detachments n earlier :=
  List.countP_append

theorem Apart.attaches_eq (hapart : Apart n events) : attaches n events = 0 := by
  rw [attaches, List.countP_eq_zero]
  intro e he hattach
  have hother := hapart e he
  unfold Event.isAttach at hattach
  split at hattach
  · exact Bool.false_ne_true (hother.symm.trans hattach)
  · cases hattach

theorem Claim.Takes.attaches_eq {taken : Option Claim} (htake : Takes h n events taken) :
    attaches n events = 0 :=
  List.countP_eq_zero.2 <|
    htake.forall_mem (fun _ _ => Bool.false_ne_true) (fun _ _ => Bool.false_ne_true)
    fun _ _ _ => Bool.false_ne_true

theorem Claim.Takes.owed_le {taken : Option Claim} (htake : Takes h n events taken) :
    owed taken ≤ detachments n events := by
  cases htake with
  | refused => exact Nat.zero_le _
  | @accepted events claim node reply hdetach =>
    obtain ⟨detached⟩ := claim
    cases detached with
    | false => exact Nat.zero_le _
    | true =>
      obtain ⟨node', reply', earlier, rfl⟩ := hdetach.exists_detachment
      simp [owed, detachments, Event.isDetachment]

theorem Claim.GivesBack.attaches_eq {claim : Claim} {given : Bool}
    (hgive : GivesBack h n claim events given) :
    attaches n events = if given = true then owed (some claim) else 0 := by
  obtain ⟨detached⟩ := claim
  cases hgive with
  | refused => rfl
  | released hclaim =>
    subst hclaim
    rfl
  | attached hclaim =>
    subst hclaim
    simp [attaches, Event.isAttach, owed]

end

/-- A driver is put back only where it is owed, and what is owed has been detached. -/
theorem Transition.attaches_le {mayForget : Prop} {past events : List Event} {a b : Holding}
    (hstep : Transition mayForget past a events b) (n : UInt8) :
    attaches n events ≤ owed (a.claims n) ∧
      attaches n events + owed (b.claims n) ≤ owed (a.claims n) + detachments n events := by
  cases hstep.turn n with
  | aside hhandle hclaims hapart =>
    have hnone := hapart.attaches_eq
    rw [hclaims]
    omega
  | takes hhad hhandle hfree htake hclaims =>
    have hnone := htake.attaches_eq
    have howed := htake.owed_le
    rw [hclaims]
    omega
  | gives hhad hhandle hclaim hgive hfree =>
    have hattaches := hgive.attaches_eq
    rw [if_pos rfl] at hattaches
    rw [hclaim, hfree, hattaches]
    exact ⟨le_rfl, Nat.le_add_right _ _⟩
  | keeps hhad hhandle hclaim hgive hclaims =>
    have hattaches := hgive.attaches_eq
    rw [if_neg Bool.false_ne_true] at hattaches
    rw [hclaims]
    omega
  | ends hstuck hfree hapart hnew =>
    have hnone := hapart.attaches_eq
    rw [hfree, hnone]
    exact ⟨Nat.zero_le _, Nat.zero_le _⟩

theorem Course.attaches_add_owed_le {mayForget : Prop} {past : List Event} {a : Holding}
    (hcourse : Course mayForget past a) (n : UInt8) :
    attaches n past + owed (a.claims n) ≤ detachments n past := by
  induction hcourse with
  | start => exact Nat.zero_le _
  | step _ hstep ih =>
    have hdebt := (hstep.attaches_le n).2
    rw [attaches_append, detachments_append]
    omega

/-! ## The laws of the ledger -/

section

variable {mayForget : Prop} {h h' : Handle} {n : UInt8} {events between past : List Event}
  {node : Location} {answer : Except Errno Reply} {a b : Holding}

theorem attach_not_mem (hnone : attaches n events = 0) :
    .answered h node (.attach n) answer ∉ events := by
  intro hmem
  have hother := List.countP_eq_zero.1 hnone _ hmem
  exact hother (beq_self_eq_true n)

theorem claim_not_mem (hapart : Apart n events) : .answered h node (.claim n) answer ∉ events := by
  intro hmem
  exact ne_of_beq_false (hapart _ hmem) rfl

theorem Claim.Takes.of_claim {taken : Option Claim} (htake : Takes h n events taken)
    (hclaim : .answered h' node (.claim n) answer :: between <:+ events) :
    h' = h ∧ Silent h n between := by
  cases htake with
  | accepted hdetach | refused hdetach =>
    rcases List.suffix_cons_iff.1 hclaim with heq | hearlier
    · cases heq
      exact ⟨rfl, hdetach.silent h n⟩
    · exact absurd (hearlier.subset List.mem_cons_self) (hdetach.claimless _ _ _ _)

theorem Claim.GivesBack.of_attach {claim : Claim} {given : Bool}
    (hgive : GivesBack h n claim events given)
    (hattach : .answered h' node (.attach n) answer :: between <:+ events) :
    h' = h ∧ claim.detached = true ∧
      ∃ node' reply, between = [.answered h node' (.release n) (.ok reply)] := by
  cases hgive with
  | refused => simp [List.suffix_cons_iff] at hattach
  | released => simp [List.suffix_cons_iff] at hattach
  | @attached node' _ reply _ hdetached =>
    rcases List.suffix_cons_iff.1 hattach with heq | hearlier
    · cases heq
      exact ⟨rfl, hdetached, node', reply, rfl⟩
    · simp [List.suffix_cons_iff] at hearlier

theorem Transition.sparing (hstep : Transition mayForget past a events b)
    (hbacks : ∀ h, a.handle = some h → Backs h n past (a.claims n))
    (hclaim : .answered h node (.claim n) answer :: between <:+ events) :
    ¬ Holds h n (between ++ past) := by
  have hmem : .answered h node (.claim n) answer ∈ events := hclaim.subset List.mem_cons_self
  cases hstep.turn n with
  | aside _ _ hapart | ends _ _ hapart _ => exact absurd hmem (claim_not_mem hapart)
  | gives _ _ _ hgive _ | keeps _ _ _ hgive _ => exact absurd hmem (hgive.claimless _ _ _ _)
  | takes hhad hhandle hfree htake hclaims =>
    obtain ⟨rfl, hsilent⟩ := htake.of_claim hclaim
    have hbefore := hbacks _ hhad
    rw [hfree] at hbefore
    exact mt hsilent.holds_iff.1 hbefore

theorem Transition.earned (hstep : Transition mayForget past a events b)
    (hbacks : ∀ h, a.handle = some h → Backs h n past (a.claims n))
    (hattach : .answered h node (.attach n) answer :: between <:+ events) :
    OwesDriver h n (between ++ past) := by
  have hmem : .answered h node (.attach n) answer ∈ events := hattach.subset List.mem_cons_self
  cases hstep.turn n with
  | aside _ _ hapart | ends _ _ hapart _ => exact absurd hmem (attach_not_mem hapart.attaches_eq)
  | takes _ _ _ htake _ => exact absurd hmem (attach_not_mem htake.attaches_eq)
  | gives hhad _ hclaim hgive _ | keeps hhad _ hclaim hgive _ =>
    obtain ⟨rfl, hdetached, node', reply, rfl⟩ := hgive.of_attach hattach
    have hbefore := hbacks _ hhad
    rw [hclaim] at hbefore
    exact ⟨node', reply, past, rfl, hbefore.2 hdetached⟩

theorem Ledger.nil (n : UInt8) : Ledger n [] where
  sparing _ _ _ _ hclaim := by simp at hclaim
  earned _ _ _ _ hattach := by simp at hattach
  balanced past hpast := by simp [List.suffix_nil.1 hpast, attaches]

/-- The laws of the ledger are kept by a step from a state that the history backs. -/
theorem Ledger.step (hledger : Ledger n past) (hstep : Transition mayForget past a events b)
    (hbacks : ∀ h, a.handle = some h → Backs h n past (a.claims n))
    (hpaid : attaches n past + owed (a.claims n) ≤ detachments n past) :
    Ledger n (events ++ past) where
  sparing h node answer past' hclaim := by
    rcases cons_suffix_append hclaim with hearlier | ⟨between, rfl, hlater⟩
    · exact hledger.sparing h node answer past' hearlier
    · exact hstep.sparing hbacks hlater
  earned h node answer past' hattach := by
    rcases cons_suffix_append hattach with hearlier | ⟨between, rfl, hlater⟩
    · exact hledger.earned h node answer past' hearlier
    · exact hstep.earned hbacks hlater
  balanced past' hpast := by
    cases past' with
    | nil => exact Nat.zero_le _
    | cons e past' =>
      rcases cons_suffix_append hpast with hearlier | ⟨between, rfl, hlater⟩
      · exact hledger.balanced _ hearlier
      · have hwhole : attaches n (e :: between) ≤ attaches n events := hlater.sublist.countP_le
        have howed := (hstep.attaches_le n).1
        have hattaches := attaches_append n (e :: between) past
        have hdetachments := detachments_append n (e :: between) past
        rw [List.cons_append] at hattaches hdetachments
        omega

theorem Course.ledger {first : Nat} (hcourse : Course False past a)
    (hnumbered : Numbered first past) (n : UInt8) : Ledger n past := by
  induction hcourse with
  | start => exact .nil n
  | step hpast hstep ih =>
    have hbefore := hnumbered.of_suffix (List.suffix_append _ _)
    exact (ih hbefore).step hstep (fun h hopen => hpast.backs hbefore hopen n)
      (hpast.attaches_add_owed_le n)

end

/-! ## Closing -/

/-- The interface that is to be released. -/
def Event.release? : Event → Option UInt8
  | .answered _ _ (.release n) _ => some n
  | _ => none

/-- The interfaces that are to be released, in the order of the requests. -/
def releases (events : List Event) : List UInt8 := events.reverse.filterMap Event.release?

theorem releases_append (later earlier : List Event) :
    releases (later ++ earlier) = releases earlier ++ releases later := by
  rw [releases, List.reverse_append, List.filterMap_append]
  rfl

theorem Claim.GivesBack.releases_eq {h : Handle} {n : UInt8} {claim : Claim} {events : List Event}
    {given : Bool} (hgive : GivesBack h n claim events given) : releases events = [n] := by
  cases hgive <;> rfl

theorem Claim.Surrenders.releases_eq {h : Handle} {given : List (UInt8 × Claim)}
    {events : List Event} (hsurrender : Surrenders h given events) :
    releases events = given.map Prod.fst := by
  induction hsurrender with
  | nil => rfl
  | cons hfirst _ ih =>
    rw [releases_append, hfirst.releases_eq, ih]
    rfl

/-- An open device gives up each of its claims by one request, from the lowest up, and a closed one
asks for nothing. -/
theorem Device.Yields.releases_iff {d : Device} {events : List Event} (hyield : d.Yields events) :
    (d.isOpen = false → events = []) ∧
      (d.isOpen = true →
        (releases events).Pairwise (· < ·) ∧ ∀ n, n ∈ releases events ↔ d.isClaimed n = true) := by
  cases hyield with
  | closed hclosed =>
    refine ⟨fun _ => rfl, fun hopen => ?_⟩
    rw [isOpen, hclosed] at hopen
    cases hopen
  | @surrendered h _ hsome hsurrender =>
    refine ⟨fun hclosed => ?_, fun _ => ?_⟩
    · rw [isOpen, hsome] at hclosed
      cases hclosed
    · rw [hsurrender.releases_eq]
      refine ⟨d.claims.toList_ascending, fun n => ?_⟩
      rw [isClaimed, Option.isSome_iff_exists, List.mem_map]
      constructor
      · rintro ⟨⟨n, claim⟩, hmem, rfl⟩
        exact ⟨claim, Claims.mem_toList.1 hmem⟩
      · rintro ⟨claim, hclaim⟩
        exact ⟨(n, claim), Claims.mem_toList.2 hclaim, rfl⟩

/-! ## Runs -/

namespace Device

variable {d₀ d : Device} {s₀ s : Session}

/-- In a run in which no opening fails while the device is open, an interface is claimed exactly
while the device is open and the latest claim or release of it that was accepted at the handle is a
claim; no claim is asked for twice; and a driver is put back only where it is owed. A closed device
has no claims. Closing an open one releases each claimed interface once, from the lowest up. -/
theorem claims_follow_requests (hfresh : d₀.IsFresh)
    (run : Run (fun op d s => ¬ op.FailsReopening d (op.perform d s).1.1) d₀ s₀ d s) :
    ∃ events, s.host.history = events ++ s₀.host.history ∧
      (∀ n, d.isClaimed n = true ↔ ∃ h, d.handle = some h ∧ Holds h n events) ∧
      (∀ n, Ledger n events) ∧
      (d.isOpen = false → ∀ n, d.isClaimed n = false) ∧
      ∀ op : Operation, ∃ asked, (op.perform d s).2.host.history = asked ++ s.host.history ∧
        (∀ n, d.isClaimed n = true → ∀ h node answer, .answered h node (.claim n) answer ∉ asked) ∧
        (op = .close ∨ op = .drop → (d.isOpen = false → asked = []) ∧
          (d.isOpen = true →
            (releases asked).Pairwise (· < ·) ∧ ∀ n, n ∈ releases asked ↔
              d.isClaimed n = true)) := by
  obtain ⟨events, hevolves, hcourse⟩ :=
    run.course hfresh fun op d s hallowed hfails => hallowed hfails
  have hclosed : d.isOpen = false → d.claims = Claims.none := by
    intro hopen
    have hnone : d.handle = none := by simpa [isOpen] using hopen
    exact hcourse.claims_of_closed hnone
  refine ⟨events, hevolves.history, fun n => ⟨fun hclaimed => ?_, ?_⟩,
    hcourse.ledger hevolves.numbered, fun hopen n => ?_, fun op => ?_⟩
  · obtain ⟨claim, hclaim⟩ := Option.isSome_iff_exists.1 hclaimed
    cases hhandle : d.handle with
    | none =>
      rw [hclosed (by rw [isOpen, hhandle]; rfl)] at hclaim
      cases hclaim
    | some h =>
      have hbacks : Backs h n events (d.claims n) := hcourse.backs hevolves.numbered hhandle n
      rw [hclaim] at hbacks
      exact ⟨h, rfl, hbacks.1⟩
  · rintro ⟨h, hhandle, hholds⟩
    have hbacks : Backs h n events (d.claims n) := hcourse.backs hevolves.numbered hhandle n
    cases hclaim : d.claims n with
    | none =>
      rw [hclaim] at hbacks
      exact absurd hholds hbacks
    | some claim => rw [isClaimed, hclaim, Option.isSome_some]
  · rw [isClaimed, hclosed hopen]
    rfl
  · obtain ⟨asked, hasked, -, hspares⟩ := Asks.perform False d op s
    refine ⟨asked, hasked.history, fun n hclaimed => ?_, fun hcloses => ?_⟩
    · cases hopen : d.isOpen with
      | false =>
        rw [isClaimed, hclosed hopen] at hclaimed
        cases hclaimed
      | true => exact hspares hopen n hclaimed
    · obtain ⟨yielded, hyielded, -, hyield⟩ := Asks.close d s
      have hsame : (op.perform d s).2 = (d.close s).2 := by rcases hcloses with rfl | rfl <;> rfl
      have heq : asked = yielded := by
        rw [← List.append_left_inj s.host.history, ← hasked.history, ← hyielded.history, hsame]
      rw [heq]
      exact hyield.releases_iff

end Device

/-- A kernel that grants whatever it is asked for, and knows of no driver by name. -/
def grantingKernel : Kernel where
  answer _ _ _ request :=
    match request with
    | .getDriver _ => .error .noData
    | _ => .ok ⟨0, []⟩
  delays _ _ _ _ := false

/-- Interface 0 of the small device is claimed once it has been asked for, and the history says so.
-/
theorem claims_follow_requests_smallDevice :
    (smallClaimed grantingKernel).1.2.isClaimed 0 = true ∧
      ∃ events h, (smallClaimed grantingKernel).2.host.history = events ++ [] ∧
        (smallClaimed grantingKernel).1.2.handle = some h ∧ Holds h 0 events ∧ Ledger 0 events := by
  have hrun : Device.Run (fun op d s => ¬ op.FailsReopening d (op.perform d s).1.1) smallDevice
      (smallSession grantingKernel) (smallClaimed grantingKernel).1.2
        (smallClaimed grantingKernel).2 := by
    refine .smallClaimed (fun hfails => ?_) (fun hfails => ?_)
    · exact Bool.false_ne_true hfails.2.1
    · cases hfails.1
  have hclaimed : (smallClaimed grantingKernel).1.2.isClaimed 0 = true := by decide +kernel
  obtain ⟨events, hhistory, hiff, hledger, -⟩ := Device.claims_follow_requests ⟨rfl, rfl⟩ hrun
  obtain ⟨h, hhandle, hholds⟩ := (hiff 0).1 hclaimed
  exact ⟨hclaimed, events, h, hhistory, hhandle, hholds, hledger 0⟩

end UsbAccess
