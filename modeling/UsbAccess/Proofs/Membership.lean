import Mathlib
import UsbAccess.Proofs.Program
import UsbAccess.Proofs.UpstreamPorts

/-!
# Registries and their devices

A registry counts the devices that it has given and that have not been closed since. It does not
notice when such a device is opened again.

Results:
* `Registry.Holds.join`, `Registry.Holds.leave`: the tokens of a registry are those of its devices.
* `Program.Sound.move`: what every move preserves.
* `Program.Step.registry`: a registry stays as it is but for steps about it.
* `Program.registry_counts_members`: what a registry counts and what it tells, in every program.
* `Program.close_ok_iff_all_closed`: when a registry can be closed.
-/

namespace UsbAccess

/-! ## Tokens -/

/-- The token of a device that is registered with registry `k`. -/
def Device.token? (k : ℕ) (d : Device) : Option UInt64 :=
  d.registration.bind fun registration => if registration.registry = k then
    some registration.token else none

theorem Device.token?_of_registration {d d' : Device}
    (h : d'.registration = d.registration) (k : ℕ) :
    d'.token? k = d.token? k := by
  rw [token?, token?, h]

theorem Device.token?_of_none {d : Device} (h : d.registration = none) (k : ℕ) :
    d.token? k = none := by
  rw [token?, h]
  rfl

/-- The registry has registered so many devices, each under a token of its own, and these are the
tokens of the devices that are registered now. -/
structure Registry.Holds (r : Registry) (registered : ℕ) (tokens : List UInt64) : Prop where
  members : tokens.Perm r.tokens
  distinct : tokens.Nodup
  earlier : ∀ token ∈ tokens, token.toNat < registered
  next : r.next.toNat = registered

theorem Registry.Holds.new (settings : Settings) : (Registry.new settings).Holds 0 [] where
  members := .refl _
  distinct := .nil
  earlier _ h := nomatch h
  next := rfl

theorem Registry.Holds.join {r : Registry} {n : ℕ} {tokens : List UInt64} (h : r.Holds n tokens)
    (hn : n + 1 < 2 ^ 64) : r.join.2.Holds (n + 1) (tokens ++ [r.join.1]) := by
  have hfresh : r.next ∉ tokens := by
    intro hmem
    have := h.earlier _ hmem
    have := h.next
    omega
  have htokens : r.join.2.tokens = r.next :: r.tokens :=
    if_neg fun hmem => hfresh (h.members.mem_iff.2 hmem)
  refine ⟨?_, ?_, ?_, ?_⟩
  · rw [htokens]
    exact (List.perm_append_singleton _ _).trans (h.members.cons _)
  · rw [List.nodup_append]
    refine ⟨h.distinct, List.nodup_singleton _, fun a ha b hb heq => ?_⟩
    have hnext : a = r.next := heq.trans (List.mem_singleton.1 hb)
    exact hfresh (hnext ▸ ha)
  · intro token htoken
    obtain hearlier | hlast := List.mem_append.1 htoken
    · exact (h.earlier token hearlier).trans (Nat.lt_succ_self n)
    · rw [List.mem_singleton.1 hlast]
      exact h.next.trans_lt (Nat.lt_succ_self n)
  · show (r.next + 1).toNat = n + 1
    rw [UInt64.toNat_add, h.next]
    exact Nat.mod_eq_of_lt hn

theorem Registry.Holds.leave {r : Registry} {n : ℕ} {front rest : List UInt64} {token : UInt64}
    (h : r.Holds n (front ++ token :: rest)) : (r.leave token).Holds n (front ++ rest) := by
  have hsub : (front ++ rest).Sublist (front ++ token :: rest) :=
    (List.sublist_cons_self token rest).append_left front
  have hleft : token ∉ front ++ rest := (List.nodup_middle.1 h.distinct).notMem
  have hfilter : (front ++ token :: rest).filter (fun t => t ≠ token) = front ++ rest := by
    rw [List.filter_append, List.filter_cons_of_neg (by simp), ← List.filter_append,
      List.filter_eq_self]
    intro t ht
    exact decide_eq_true fun heq => hleft (heq ▸ ht)
  refine ⟨?_, h.distinct.sublist hsub, fun t ht => h.earlier t (hsub.subset ht), h.next⟩
  rw [← hfilter]
  exact h.members.filter _

/-! ## Devices of a program -/

/-- A device that a registry gave is registered with it and open, or it has been closed since. No
other device is registered. -/
structure Owned.Fits (registries : ℕ) (o : Owned) : Prop where
  valid : ∀ k, o.origin = some k → k < registries
  registered : ∀ registration, o.device.registration = some registration →
    o.origin = some registration.registry ∧ o.device.isOpen = true ∧ o.closed = false
  unregistered : o.device.registration = none → ∀ k, o.origin = some k → o.closed = true

theorem Owned.Fits.mono {n n' : ℕ} {o : Owned} (h : o.Fits n) (hn : n ≤ n') : o.Fits n' :=
  ⟨fun k hk => (h.valid k hk).trans_le hn, h.registered, h.unregistered⟩

theorem Owned.Fits.stays {n : ℕ} {o : Owned} {d : Device} (h : o.Fits n)
    (hregistration : d.registration = o.device.registration)
    (hopen : d.registration ≠ none → o.device.isOpen = true → d.isOpen = true) :
    (o.next d).Fits n where
  valid := h.valid
  registered registration hregistered := by
    obtain ⟨horigin, hwas, hclosed⟩ :=
      h.registered registration (hregistration.symm.trans hregistered)
    have hisOpen : d.isOpen = true :=
      hopen (by simp [show d.registration = _ from hregistered]) hwas
    exact ⟨horigin, hisOpen, by simp [next, hclosed, hisOpen]⟩
  unregistered hnone k hk := by
    have hclosed : o.closed = true := h.unregistered (hregistration.symm.trans hnone) k hk
    simp [next, hclosed]

theorem Owned.Fits.leaves {n : ℕ} {o : Owned} {d : Device} (h : o.Fits n)
    (hregistration : d.registration = none) (hclosed : d.isOpen = false) : (o.next d).Fits n where
  valid := h.valid
  registered registration hregistered := by simp [next, hregistration] at hregistered
  unregistered _ _ _ := by simp [next, hclosed]

/-- A device is registered with `k` while `k` gave it and it has not been closed since. -/
theorem Owned.Fits.isSome_token? {n : ℕ} {o : Owned} (h : o.Fits n) (k : ℕ) :
    (o.device.token? k).isSome = true ↔ o.origin = some k ∧ o.closed = false := by
  cases hregistration : o.device.registration with
  | none =>
    rw [Device.token?_of_none hregistration]
    refine ⟨by simp, fun ⟨horigin, hclosed⟩ => ?_⟩
    rw [h.unregistered hregistration k horigin] at hclosed
    cases hclosed
  | some registration =>
    obtain ⟨horigin, -, hclosed⟩ := h.registered registration hregistration
    rw [Device.token?, hregistration, Option.bind_some, horigin, hclosed]
    by_cases hk : registration.registry = k <;> simp [hk]

namespace Program

variable {p p' : Program} {about : Option ℕ} {k : ℕ}

/-! ## What every move preserves -/

/-- The tokens of the devices that are registered with registry `k`. -/
def tokens (p : Program) (k : ℕ) : List UInt64 := p.devices.filterMap fun o => o.device.token? k

/-- The registries and the devices of a program fit together. -/
structure Sound (p : Program) : Prop where
  fits : ∀ o ∈ p.devices, o.Fits p.session.registries.length
  given : ∀ k ∈ p.given, k < p.session.registries.length
  closings : ∀ closing ∈ p.closings, closing.1 < p.session.registries.length
  holds : ∀ k r, p.session.registries[k]? = some r → p.given.count k < 2 ^ 64 →
    r.Holds (p.given.count k) (p.tokens k)
  fired : ∀ k r, p.session.registries[k]? = some r →
    (r.signal.fired = true ↔ (k, .ok ()) ∈ p.closings)

theorem Sound.start (host : Host) : (start host).Sound where
  fits _ h := nomatch h
  given _ h := nomatch h
  closings _ h := nomatch h
  holds _ _ h := nomatch h
  fired _ _ h := nomatch h

theorem tokens_split {front rest : List Owned} {o : Owned}
    (hdevices : p.devices = front ++ o :: rest) (k : ℕ) :
    p.tokens k = front.filterMap (fun o => o.device.token? k) ++
      ((o.device.token? k).toList ++ rest.filterMap fun o => o.device.token? k) := by
  rw [tokens, hdevices, List.filterMap_append]
  cases htoken : o.device.token? k with
  | none => simp [htoken]
  | some token => simp [htoken]

/-- A registry among those of which one has changed. -/
theorem getElem?_set_cases {registries : List Registry} {j k : ℕ} {r r' : Registry}
    (h : (registries.set k r')[j]? = some r) :
    j = k ∧ r = r' ∨ j ≠ k ∧ registries[j]? = some r := by
  by_cases hj : j = k
  · subst hj
    obtain ⟨hlt, -⟩ := List.getElem?_eq_some_iff.1 h
    rw [List.length_set] at hlt
    rw [List.getElem?_set_self hlt, Option.some.injEq] at h
    exact .inl ⟨rfl, h.symm⟩
  · rw [List.getElem?_set_ne (Ne.symm hj)] at h
    exact .inr ⟨hj, h⟩

section Sound

variable {front rest : List Owned} {o : Owned} {d : Device} {r : Registry}

theorem Sound.newRegistry (hp : p.Sound) (settings : Settings) :
    Sound { p with session := ⟨p.session.host, p.session.registries ++ [.new settings]⟩ } := by
  have hlength : p.session.registries.length ≤
      (p.session.registries ++ [Registry.new settings]).length := by simp
  have hcases : ∀ k r, (p.session.registries ++ [Registry.new settings])[k]? = some r →
      p.session.registries[k]? = some r ∨ k = p.session.registries.length ∧ r = .new settings := by
    intro k r hr
    obtain hlt | hge := Nat.lt_or_ge k p.session.registries.length
    · rw [List.getElem?_append_left hlt] at hr
      exact .inl hr
    · rw [List.getElem?_append_right hge, List.getElem?_singleton] at hr
      split_ifs at hr with hk
      exact .inr ⟨by omega, (Option.some.inj hr).symm⟩
  refine ⟨fun o ho => (hp.fits o ho).mono hlength, fun k hk => (hp.given k hk).trans_le hlength,
    fun c hc => (hp.closings c hc).trans_le hlength, fun k r hr hcount => ?_, fun k r hr => ?_⟩
  · obtain hold | ⟨rfl, rfl⟩ := hcases k r hr
    · exact hp.holds k r hold hcount
    · -- nothing has happened yet that concerns the new registry
      have hcountZero : p.given.count p.session.registries.length = 0 :=
        List.count_eq_zero.2 fun hmem => (hp.given _ hmem).false
      have htokens : p.tokens p.session.registries.length = [] := by
        refine List.filterMap_eq_nil_iff.2 fun o ho => ?_
        cases hregistration : o.device.registration with
        | none => exact Device.token?_of_none hregistration _
        | some registration =>
          have hlt := (hp.fits o ho).valid _ ((hp.fits o ho).registered _ hregistration).1
          rw [Device.token?, hregistration, Option.bind_some, if_neg hlt.ne]
      show (Registry.new settings).Holds (p.given.count _) (p.tokens _)
      rw [hcountZero, htokens]
      exact .new settings
  · obtain hold | ⟨rfl, rfl⟩ := hcases k r hr
    · exact hp.fired k r hold
    · exact ⟨by simp [Registry.new, Signal.new],
        fun hmem => absurd (hp.closings _ hmem) (lt_irrefl _)⟩

theorem Sound.acquires (hp : p.Sound) (hd : d.registration = none) :
    Sound { p with devices := p.devices ++ [⟨d, none, false⟩] } := by
  refine ⟨fun o ho => ?_, hp.given, hp.closings, fun k r hr hcount => ?_, hp.fired⟩
  · obtain hold | hnew := List.mem_append.1 ho
    · exact hp.fits o hold
    · rw [List.mem_singleton.1 hnew]
      exact ⟨by simp, by simp [hd], by simp⟩
  · have htokens : tokens { p with devices := p.devices ++ [⟨d, none, false⟩] } k = p.tokens k := by
      simp [tokens, List.filterMap_append, Device.token?_of_none hd]
    rw [htokens]
    exact hp.holds k r hr hcount

theorem Sound.joins (hp : p.Sound) (hr : p.session.registries[k]? = some r)
    (hopen : d.isOpen = true) :
    (p.receive k [{ d with registration := some ⟨k, r.join.1⟩ }]
      (p.session.setRegistry k r.join.2)).Sound := by
  have hlength : (p.session.registries.set k r.join.2).length = p.session.registries.length :=
    List.length_set
  have hk := (List.getElem?_eq_some_iff.1 hr).1
  have hcountOf : ∀ j, (List.replicate 1 k ++ p.given).count j =
      p.given.count j + if k = j then 1 else 0 := by
    intro j
    rw [List.replicate_one, List.singleton_append, List.count_cons]
    simp
  set d' : Device := { d with registration := some ⟨k, r.join.1⟩ } with hd'
  have htokens : ∀ j, (p.receive k [d'] (p.session.setRegistry k r.join.2)).tokens j =
      p.tokens j ++ if k = j then [r.join.1] else [] := by
    intro j
    have htoken : d'.token? j = if k = j then some r.join.1 else none := rfl
    by_cases hj : k = j <;> simp [tokens, receive, List.filterMap_append, htoken, hj]
  refine ⟨fun o ho => ?_, fun j hj => ?_, fun c hc => ?_, fun j r' hj hcount => ?_,
    fun j r' hj => ?_⟩
  · obtain hold | hnew := List.mem_append.1 ho
    · exact (hp.fits o hold).mono hlength.ge
    · rw [List.mem_singleton.1 hnew]
      refine ⟨fun j hj => ?_, fun registration h => ?_, by simp [hd']⟩
      · exact hlength.symm ▸ Option.some.inj hj ▸ hk
      · cases h
        exact ⟨rfl, hopen, rfl⟩
  · refine (?_ : j < p.session.registries.length).trans_eq hlength.symm
    obtain heq | hold := List.mem_cons.1 hj
    · exact heq ▸ hk
    · exact hp.given j hold
  · exact (hp.closings c hc).trans_eq hlength.symm
  · change (List.replicate 1 k ++ p.given).count j < 2 ^ 64 at hcount
    show r'.Holds ((List.replicate 1 k ++ p.given).count j) _
    rw [hcountOf] at hcount ⊢
    rw [htokens]
    obtain ⟨rfl, rfl⟩ | ⟨hne, hold⟩ := getElem?_set_cases hj
    · rw [if_pos rfl] at hcount ⊢
      rw [if_pos rfl]
      exact (hp.holds j r hr (by omega)).join hcount
    · rw [if_neg hne.symm] at hcount ⊢
      rw [if_neg hne.symm, List.append_nil]
      exact hp.holds j r' hold hcount
  · obtain ⟨rfl, rfl⟩ | ⟨hne, hold⟩ := getElem?_set_cases hj
    · exact hp.fired j r hr
    · exact hp.fired j r' hold

/-- A device among those of which one has been used. -/
theorem fits_of_mem_middle {n n' : ℕ} {o' : Owned} (hdevices : p.devices = front ++ o :: rest)
    (hfits : ∀ o ∈ p.devices, o.Fits n) (hn : n ≤ n') (ho' : o'.Fits n') :
    ∀ o ∈ front ++ o' :: rest, o.Fits n' := by
  intro o'' hmem
  obtain hfront | rfl | hrest : o'' ∈ front ∨ o'' = o' ∨ o'' ∈ rest := by simpa using hmem
  · exact (hfits o'' (by simp [hdevices, hfront])).mono hn
  · exact ho'
  · exact (hfits o'' (by simp [hdevices, hrest])).mono hn

theorem Sound.stays (hp : p.Sound) (hdevices : p.devices = front ++ o :: rest)
    (hregistration : d.registration = o.device.registration)
    (hopen : d.registration ≠ none → o.device.isOpen = true → d.isOpen = true) :
    Sound { p with devices := front ++ o.next d :: rest } := by
  have ho : o.Fits p.session.registries.length := hp.fits o (by simp [hdevices])
  refine ⟨fits_of_mem_middle hdevices hp.fits le_rfl (ho.stays hregistration hopen), hp.given,
    hp.closings, fun k r hr hcount => ?_, hp.fired⟩
  have htokens : tokens { p with devices := front ++ o.next d :: rest } k = p.tokens k := by
    rw [tokens_split hdevices, tokens_split (o := o.next d) rfl]
    rw [show (o.next d).device.token? k = o.device.token? k from
      Device.token?_of_registration hregistration k]
  rw [htokens]
  exact hp.holds k r hr hcount

theorem Sound.drops (hp : p.Sound) (hdevices : p.devices = front ++ o :: rest)
    (hregistration : o.device.registration = none) : Sound { p with devices := front ++ rest } := by
  refine ⟨fun o' ho' => hp.fits o' ?_, hp.given, hp.closings, fun k r hr hcount => ?_, hp.fired⟩
  · rw [hdevices]
    exact ((List.sublist_cons_self o rest).append_left front).subset ho'
  · have htokens : tokens { p with devices := front ++ rest } k = p.tokens k := by
      rw [tokens_split hdevices, Device.token?_of_none hregistration]
      exact List.filterMap_append
    rw [htokens]
    exact hp.holds k r hr hcount

/-- A registry among those of which one has been left. -/
theorem exists_of_withoutMember {registration : Registration} {registries : List Registry} {j : ℕ}
    (h : (Device.withoutMember (some registration) registries)[j]? = some r) :
    ∃ r₀, registries[j]? = some r₀ ∧
      r = if registration.registry = j then r₀.leave registration.token else r₀ := by
  rw [Device.withoutMember, List.getElem?_modify] at h
  obtain ⟨r₀, hr₀, heq⟩ := Option.map_eq_some_iff.1 h
  exact ⟨r₀, hr₀, heq.symm⟩

theorem Sound.leaves {registration : Registration} (hp : p.Sound)
    (hdevices : p.devices = front ++ o :: rest)
    (hregistered : o.device.registration = some registration)
    (hregistration : d.registration = none)
    (hclosed : d.isOpen = false) :
    Sound { p with
      session := ⟨p.session.host, Device.withoutMember (some registration) p.session.registries⟩
      devices := front ++ o.next d :: rest } := by
  have ho : o.Fits p.session.registries.length := hp.fits o (by simp [hdevices])
  have hlength : (Device.withoutMember (some registration) p.session.registries).length =
      p.session.registries.length :=
    List.length_modify ..
  refine ⟨fits_of_mem_middle hdevices hp.fits hlength.ge
    ((ho.mono hlength.ge).leaves hregistration hclosed),
    fun k hk => (hp.given k hk).trans_eq hlength.symm,
      fun c hc => (hp.closings c hc).trans_eq hlength.symm,
    fun k r hr hcount => ?_, fun k r hr => ?_⟩
  · obtain ⟨r₀, hr₀, rfl⟩ := exists_of_withoutMember hr
    have hheld := hp.holds k r₀ hr₀ hcount
    rw [tokens_split hdevices] at hheld
    have htoken : (o.next d).device.token? k = none := Device.token?_of_none hregistration k
    rw [tokens_split (o := o.next d) rfl, htoken]
    by_cases hk : registration.registry = k
    · have htoken : o.device.token? k = some registration.token := by
        rw [Device.token?, hregistered, Option.bind_some, if_pos hk]
      rw [htoken] at hheld
      rw [if_pos hk]
      exact hheld.leave
    · have htoken : o.device.token? k = none := by
        rw [Device.token?, hregistered, Option.bind_some, if_neg hk]
      rw [htoken] at hheld
      rw [if_neg hk]
      exact hheld
  · obtain ⟨r₀, hr₀, rfl⟩ := exists_of_withoutMember hr
    have hsignal : (if registration.registry = k then r₀.leave registration.token else r₀).signal =
        r₀.signal := by
      split_ifs <;> rfl
    rw [hsignal]
    exact hp.fired k r₀ hr₀

theorem Sound.fires (hp : p.Sound) (hr : p.session.registries[k]? = some r) :
    Sound { p with
      session := p.session.setRegistry k { r with signal := r.signal.fire }
      closings := (k, .ok ()) :: p.closings } := by
  have hlength : (p.session.registries.set k { r with signal := r.signal.fire }).length =
    p.session.registries.length :=
    List.length_set
  have hk := (List.getElem?_eq_some_iff.1 hr).1
  refine ⟨fun o ho => (hp.fits o ho).mono hlength.ge,
    fun j hj => (hp.given j hj).trans_eq hlength.symm, fun c hc =>
      (?_ : c.1 < p.session.registries.length).trans_eq hlength.symm, fun j r' hj hcount => ?_,
    fun j r' hj => ?_⟩
  · obtain rfl | hold := List.mem_cons.1 hc
    · exact hk
    · exact hp.closings c hold
  · obtain ⟨rfl, rfl⟩ | ⟨hne, hold⟩ := getElem?_set_cases hj
    · have hheld := hp.holds j r hr hcount
      exact ⟨hheld.members, hheld.distinct, hheld.earlier, hheld.next⟩
    · exact hp.holds j r' hold hcount
  · obtain ⟨rfl, rfl⟩ | ⟨hne, hold⟩ := getElem?_set_cases hj
    · exact ⟨fun _ => List.mem_cons_self, fun _ => rfl⟩
    · rw [hp.fired j r' hold]
      simp [hne]

theorem Sound.refuses (hp : p.Sound) (hr : p.session.registries[k]? = some r) (error : Error) :
    Sound { p with closings := (k, .error error) :: p.closings } := by
  refine ⟨hp.fits, hp.given, fun c hc => ?_, hp.holds, fun j r' hj => ?_⟩
  · obtain rfl | hold := List.mem_cons.1 hc
    · exact (List.getElem?_eq_some_iff.1 hr).1
    · exact hp.closings c hold
  · rw [hp.fired j r' hj]
    simp

theorem Sound.move (hp : p.Sound) (hmove : Move about p p') : p'.Sound := by
  cases hmove with
  | elsewhere => exact ⟨hp.fits, hp.given, hp.closings, hp.holds, hp.fired⟩
  | observes => exact ⟨hp.fits, hp.given, hp.closings, hp.holds, hp.fired⟩
  | newRegistry settings => exact hp.newRegistry settings
  | acquires hd => exact hp.acquires hd
  | joins habout hr hopen => exact hp.joins hr hopen
  | stays hdevices hregistration hopen => exact hp.stays hdevices hregistration hopen
  | leaves habout hdevices hregistered hregistration hclosed =>
    exact hp.leaves hdevices hregistered hregistration hclosed
  | drops hdevices hregistration => exact hp.drops hdevices hregistration
  | fires habout hr => exact hp.fires hr
  | refuses hr error => exact hp.refuses hr error

end Sound

theorem Sound.moves (hp : p.Sound) (hmoves : Moves about p p') : p'.Sound := by
  induction hmoves with
  | refl => exact hp
  | tail _ hmove ih => exact ih.move hmove

theorem Reached.step (hp : p.Reached) (hstep : Step about p p') : p'.Reached := by
  obtain ⟨host, hrun⟩ := hp
  exact ⟨host, hrun.tail ⟨about, hstep⟩⟩

theorem Reached.sound (hp : p.Reached) : p.Sound := by
  obtain ⟨host, hrun⟩ := hp
  induction hrun with
  | refl => exact .start host
  | tail _ hstep ih => exact ih.moves hstep.choose_spec.moves

/-! ## Other registries -/

/-- A registry stays as it is but for moves about it, and no closing is forgotten. -/
theorem Move.registry {r : Registry} (hp : p.Sound) (hmove : Move about p p')
    (hr : p.session.registries[k]? = some r) :
    p.closings <:+ p'.closings ∧ ∃ r', p'.session.registries[k]? = some r' ∧
      (about ≠ some k → r' = r) := by
  have hset : ∀ {j : ℕ} {r' : Registry}, about = some j →
      ∃ r₁, (p.session.registries.set j r')[k]? = some r₁ ∧ (about ≠ some k → r₁ = r) := by
    intro j r' habout
    by_cases hj : j = k
    · subst hj
      rw [List.getElem?_set_self (List.getElem?_eq_some_iff.1 hr).1]
      exact ⟨r', rfl, fun hother => absurd habout hother⟩
    · rw [List.getElem?_set_ne hj]
      exact ⟨r, hr, fun _ => rfl⟩
  cases hmove with
  | elsewhere | observes | acquires | stays | drops =>
    exact ⟨List.suffix_refl _, r, hr, fun _ => rfl⟩
  | newRegistry =>
    refine ⟨List.suffix_refl _, r, ?_, fun _ => rfl⟩
    rw [List.getElem?_append_left (List.getElem?_eq_some_iff.1 hr).1]
    exact hr
  | joins habout => exact ⟨List.suffix_refl _, hset habout⟩
  | @leaves front rest o d registration habout hdevices hregistered =>
    refine ⟨List.suffix_refl _, _, (List.getElem?_modify ..).trans (by rw [hr]; rfl),
      fun hother => if_neg fun hk => ?_⟩
    have horigin := ((hp.fits o (by simp [hdevices])).registered registration hregistered).1
    exact hother (habout.trans (hk ▸ horigin))
  | fires habout => exact ⟨List.suffix_cons _ _, hset habout⟩
  | refuses => exact ⟨List.suffix_cons _ _, r, hr, fun _ => rfl⟩

theorem Step.registry {r : Registry} (hp : p.Sound) (hstep : Step about p p')
    (hr : p.session.registries[k]? = some r) :
    p.closings <:+ p'.closings ∧ ∃ r', p'.session.registries[k]? = some r' ∧
      (about ≠ some k → r' = r) := by
  have hmoves := hstep.moves
  clear hstep
  induction hmoves with
  | refl => exact ⟨List.suffix_refl _, r, hr, fun _ => rfl⟩
  | tail hmoves hmove ih =>
    obtain ⟨hclosings, r₁, hr₁, heq₁⟩ := ih
    obtain ⟨hclosings', r₂, hr₂, heq₂⟩ := hmove.registry (hp.moves hmoves) hr₁
    exact ⟨hclosings.trans hclosings', r₂, hr₂, fun hother => (heq₂ hother).trans (heq₁ hother)⟩

/-! ## What a registry counts -/

/-- The number of devices that are registered with registry `k`. -/
def members (p : Program) (k : ℕ) : ℕ := p.devices.countP fun o => (o.device.token? k).isSome

theorem length_tokens (p : Program) (k : ℕ) : (p.tokens k).length = p.members k :=
  List.length_filterMap_eq_countP

/-- What holds of registry `k`, which is `r`, at every moment. -/
structure Counts (p : Program) (k : ℕ) (r : Registry) : Prop where
  /-- The registry counts the devices that are registered with it. -/
  openCount : r.openCount = p.members k
  /-- It has their tokens, and no others. -/
  tokens : (p.tokens k).Perm r.tokens
  /-- Each device has a token of its own. -/
  distinct : (p.tokens k).Nodup
  /-- A device that is registered is open. -/
  isOpen : ∀ o ∈ p.devices, (o.device.token? k).isSome = true → o.device.isOpen = true
  /-- The registry can be closed when no device is registered. Otherwise the refusal tells how many
  there are, and nothing changes. -/
  close : Session.close k p.session =
    if p.members k = 0 then (.ok (), p.session.setRegistry k { r with signal := r.signal.fire })
    else (.error (.devicesStillOpen (p.members k)), p.session)
  /-- The signal has fired once the registry has been closed. -/
  fired : r.signal.fired = true ↔ (k, .ok ()) ∈ p.closings
  /-- So tells its error. -/
  error : r.error? = some .cancelled ↔ (k, .ok ()) ∈ p.closings
  /-- No step takes that back, and steps about other registries leave this one as it is. -/
  steps : ∀ about p', Step about p p' → ∃ r', p'.session.registries[k]? = some r' ∧
    (r.signal.fired = true → r'.signal.fired = true) ∧ (about ≠ some k → r' = r)

theorem Sound.counts {r : Registry} (hp : p.Sound) (hr : p.session.registries[k]? = some r)
    (hgiven : p.given.count k < 2 ^ 64) : p.Counts k r := by
  have hholds := hp.holds k r hr hgiven
  have hcount : r.openCount = p.members k := by
    rw [← length_tokens]
    exact hholds.members.length_eq.symm
  refine ⟨hcount, hholds.members, hholds.distinct, fun o ho hmember => ?_, ?_, hp.fired k r hr, ?_,
    fun about p' hstep => ?_⟩
  · cases hregistration : o.device.registration with
    | none => simp [Device.token?_of_none hregistration] at hmember
    | some registration => exact ((hp.fits o ho).registered registration hregistration).2.1
  · unfold Session.close Registry.close
    simp only [hr, hcount]
    by_cases hnone : p.members k = 0
    · simp [hnone]
    · simp [hnone, Nat.pos_of_ne_zero hnone]
  · rw [← hp.fired k r hr, Registry.error?]
    cases r.signal.fired <;> simp
  · obtain ⟨hclosings, r', hr', heq⟩ := hstep.registry hp hr
    refine ⟨r', hr', fun hfired => ?_, heq⟩
    exact ((hp.moves hstep.moves).fired k r' hr').2 (hclosings.subset ((hp.fired k r hr).1 hfired))

/-- An observer sees a registry closed once a closing of it has succeeded. -/
theorem Sound.isDone_iff (hp : p.Sound) (k : ℕ) : p.isDone k = true ↔ (k, .ok ()) ∈ p.closings := by
  unfold isDone
  cases hr : p.session.registries[k]? with
  | none =>
    have hk := List.getElem?_eq_none_iff.1 hr
    exact ⟨by simp, fun hmem => absurd (hp.closings _ hmem) (not_lt.2 hk)⟩
  | some r => exact hp.fired k r hr

/-- In every program, whatever it has done with its registries and devices: as long as a registry
has not registered 2^64 devices, it counts the devices that are registered with it, and what it
tells follows from what has happened to it. Whoever observes a registry, from whenever on, sees it
closed once a closing of it has succeeded. -/
theorem registry_counts_members (hp : p.Reached) :
    (∀ k r, p.session.registries[k]? = some r → p.given.count k < 2 ^ 64 → p.Counts k r) ∧
    ∀ k ∈ p.observers, p.isDone k = true ↔ (k, .ok ()) ∈ p.closings :=
  ⟨fun _ _ hr hgiven => hp.sound.counts hr hgiven, fun k _ => hp.sound.isDone_iff k⟩

/-- A registry can be closed just if each device that it gave, and that is still in use, has been
closed since, be it open again or not. A device that has not been closed since is open. -/
theorem close_ok_iff_all_closed {r : Registry} (hp : p.Reached)
    (hr : p.session.registries[k]? = some r) (hgiven : p.given.count k < 2 ^ 64) :
    ((Session.close k p.session).1 = .ok () ↔ ∀ o ∈ p.devices,
      o.origin = some k → o.closed = true) ∧
    ∀ o ∈ p.devices, o.origin = some k → o.closed = false → o.device.isOpen = true := by
  have hfits := hp.sound.fits
  have hcounts := hp.sound.counts hr hgiven
  have hclose : (Session.close k p.session).1 = .ok () ↔ p.members k = 0 := by
    rw [hcounts.close]
    split_ifs with hnone <;> simp [hnone]
  refine ⟨?_, fun o ho horigin hclosed =>
    hcounts.isOpen o ho (((hfits o ho).isSome_token? k).2 ⟨horigin, hclosed⟩)⟩
  rw [hclose, members, List.countP_eq_zero]
  refine ⟨fun hnone o ho horigin => ?_, fun hclosed o ho hmember => ?_⟩
  · by_contra hopen
    exact hnone o ho (((hfits o ho).isSome_token? k).2 ⟨horigin, by simpa using hopen⟩)
  · obtain ⟨horigin, hnot⟩ := ((hfits o ho).isSome_token? k).1 hmember
    rw [hclosed o ho horigin] at hnot
    cases hnot

/-! ## A program with a hub -/

/-- The program that has made a registry at the host with a hub. -/
def hubProgram : Program := { start hubHost with session := ⟨hubHost, [.new smallSettings]⟩ }

theorem reached_hubProgram : hubProgram.Reached :=
  ⟨hubHost, .single ⟨none, .newRegistry (start hubHost) smallSettings⟩⟩

/-- Chooses the first device, whichever it is. -/
def chooseAny (seen : Bool) (_ : Device) : Bool × Bool := (!seen, true)

/-- The hub is opened by registry 0, and its node stays there. -/
theorem openDevices_hubProgram :
    ∃ hub host l,
      (Inventory.openDevices 0 smallSettings chooseAny false hubProgram.session).1.devices = [hub] ∧
      (Inventory.openDevices 0 smallSettings chooseAny false hubProgram.session).2 =
        ⟨host, [(Registry.new smallSettings).join.2]⟩ ∧
      hub.registration = some ⟨0, 0⟩ ∧ hub.claims = Claims.none ∧
      host.files.openToUpdate hub.node = .ok l := by
  obtain ⟨hub, d, hdevices, ⟨haddress, -⟩, -⟩ := Inventory.list_hubHost
  obtain ⟨tree, ask, hints, host₁, hmade⟩ :=
    Inventory.assembled_of_mem_list (d := hub) (by rw [hdevices]; simp)
  have hclosed : hub.handle = none := by rw [hmade]; rfl
  have hclaims : hub.claims = Claims.none := by rw [hmade]; rfl
  have hroot : hub.nodeRoot = smallSettings.nodeRoot := by rw [hmade]; rfl
  have hnode : (Inventory.list smallSettings hubHost).2.files.openToUpdate hub.node =
      .ok (located ["n", "001", "001"]) := by
    rw [Inventory.list_files, Device.node, haddress, hroot]
    cbv
  generalize hlist : Inventory.list smallSettings hubHost = list at hdevices hnode
  obtain ⟨⟨devices, remarks, error⟩, listed⟩ := list
  obtain rfl : devices = [hub, d] := hdevices
  have hopen := Device.open_of_node hclosed hnode
  -- the hub is chosen and opened, and no other device is chosen then
  have hsecond : ∀ devices s, Inventory.openChosen 0 chooseAny ⟨devices, error, true⟩ d s =
      (⟨devices, error, true⟩, s) := fun _ _ => rfl
  have hfirst : Inventory.openChosen 0 chooseAny ⟨[], error, false⟩ hub
      ⟨listed, [.new smallSettings]⟩ =
      (⟨[{ hub with
          handle := some (Host.newHandle (located ["n", "001", "001"]) listed).1
          registration := some ⟨0, 0⟩ }], error, true⟩,
        ⟨(Host.newHandle (located ["n", "001", "001"]) listed).2,
          [(Registry.new smallSettings).join.2]⟩) := by
    unfold Inventory.openChosen chooseAny
    simp only [Bool.not_false, if_true, Inventory.bind_apply, Session.onHost, hopen]
    rfl
  have hsession : hubProgram.session = ⟨hubHost, [.new smallSettings]⟩ := rfl
  rw [openDevices_eq, hsession]
  simp only [hlist, List.foldlM_cons, Inventory.bind_apply, hfirst, hsecond]
  exact ⟨_, _, _, rfl, rfl, rfl, hclaims, hnode⟩

/-- The program when registry 0 has given it the hub. -/
theorem reached_hub :
    ∃ (p : Program) (hub : Device) (l : Location), p.Reached ∧
      p.session.registries = [(Registry.new smallSettings).join.2] ∧
      p.devices = [⟨hub, some 0, false⟩] ∧ p.given = [0] ∧
      hub.registration = some ⟨0, 0⟩ ∧ hub.claims = Claims.none ∧
      p.session.host.files.openToUpdate hub.node = .ok l := by
  obtain ⟨hub, host, l, hdevices, hsession, hregistration, hclaims, hnode⟩ := openDevices_hubProgram
  have hreached :=
    reached_hubProgram.step (.openDevices (r := .new smallSettings) (k := 0) chooseAny false rfl)
  change Reached (hubProgram.receive 0
    (Inventory.openDevices 0 smallSettings chooseAny false _).1.devices _) at hreached
  change Reached
    (hubProgram.receive 0 _ (Inventory.openDevices 0 smallSettings chooseAny false _).2) at hreached
  rw [hdevices, hsession] at hreached
  exact ⟨_, hub, l, hreached, rfl, rfl, rfl, hregistration, hclaims, hnode⟩

/-- While the program has the hub from registry 0, the registry counts it and cannot be closed. -/
theorem registry_counts_members_hub :
    ∃ (p : Program) (r : Registry), p.Reached ∧ p.session.registries[0]? = some r ∧
      r.openCount = 1 ∧ p.Counts 0 r ∧
      Session.close 0 p.session = (.error (.devicesStillOpen 1), p.session) := by
  obtain ⟨p, hub, l, hp, hregistries, hdevices, hgiven, hregistration, -⟩ := reached_hub
  have hr : p.session.registries[0]? = some (Registry.new smallSettings).join.2 := by
    rw [hregistries]
    rfl
  have hcounts := (registry_counts_members hp).1 0 _ hr (by rw [hgiven]; decide)
  have hmembers : p.members 0 = 1 := by
    rw [members, hdevices]
    simp [Device.token?, hregistration]
  refine ⟨p, _, hp, hr, hcounts.openCount.trans hmembers, hcounts, ?_⟩
  rw [hcounts.close, hmembers]
  rfl

/-- When the hub has been closed and opened again, the registry can be closed, though the hub is
open. -/
theorem close_ok_of_opened_again :
    ∃ (p : Program) (r : Registry) (o : Owned), p.Reached ∧
      p.session.registries[0]? = some r ∧ p.devices = [o] ∧ o.origin = some 0 ∧
      o.device.isOpen = true ∧ (Session.close 0 p.session).1 = .ok () := by
  obtain ⟨p, hub, l, hp, hregistries, hdevices, hgiven, hregistration, hclaims, hnode⟩ :=
    reached_hub
  have hp₁ : Reached { p with
      session := (hub.close p.session).2, devices := [⟨hub.unheld, some 0, true⟩] } := by
    have hstep := hp.step (.operate [] [] .close hdevices)
    have hclose : Device.Operation.close.perform hub p.session =
        ((.ok (), hub.unheld), (hub.close p.session).2) := by
      rw [← hub.close_fst p.session]
      rfl
    rw [hclose] at hstep
    exact hstep
  have hnode₁ : (hub.close p.session).2.host.files.openToUpdate hub.unheld.node = .ok l := by
    rw [Device.close_host hclaims]
    exact hnode
  set host := (Host.newHandle l (hub.close p.session).2.host).2
  set opened : Device :=
    { hub.unheld with handle := some (Host.newHandle l (hub.close p.session).2.host).1 }
  have hopen : Device.Operation.open.perform hub.unheld (hub.close p.session).2 =
      ((.ok (), opened), ⟨host, (hub.close p.session).2.registries⟩) := by
    show Session.onHost hub.unheld.open (hub.close p.session).2 = _
    rw [Session.onHost, Device.open_of_node rfl hnode₁]
  have hp₂ := hp₁.step (.operate [] [] .open rfl)
  simp only [hopen, List.nil_append] at hp₂
  have hr : (hub.close p.session).2.registries[0]? =
      some ((Registry.new smallSettings).join.2.leave 0) := by
    rw [Device.close_registries, hregistries, hregistration]
    rfl
  have hclose :=
    (close_ok_iff_all_closed hp₂ hr (by rw [hgiven]; decide)).1.2 (by simp [Owned.next])
  exact ⟨_, _, _, hp₂, hr, rfl, rfl, rfl, hclose⟩

end Program

end UsbAccess
