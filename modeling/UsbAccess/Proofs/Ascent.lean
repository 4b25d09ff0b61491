import Mathlib
import UsbAccess.Proofs.UpstreamPorts

/-!
# The way up

The hubs above a device are asked for one after the other, and each answer tells which hub is the
next. Answers may lead to a hub that nobody knows, or round in circles: seven hubs are asked for at
most, those on the way, in their order, and each that is found gives its port.

Results:
* `PortPath.getElem?_visits`: which hub is visited at which place of the way.
* `PortPath.found_eq_filterMap`: the ports that are found are those of the hubs at these places.
* `PortPath.upstream_next`: the ports above a hub and those above the next one.
* `PortPath.climb_noting`, `PortPath.climb_table`: a walk that asks for each hub in its turn,
  whoever answers.
* `PortPath.ascent_in_order`: what is asked for on the way up, and what comes of it.
-/

namespace UsbAccess.PortPath

variable {κ σ : Type}

/-! ## Places on the way -/

/-- The hub above a hub, if there is one and the table tells it. -/
def next (look : κ → Option (UInt8 × Option κ)) (node : Option κ) : Option κ :=
  node.bind fun hub => (look hub).bind Prod.snd

/-- The port of a hub that the table knows. -/
def port? (look : κ → Option (UInt8 × Option κ)) (node : Option κ) : Option UInt8 :=
  (node.bind look).map Prod.fst

/-- The port of a hub as it stands in a way: a port 0 is none. -/
def own (look : κ → Option (UInt8 × Option κ)) (node : Option κ) : List UInt8 :=
  (port? look node).toList.filter fun port => port ≠ 0

section Table

variable (look : κ → Option (UInt8 × Option κ))

theorem next_iterate_none (i : ℕ) : (next look)^[i] none = none :=
  Function.iterate_fixed rfl i

/-- At place `i` of the way the hub is visited to which `i` steps up lead. -/
theorem getElem?_visits (limit i : ℕ) (start : Option κ) :
    (visits look limit start)[i]? =
      if i < limit then ((next look)^[i] start).map fun hub => (hub, look hub) else none := by
  induction limit generalizing i start with
  | zero => rfl
  | succ limit ih =>
    cases start with
    | none => simp [visits_none, next_iterate_none]
    | some hub =>
      unfold visits
      cases hlook : look hub with
      | none =>
        have hlost : next look (some hub) = none := by simp [next, hlook]
        cases i with
        | zero => simp [hlook]
        | succ i => simp [hlost, next_iterate_none]
      | some hop =>
        obtain ⟨port, above⟩ := hop
        have habove : next look (some hub) = above := by simp [next, hlook]
        cases i with
        | zero => simp [hlook]
        | succ i => simp [ih, habove]

/-- The first hub gives its port, and then those above it theirs. -/
theorem found_succ (limit : ℕ) (start : Option κ) :
    found look (limit + 1) start = (port? look start).toList ++
      found look limit (next look start) := by
  cases start with
  | none => simp [found_none, port?, next]
  | some hub =>
    cases hlook : look hub with
    | none =>
      have hlost : found look (limit + 1) (some hub) = [] := by
        rw [found, visits, hlook]
        rfl
      simp [hlost, port?, next, hlook, found_none]
    | some hop =>
      obtain ⟨port, above⟩ := hop
      simp [found_some hlook, port?, next, hlook]

/-- The ports that are found are those of the hubs at the places of the way. -/
theorem found_eq_filterMap (limit : ℕ) (start : Option κ) :
    found look limit start = (List.range limit).filterMap fun i =>
      port? look ((next look)^[i] start) := by
  induction limit generalizing start with
  | zero => rfl
  | succ limit ih =>
    rw [found_succ, ih, List.range_succ_eq_map, List.filterMap_cons, List.filterMap_map,
      Function.iterate_zero_apply]
    cases port? look start <;> rfl

/-- One visit more finds the port of one hub more. -/
theorem found_concat (limit : ℕ) (start : Option κ) :
    found look (limit + 1) start = found look limit start ++
      (port? look ((next look)^[limit] start)).toList := by
  rw [found_eq_filterMap, found_eq_filterMap, List.range_succ, List.filterMap_append]
  cases hlast : port? look ((next look)^[limit] start) <;> simp [hlast]

/-- The ports above the next hub and then that of the hub itself are the ports above the hub, but
for one that stands in front of them where the way goes on beyond the hubs that are visited. -/
theorem upstream_next (start : Option κ) :
    upstream look (next look start) ++ own look start =
      own look ((next look)^[maxTiers] start) ++ upstream look start := by
  have hways := (found_succ look maxTiers start).symm.trans (found_concat look maxTiers start)
  have hreversed := congrArg (fun ports => ports.reverse.filter fun port => port ≠ 0) hways
  have hself : ∀ port : Option UInt8, port.toList.reverse = port.toList := by rintro (_ | _) <;> rfl
  simp only [List.reverse_append, List.filter_append, hself] at hreversed
  exact hreversed

end Table

/-! ## Walks -/

/-- A walk up, hub by hub: `ask` is asked for `limit` hubs at most, and `ports` are those found
before. -/
def climb (ask : κ → StateM σ (Option (UInt8 × Option κ))) :
    ℕ → List UInt8 → Option κ → StateM σ (List UInt8)
  | _, ports, none => return ports.reverse
  | 0, ports, some _ => return ports.reverse
  | limit + 1, ports, some hub => do
    match ← ask hub with
    | none => return ports.reverse
    | some (port, above) => climb ask limit (if port = 0 then ports else ports ++ [port]) above

/-- Asks for a hub, and notes which hub and what the answer was. -/
def noting (ask : κ → StateM σ (Option (UInt8 × Option κ))) (hub : κ) :
    StateM (σ × List (κ × Option (UInt8 × Option κ))) (Option (UInt8 × Option κ)) := fun s =>
  ((ask hub s.1).1, (ask hub s.1).2, s.2 ++ [(hub, (ask hub s.1).1)])

/-- The hub to which the first `i` visits of a walk lead. -/
def goal (start : Option κ) (walk : List (κ × Option (UInt8 × Option κ))) : ℕ → Option κ
  | 0 => start
  | i + 1 => walk[i]?.bind fun visit => visit.2.bind Prod.snd

/-- Each visit of the walk is to the hub to which those before it lead. The walk ends after `limit`
visits, and before that only where they lead nowhere: the last hub was not known, or it has none
above it. -/
def IsWalk (limit : ℕ) (start : Option κ) (walk : List (κ × Option (UInt8 × Option κ))) : Prop :=
  ∀ i, walk[i]?.map Prod.fst = if i < limit then goal start walk i else none

/-- The ports in the answers of a walk as they stand in a way, that of the highest hub first. -/
def told (walk : List (κ × Option (UInt8 × Option κ))) : List UInt8 :=
  (((walk.filterMap Prod.snd).map Prod.fst).filter fun port => port ≠ 0).reverse

theorem IsWalk.nil {limit : ℕ} {start : Option κ} (hends : limit = 0 ∨ start = none) :
    IsWalk limit start [] := by
  intro i
  cases i with
  | zero => rcases hends with rfl | rfl <;> simp [goal]
  | succ i => simp [goal]

theorem IsWalk.cons {limit : ℕ} {hub : κ} {answer : Option (UInt8 × Option κ)}
    {walk : List (κ × Option (UInt8 × Option κ))}
    (hwalk : IsWalk limit (answer.bind Prod.snd) walk) :
    IsWalk (limit + 1) (some hub) ((hub, answer) :: walk) := by
  have hgoal : ∀ i, goal (some hub) ((hub, answer) :: walk) (i + 1) =
      goal (answer.bind Prod.snd) walk i := by
    rintro (_ | i) <;> rfl
  intro i
  cases i with
  | zero => rfl
  | succ i => simpa only [List.getElem?_cons_succ, Nat.add_lt_add_iff_right, hgoal] using hwalk i

theorem IsWalk.length_le {limit : ℕ} {start : Option κ}
    {walk : List (κ × Option (UInt8 × Option κ))} (hwalk : IsWalk limit start walk) :
    walk.length ≤ limit := by
  have hlast := hwalk limit
  rw [if_neg (lt_irrefl limit), Option.map_eq_none_iff] at hlast
  exact List.getElem?_eq_none_iff.1 hlast

theorem told_cons_some (hub : κ) (port : UInt8) (above : Option κ)
    (walk : List (κ × Option (UInt8 × Option κ))) :
    told ((hub, some (port, above)) :: walk) = told walk ++ if port = 0 then [] else [port] := by
  by_cases hport : port = 0 <;> simp [told, hport]

theorem told_visits (look : κ → Option (UInt8 × Option κ)) (start : Option κ) :
    told (visits look maxTiers start) = upstream look start := by
  rw [upstream_eq, List.filter_reverse]
  rfl

theorem climb_none (ask : κ → StateM σ (Option (UInt8 × Option κ))) (limit : ℕ)
    (ports : List UInt8) :
    climb ask limit ports none = return ports.reverse := by
  cases limit <;> rfl

/-- Whoever answers, and whatever: the hubs are asked for as the answers tell, and the ports are
those in the answers. -/
theorem climb_noting (ask : κ → StateM σ (Option (UInt8 × Option κ))) (limit : ℕ)
    (ports : List UInt8) (start : Option κ) (s : σ) (notes : List (κ × Option (UInt8 × Option κ))) :
    ∃ walk s', IsWalk limit start walk ∧
      climb (noting ask) limit ports start (s, notes) =
        (told walk ++ ports.reverse, s', notes ++ walk) := by
  induction limit generalizing ports start s notes with
  | zero =>
    refine ⟨[], s, .nil (.inl rfl), ?_⟩
    rw [List.append_nil]
    cases start <;> rfl
  | succ limit ih =>
    cases start with
    | none =>
      refine ⟨[], s, .nil (.inr rfl), ?_⟩
      rw [List.append_nil, climb_none]
      rfl
    | some hub =>
      rw [climb, Inventory.bind_apply]
      have hnoted : noting ask hub (s, notes) =
          ((ask hub s).1, (ask hub s).2, notes ++ [(hub, (ask hub s).1)]) := rfl
      rw [hnoted]
      cases hanswer : (ask hub s).1 with
      | none => exact ⟨[(hub, none)], (ask hub s).2, .cons (.nil (.inr rfl)), rfl⟩
      | some hop =>
        obtain ⟨port, above⟩ := hop
        obtain ⟨walk, s', hwalk, hclimb⟩ :=
          ih (if port = 0 then ports else ports ++ [port]) above (ask hub s).2
          (notes ++ [(hub, some (port, above))])
        refine ⟨(hub, some (port, above)) :: walk, s', .cons hwalk, hclimb.trans ?_⟩
        rw [told_cons_some, List.append_assoc, List.append_assoc, List.singleton_append]
        by_cases hport : port = 0 <;> simp [hport]

/-- Where a table answers, the hubs that are asked for are those that are visited. -/
theorem climb_table (look : κ → Option (UInt8 × Option κ)) (limit : ℕ) (ports : List UInt8)
    (start : Option κ) (s : σ) (notes : List (κ × Option (UInt8 × Option κ))) :
    climb (noting fun hub => pure (look hub)) limit ports start (s, notes) =
      (told (visits look limit start) ++ ports.reverse, s, notes ++ visits look limit start) := by
  induction limit generalizing ports start notes with
  | zero => cases start <;> simp [climb, visits, told] <;> rfl
  | succ limit ih =>
    cases start with
    | none =>
      rw [climb_none, visits_none, List.append_nil]
      rfl
    | some hub =>
      have hnoted : noting (fun hub => pure (look hub)) hub (s, notes) =
        (look hub, s, notes ++ [(hub, look hub)]) := rfl
      rw [climb, Inventory.bind_apply, hnoted, visits]
      cases hlook : look hub with
      | none => rfl
      | some hop =>
        obtain ⟨port, above⟩ := hop
        simp only [ih, told_cons_some, List.append_assoc, List.singleton_append]
        by_cases hport : port = 0 <;> simp [hport]

/-- Whoever answers when hubs are asked for, seven are asked for at most, each where the answers so
far lead, and the walk ends early only where they lead nowhere. Where a table answers, these are the
hubs at the places 0 to 6 of the way, and the ports above are their ports that are not 0, from the
highest hub down. So the ports above a hub are those above the next one and then its own, unless an
eighth hub follows on the way with a port of its own. The ports that an inventory tells are seven at
most, however the hubs of its devices hang together. -/
theorem ascent_in_order :
    (∀ (ask : κ → StateM σ (Option (UInt8 × Option κ))) (start : Option κ) (s : σ),
      ∃ walk s', climb (noting ask) maxTiers [] start (s, []) = (told walk, s', walk) ∧
        walk.length ≤ maxTiers ∧ IsWalk maxTiers start walk) ∧
    (∀ (look : κ → Option (UInt8 × Option κ)) (start : Option κ),
      (∀ s : σ, climb (noting fun hub => pure (look hub)) maxTiers [] start (s, []) =
        (upstream look start, s, visits look maxTiers start)) ∧
      (∀ i, (visits look maxTiers start)[i]? =
        if i < maxTiers then ((next look)^[i] start).map fun hub => (hub, look hub) else none) ∧
      upstream look start =
        (((List.range maxTiers).filterMap fun i => port? look ((next look)^[i] start)).filter
        fun port => port ≠ 0).reverse ∧
      ((next look)^[maxTiers] start = none →
        upstream look start = upstream look (next look start) ++ own look start) ∧
      upstream look (next look start) ++ own look start =
        own look ((next look)^[maxTiers] start) ++ upstream look start) ∧
    ∀ (i : Inventory) (address : BusAddress), (i.upstreamPorts address).length ≤ maxTiers := by
  refine ⟨fun ask start s => ?_, fun look start => ⟨fun s => ?_, ?_, ?_, fun hends => ?_, ?_⟩,
    fun i address => ?_⟩
  · obtain ⟨walk, s', hwalk, hclimb⟩ := climb_noting ask maxTiers [] start s []
    rw [List.reverse_nil, List.append_nil, List.nil_append] at hclimb
    exact ⟨walk, s', hclimb, hwalk.length_le, hwalk⟩
  · rw [climb_table, told_visits, List.reverse_nil, List.append_nil, List.nil_append]
  · exact fun i => getElem?_visits look maxTiers i start
  · rw [upstream_eq, List.filter_reverse, found_eq_filterMap]
  · have hnext := upstream_next look start
    rw [hends] at hnext
    exact hnext.symm
  · exact upstream_next look start
  · exact length_upstream_le i.look _

/-- Three hubs, each above the next: `A` at port 3, `B` at port 1, `C` at port 2. -/
def threeHubs : Char → Option (UInt8 × Option Char)
  | 'A' => some (3, none)
  | 'B' => some (1, some 'A')
  | 'C' => some (2, some 'B')
  | _ => none

/-- The ports above the lowest of three hubs are those above the middle one and then its own. -/
theorem ascent_in_order_threeHubs :
    (next threeHubs)^[maxTiers] (some 'C') = none ∧
    upstream threeHubs (some 'C') = [3, 1] ++ [2] := by
  have hends : (next threeHubs)^[maxTiers] (some 'C') = none := by decide
  have hmiddle : upstream threeHubs (next threeHubs (some 'C')) = [3, 1] := by decide
  obtain ⟨-, htable, -⟩ := ascent_in_order (κ := Char) (σ := Unit)
  obtain ⟨-, -, -, hrecurs, -⟩ := htable threeHubs (some 'C')
  refine ⟨hends, ?_⟩
  rw [hrecurs hends, hmiddle]
  rfl

end UsbAccess.PortPath
