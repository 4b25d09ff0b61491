import Mathlib
import UsbAccess.Bytes

/-!
# Operations that may trap

An element of a list is found by its index, a part of it by its bounds, and a number of fixed width
has room for so much. Here each such operation looks at its operands first and traps when they are
out of range. A computation that is written with these operations goes through if it never traps,
and then it should give what it gives without them.

Results:
* `Checked.get_eq_ok_iff`, `Checked.set_of_lt`, `Checked.slice_of_le`, `Checked.split_of_le`: when a
  list is long enough.
* `Checked.add8_of_lt`, `Checked.mul16_of_lt`, `Checked.sub_of_le`, `Checked.add64_of_lt`: when a
  number has room.
* `Checked.foldlM_eq_ok`: a fold goes through if each step does.
* `Checked.Agrees.bind`: computations that follow each other go through when both do.
-/

namespace UsbAccess

/-- Operands out of range. -/
inductive Trap where
  | index (i length : ℕ)
  | slice (start stop length : ℕ)
  | overflow
  deriving DecidableEq, Repr

/-- What comes of a computation that may trap. -/
abbrev Checked (α : Type) : Type := Except Trap α

namespace Checked

section Lists

variable {α : Type}

/-- The element at an index. -/
def get (l : List α) (i : ℕ) : Checked α :=
  match l[i]? with
  | some a => .ok a
  | none => .error (.index i l.length)

/-- The list with another element at an index. -/
def set (l : List α) (i : ℕ) (a : α) : Checked (List α) :=
  if i < l.length then .ok (l.set i a) else .error (.index i l.length)

/-- The elements from `start` on and before `stop`. -/
def slice (l : List α) (start stop : ℕ) : Checked (List α) :=
  if start ≤ stop ∧ stop ≤ l.length then .ok ((l.take stop).drop start)
  else .error (.slice start stop l.length)

/-- The first `n` elements and the others. -/
def split (l : List α) (n : ℕ) : Checked (List α × List α) :=
  if n ≤ l.length then .ok (l.take n, l.drop n) else .error (.slice 0 n l.length)

theorem get_eq_ok_iff {l : List α} {i : ℕ} {a : α} : get l i = .ok a ↔ l[i]? = some a := by
  unfold get
  cases l[i]? with
  | none => simp
  | some b => simp

theorem set_of_lt {l : List α} {i : ℕ} (h : i < l.length) (a : α) : set l i a = .ok (l.set i a) :=
  if_pos h

theorem slice_of_le {l : List α} {start stop : ℕ} (hstart : start ≤ stop)
    (hstop : stop ≤ l.length) :
    slice l start stop = .ok ((l.take stop).drop start) := if_pos ⟨hstart, hstop⟩

theorem split_of_le {l : List α} {n : ℕ} (h : n ≤ l.length) :
    split l n = .ok (l.take n, l.drop n) := if_pos h

end Lists

/-! ## Numbers -/

/-- A sum of 8 bits. -/
def add8 (a b : UInt8) : Checked UInt8 :=
  if a.toNat + b.toNat < 2 ^ 8 then .ok (a + b) else .error .overflow

/-- A product of 16 bits. -/
def mul16 (a b : UInt16) : Checked UInt16 :=
  if a.toNat * b.toNat < 2 ^ 16 then .ok (a * b) else .error .overflow

/-- A sum of 64 bits. -/
def add64 (m n : ℕ) : Checked ℕ := if m + n < 2 ^ 64 then .ok (m + n) else .error .overflow

/-- A difference that is not below 0. -/
def sub (m n : ℕ) : Checked ℕ := if n ≤ m then .ok (m - n) else .error .overflow

theorem add8_of_lt {a b : UInt8} (h : a.toNat + b.toNat < 2 ^ 8) : add8 a b = .ok (a + b) :=
  if_pos h

theorem mul16_of_lt {a b : UInt16} (h : a.toNat * b.toNat < 2 ^ 16) : mul16 a b = .ok (a * b) :=
  if_pos h

theorem add64_of_lt {m n : ℕ} (h : m + n < 2 ^ 64) : add64 m n = .ok (m + n) := if_pos h

theorem sub_of_le {m n : ℕ} (h : n ≤ m) : sub m n = .ok (m - n) := if_pos h

theorem add64_eq_ok_iff {m n k : ℕ} : add64 m n = .ok k ↔ m + n < 2 ^ 64 ∧ m + n = k := by
  unfold add64
  split_ifs with h
  · exact ⟨fun heq => ⟨h, Except.ok.inj heq⟩, fun ⟨_, heq⟩ => congrArg _ heq⟩
  · exact ⟨nofun, fun ⟨hroom, _⟩ => absurd hroom h⟩

/-! ## Computations -/

theorem bind_of_ok {α β : Type} {m : Checked α} {a : α} (h : m = .ok a) (f : α → Checked β) :
    m >>= f = f a := by
  rw [h]
  rfl

/-- A fold goes through if each of its steps does from what represents a state to what represents
the next one. -/
theorem foldlM_eq_ok {α β γ : Type} {f : β → α → Checked β} {g : γ → α → γ} (represent : γ → β)
    (Inv : γ → Prop) (hstep : ∀ c a, Inv c → f (represent c) a = .ok (represent (g c a)) ∧
      Inv (g c a)) (l : List α) {c : γ}
    (hc : Inv c) : l.foldlM f (represent c) = .ok (represent (l.foldl g c)) := by
  induction l generalizing c with
  | nil => rfl
  | cons a l ih =>
    obtain ⟨hfirst, hnext⟩ := hstep c a hc
    rw [List.foldlM_cons, bind_of_ok hfirst, List.foldl_cons]
    exact ih hnext

theorem mapM_eq_ok {α β : Type} {f : α → Checked β} {g : α → β} {l : List α}
    (h : ∀ a ∈ l, f a = .ok (g a)) :
    l.mapM f = .ok (l.map g) := by
  induction l with
  | nil => rfl
  | cons a l ih =>
    obtain ⟨hfirst, hrest⟩ := List.forall_mem_cons.1 h
    rw [List.mapM_cons, bind_of_ok hfirst, bind_of_ok (ih hrest)]
    rfl

/-- A computation on a state that may trap. -/
abbrev On (σ α : Type) : Type := StateT σ Checked α

section States

variable {σ α β : Type} {I : σ → Prop}

/-- A computation that does not trap. -/
def run (m : StateM σ α) : On σ α := fun s => .ok (m s)

/-- A computation that does not touch the state. -/
def here (m : Checked α) : On σ α := fun s => m.map fun a => (a, s)

/-- From every state with the property `I` the checked computation goes through and gives what the
other one gives, and the state keeps the property. -/
def Agrees (I : σ → Prop) (checked : On σ α) (plain : StateM σ α) : Prop :=
  ∀ s, I s → checked s = .ok (plain s) ∧ I (plain s).2

namespace Agrees

theorem pure (a : α) : Agrees I (pure a) (pure a) := fun _ h => ⟨rfl, h⟩

theorem bind {checked : On σ α} {plain : StateM σ α} {f : α → On σ β} {g : α → StateM σ β}
    (hm : Agrees I checked plain) (hf : ∀ a, Agrees I (f a) (g a)) :
    Agrees I (checked >>= f) (plain >>= g) := by
  intro s hs
  obtain ⟨hthrough, hkeeps⟩ := hm s hs
  obtain ⟨hrest, hend⟩ := hf (plain s).1 (plain s).2 hkeeps
  refine ⟨?_, hend⟩
  show checked s >>= (fun p => f p.1 p.2) = _
  rw [bind_of_ok hthrough]
  exact hrest

theorem here {m : Checked α} {a : α} (hm : m = .ok a) :
    Agrees I (Checked.here m) (Pure.pure a) := by
  subst hm
  exact .pure a

theorem bind_here {m : Checked α} {a : α} {f : α → On σ β} {plain : StateM σ β} (hm : m = .ok a)
    (hf : Agrees I (f a) plain) : Agrees I (Checked.here m >>= f) plain := by
  subst hm
  exact hf

theorem run {m : StateM σ α} (hm : ∀ s, I s → I (m s).2) : Agrees I (run m) m :=
  fun s hs => ⟨rfl, hm s hs⟩

/-- What comes of a computation that does not trap has the property `Q`, and the rest may rely on
it. -/
theorem run_bind {m : StateM σ α} {Q : α → Prop} {f : α → On σ β} {g : α → StateM σ β}
    (hm : ∀ s, I s → Q (m s).1 ∧ I (m s).2) (hf : ∀ a, Q a → Agrees I (f a) (g a)) :
    Agrees I (Checked.run m >>= f) (m >>= g) := fun s hs => hf _ (hm s hs).1 _ (hm s hs).2

theorem get : Agrees I (MonadState.get : On σ σ) MonadState.get := fun _ hs => ⟨rfl, hs⟩

theorem foldlM {f : β → α → On σ β} {g : β → α → StateM σ β} (h : ∀ b a, Agrees I (f b a) (g b a))
    (l : List α) (b : β) : Agrees I (l.foldlM f b) (l.foldlM g b) := by
  induction l generalizing b with
  | nil => exact .pure b
  | cons a l ih =>
    rw [List.foldlM_cons, List.foldlM_cons]
    exact (h b a).bind ih

end Agrees

end States

end Checked

end UsbAccess
