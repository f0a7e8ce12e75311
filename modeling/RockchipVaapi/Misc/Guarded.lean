import Mathlib.Data.Option.Basic

/-!
# Programs that check their accesses

A program over a state that may give up is `StateT σ Option`. A guarded program is one that may also
stop at a fault, such as an access outside a buffer. `Faultless P g m Q` says of a guarded `g` that
from every state in `P` it does what the plain program `m` does, without a fault, and ends in `Q`.
It composes along `>>=` like a Hoare triple.
-/

namespace Guarded

/-- A program that may give up, and that stops at a fault. -/
abbrev Program (ε σ α : Type) := StateT σ (OptionT (Except ε)) α

variable {ε σ α β : Type}

/-- The program gives up. -/
def giveUp : Program ε σ α := fun _ => Except.ok none

/-- An access that stops the program where it is not allowed. -/
def access (x : Except ε α) : Program ε σ α := fun s => x.map fun a => some (a, s)

/-- From the states in `P`, the guarded `g` does what `m` does, and ends in `Q`. -/
def Faultless (P : σ → Prop) (g : Program ε σ α) (m : StateT σ Option α) (Q : α → σ → Prop) :
    Prop :=
  ∀ s, P s → g s = Except.ok (m s) ∧ ∀ x s', m s = some (x, s') → Q x s'

/-- Any state. -/
def Always (_ : σ) : Prop := True

theorem bind_none (g : Program ε σ α) (f : α → Program ε σ β) {s : σ}
    (h : g s = Except.ok none) : (g >>= f) s = Except.ok none := by
  show Except.bind (g s) _ = _
  rw [h]
  rfl

theorem bind_some (g : Program ε σ α) (f : α → Program ε σ β) {s s' : σ} {x : α}
    (h : g s = Except.ok (some (x, s'))) : (g >>= f) s = f x s' := by
  show Except.bind (g s) _ = _
  rw [h]
  rfl

@[simp] theorem access_ok_bind (a : α) (f : α → Program ε σ β) :
    access (Except.ok a) >>= f = f a := by
  funext s
  exact bind_some (access (Except.ok a)) f rfl

variable {P P' : σ → Prop} {Q Q' : α → σ → Prop} {g : Program ε σ α} {m : StateT σ Option α}

theorem faultless_pure {x : α} (h : ∀ s, P s → Q x s) :
    Faultless P (pure x : Program ε σ α) (pure x) Q := by
  intro s pre
  refine ⟨rfl, fun y s' run => ?_⟩
  obtain ⟨rfl, rfl⟩ := Prod.mk.inj (Option.some.inj run)
  exact h s pre

theorem faultless_giveUp (h : ∀ s, m s = none) : Faultless P (giveUp : Program ε σ α) m Q := by
  intro s _
  refine ⟨by rw [h s]; rfl, fun x s' run => ?_⟩
  rw [h s] at run
  cases run

theorem Faultless.bind {f : α → Program ε σ β} {n : α → StateT σ Option β} {R : β → σ → Prop}
    (hm : Faultless P g m Q) (hf : ∀ x, Faultless (Q x) (f x) (n x) R) :
    Faultless P (g >>= f) (m >>= n) R := by
  intro s pre
  obtain ⟨same, post⟩ := hm s pre
  have split : (m >>= n) s = (m s).bind fun r => n r.1 r.2 := rfl
  cases run : m s with
  | none =>
    rw [run] at same split
    rw [bind_none g f same, split]
    exact ⟨rfl, fun x s' h => by cases h⟩
  | some r =>
    obtain ⟨x, middle⟩ := r
    rw [run] at same split
    rw [bind_some g f same, split]
    exact hf x middle (post x middle run)

theorem Faultless.mono (h : Faultless P g m Q) (pre : ∀ s, P' s → P s)
    (post : ∀ x s, Q x s → Q' x s) : Faultless P' g m Q' := by
  intro s hs
  obtain ⟨same, ends⟩ := h s (pre s hs)
  exact ⟨same, fun x s' run => post x s' (ends x s' run)⟩

/-- What is known of the result so far may be used in what follows. -/
theorem faultless_of_fact {φ : Prop} (h : φ → Faultless Always g m Q) :
    Faultless (fun _ => φ) g m Q := fun s fact => h fact s trivial

theorem Faultless.run {s : σ} (h : Faultless P g m Q) (pre : P s) : g s = Except.ok (m s) :=
  (h s pre).1

/-! ## Programs without a state -/

theorem option_bind_none (x : OptionT (Except ε) α) (f : α → OptionT (Except ε) β)
    (h : x = OptionT.mk (Except.ok none)) : x >>= f = OptionT.mk (Except.ok none) := by
  rw [h]
  rfl

theorem option_bind_some (x : OptionT (Except ε) α) (f : α → OptionT (Except ε) β) {a : α}
    (h : x = OptionT.mk (Except.ok (some a))) : x >>= f = f a := by
  rw [h]
  rfl

theorem lift_ok_bind {x : Except ε α} {a : α} (f : α → OptionT (Except ε) β)
    (h : x = Except.ok a) : (liftM x : OptionT (Except ε) α) >>= f = f a := by
  rw [h]
  rfl

end Guarded
