import Mathlib.Data.List.Nodup
import Mathlib.Data.List.Perm.Basic

/-!
# What a program takes and gives back

The trace of a program over its resources. A program that fails has to leave a trace that is
settled: everything that was taken has been given back, and nothing twice.
-/

namespace Custody

variable {ρ σ : Type}

inductive Event (ρ : Type)
  | take (r : ρ)
  | release (r : ρ)
  deriving DecidableEq, Repr

/-- An event of another resource. -/
def Event.map (f : ρ → σ) : Event ρ → Event σ
  | .take r => .take (f r)
  | .release r => .release (f r)

def Event.takes : Event ρ → Option ρ
  | .take r => some r
  | .release _ => none

def Event.releases : Event ρ → Option ρ
  | .take _ => none
  | .release r => some r

/-- What is taken, in order. -/
def taken (events : List (Event ρ)) : List ρ := events.filterMap Event.takes

/-- What is given back, in order. -/
def released (events : List (Event ρ)) : List ρ := events.filterMap Event.releases

/-- Everything that was taken has been given back, once. -/
structure Settled (events : List (Event ρ)) : Prop where
  back : (released events).Perm (taken events)
  once : (taken events).Nodup

instance [DecidableEq ρ] (events : List (Event ρ)) : Decidable (Settled events) :=
  decidable_of_iff ((released events).Perm (taken events) ∧ (taken events).Nodup)
    ⟨fun h => ⟨h.1, h.2⟩, fun h => ⟨h.back, h.once⟩⟩

section

variable (events more : List (Event ρ)) (f : ρ → σ) (rs : List ρ)

@[simp] theorem taken_append : taken (events ++ more) = taken events ++ taken more :=
  List.filterMap_append

@[simp] theorem released_append : released (events ++ more) = released events ++ released more :=
  List.filterMap_append

@[simp] theorem taken_map : taken (events.map (Event.map f)) = (taken events).map f := by
  rw [taken, taken, List.filterMap_map, List.map_filterMap]
  congr 1
  funext event
  cases event <;> rfl

@[simp] theorem released_map : released (events.map (Event.map f)) = (released events).map f := by
  rw [released, released, List.filterMap_map, List.map_filterMap]
  congr 1
  funext event
  cases event <;> rfl

@[simp] theorem taken_releases : taken (rs.map Event.release) = [] := by
  induction rs with
  | nil => rfl
  | cons r rs ih => exact ih

@[simp] theorem released_releases : released (rs.map Event.release) = rs := by
  induction rs with
  | nil => rfl
  | cons r rs ih => exact congrArg (List.cons r) ih

end

theorem settled_nil : Settled ([] : List (Event ρ)) := ⟨.refl _, List.nodup_nil⟩

variable {events more : List (Event ρ)}

theorem Settled.map (h : Settled events) {f : ρ → σ} (injective : Function.Injective f) :
    Settled (events.map (Event.map f)) := by
  refine ⟨?_, ?_⟩
  · rw [taken_map, released_map]
    exact h.back.map f
  · rw [taken_map]
    exact h.once.map injective

/-- Traces of different resources. -/
theorem Settled.append (h : Settled events) (h' : Settled more)
    (apart : ∀ r ∈ taken events, r ∉ taken more) : Settled (events ++ more) := by
  refine ⟨?_, ?_⟩
  · rw [taken_append, released_append]
    exact h.back.append h'.back
  · rw [taken_append]
    exact List.nodup_append'.mpr ⟨h.once, h'.once, fun r here there => apart r here there⟩

/-! ## What is still out -/

/-- What was taken and not given back, in any order. -/
def Owns (events : List (Event ρ)) (rs : List ρ) : Prop :=
  (taken events).Perm (released events ++ rs)

section

variable {rs gone : List ρ}

theorem owns_nil : Owns ([] : List (Event ρ)) [] := .refl _

theorem Owns.perm (h : Owns events rs) (same : rs.Perm gone) : Owns events gone :=
  List.Perm.trans h (same.append_left _)

theorem Owns.take (h : Owns events rs) (r : ρ) : Owns (events ++ [.take r]) (rs ++ [r]) := by
  have more : (taken events ++ [r]).Perm (released events ++ rs ++ [r]) := h.append_right [r]
  have none : released [Event.take r] = [] := rfl
  have one : taken [Event.take r] = [r] := rfl
  unfold Owns
  rw [taken_append, released_append, none, one, List.append_nil, ← List.append_assoc]
  exact more

theorem Owns.releaseAll (h : Owns events (gone ++ rs)) :
    Owns (events ++ gone.map Event.release) rs := by
  unfold Owns
  rw [taken_append, released_append, taken_releases, released_releases, List.append_nil,
    List.append_assoc]
  exact h

theorem Owns.release {r : ρ} (h : Owns events (r :: rs)) : Owns (events ++ [.release r]) rs :=
  Owns.releaseAll (show Owns events ([r] ++ rs) from h)

end

end Custody
