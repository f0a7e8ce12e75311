import Mathlib.Data.Option.Basic

/-!
# Runs of a transition system

A transition system is a partial function `step : σ → α → Option σ`: the action is one atomic
step of one of the parties, with whatever the environment decides in it, and `none` says that the
action is not enabled. An invariant is proved for one step and then holds along every run;
`Throughout` restricts the runs to those whose steps meet a condition.
-/

namespace Transition

variable {σ α : Type}

/-- The state after a sequence of actions, each of which is enabled. -/
def run (step : σ → α → Option σ) : σ → List α → Option σ
  | s, [] => some s
  | s, a :: as => (step s a).bind fun s' => run step s' as

/-- Every step of the run meets the condition `P` on the state before it and the action. -/
def Throughout (step : σ → α → Option σ) (P : σ → α → Prop) : σ → List α → Prop
  | _, [] => True
  | s, a :: as => P s a ∧ ∀ s', step s a = some s' → Throughout step P s' as

variable {step : σ → α → Option σ} {P : σ → α → Prop} {I : σ → Prop}

theorem run_append (s : σ) (as bs : List α) :
    run step s (as ++ bs) = (run step s as).bind fun s' => run step s' bs := by
  induction as generalizing s with
  | nil => rfl
  | cons a as ih =>
    rw [List.cons_append, run, run, Option.bind_assoc]
    congr 1
    funext s'
    exact ih s'

/-- Actions that may be exchanged lead to the same state in any order. -/
theorem run_perm (exchange : ∀ s a b, ((step s a).bind fun s' => step s' b) =
      (step s b).bind fun s' => step s' a)
    {as bs : List α} (perm : as.Perm bs) (s : σ) : run step s as = run step s bs := by
  induction perm generalizing s with
  | nil => rfl
  | cons a _ ih =>
    rw [run, run]
    congr 1
    funext s'
    exact ih s'
  | swap a b as =>
    have both (a b : α) : run step s (a :: b :: as) =
        ((step s a).bind fun s' => step s' b).bind fun s' => run step s' as := by
      rw [Option.bind_assoc]
      rfl
    rw [both, both, exchange]
  | trans _ _ ih ih' => exact (ih s).trans (ih' s)

/-- An invariant of the steps that meet a condition holds along every run of such steps. -/
theorem run_invariant (keep : ∀ s a s', I s → P s a → step s a = some s' → I s') :
    ∀ (as : List α) (s s' : σ), I s → Throughout step P s as → run step s as = some s' → I s' := by
  intro as
  induction as with
  | nil =>
    intro s s' h _ hrun
    obtain rfl := Option.some.inj hrun
    exact h
  | cons a as ih =>
    intro s s' h meets hrun
    obtain ⟨middle, hstep, hrun⟩ := Option.bind_eq_some_iff.mp hrun
    exact ih middle s' (keep s a middle h meets.1 hstep) (meets.2 middle hstep) hrun

theorem Throughout.imp {Q : σ → α → Prop} (imp : ∀ s a, P s a → Q s a) {as : List α} {s : σ}
    (h : Throughout step P s as) : Throughout step Q s as := by
  induction as generalizing s with
  | nil => trivial
  | cons a as ih => exact ⟨imp s a h.1, fun s' hs' => ih (h.2 s' hs')⟩

/-- The condition holds along the rest of a run. -/
theorem Throughout.rest {as bs : List α} {s s₁ : σ} (h : Throughout step P s (as ++ bs))
    (hrun : run step s as = some s₁) : Throughout step P s₁ bs := by
  induction as generalizing s with
  | nil =>
    obtain rfl := Option.some.inj hrun
    exact h
  | cons a as ih =>
    obtain ⟨middle, hstep, hrun⟩ := Option.bind_eq_some_iff.mp hrun
    exact ih (h.2 middle hstep) hrun

/-- The condition holds along the first part of a run. -/
theorem Throughout.front {as bs : List α} {s : σ} (h : Throughout step P s (as ++ bs)) :
    Throughout step P s as := by
  induction as generalizing s with
  | nil => trivial
  | cons a as ih => exact ⟨h.1, fun s' hs' => ih (h.2 s' hs')⟩

theorem Throughout.and {Q : σ → α → Prop} {as : List α} {s : σ} (h : Throughout step P s as)
    (h' : Throughout step Q s as) : Throughout step (fun s a => P s a ∧ Q s a) s as := by
  induction as generalizing s with
  | nil => trivial
  | cons a as ih => exact ⟨⟨h.1, h'.1⟩, fun s' hs' => ih (h.2 s' hs') (h'.2 s' hs')⟩

theorem throughout_cons {a : α} {as : List α} {s s' : σ} (here : P s a) (next : step s a = some s')
    (rest : Throughout step P s' as) : Throughout step P s (a :: as) := by
  refine ⟨here, fun s₁ same => ?_⟩
  obtain rfl := Option.some.inj (next.symm.trans same)
  exact rest

theorem throughout_true (s : σ) (as : List α) : Throughout step (fun _ _ => True) s as := by
  induction as generalizing s with
  | nil => trivial
  | cons a as ih => exact ⟨trivial, fun s' _ => ih s'⟩

/-- An invariant of every step holds along every run. -/
theorem run_invariant' (keep : ∀ s a s', I s → step s a = some s' → I s') {as : List α}
    {s s' : σ} (h : I s) (hrun : run step s as = some s') : I s' :=
  run_invariant (P := fun _ _ => True) (fun s a s' hI _ => keep s a s' hI) as s s' h
    (throughout_true s as) hrun

/-- Where a step stays good if, and only if, it meets the condition, so does a run. -/
theorem throughout_iff_reached {J : σ → Prop} {A : σ → α → Prop}
    (keep : ∀ s a s', I s → step s a = some s' → I s')
    (one : ∀ s a s', I s → J s → A s a → step s a = some s' → (J s' ↔ P s a)) {as : List α}
    {s s' : σ} (h : I s) (good : J s) (assumed : Throughout step A s as)
    (hrun : run step s as = some s') :
    (∀ front back middle, as = front ++ back → run step s front = some middle → J middle) ↔
      Throughout step P s as := by
  induction as generalizing s with
  | nil =>
    refine ⟨fun _ => trivial, fun _ front back middle whole reached => ?_⟩
    obtain ⟨rfl, -⟩ := List.append_eq_nil_iff.mp whole.symm
    obtain rfl := Option.some.inj reached
    exact good
  | cons a as ih =>
    obtain ⟨next, hstep, hrun⟩ := Option.bind_eq_some_iff.mp hrun
    have reaches (front : List α) : run step s (a :: front) = run step next front := by
      rw [run, hstep, Option.bind_some]
    constructor
    · intro all
      have goodNext : J next := all [a] as next rfl (reaches [])
      refine throughout_cons ((one s a next h good assumed.1 hstep).mp goodNext) hstep ?_
      refine (ih (keep s a next h hstep) goodNext (assumed.2 next hstep) hrun).mp
        fun front back middle whole reached => ?_
      refine all (a :: front) back middle (by rw [whole, List.cons_append]) ?_
      rw [reaches]
      exact reached
    · rintro ⟨here, later⟩ front back middle whole reached
      cases front with
      | nil =>
        obtain rfl := Option.some.inj reached
        exact good
      | cons b front =>
        obtain ⟨rfl, rfl⟩ := List.cons.inj whole
        rw [reaches] at reached
        have goodNext := (one s a next h good assumed.1 hstep).mpr here
        exact (ih (keep s a next h hstep) goodNext (assumed.2 next hstep) hrun).mpr
          (later next hstep) front back middle rfl reached

/-- Whether every step of a run meets a condition. -/
def check (step : σ → α → Option σ) (p : σ → α → Bool) : σ → List α → Bool
  | _, [] => true
  | s, a :: as => p s a && (step s a).all fun s' => check step p s' as

theorem throughout_of_check {p : σ → α → Bool} {s : σ} {as : List α}
    (h : check step p s as = true) : Throughout step (fun s a => p s a = true) s as := by
  induction as generalizing s with
  | nil => trivial
  | cons a as ih =>
    obtain ⟨here, later⟩ := Bool.and_eq_true_iff.mp h
    refine ⟨here, fun s' hs' => ih ?_⟩
    rw [hs'] at later
    exact later

end Transition
