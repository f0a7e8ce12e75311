import Mathlib.Data.List.Perm.Subperm
import Mathlib.Data.List.Nodup

/-!
# Ledgers of created and destroyed resources

A resource is known by a name, which is announced before the resource is created and never used
again. At every moment a created resource is live, in the hands of one owner, or destroyed:
`Balanced` is this conservation law, `Move` are the entries that keep it, and in a balanced ledger
nothing is destroyed twice or live after its destruction.
-/

namespace Accounting

variable {α : Type}

/-- The names that are announced but not used, the resources that have an owner, and those that
were created and destroyed so far. -/
structure Ledger (α : Type) where
  waiting : List α
  live : List α
  created : List α
  destroyed : List α

structure Balanced (l : Ledger α) : Prop where
  accounted : (l.live ++ l.destroyed).Perm l.created
  fresh : (l.created ++ l.waiting).Nodup

/-- One entry for announced names. Owners may pass resources on, and names may be given up. -/
inductive Move (l l' : Ledger α) : Prop
  | keep (waiting : l'.waiting.Subperm l.waiting) (live : l'.live.Perm l.live)
      (created : l'.created = l.created) (destroyed : l'.destroyed = l.destroyed)
  | create (n : α) (waiting : l.waiting.Perm (n :: l'.waiting)) (live : l'.live.Perm (n :: l.live))
      (created : l'.created = l.created ++ [n]) (destroyed : l'.destroyed = l.destroyed)
  | destroy (n : α) (waiting : l'.waiting.Subperm l.waiting) (live : l.live.Perm (n :: l'.live))
      (created : l'.created = l.created) (destroyed : l'.destroyed = l.destroyed ++ [n])

variable {l l' : Ledger α}

theorem Balanced.move (h : Balanced l) (move : Move l l') : Balanced l' := by
  obtain ⟨accounted, fresh⟩ := h
  have fewer : ∀ names : List α, names.Subperm l.waiting → (l.created ++ names).Nodup := by
    rintro names ⟨kept, perm, sub⟩
    exact (perm.append_left l.created).nodup_iff.mp
      (fresh.sublist ((List.Sublist.refl l.created).append sub))
  cases move with
  | keep waiting live created destroyed =>
    refine ⟨?_, ?_⟩
    · rw [created, destroyed]
      exact (live.append_right _).trans accounted
    · rw [created]
      exact fewer _ waiting
  | create n waiting live created destroyed =>
    refine ⟨?_, ?_⟩
    · rw [created, destroyed]
      refine (live.append_right _).trans ?_
      exact ((accounted.cons n).trans (List.perm_append_singleton n _).symm)
    · rw [created, List.append_assoc]
      exact (waiting.append_left l.created).nodup_iff.mp fresh
  | destroy n waiting live created destroyed =>
    refine ⟨?_, ?_⟩
    · rw [created, destroyed]
      refine List.Perm.trans ?_ accounted
      refine List.Perm.trans ?_ (live.append_right _).symm
      rw [← List.append_assoc]
      exact List.perm_append_singleton n _
    · rw [created]
      exact fewer _ waiting

/-- A new name is announced. -/
theorem Balanced.announce (h : Balanced l) {n : α} (new : n ∉ l.created ++ l.waiting) :
    Balanced { l with waiting := l.waiting ++ [n] } := by
  refine ⟨h.accounted, ?_⟩
  show (l.created ++ (l.waiting ++ [n])).Nodup
  rw [← List.append_assoc]
  exact (List.perm_append_singleton n _).nodup_iff.mpr (List.nodup_cons.mpr ⟨new, h.fresh⟩)

/-- An entry uses no name that was not announced. -/
theorem Move.names_subset (move : Move l l') :
    l'.created ++ l'.waiting ⊆ l.created ++ l.waiting := by
  intro n mem
  cases move with
  | keep waiting live created destroyed =>
    rw [created] at mem
    exact List.mem_append.mpr ((List.mem_append.mp mem).imp_right fun mem => waiting.subset mem)
  | create m waiting live created destroyed =>
    rw [created, List.append_assoc] at mem
    exact List.mem_append.mpr
      ((List.mem_append.mp mem).imp_right fun mem => waiting.symm.subset mem)
  | destroy m waiting live created destroyed =>
    rw [created] at mem
    exact List.mem_append.mpr ((List.mem_append.mp mem).imp_right fun mem => waiting.subset mem)

section

variable (h : Balanced l)
include h

theorem Balanced.nodup : (l.live ++ l.destroyed).Nodup :=
  h.accounted.nodup_iff.mpr (h.fresh.sublist (List.sublist_append_left _ _))

/-- Nothing is destroyed twice. -/
theorem Balanced.count_destroyed_le [DecidableEq α] (n : α) : l.destroyed.count n ≤ 1 :=
  List.nodup_iff_count_le_one.mp (h.nodup.sublist (List.sublist_append_right _ _)) n

/-- Nothing has an owner after its destruction. -/
theorem Balanced.not_live {n : α} (destroyed : n ∈ l.destroyed) : n ∉ l.live := fun live =>
  (List.disjoint_of_nodup_append h.nodup) live destroyed

/-- Once nothing has an owner, everything that was created has been destroyed once. -/
theorem Balanced.released [DecidableEq α] (live : l.live = []) {n : α} (created : n ∈ l.created) :
    l.destroyed.count n = 1 := by
  have perm := h.accounted
  rw [live, List.nil_append] at perm
  have once := h.count_destroyed_le n
  have pos := List.count_pos_iff.mpr (perm.symm.subset created)
  omega

end

end Accounting
