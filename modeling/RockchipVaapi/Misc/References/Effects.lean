import RockchipVaapi.Misc.References.Changes

/-!
# What an operation does to a world

An operation of one thread leaves what the others have in their hands, and moves the tokens of its
own thread as `takes` and `gives` say. One lemma for each operation, and `effect_spec` for all of
them but the start of a thread.
-/

set_option linter.unusedSectionVars false

namespace References

variable {ο π ι κ : Type} [DecidableEq ο] [DecidableEq π] [DecidableEq ι]

/-- A change that concerns one thread only. -/
structure Local (w : World ο π ι) (t : Nat) (w' : World ο π ι) : Prop where
  others : ∀ t', t' ≠ t → w'.hand t' = w.hand t'
  threads : w'.threads = w.threads
  calls : w'.calls = w.calls
  workers : w'.workers = w.workers
  closer : w'.closer = w.closer

namespace Local

variable {w w' w'' : World ο π ι} {t : Nat} {p : π} {o : ο} {x : Token ο π ι}

theorem refl : Local w t w := ⟨fun _ _ => rfl, rfl, rfl, rfl, rfl⟩

theorem trans (first : Local w t w') (second : Local w' t w'') : Local w t w'' :=
  ⟨fun t' ne => (second.others t' ne).trans (first.others t' ne),
    second.threads.trans first.threads, second.calls.trans first.calls,
    second.workers.trans first.workers, second.closer.trans first.closer⟩

theorem grant : Local w t (w.grant t x) := ⟨fun _ ne => World.hand_grant_of_ne ne, rfl, rfl, rfl, rfl⟩

theorem revoke : Local w t (w.revoke t x) :=
  ⟨fun _ ne => World.hand_revoke_of_ne ne, rfl, rfl, rfl, rfl⟩

theorem copy : Local w t (w.copy t o) := ⟨fun _ ne => World.hand_grant_of_ne ne, rfl, rfl, rfl, rfl⟩

theorem lift : Local w t (w.lift t p o) :=
  ⟨fun _ ne => World.hand_grant_of_ne ne, rfl, rfl, rfl, rfl⟩

theorem put : Local w t (w.put t p o) :=
  ⟨fun _ ne => World.hand_revoke_of_ne ne, rfl, rfl, rfl, rfl⟩

theorem use : Local w t (w.use p) := ⟨fun _ _ => rfl, rfl, rfl, rfl, rfl⟩

theorem birth {L : Layout ο π ι} : Local w t (w.birth L t o) := by
  refine ⟨fun t' ne => ?_, rfl, rfl, rfl, rfl⟩
  have none : ((L.blanks o).map (Prod.mk t)).filter (fun e => e.1 = t') = 0 := by
    refine Multiset.filter_eq_nil.mpr fun e mem => ?_
    obtain ⟨x, -, rfl⟩ := Multiset.mem_map.mp mem
    exact ne.symm
  rw [World.hand, World.birth, Multiset.filter_add, Multiset.map_add, World.hand_cons,
    if_neg ne.symm, none, Multiset.map_zero, zero_add, zero_add, World.hand]

theorem drop : Local w t (w.drop t o) := by
  unfold World.drop
  split
  · exact ⟨fun t' ne => (World.hand_grant_of_ne ne).trans (World.hand_revoke_of_ne ne), rfl, rfl,
      rfl, rfl⟩
  · exact ⟨fun t' ne => World.hand_revoke_of_ne ne, rfl, rfl, rfl, rfl⟩

theorem bury {L : Layout ο π ι} : Local w t (w.bury L t o) :=
  ⟨fun _ ne => World.hand_revoke_of_ne ne, rfl, rfl, rfl, rfl⟩

theorem liftAll (es : List (π × ο)) : Local w t (w.liftAll t es) := by
  induction es generalizing w with
  | nil => exact refl
  | cons e es ih => exact lift.trans ih

end Local

namespace World

variable {w : World ο π ι} {t : Nat} {p : π} {o : ο}

theorem hand_birth {L : Layout ο π ι} :
    (w.birth L t o).hand t = .ref o ::ₘ L.blanks o + w.hand t := by
  have all : ((L.blanks o).map (Prod.mk t)).filter (fun e => e.1 = t) =
      (L.blanks o).map (Prod.mk t) := by
    refine Multiset.filter_eq_self.mpr fun e mem => ?_
    obtain ⟨x, -, rfl⟩ := Multiset.mem_map.mp mem
    rfl
  rw [World.hand, World.birth, Multiset.filter_add, Multiset.map_add, World.hand_cons,
    if_pos rfl, all, Multiset.map_map, Multiset.singleton_add, World.hand]
  simp

theorem hand_drop {h : Multiset (Token ο π ι)} (hand : w.hand t = .ref o ::ₘ h) :
    (w.drop t o).hand t = (if w.count o = 1 then {.right (.dying o)} else 0) + h := by
  unfold World.drop
  split
  · exact hand_grant.trans (by rw [hand_revoke hand, Multiset.singleton_add])
  · rw [zero_add]
    exact hand_revoke hand

theorem hand_liftAll (es : List (π × ο)) :
    (w.liftAll t es).hand t = refs (es.map Prod.snd) + w.hand t := by
  induction es generalizing w with
  | nil => exact (zero_add _).symm
  | cons e es ih =>
    refine ih.trans ?_
    rw [show (w.lift t e.1 e.2).hand t = .ref e.2 ::ₘ w.hand t from hand_grant]
    rw [List.map_cons, refs_cons, Multiset.add_cons, Multiset.cons_add]

theorem stage_liftAll (es : List (π × ο)) : (w.liftAll t es).stage = w.stage := by
  induction es generalizing w with
  | nil => rfl
  | cons e es ih => exact ih

theorem stored_lift (e : π × ο) :
    ((w.lift t e.1 e.2).stored : Multiset (π × ο)) = (w.stored : Multiset (π × ο)).erase e := by
  rw [Multiset.coe_erase, lift]
  congr!

theorem stored_liftAll (es : List (π × ο)) :
    ((w.liftAll t es).stored : Multiset (π × ο)) = (w.stored : Multiset (π × ο)) - es := by
  induction es generalizing w with
  | nil => exact (tsub_zero _).symm
  | cons e es ih =>
    refine ih.trans ?_
    rw [← Multiset.cons_coe, Multiset.sub_cons, stored_lift]

/-- Nothing that was lifted remains. -/
theorem mem_liftAll {q : π × ο → Bool} {e : π × ο} :
    e ∈ (w.liftAll t (w.stored.filter q)).stored ↔ e ∈ w.stored ∧ q e = false := by
  have lifted : ((w.stored.filter q : List (π × ο)) : Multiset (π × ο)) =
      (w.stored : Multiset (π × ο)).filter fun e => q e = true := by
    simp
  rw [← Multiset.mem_coe, stored_liftAll, lifted, Multiset.sub_filter_eq_filter_not]
  simp

end World

theorem Sane.liftAll {L : Layout ο π ι} {w : World ο π ι} {t : Nat} {es : List (π × ο)}
    (sane : Sane L w) (le : (es : Multiset (π × ο)) ≤ w.stored)
    (able : ∀ e ∈ es, L.shape e.1 = .once → ∀ x, L.owner e.1 = some x → w.stage x ≠ .alive) :
    Sane L (w.liftAll t es) := by
  induction es generalizing w with
  | nil => exact sane
  | cons e es ih =>
    have mem : e ∈ w.stored := Multiset.mem_of_le le (Multiset.mem_coe.mpr List.mem_cons_self)
    refine ih (sane.lift mem (able e List.mem_cons_self)) ?_
      fun e' mem' => able e' (List.mem_cons_of_mem e mem')
    have less := Multiset.erase_le_erase e le
    rwa [← Multiset.cons_coe, Multiset.erase_cons_head, ← World.stored_lift (t := t)] at less

namespace Sane

variable {L : Layout ο π ι} {w : World ο π ι} {t : Nat} {p : π} {o : ο}

theorem owner_stage (sane : Sane L w) (reaches : L.Reaches (w.hand t) p) (x : ο)
    (owner : L.owner p = some x) : w.stage x = .alive ∨ w.stage x = .dying :=
  (sane.stage_of_reaches reaches owner).imp_right And.left

theorem visit (sane : Sane L w) (reaches : L.Reaches (w.hand t) p) : w.visit L p = w :=
  visit_eq (sane.owner_stage reaches)

/-- References come to the cells and queues that a thread may look into. -/
theorem allows (sane : Sane L w) (wf : L.WF) (reaches : L.Reaches (w.hand t) p)
    (shape : L.shape p = .cell ∨ L.shape p = .queue) : ∀ e ∈ w.held, L.Allows p o e.2 := by
  rintro ⟨t', x | r⟩ mem
  · trivial
  · have means := sane.means _ mem
    cases r with
    | blank q =>
      rintro rfl
      simp [means.1] at shape
    | clear q =>
      rintro rfl
      obtain ⟨-, x, owner, gone⟩ := means
      rcases sane.stage_of_reaches reaches owner with alive | ⟨dying, worker⟩
      · simp [alive] at gone
      · simp [dying] at gone
        exact gone t worker
    | bound q x =>
      rintro rfl
      simp [means.1] at shape
    | finished i =>
      intro same
      have entry := (wf.table p).mpr (by simp [same])
      simp [entry] at shape
    | _ => trivial

end Sane

/-- What an operation leaves behind besides its answer. -/
def extra (w : World ο π ι) : Op ο π ι → Multiset (Token ο π ι)
  | .unref o => if w.count o = 1 then {.right (.dying o)} else 0
  | _ => 0

/-- What an operation does to a world. -/
structure Effect (S : System ο π ι κ) (w : World ο π ι) (t : Nat) (op : Op ο π ι)
    (h₀ : Multiset (Token ο π ι)) (r : op.Answer) (w' : World ο π ι) : Prop where
  sane : Sane S.toLayout w'
  expects : S.Expects (w.hand t) op r
  hand : w'.hand t = extra w op + (S.gives op r + h₀)
  rest : Local w t w'

section

variable {S : System ο π ι κ} {w : World ο π ι} {t n : Nat} {h₀ : Multiset (Token ο π ι)}

theorem effect_unref (sane : Sane S.toLayout w) {o : ο}
    (same : w.hand t = S.takes (.unref o) + h₀) :
    Effect S w t (.unref o) h₀ () ((w.touch o).drop t o) := by
  have hand : w.hand t = .ref o ::ₘ h₀ := same
  have held : (t, .ref o) ∈ w.held := by
    rw [← World.mem_hand, hand]
    exact Multiset.mem_cons_self _ _
  rw [Sane.touch_eq (sane.alive_of_held held)]
  refine ⟨sane.drop held, trivial, ?_, Local.drop⟩
  rw [World.hand_drop hand]
  exact congrArg _ (zero_add h₀).symm

/-- An operation that does nothing. -/
theorem effect_none (sane : Sane S.toLayout w) {op : Op ο π ι} {r : op.Answer}
    (expects : S.Expects (w.hand t) op r) (same : w.hand t = S.takes op + h₀)
    (gives : S.gives op r = S.takes op) (nothing : extra w op = 0) : Effect S w t op h₀ r w :=
  ⟨sane, expects, by rw [nothing, zero_add, gives, same], Local.refl⟩

theorem effect_load (sane : Sane S.toLayout w) {p : π} (fine : S.Fine n (w.hand t) (.load p))
    (same : w.hand t = S.takes (.load p) + h₀) {r : Option ο} {w' : World ο π ι}
    {choice : Choice ο π} (happens : effect S w t (.load p) choice = some (r, w')) :
    Effect S w t (.load p) h₀ r w' := by
  simp only [effect, sane.visit fine.1] at happens
  have nothing : Effect S w t (.load p) h₀ none w :=
    effect_none sane (by simp [Layout.Expects]) same rfl rfl
  cases first : (w.at_ p).head? with
  | none =>
    simp only [first, Option.some.injEq, Prod.mk.injEq] at happens
    obtain ⟨rfl, rfl⟩ := happens
    exact nothing
  | some o =>
    simp only [first] at happens
    split at happens
    · obtain ⟨rfl, rfl⟩ := Prod.mk.inj (Option.some.inj happens)
      have stored := World.mem_at_.mp (List.mem_of_head? first)
      refine ⟨sane.copy (sane.alive_of_stored stored), ?_, ?_, Local.copy⟩
      · rintro x ⟨⟩
        refine ⟨(sane.stored _ stored).1, fun y known => ?_⟩
        exact (sane.means _ (World.mem_hand.mp known)).2.2 o stored
      · refine World.hand_grant.trans ?_
        simp [same, extra, Layout.takes, Layout.gives]
    · obtain ⟨rfl, rfl⟩ := Prod.mk.inj (Option.some.inj happens)
      exact nothing

theorem effect_ref (sane : Sane S.toLayout w) {o : ο} (fine : S.Fine n (w.hand t) (.ref o))
    (same : w.hand t = S.takes (.ref o) + h₀) {r : Bool} {w' : World ο π ι}
    {choice : Choice ο π} (happens : effect S w t (.ref o) choice = some (r, w')) :
    Effect S w t (.ref o) h₀ r w' := by
  have alive := sane.alive_of_alive fine.1
  simp only [effect, Sane.touch_eq alive] at happens
  split at happens <;> obtain ⟨rfl, rfl⟩ := Prod.mk.inj (Option.some.inj happens)
  · refine ⟨sane.copy alive, trivial, World.hand_grant.trans ?_, Local.copy⟩
    simp [same, extra, Layout.takes, Layout.gives]
  · exact effect_none sane trivial same rfl rfl

theorem effect_new (sane : Sane S.toLayout w) (wf : S.WF) {sort : ο → Bool}
    (same : w.hand t = S.takes (.new sort) + h₀) {r : Option ο} {w' : World ο π ι}
    {choice : Choice ο π} (happens : effect S w t (.new sort) choice = some (r, w')) :
    Effect S w t (.new sort) h₀ r w' := by
  have nothing : Effect S w t (.new sort) h₀ none w :=
    effect_none sane (by simp [Layout.Expects]) same rfl rfl
  cases choice with
  | object o =>
    simp only [effect] at happens
    split at happens
    · rename_i new
      obtain ⟨rfl, rfl⟩ := Prod.mk.inj (Option.some.inj happens)
      refine ⟨sane.birth wf new.1, ?_, World.hand_birth.trans ?_, Local.birth⟩
      · rintro x ⟨⟩
        exact new.2
      · simp [same, extra, Layout.takes, Layout.gives]
    · cases happens
  | _ =>
    obtain ⟨rfl, rfl⟩ := Prod.mk.inj (Option.some.inj happens)
    exact nothing

/-- References that were in one place. -/
theorem sane_grab (sane : Sane S.toLayout w) {p : π}
    (able : S.shape p = .once → ∀ x, S.owner p = some x → w.stage x ≠ .alive) :
    Sane S.toLayout (w.liftAll t (w.stored.filter fun e => e.1 == p)) := by
  refine sane.liftAll (Multiset.coe_le.mpr List.filter_sublist.subperm) ?_
  rintro ⟨q, o⟩ mem
  obtain rfl := eq_of_beq (List.mem_filter.mp mem).2
  exact able

theorem fits_of_at (sane : Sane S.toLayout w) {p : π} : ∀ o ∈ w.at_ p, S.fits p o = true :=
  fun _ mem => (sane.stored _ (World.mem_at_.mp mem)).1

theorem effect_grab (sane : Sane S.toLayout w) {p : π} (fine : S.Fine n (w.hand t) (.grab p))
    (same : w.hand t = S.takes (.grab p) + h₀) {r : List ο} {w' : World ο π ι}
    {choice : Choice ο π} (happens : effect S w t (.grab p) choice = some (r, w')) :
    Effect S w t (.grab p) h₀ r w' := by
  simp only [effect, sane.visit fine.1] at happens
  obtain ⟨rfl, rfl⟩ := Prod.mk.inj (Option.some.inj happens)
  refine ⟨sane_grab sane (by simp [fine.2.1]), fits_of_at sane, ?_, Local.liftAll _⟩
  rw [World.hand_liftAll, same]
  simp [extra, Layout.takes, Layout.gives, World.at_]

theorem effect_drain (sane : Sane S.toLayout w) {p : π} (fine : S.Fine n (w.hand t) (.drain p))
    (same : w.hand t = S.takes (.drain p) + h₀) {r : List ο} {w' : World ο π ι}
    {choice : Choice ο π} (happens : effect S w t (.drain p) choice = some (r, w')) :
    Effect S w t (.drain p) h₀ r w' := by
  obtain ⟨x, owner⟩ := Option.isSome_iff_exists.mp fine.1
  simp only [Layout.takes, owner] at same
  have held : (t, .right (S.last x)) ∈ w.held := by
    rw [← World.mem_hand, same]
    exact Multiset.mem_cons_self _ _
  obtain ⟨dying, nobody⟩ := sane.last held
  have stage (y : ο) (other : S.owner p = some y) : w.stage y = .dying := by
    obtain rfl := Option.some.inj (owner.symm.trans other)
    exact dying
  simp only [effect, Sane.visit_eq fun y other => .inr (stage y other)] at happens
  obtain ⟨rfl, rfl⟩ := Prod.mk.inj (Option.some.inj happens)
  have lifted := sane_grab (t := t) sane (p := p) fun _ y other => by simp [stage y other]
  have shared := Local.liftAll (w := w) (t := t) (w.stored.filter fun e => e.1 == p)
  refine ⟨lifted.grant trivial ⟨?_, x, owner, .inr ⟨?_, ?_⟩⟩, fits_of_at sane, ?_,
    shared.trans Local.grant⟩
  · refine World.at_eq_nil.mpr fun o mem => ?_
    have := (World.mem_liftAll.mp mem).2
    simp at this
  · rw [World.stage_liftAll]
    exact dying
  · rw [shared.workers]
    exact nobody
  · rw [World.hand_grant, World.hand_liftAll, same]
    simp [extra, Layout.gives, owner, World.at_, Multiset.cons_swap]

/-- A reference comes to a cell or a queue. -/
theorem effect_put (sane : Sane S.toLayout w) (wf : S.WF) {p : π} {o : ο} {h : Multiset (Token ο π ι)}
    (same : w.hand t = .ref o ::ₘ h) (reaches : S.Reaches (w.hand t) p)
    (fits : S.fits p o = true) (shape : S.shape p = .cell ∨ S.shape p = .queue)
    (room : S.shape p ≠ .queue → w.at_ p = []) :
    Sane S.toLayout (w.put t p o) ∧ (w.put t p o).hand t = h := by
  have held : (t, .ref o) ∈ w.held := by
    rw [← World.mem_hand, same]
    exact Multiset.mem_cons_self _ _
  refine ⟨sane.put held fits (sane.owner_stage reaches) room ?_ (sane.allows wf reaches shape),
    World.hand_revoke same⟩
  intro entry
  simp [entry] at shape

theorem effect_push (sane : Sane S.toLayout w) (wf : S.WF) {p : π} {o : ο}
    (fine : S.Fine n (w.hand t) (.push p o)) (same : w.hand t = S.takes (.push p o) + h₀)
    {r : Unit} {w' : World ο π ι} {choice : Choice ο π}
    (happens : effect S w t (.push p o) choice = some (r, w')) :
    Effect S w t (.push p o) h₀ r w' := by
  simp only [effect, sane.visit fine.1] at happens
  obtain ⟨-, rfl⟩ := Prod.mk.inj (Option.some.inj happens)
  obtain ⟨kept, hand⟩ := effect_put sane wf (same.trans (Multiset.singleton_add _ _)) fine.1
    fine.2.2 (.inr fine.2.1) fun other => absurd fine.2.1 other
  exact ⟨kept, trivial, by simp [hand, extra, Layout.gives], Local.put⟩

theorem effect_offer (sane : Sane S.toLayout w) (wf : S.WF) {p : π} {o : ο}
    (fine : S.Fine n (w.hand t) (.offer p o)) (same : w.hand t = S.takes (.offer p o) + h₀)
    {r : Bool} {w' : World ο π ι} {choice : Choice ο π}
    (happens : effect S w t (.offer p o) choice = some (r, w')) :
    Effect S w t (.offer p o) h₀ r w' := by
  simp only [effect, sane.visit fine.1] at happens
  split at happens <;> obtain ⟨rfl, rfl⟩ := Prod.mk.inj (Option.some.inj happens)
  · rename_i empty
    obtain ⟨kept, hand⟩ := effect_put sane wf (same.trans (Multiset.singleton_add _ _)) fine.1
      fine.2.2 (.inl fine.2.1) fun _ => empty
    exact ⟨kept, trivial, by simp [hand, extra, Layout.gives], Local.put⟩
  · exact effect_none sane trivial same rfl rfl

theorem at_lift_of_head (sane : Sane S.toLayout w) {p : π} {o : ο} (shape : S.shape p ≠ .queue)
    (first : (w.at_ p).head? = some o) : (w.lift t p o).at_ p = [] := by
  have stored := World.mem_at_.mp (List.mem_of_head? first)
  have single := sane.single p shape
  have less := ((List.perm_cons_erase stored).filter fun e => e.1 == p).length_eq
  rw [World.at_, List.length_map, less] at single
  rw [World.at_, List.map_eq_nil_iff, ← List.length_eq_zero_iff]
  simp only [beq_self_eq_true, List.filter_cons_of_pos, List.length_cons] at single
  exact Nat.le_zero.mp (Nat.le_of_succ_le_succ single)

theorem effect_swap (sane : Sane S.toLayout w) (wf : S.WF) {p : π} {new : Option ο}
    (fine : S.Fine n (w.hand t) (.swap p new)) (same : w.hand t = S.takes (.swap p new) + h₀)
    {r : Option ο} {w' : World ο π ι} {choice : Choice ο π}
    (happens : effect S w t (.swap p new) choice = some (r, w')) :
    Effect S w t (.swap p new) h₀ r w' := by
  obtain ⟨reaches, shape, fits, -⟩ := fine
  simp only [effect, sane.visit reaches] at happens
  have notQueue : S.shape p ≠ .queue := by
    rcases shape with shape | ⟨shape, -⟩ <;> simp [shape]
  have notOnce : S.shape p ≠ .once := by
    rcases shape with shape | ⟨shape, -⟩ <;> simp [shape]
  -- what is in the place comes out first
  have out : ∃ w₁, Sane S.toLayout w₁ ∧ Local w t w₁ ∧ w₁.at_ p = [] ∧
      w₁.hand t = (r.elim 0 fun o => {.ref o}) + w.hand t ∧
      (∀ o ∈ r, S.fits p o = true) ∧ w' = new.elim w₁ fun o => w₁.put t p o := by
    cases first : (w.at_ p).head? with
    | none =>
      simp only [first] at happens
      obtain ⟨rfl, rfl⟩ := Prod.mk.inj (Option.some.inj happens)
      refine ⟨w, sane, Local.refl, List.head?_eq_none_iff.mp first, ?_, ?_, ?_⟩
      · simp
      · simp
      · cases new <;> rfl
    | some o =>
      simp only [first] at happens
      obtain ⟨rfl, rfl⟩ := Prod.mk.inj (Option.some.inj happens)
      have stored := World.mem_at_.mp (List.mem_of_head? first)
      refine ⟨w.lift t p o, sane.lift stored fun once => absurd once notOnce, Local.lift,
        at_lift_of_head sane notQueue first, World.hand_grant, ?_, ?_⟩
      · rintro x ⟨⟩
        exact (sane.stored _ stored).1
      · cases new <;> rfl
  obtain ⟨w₁, sane₁, local₁, empty, hand₁, fitting, rfl⟩ := out
  have gives : S.gives (.swap p new) r = r.elim 0 fun o => {.ref o} := by cases r <;> rfl
  cases new with
  | none =>
    refine ⟨sane₁, fitting, ?_, local₁⟩
    refine hand₁.trans ?_
    rw [same, gives]
    simp [extra, Layout.takes]
  | some o =>
    have hand : w₁.hand t = .ref o ::ₘ ((r.elim 0 fun o => {.ref o}) + h₀) := by
      rw [hand₁, same, ← Multiset.add_cons]
      rfl
    have reaches₁ : S.Reaches (w₁.hand t) p := by
      rw [hand₁]
      exact reaches.mono (Multiset.le_add_left _ _)
    have cell : S.shape p = .cell := by
      rcases shape with shape | ⟨-, none⟩
      · exact shape
      · cases none
    obtain ⟨kept, hand⟩ := effect_put sane₁ wf hand reaches₁ (fits o rfl) (.inl cell)
      fun _ => empty
    refine ⟨kept, fitting, ?_, local₁.trans Local.put⟩
    rw [gives]
    exact hand.trans (zero_add _).symm

theorem effect_pull (sane : Sane S.toLayout w) {p : π} (fine : S.Fine n (w.hand t) (.pull p))
    (same : w.hand t = S.takes (.pull p) + h₀) {r : Option ο} {w' : World ο π ι}
    {choice : Choice ο π} (happens : effect S w t (.pull p) choice = some (r, w')) :
    Effect S w t (.pull p) h₀ r w' := by
  have nothing : Effect S w t (.pull p) h₀ none w :=
    effect_none sane (by simp [Layout.Expects]) same rfl rfl
  cases choice with
  | index i =>
    simp only [effect, sane.visit fine.1] at happens
    split at happens <;> obtain ⟨rfl, rfl⟩ := Prod.mk.inj (Option.some.inj happens)
    · rename_i o at_
      have stored := World.mem_at_.mp (List.mem_of_getElem? at_)
      refine ⟨sane.lift stored fun once => ?_, ?_, World.hand_grant.trans ?_, Local.lift⟩
      · rw [fine.2.1] at once
        cases once
      · rintro x ⟨⟩
        exact (sane.stored _ stored).1
      · simp [same, extra, Layout.takes, Layout.gives]
    · exact nothing
  | _ =>
    simp only [effect, sane.visit fine.1] at happens
    obtain ⟨rfl, rfl⟩ := Prod.mk.inj (Option.some.inj happens)
    exact nothing

theorem effect_reclaim (sane : Sane S.toLayout w) {p : π} {o : ο}
    (fine : S.Fine n (w.hand t) (.reclaim p o)) (same : w.hand t = S.takes (.reclaim p o) + h₀)
    (found : (p, o) ∈ w.stored) {r : Bool} {w' : World ο π ι} {choice : Choice ο π}
    (happens : effect S w t (.reclaim p o) choice = some (r, w')) :
    Effect S w t (.reclaim p o) h₀ r w' := by
  simp only [effect, sane.visit fine.1, if_pos found] at happens
  obtain ⟨rfl, rfl⟩ := Prod.mk.inj (Option.some.inj happens)
  refine ⟨sane.lift found fun once => ?_, ⟨rfl, (sane.stored _ found).1⟩,
    World.hand_grant.trans ?_, Local.lift⟩
  · rw [fine.2.1] at once
    cases once
  · simp [same, extra, Layout.takes, Layout.gives]

theorem effect_peek (sane : Sane S.toLayout w) {p : π} (fine : S.Fine n (w.hand t) (.peek p))
    (same : w.hand t = S.takes (.peek p) + h₀) {r : Option ο} {w' : World ο π ι}
    {choice : Choice ο π} (happens : effect S w t (.peek p) choice = some (r, w')) :
    Effect S w t (.peek p) h₀ r w' := by
  obtain ⟨⟨x, owner, alive⟩, once⟩ := fine
  have alive := sane.alive_of_alive alive
  have stage (y : ο) (other : S.owner p = some y) : w.stage y = .alive := by
    obtain rfl := Option.some.inj (owner.symm.trans other)
    exact alive
  simp only [effect, Sane.visit_eq fun y other => .inl (stage y other)] at happens
  cases first : (w.at_ p).head? with
  | none =>
    simp only [first] at happens
    obtain ⟨rfl, rfl⟩ := Prod.mk.inj (Option.some.inj happens)
    exact effect_none sane (by simp [Layout.Expects]) same rfl rfl
  | some o =>
    simp only [first] at happens
    obtain ⟨rfl, rfl⟩ := Prod.mk.inj (Option.some.inj happens)
    have stored := World.mem_at_.mp (List.mem_of_head? first)
    refine ⟨sane.grant trivial ⟨once, x, owner, by simp [alive], fun _ => stored⟩, ?_,
      World.hand_grant.trans ?_, Local.grant⟩
    · rintro y ⟨⟩
      exact (sane.stored _ stored).1
    · simp [same, extra, Layout.takes, Layout.gives]

/-- There is one right to set a field. -/
theorem blank_gone (sane : Sane S.toLayout w) {p : π} (held : (t, .right (.blank p)) ∈ w.held)
    (t' : Nat) : (t', .right (.blank p)) ∉ (w.revoke t (.right (.blank p))).held := by
  intro mem
  have other := World.tally_pos (q := (· = .right (.blank p))) mem rfl
  have one := World.tally_revoke (q := (· = .right (.blank p))) held
  rw [if_pos rfl] at one
  have := sane.blank p
  omega

theorem effect_set (sane : Sane S.toLayout w) (wf : S.WF) {p : π} {o : ο}
    (fine : S.Fine n (w.hand t) (.set p o)) (same : w.hand t = S.takes (.set p o) + h₀)
    {r : Unit} {w' : World ο π ι} {choice : Choice ο π}
    (happens : effect S w t (.set p o) choice = some (r, w')) :
    Effect S w t (.set p o) h₀ r w' := by
  obtain ⟨⟨x, owner, alive⟩, fits⟩ := fine
  have alive := sane.alive_of_alive alive
  have stage (y : ο) (other : S.owner p = some y) : w.stage y = .alive := by
    obtain rfl := Option.some.inj (owner.symm.trans other)
    exact alive
  have hand : w.hand t = .right (.blank p) ::ₘ .ref o ::ₘ h₀ := by
    rw [same, Multiset.cons_swap]
    simp [Layout.takes]
  have blank : (t, .right (.blank p)) ∈ w.held := by
    rw [← World.mem_hand, hand]
    exact Multiset.mem_cons_self _ _
  obtain ⟨once, empty, -⟩ := sane.means _ blank
  simp only [effect, Sane.visit_eq fun y other => .inl (stage y other), empty, List.isEmpty_nil,
    Bool.not_true, Bool.or_false] at happens
  obtain ⟨-, rfl⟩ := Prod.mk.inj (Option.some.inj happens)
  have hand₁ := World.hand_revoke hand
  have sane₁ : Sane S.toLayout (w.revoke t (.right (.blank p))) := sane.revoke (.inr ⟨p, rfl⟩)
  have held₁ : (t, .ref o) ∈ (w.revoke t (.right (.blank p))).held := by
    rw [← World.mem_hand, hand₁]
    exact Multiset.mem_cons_self _ _
  have allowed : ∀ e ∈ (w.revoke t (.right (.blank p))).held, S.Allows p o e.2 := by
    rintro ⟨t', y | right⟩ mem
    · trivial
    · have means := sane₁.means _ mem
      cases right with
      | blank q =>
        rintro rfl
        exact blank_gone sane blank t' mem
      | clear q =>
        rintro rfl
        obtain ⟨-, y, other, gone⟩ := means
        have := stage y other
        rcases gone with gone | ⟨gone, -⟩ <;> exact absurd (this.symm.trans gone) (by decide)
      | bound q y =>
        rintro rfl
        exact absurd (once.symm.trans means.1) (by decide)
      | finished i =>
        intro entry
        have := (wf.table p).mpr (by simp [entry])
        exact absurd (once.symm.trans this) (by decide)
      | _ => trivial
  have kept := sane₁.put held₁ fits (fun y other => .inl (stage y other)) (fun _ => empty)
    (fun entry => absurd (once.symm.trans entry) (by decide)) allowed
  refine ⟨kept.grant trivial ⟨once, x, owner, ?_, fun _ => ?_⟩, trivial, ?_,
    (Local.revoke.trans Local.put).trans Local.grant⟩
  · show w.stage x ≠ .unborn
    simp [alive]
  · exact List.mem_append_right _ (List.mem_singleton_self _)
  · rw [World.hand_grant]
    have : ((w.revoke t (.right (.blank p))).put t p o).hand t = h₀ := World.hand_revoke hand₁
    rw [this]
    simp [extra, Layout.gives]

theorem effect_publish (sane : Sane S.toLayout w) (wf : S.WF) {i : ι} {o : ο}
    (fine : S.Fine n (w.hand t) (.publish i o)) (same : w.hand t = S.takes (.publish i o) + h₀)
    {r : Option π} {w' : World ο π ι} {choice : Choice ο π}
    (happens : effect S w t (.publish i o) choice = some (r, w')) :
    Effect S w t (.publish i o) h₀ r w' := by
  have hand : w.hand t = .ref o ::ₘ .right .license ::ₘ h₀ := by
    rw [same, Multiset.cons_swap]
    simp [Layout.takes]
  have license : (t, .right .license) ∈ w.held := by
    rw [← World.mem_hand, hand]
    simp
  have nothing : Effect S w t (.publish i o) h₀ none w :=
    effect_none sane (by simp [Layout.Expects]) same rfl rfl
  cases choice with
  | place p =>
    simp only [effect] at happens
    split at happens
    · rename_i fresh
      obtain ⟨rfl, rfl⟩ := Prod.mk.inj (Option.some.inj happens)
      have entry : S.shape p = .entry := (wf.table p).mpr (by simp [fresh.1])
      have none := (wf.entry p).mp entry
      have empty : w.at_ p = [] :=
        World.at_eq_nil.mpr fun x stored => fresh.2 (sane.used _ stored entry)
      have held : (t, .ref o) ∈ w.held := by
        rw [← World.mem_hand, hand]
        exact Multiset.mem_cons_self _ _
      have allowed : ∀ e ∈ w.held, S.Allows p o e.2 := by
        rintro ⟨t', y | right⟩ mem
        · trivial
        · have means := sane.means _ mem
          cases right with
          | blank q =>
            rintro rfl
            exact absurd (entry.symm.trans means.1) (by decide)
          | clear q =>
            rintro rfl
            obtain ⟨-, y, other, -⟩ := means
            simp [none] at other
          | bound q y =>
            rintro rfl
            exact absurd means.2.1 fresh.2
          | finished j =>
            have calls := sane.calls means.1
            have : t ∈ w.calls := sane.means _ license
            simp [calls] at this
          | _ => trivial
      have kept := (sane.use (p := p)).put held (fine p fresh.1)
        (fun x owner => by simp [none] at owner) (fun _ => empty)
        (fun _ => List.mem_cons_self) allowed
      refine ⟨kept.grant trivial ⟨entry, List.mem_cons_self, fun x stored => ?_⟩, ?_, ?_,
        (Local.use.trans Local.put).trans Local.grant⟩
      · rcases List.mem_append.mp stored with old | new
        · exact absurd old (World.at_eq_nil.mp empty x)
        · exact (Prod.mk.inj (List.mem_singleton.mp new)).2
      · rintro q ⟨⟩
        exact fresh.1
      · rw [World.hand_grant]
        have : ((w.use p).put t p o).hand t = .right .license ::ₘ h₀ :=
          World.hand_revoke (w := w.use p) hand
        rw [this, Multiset.cons_swap]
        simp [extra, Layout.gives]
    · cases happens
  | _ =>
    obtain ⟨rfl, rfl⟩ := Prod.mk.inj (Option.some.inj happens)
    exact nothing

theorem effect_finish (sane : Sane S.toLayout w) (wf : S.WF) {i : ι}
    (same : w.hand t = S.takes (.finish i) + h₀)
    {r : List ο} {w' : World ο π ι} {choice : Choice ο π}
    (happens : effect S w t (.finish i) choice = some (r, w')) :
    Effect S w t (.finish i) h₀ r w' := by
  have closing : (t, .right .closing) ∈ w.held := by
    rw [← World.mem_hand, same]
    exact Multiset.mem_cons_self _ _
  obtain ⟨rfl, rfl⟩ := Prod.mk.inj (Option.some.inj happens)
  have entry (e : π × ο) (mem : e ∈ w.stored.filter fun e => S.table e.1 == some i) :
      S.table e.1 = some i := eq_of_beq (List.mem_filter.mp mem).2
  have lifted : Sane S.toLayout (w.liftAll t (w.stored.filter fun e => S.table e.1 == some i)) := by
    refine sane.liftAll (Multiset.coe_le.mpr List.filter_sublist.subperm) fun e mem once => ?_
    have := (wf.table e.1).mpr (by simp [entry e mem])
    exact absurd (once.symm.trans this) (by decide)
  have shared := Local.liftAll (w := w) (t := t) (w.stored.filter fun e => S.table e.1 == some i)
  refine ⟨lifted.grant trivial ⟨?_, fun e mem => ?_⟩, ?_, ?_, shared.trans Local.grant⟩
  · rw [shared.closer, show w.closer = some t from sane.means _ closing]
    simp
  · have := (World.mem_liftAll.mp mem).2
    simpa using this
  · intro o mem
    obtain ⟨e, lifted, rfl⟩ := List.mem_map.mp mem
    exact ⟨e.1, entry e lifted, (sane.stored e (List.mem_filter.mp lifted).1).1⟩
  · rw [World.hand_grant, World.hand_liftAll, same]
    simp [extra, Layout.gives, Layout.takes, Multiset.cons_swap]

theorem effect_join (sane : Sane S.toLayout w) {o : ο} (same : w.hand t = S.takes (.join o) + h₀)
    {r : Unit} {w' : World ο π ι} {choice : Choice ο π}
    (happens : effect S w t (.join o) choice = some (r, w')) :
    Effect S w t (.join o) h₀ r w' := by
  have hand : w.hand t = .right (.dying o) ::ₘ h₀ := same.trans (Multiset.singleton_add _ _)
  have held : (t, .right (.dying o)) ∈ w.held := by
    rw [← World.mem_hand, hand]
    exact Multiset.mem_cons_self _ _
  simp only [effect] at happens
  split at happens
  · cases happens
  · rename_i idle
    obtain ⟨-, rfl⟩ := Prod.mk.inj (Option.some.inj happens)
    refine ⟨sane.join held (by simpa using idle), trivial, ?_, Local.revoke.trans Local.grant⟩
    rw [World.hand_grant, World.hand_revoke hand]
    simp [extra, Layout.gives]

theorem effect_free (sane : Sane S.toLayout w) (wf : S.WF) {o : ο}
    (fine : S.Fine n (w.hand t) (.free o)) (same : w.hand t = S.takes (.free o) + h₀)
    {r : Unit} {w' : World ο π ι} {choice : Choice ο π}
    (happens : effect S w t (.free o) choice = some (r, w')) :
    Effect S w t (.free o) h₀ r w' := by
  have hand : w.hand t = .right (S.last o) ::ₘ h₀ := same.trans (Multiset.singleton_add _ _)
  have held : (t, .right (S.last o)) ∈ w.held := by
    rw [← World.mem_hand, hand]
    exact Multiset.mem_cons_self _ _
  obtain ⟨-, rfl⟩ := Prod.mk.inj (Option.some.inj happens)
  refine ⟨sane.bury wf held fun q field => World.mem_hand.mp (fine q field), trivial, ?_,
    Local.bury⟩
  have : (w.bury S.toLayout t o).hand t = h₀ := World.hand_revoke hand
  simp [this, extra, Layout.gives]

/-- What every operation does but the start of a thread. -/
theorem effect_spec (sane : Sane S.toLayout w) (wf : S.WF) {op : Op ο π ι}
    (starts : ∀ o, op ≠ .lend o) (found : ∀ p o, op = .reclaim p o → (p, o) ∈ w.stored)
    (fine : S.Fine n (w.hand t) op) (same : w.hand t = S.takes op + h₀)
    {r : op.Answer} {w' : World ο π ι} {choice : Choice ο π}
    (happens : effect S w t op choice = some (r, w')) : Effect S w t op h₀ r w' := by
  cases op with
  | new sort => exact effect_new sane wf same happens
  | ref o => exact effect_ref sane fine same happens
  | unref o =>
    obtain ⟨rfl, rfl⟩ := Prod.mk.inj (Option.some.inj happens)
    exact effect_unref sane same
  | load p => exact effect_load sane fine same happens
  | swap p new => exact effect_swap sane wf fine same happens
  | offer p o => exact effect_offer sane wf fine same happens
  | set p o => exact effect_set sane wf fine same happens
  | peek p => exact effect_peek sane fine same happens
  | push p o => exact effect_push sane wf fine same happens
  | pull p => exact effect_pull sane fine same happens
  | reclaim p o => exact effect_reclaim sane fine same (found p o rfl) happens
  | grab p => exact effect_grab sane fine same happens
  | drain p => exact effect_drain sane fine same happens
  | publish i o => exact effect_publish sane wf fine same happens
  | finish i => exact effect_finish sane wf same happens
  | lend o => exact absurd rfl (starts o)
  | join o => exact effect_join sane same happens
  | free o => exact effect_free sane wf fine same happens
  | flip =>
    obtain ⟨rfl, rfl⟩ := Prod.mk.inj (Option.some.inj happens)
    exact effect_none sane trivial same rfl rfl

end

end References
