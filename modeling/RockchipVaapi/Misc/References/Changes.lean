import RockchipVaapi.Misc.References.Sane

/-!
# What the changes of a world keep

One lemma for each elementary change: references stay in one place or one hand, and what a thread
has the right to stays so.
-/

set_option linter.unusedSectionVars false

namespace References

variable {ο π ι : Type} [DecidableEq ο] [DecidableEq π] [DecidableEq ι]

/-- A right that comes and goes. -/
def Right.Plain : Right ο π ι → Prop
  | .dying _ | .sole _ | .blank _ => False
  | _ => True

/-- A reference may come to a place without a right becoming untrue. -/
def Layout.Allows (L : Layout ο π ι) (p : π) (o : ο) : Token ο π ι → Prop
  | .right (.blank q) | .right (.clear q) => q ≠ p
  | .right (.bound q x) => q = p → x = o
  | .right (.finished i) => L.table p ≠ some i
  | _ => True

namespace Sane

variable {L : Layout ο π ι} {w : World ο π ι} {t : Nat} {p : π} {o : ο}

theorem grant (sane : Sane L w) {r : Right ο π ι} (plain : r.Plain)
    (means : L.Means w t (.right r)) : Sane L (w.grant t (.right r)) where
  means := by
    intro e mem
    rcases Multiset.mem_cons.mp mem with rfl | mem
    · exact means
    · exact sane.means e mem
  ledger := by
    intro o'
    have owned : (w.grant t (.right r)).owned o' = w.owned o' := by simp [World.owned]
    rw [owned]
    exact sane.ledger o'
  alive := sane.alive
  dying := by
    intro o'
    have ends : (w.grant t (.right r)).ends o' = w.ends o' := by
      cases r <;> simp [World.ends] <;> exact plain.elim
    rw [ends]
    exact sane.dying o'
  stored := sane.stored
  single := sane.single
  used := sane.used
  blank := by
    intro q
    rw [World.tally_grant, if_neg (by cases r <;> simp; exact plain.elim)]
    exact sane.blank q
  workers := sane.workers
  calls := sane.calls
  freed := sane.freed
  fault := sane.fault

theorem revoke (sane : Sane L w) {r : Right ο π ι} (plain : r.Plain ∨ ∃ p, r = .blank p) :
    Sane L (w.revoke t (.right r)) where
  means e mem := sane.means e (World.mem_of_revoke mem)
  ledger := by
    intro o'
    have owned : (w.revoke t (.right r)).owned o' = w.owned o' :=
      World.tally_revoke_of_not (by simp)
    rw [owned]
    exact sane.ledger o'
  alive := sane.alive
  dying := by
    intro o'
    have ends : (w.revoke t (.right r)).ends o' = w.ends o' := by
      refine World.tally_revoke_of_not ?_
      rcases plain with plain | ⟨p, rfl⟩
      · cases r <;> simp <;> exact plain.elim
      · simp
    rw [ends]
    exact sane.dying o'
  stored := sane.stored
  single := sane.single
  used := sane.used
  blank := by
    intro q
    by_cases mem : (t, .right r) ∈ w.held
    · have := World.tally_revoke (q := (· = .right (.blank q))) mem
      exact le_trans (by omega) (sane.blank q)
    · rw [World.tally, World.revoke, Multiset.erase_of_notMem mem]
      exact sane.blank q
  workers := sane.workers
  calls := sane.calls
  freed := sane.freed
  fault := sane.fault

theorem copy (sane : Sane L w) (alive : w.stage o = .alive) : Sane L (w.copy t o) where
  means := by
    intro e mem
    rcases Multiset.mem_cons.mp mem with rfl | mem
    · trivial
    · exact sane.means e mem
  ledger := by
    intro o'
    have owned : (w.copy t o).owned o' = w.owned o' + if o = o' then 1 else 0 := by
      simp [World.owned]
    have kept : (w.copy t o).kept o' = w.kept o' := rfl
    have := sane.ledger o'
    rw [owned, kept]
    by_cases same : o' = o
    · subst same
      simp [World.copy]
      omega
    · simp [World.copy, same, Ne.symm same]
      omega
  alive := by
    intro o'
    by_cases same : o' = o
    · subst same
      simp [World.copy, World.grant, alive]
    · simpa [World.copy, World.grant, same] using sane.alive o'
  dying := by
    intro o'
    have ends : (w.copy t o).ends o' = w.ends o' := by simp [World.ends]
    rw [ends]
    exact sane.dying o'
  stored := sane.stored
  single := sane.single
  used := sane.used
  blank := by
    intro q
    rw [World.tally_copy]
    simpa using sane.blank q
  workers := sane.workers
  calls := sane.calls
  freed := sane.freed
  fault := sane.fault

theorem lift (sane : Sane L w) (mem : (p, o) ∈ w.stored)
    (able : L.shape p = .once → ∀ x, L.owner p = some x → w.stage x ≠ .alive) :
    Sane L (w.lift t p o) where
  means := by
    intro e held
    rcases Multiset.mem_cons.mp held with rfl | held
    · trivial
    · have means := sane.means e held
      have less (q : π) (none : w.at_ q = []) : (w.lift t p o).at_ q = [] := by
        rw [World.at_eq_nil] at none ⊢
        exact fun x stored => none x (List.mem_of_mem_erase stored)
      obtain ⟨t', x | r⟩ := e
      · trivial
      · cases r with
        | blank q => exact ⟨means.1, less q means.2.1, means.2.2⟩
        | clear q => exact ⟨less q means.1, means.2⟩
        | points q o' =>
          obtain ⟨once, x, owner, born, points⟩ := means
          refine ⟨once, x, owner, born, fun alive => ?_⟩
          refine (List.mem_erase_of_ne ?_).mpr (points alive)
          rintro same
          obtain ⟨rfl, -⟩ := Prod.mk.inj same
          exact able once x owner alive
        | bound q o' =>
          exact ⟨means.1, means.2.1, fun x stored => means.2.2 x (List.mem_of_mem_erase stored)⟩
        | finished i =>
          exact ⟨means.1, fun e stored => means.2 e (List.mem_of_mem_erase stored)⟩
        | _ => exact means
  ledger := by
    intro o'
    have owned : (w.lift t p o).owned o' = w.owned o' + if o = o' then 1 else 0 := by
      simp [World.owned]
    have kept : w.kept o' = (w.lift t p o).kept o' + if o = o' then 1 else 0 := by
      rw [World.kept, (List.perm_cons_erase mem).countP_eq, List.countP_cons]
      simp [World.kept, World.lift]
    rw [owned, add_right_comm, add_assoc, ← kept]
    exact sane.ledger o'
  alive := sane.alive
  dying := by
    intro o'
    have ends : (w.lift t p o).ends o' = w.ends o' := by simp [World.ends]
    rw [ends]
    exact sane.dying o'
  stored e stored := sane.stored e (List.mem_of_mem_erase stored)
  single := by
    intro q shape
    refine le_trans (List.Sublist.length_le ?_) (sane.single q shape)
    exact (List.erase_sublist.filter _).map _
  used e stored := sane.used e (List.mem_of_mem_erase stored)
  blank := by
    intro q
    rw [World.tally_lift]
    simpa using sane.blank q
  workers := sane.workers
  calls := sane.calls
  freed := sane.freed
  fault := sane.fault

theorem put (sane : Sane L w) (held : (t, .ref o) ∈ w.held) (fits : L.fits p o = true)
    (owner : ∀ x, L.owner p = some x → w.stage x = .alive ∨ w.stage x = .dying)
    (room : L.shape p ≠ .queue → w.at_ p = []) (used : L.shape p = .entry → p ∈ w.used)
    (allows : ∀ e ∈ w.held, L.Allows p o e.2) : Sane L (w.put t p o) where
  means := by
    intro e mem
    have mem := World.mem_of_revoke mem
    have means := sane.means e mem
    have allows := allows e mem
    have still (q : π) (ne : q ≠ p) (none : w.at_ q = []) : (w.put t p o).at_ q = [] := by
      rw [World.at_eq_nil] at none ⊢
      intro x stored
      rcases List.mem_append.mp stored with stored | new
      · exact none x stored
      · obtain ⟨same, -⟩ := Prod.mk.inj (List.mem_singleton.mp new)
        exact ne same
    obtain ⟨t', x | r⟩ := e
    · trivial
    · cases r with
      | blank q => exact ⟨means.1, still q allows means.2.1, means.2.2⟩
      | clear q => exact ⟨still q allows means.1, means.2⟩
      | points q o' =>
        obtain ⟨once, x, owner, born, points⟩ := means
        exact ⟨once, x, owner, born, fun alive => List.mem_append_left _ (points alive)⟩
      | bound q o' =>
        refine ⟨means.1, means.2.1, fun x stored => ?_⟩
        rcases List.mem_append.mp stored with stored | new
        · exact means.2.2 x stored
        · obtain ⟨rfl, rfl⟩ := Prod.mk.inj (List.mem_singleton.mp new)
          exact (allows rfl).symm
      | finished i =>
        refine ⟨means.1, fun e stored => ?_⟩
        rcases List.mem_append.mp stored with stored | new
        · exact means.2 e stored
        · obtain rfl := List.mem_singleton.mp new
          exact allows
      | _ => exact means
  ledger := by
    intro o'
    have owned : w.owned o' = (w.put t p o).owned o' + if o = o' then 1 else 0 := by
      simpa [World.owned] using World.tally_revoke (q := (· = .ref o')) held
    have kept : (w.put t p o).kept o' = w.kept o' + if o = o' then 1 else 0 := by
      simp [World.kept, World.put, List.countP_cons]
    rw [kept, ← add_assoc, add_right_comm, ← owned]
    exact sane.ledger o'
  alive := sane.alive
  dying := by
    intro o'
    have ends : (w.put t p o).ends o' = w.ends o' := by
      rw [World.ends, World.tally_put, World.tally_revoke_of_not (by simp), World.ends]
    rw [ends]
    exact sane.dying o'
  stored := by
    intro e mem
    rcases List.mem_append.mp mem with mem | new
    · exact sane.stored e mem
    · obtain rfl := List.mem_singleton.mp new
      exact ⟨fits, owner⟩
  single := by
    intro q shape
    by_cases same : q = p
    · subst same
      have none := room shape
      simp only [World.at_, List.map_eq_nil_iff] at none
      simp [World.at_, World.put, none]
    · have apart : (w.put t p o).at_ q = w.at_ q := by
        simp [World.at_, World.put, World.revoke, Ne.symm same]
      rw [apart]
      exact sane.single q shape
  used := by
    intro e mem
    rcases List.mem_append.mp mem with mem | new
    · exact sane.used e mem
    · obtain rfl := List.mem_singleton.mp new
      exact used
  blank := by
    intro q
    rw [World.tally_put, World.tally_revoke_of_not (by simp)]
    exact sane.blank q
  workers := sane.workers
  calls := sane.calls
  freed := sane.freed
  fault := sane.fault

/-- An entry that is not used yet is empty. -/
theorem use (sane : Sane L w) : Sane L (w.use p) where
  means := by
    rintro ⟨t', x | r⟩ mem
    · trivial
    · have means := sane.means _ mem
      cases r with
      | bound q o' => exact ⟨means.1, List.mem_cons_of_mem p means.2.1, means.2.2⟩
      | _ => exact means
  ledger := sane.ledger
  alive := sane.alive
  dying := sane.dying
  stored := sane.stored
  single := sane.single
  used e mem entry := List.mem_cons_of_mem p (sane.used e mem entry)
  blank := sane.blank
  workers := sane.workers
  calls := sane.calls
  freed := sane.freed
  fault := sane.fault

theorem birth (sane : Sane L w) (wf : L.WF) (unborn : w.stage o = .unborn) :
    Sane L (w.birth L t o) where
  means := by
    have older {x : ο} (ne : w.stage x ≠ .unborn) : (w.birth L t o).stage x = w.stage x := by
      refine Function.update_of_ne ?_ _ _
      rintro rfl
      exact ne unborn
    intro e mem
    rcases Multiset.mem_add.mp mem with new | mem
    · rcases Multiset.mem_cons.mp new with rfl | new
      · trivial
      · obtain ⟨x, blank, rfl⟩ := Multiset.mem_map.mp new
        obtain ⟨q, field, once, rfl⟩ := Layout.mem_blanks.mp blank
        have owner := wf.fields o q field
        refine ⟨once, World.at_eq_nil.mpr fun x stored => ?_, o, owner, ?_⟩
        · have stage := (sane.stored _ stored).2 o owner
          simp [unborn] at stage
        · simp [World.birth]
    · have means := sane.means e mem
      obtain ⟨t', x | r⟩ := e
      · trivial
      · cases r with
        | blank q =>
          obtain ⟨once, none, x, owner, born⟩ := means
          exact ⟨once, none, x, owner, by rwa [older born]⟩
        | clear q =>
          obtain ⟨none, x, owner, stage⟩ := means
          refine ⟨none, x, owner, ?_⟩
          rw [older (by rcases stage with stage | ⟨stage, -⟩ <;> simp [stage])]
          exact stage
        | points q o' =>
          obtain ⟨once, x, owner, born, points⟩ := means
          refine ⟨once, x, owner, ?_⟩
          rw [older born]
          exact ⟨born, points⟩
        | _ => exact means
  ledger := by
    intro o'
    have owned : (w.birth L t o).owned o' = w.owned o' + if o = o' then 1 else 0 := by
      have none : (L.blanks o).countP (· = .ref o') = 0 := by
        refine Multiset.countP_eq_zero.mpr fun x mem => ?_
        obtain ⟨q, -, -, rfl⟩ := Layout.mem_blanks.mp mem
        simp
      rw [World.owned, World.tally_birth, none]
      simp [World.owned]
    have kept : (w.birth L t o).kept o' = w.kept o' := rfl
    rw [owned, kept, add_right_comm, ← sane.ledger]
    by_cases same : o' = o
    · subst same
      have none : w.count o' = 0 := by
        have := (sane.alive o').not.mp (by simp [unborn])
        omega
      simp [World.birth, none]
    · simp [World.birth, same, Ne.symm same]
  alive := by
    intro o'
    by_cases same : o' = o
    · subst same
      simp [World.birth]
    · simpa [World.birth, same] using sane.alive o'
  dying := by
    intro o'
    have ends : (w.birth L t o).ends o' = w.ends o' := by
      have none : (L.blanks o).countP
          (fun x => x = .right (.dying o') ∨ x = .right (.sole o')) = 0 := by
        refine Multiset.countP_eq_zero.mpr fun x mem => ?_
        obtain ⟨q, -, -, rfl⟩ := Layout.mem_blanks.mp mem
        simp
      rw [World.ends, World.tally_birth, none]
      simp [World.ends]
    rw [ends, sane.dying o']
    by_cases same : o' = o
    · subst same
      simp [World.birth, unborn]
    · simp [World.birth, same]
  stored := by
    intro e mem
    obtain ⟨fits, owner⟩ := sane.stored e mem
    refine ⟨fits, fun x same => ?_⟩
    have stage := owner x same
    by_cases new : x = o
    · subst new
      simp [unborn] at stage
    · simpa [World.birth, new] using stage
  single := sane.single
  used := sane.used
  blank := by
    intro q
    have once : (L.blanks o).countP (· = .right (.blank q)) ≤ 1 := by
      have nodup : (L.blanks o).Nodup := by
        refine (List.Nodup.filter _ (wf.nodup o)).map fun a b same => ?_
        exact Right.blank.inj (Token.right.inj same)
      have := Multiset.nodup_iff_count_le_one.mp nodup (.right (.blank q))
      simpa only [Multiset.count, eq_comm] using this
    rw [World.tally_birth, if_neg (by simp), zero_add]
    by_cases older : 0 < w.tally (· = .right (.blank q))
    · obtain ⟨t', x, held, rfl⟩ := World.exists_of_tally older
      obtain ⟨-, -, x, owner, born⟩ := sane.means _ held
      have none : (L.blanks o).countP (· = .right (.blank q)) = 0 := by
        refine Multiset.countP_eq_zero.mpr ?_
        rintro x mem rfl
        obtain ⟨q', field, -, same⟩ := Layout.mem_blanks.mp mem
        obtain rfl := Right.blank.inj (Token.right.inj same)
        obtain rfl := Option.some.inj (owner.symm.trans (wf.fields o q field))
        exact born unborn
      rw [none]
      exact sane.blank q
    · omega
  workers := by
    intro e mem
    obtain ⟨lends, stage⟩ := sane.workers e mem
    refine ⟨lends, ?_⟩
    by_cases new : e.2 = o
    · simp [new, unborn] at stage
    · simpa [World.birth, new] using stage
  calls := sane.calls
  freed := by
    intro o'
    rw [World.birth, sane.freed o']
    by_cases same : o' = o
    · subst same
      simp [unborn]
    · simp [same]
  fault := sane.fault

/-- A reference goes that is not the last one. -/
theorem release (sane : Sane L w) (held : (t, .ref o) ∈ w.held) (more : w.count o ≠ 1) :
    Sane L (w.release t o) where
  means e mem := sane.means e (World.mem_of_revoke mem)
  ledger := by
    intro o'
    have owned : w.owned o' = (w.release t o).owned o' + if o = o' then 1 else 0 := by
      simpa [World.owned] using World.tally_revoke (q := (· = .ref o')) held
    have kept : (w.release t o).kept o' = w.kept o' := rfl
    have ledger := sane.ledger o'
    rw [owned] at ledger
    rw [kept]
    by_cases same : o' = o
    · subst same
      simp [World.release] at ledger ⊢
      omega
    · simp [World.release, same, Ne.symm same] at ledger ⊢
      exact ledger
  alive := by
    intro o'
    by_cases same : o' = o
    · subst same
      have alive := sane.alive_of_held held
      have positive := (sane.alive o').mp alive
      simp [World.release, World.revoke, alive]
      omega
    · simpa [World.release, World.revoke, same] using sane.alive o'
  dying := by
    intro o'
    have ends : (w.release t o).ends o' = w.ends o' := by
      rw [World.ends, World.tally_release, World.tally_revoke_of_not (by simp), World.ends]
    rw [ends]
    exact sane.dying o'
  stored := sane.stored
  single := sane.single
  used := sane.used
  blank := by
    intro q
    rw [World.tally_release, World.tally_revoke_of_not (by simp)]
    exact sane.blank q
  workers := sane.workers
  calls := sane.calls
  freed := sane.freed
  fault := sane.fault

/-- The last reference goes. -/
theorem die (sane : Sane L w) (held : (t, .ref o) ∈ w.held) (last : w.count o = 1) :
    Sane L (w.die t o) := by
  have alive := sane.alive_of_held held
  have older {x : ο} (ne : w.stage x ≠ .alive) : (w.die t o).stage x = w.stage x := by
    refine Function.update_of_ne ?_ _ _
    rintro rfl
    exact ne alive
  have self : (w.die t o).stage o = .dying := Function.update_self ..
  have apart {x : ο} (ne : x ≠ o) : (w.die t o).stage x = w.stage x :=
    Function.update_of_ne ne _ _
  refine ⟨?_, ?_, ?_, ?_, ?_, sane.single, sane.used, ?_, ?_, sane.calls, ?_,
    sane.fault⟩
  · intro e mem
    rcases Multiset.mem_cons.mp mem with rfl | mem
    · trivial
    have means := sane.means e (World.mem_of_revoke mem)
    obtain ⟨t', x | r⟩ := e
    · trivial
    · cases r with
      | blank q =>
        obtain ⟨once, none, x, owner, born⟩ := means
        refine ⟨once, none, x, owner, ?_⟩
        by_cases same : x = o
        · subst same
          simp [self]
        · rwa [apart same]
      | clear q =>
        obtain ⟨none, x, owner, stage⟩ := means
        refine ⟨none, x, owner, ?_⟩
        rw [older (by rcases stage with stage | ⟨stage, -⟩ <;> simp [stage])]
        exact stage
      | points q o' =>
        obtain ⟨once, x, owner, born, points⟩ := means
        refine ⟨once, x, owner, ?_⟩
        by_cases same : x = o
        · subst same
          simp [self]
        · rw [apart same]
          exact ⟨born, points⟩
      | _ => exact means
  · intro o'
    have owned : w.owned o' = (w.die t o).owned o' + if o = o' then 1 else 0 := by
      simpa [World.owned] using World.tally_revoke (q := (· = .ref o')) held
    have kept : (w.die t o).kept o' = w.kept o' := rfl
    have ledger := sane.ledger o'
    rw [owned] at ledger
    rw [kept]
    by_cases same : o' = o
    · subst same
      simp [World.die, last] at ledger ⊢
      omega
    · simp [World.die, same, Ne.symm same] at ledger ⊢
      exact ledger
  · intro o'
    by_cases same : o' = o
    · subst same
      simp [World.die]
    · simpa [World.die, World.revoke, World.grant, same] using sane.alive o'
  · intro o'
    have ends : (w.die t o).ends o' = w.ends o' + if o = o' then 1 else 0 := by
      rw [World.ends, World.tally_die, World.tally_revoke_of_not (by simp), World.ends]
      simp
    rw [ends, sane.dying o']
    by_cases same : o' = o
    · subst same
      simp [self, alive]
    · simp [apart same, Ne.symm same]
  · intro e mem
    obtain ⟨fits, owner⟩ := sane.stored e mem
    refine ⟨fits, fun x same => ?_⟩
    by_cases new : x = o
    · subst new
      exact .inr self
    · rw [apart new]
      exact owner x same
  · intro q
    rw [World.tally_die, World.tally_revoke_of_not (by simp)]
    simpa using sane.blank q
  · intro e mem
    obtain ⟨lends, stage⟩ := sane.workers e mem
    refine ⟨lends, ?_⟩
    by_cases same : e.2 = o
    · rw [same]
      exact .inr self
    · rw [apart same]
      exact stage
  · intro o'
    have freed : (w.die t o).freed.count o' = _ := sane.freed o'
    by_cases same : o' = o
    · subst same
      simpa [self, alive] using freed
    · rw [apart same]
      exact freed

theorem drop (sane : Sane L w) (held : (t, .ref o) ∈ w.held) : Sane L (w.drop t o) := by
  unfold World.drop
  split
  · rename_i last
    exact sane.die held last
  · rename_i more
    exact sane.release held more

theorem bury (sane : Sane L w) (wf : L.WF) (held : (t, .right (L.last o)) ∈ w.held)
    (clear : ∀ q ∈ L.fields o, (t, .right (.clear q)) ∈ w.held) : Sane L (w.bury L t o) := by
  obtain ⟨dying, idle⟩ := sane.last held
  have older {x : ο} (ne : w.stage x ≠ .dying) : (w.bury L t o).stage x = w.stage x := by
    refine Function.update_of_ne ?_ _ _
    rintro rfl
    exact ne dying
  have self : (w.bury L t o).stage o = .freed := Function.update_self ..
  have apart {x : ο} (ne : x ≠ o) : (w.bury L t o).stage x = w.stage x :=
    Function.update_of_ne ne _ _
  have empty (e : π × ο) (mem : e ∈ w.stored) : L.owner e.1 ≠ some o := by
    intro owner
    have field := wf.fits e.1 o e.2 owner (sane.stored e mem).1
    exact World.at_eq_nil.mp (sane.means _ (clear e.1 field)).1 e.2 mem
  refine ⟨?_, ?_, ?_, ?_, ?_, sane.single, sane.used, ?_, ?_, sane.calls, ?_, ?_⟩
  · intro e mem
    have means := sane.means e (World.mem_of_revoke mem)
    obtain ⟨t', x | r⟩ := e
    · trivial
    · cases r with
      | blank q =>
        obtain ⟨once, none, x, owner, born⟩ := means
        refine ⟨once, none, x, owner, ?_⟩
        by_cases same : x = o
        · subst same
          simp [self]
        · rwa [apart same]
      | clear q =>
        obtain ⟨none, x, owner, stage⟩ := means
        refine ⟨none, x, owner, ?_⟩
        by_cases same : x = o
        · subst same
          exact .inl self
        · rw [apart same]
          exact stage
      | points q o' =>
        obtain ⟨once, x, owner, born, points⟩ := means
        refine ⟨once, x, owner, ?_⟩
        by_cases same : x = o
        · subst same
          simp [self]
        · rw [apart same]
          exact ⟨born, points⟩
      | _ => exact means
  · intro o'
    have owned : (w.bury L t o).owned o' = w.owned o' := by
      rw [World.owned, World.tally_bury, World.tally_revoke_of_not (by simp), World.owned]
    rw [owned]
    exact sane.ledger o'
  · intro o'
    by_cases same : o' = o
    · subst same
      have none : ¬ 0 < w.count o' := (sane.alive o').not.mp (by simp [dying])
      rw [self]
      exact iff_of_false (by simp) none
    · rw [apart same]
      exact sane.alive o'
  · intro o'
    have ends : w.ends o' = (w.bury L t o).ends o' + if o = o' then 1 else 0 := by
      rw [World.ends, World.tally_revoke held]
      unfold Layout.last
      split <;> simp [World.ends, Layout.last, *]
    have before := sane.dying o'
    rw [ends] at before
    by_cases same : o' = o
    · subst same
      rw [if_pos rfl, if_pos dying] at before
      simp [self]
      omega
    · rw [if_neg (Ne.symm same)] at before
      rw [apart same]
      exact before
  · intro e mem
    obtain ⟨fits, owner⟩ := sane.stored e mem
    refine ⟨fits, fun x same => ?_⟩
    have ne : x ≠ o := by
      rintro rfl
      exact empty e mem same
    rw [apart ne]
    exact owner x same
  · intro q
    rw [World.tally_bury, World.tally_revoke_of_not (by unfold Layout.last; split <;> simp)]
    exact sane.blank q
  · rintro ⟨t', x⟩ mem
    have ne : x ≠ o := by
      rintro rfl
      exact idle t' mem
    rw [apart ne]
    exact sane.workers _ mem
  · intro o'
    have before : w.freed.count o' = _ := sane.freed o'
    have after : (w.bury L t o).freed.count o' = w.freed.count o' + if o = o' then 1 else 0 := by
      rw [World.bury, List.count_append, List.count_singleton]
      simp only [beq_iff_eq]
    rw [after, before]
    by_cases same : o' = o
    · subst same
      simp [self, dying]
    · simp [apart same, Ne.symm same]
  · have no : (w.stored.any fun e => L.owner e.1 == some o) = false := by
      rw [List.any_eq_false]
      intro e mem
      simpa using empty e mem
    have nobody : w.working o = false := by
      rw [World.working, List.any_eq_false]
      rintro ⟨t', x⟩ mem same
      obtain rfl := eq_of_beq same
      exact idle t' mem
    simp [World.bury, no, nobody, dying, sane.fault]

theorem join (sane : Sane L w) (held : (t, .right (.dying o)) ∈ w.held)
    (idle : w.working o = false) :
    Sane L ((w.revoke t (.right (.dying o))).grant t (.right (.sole o))) where
  means := by
    intro e mem
    rcases Multiset.mem_cons.mp mem with rfl | mem
    · intro t' worker
      rw [World.working, List.any_eq_false] at idle
      exact idle _ worker (beq_self_eq_true o)
    · exact sane.means e (World.mem_of_revoke mem)
  ledger := by
    intro o'
    have owned : ((w.revoke t (.right (.dying o))).grant t (.right (.sole o))).owned o' =
        w.owned o' := by
      rw [World.owned, World.tally_grant, World.tally_revoke_of_not (by simp), World.owned]
      simp
    rw [owned]
    exact sane.ledger o'
  alive := sane.alive
  dying := by
    intro o'
    have ends : ((w.revoke t (.right (.dying o))).grant t (.right (.sole o))).ends o' =
        w.ends o' := by
      rw [World.ends, World.tally_grant, World.ends, World.tally_revoke held]
      simp
    rw [ends]
    exact sane.dying o'
  stored := sane.stored
  single := sane.single
  used := sane.used
  blank := by
    intro q
    rw [World.tally_grant, World.tally_revoke_of_not (by simp), if_neg (by simp)]
    exact sane.blank q
  workers := sane.workers
  calls := sane.calls
  freed := sane.freed
  fault := sane.fault

/-- The programs of threads say nothing about references. -/
theorem run {prog : Prog ο π ι Bool} {role : Role ο} (sane : Sane L w) :
    Sane L (w.run t prog role) :=
  ⟨sane.means, sane.ledger, sane.alive, sane.dying, sane.stored, sane.single, sane.used,
    sane.blank, sane.workers, sane.calls, sane.freed, sane.fault⟩

variable {κ : Type} {S : System ο π ι κ}

theorem spawn (sane : Sane S.toLayout w) (alive : w.stage o = .alive) (lends : S.lends o = true) :
    Sane S.toLayout (w.spawn S o t) := by
  have means (e : Nat × Token ο π ι) (mem : e ∈ w.held) :
      S.Means (w.spawn S o t) e.1 e.2 := by
    have means := sane.means e mem
    obtain ⟨t', x | r⟩ := e
    · trivial
    · cases r with
      | loan x => exact List.mem_cons_of_mem _ means
      | sole x =>
        intro t'' worker
        rcases List.mem_cons.mp worker with same | worker
        · obtain ⟨-, rfl⟩ := Prod.mk.inj same
          have := sane.stage_of_sole mem
          simp [alive] at this
        · exact means t'' worker
      | clear q =>
        obtain ⟨none, x, owner, stage⟩ := means
        refine ⟨none, x, owner, stage.imp_right fun ⟨dying, nobody⟩ => ⟨dying, fun t'' worker => ?_⟩⟩
        rcases List.mem_cons.mp worker with same | worker
        · obtain ⟨-, rfl⟩ := Prod.mk.inj same
          simp [alive] at dying
        · exact nobody t'' worker
      | _ => exact means
  have tally (q : Token ο π ι → Prop) [DecidablePred q] : (w.spawn S o t).tally q =
      w.tally q + if q (.right (.loan o)) then 1 else 0 := World.tally_grant
  refine ⟨?_, ?_, sane.alive, ?_, sane.stored, sane.single, sane.used, ?_, ?_, sane.calls,
    sane.freed, sane.fault⟩
  · intro e mem
    rcases Multiset.mem_cons.mp mem with rfl | mem
    · exact List.mem_cons_self
    · exact means e mem
  · intro o'
    rw [World.owned, tally]
    exact sane.ledger o'
  · intro o'
    rw [World.ends, tally, if_neg (by simp)]
    exact sane.dying o'
  · intro q
    rw [tally, if_neg (by simp)]
    exact sane.blank q
  · intro e mem
    rcases List.mem_cons.mp mem with rfl | mem
    · exact ⟨lends, .inl alive⟩
    · exact sane.workers e mem

end Sane
end References


