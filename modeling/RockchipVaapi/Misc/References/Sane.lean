import RockchipVaapi.Misc.References.World

/-!
# The references of a world

Every reference is in one place or in one hand, an object is alive for as long as there are
references to it, and what a thread has the right to is so. One lemma for each change of a world.
-/

set_option linter.unusedSectionVars false

namespace References

variable {ο π ι : Type} [DecidableEq ο] [DecidableEq π] [DecidableEq ι]

namespace World

variable (w : World ο π ι)

/-- How many tokens of a kind are in the hands of threads. -/
def tally (q : Token ο π ι → Prop) [DecidablePred q] : Nat := w.held.countP fun e => q e.2

/-- The references to an object in the hands of threads. -/
def owned (o : ο) : Nat := w.tally (· = .ref o)

/-- The references to an object in places. -/
def kept (o : ο) : Nat := w.stored.countP fun e => e.2 = o

/-- The rights to destroy an object. -/
def ends (o : ο) : Nat := w.tally fun x => x = .right (.dying o) ∨ x = .right (.sole o)

/-- What a thread has in its hands. -/
def hand (t : Nat) : Multiset (Token ο π ι) := (w.held.filter fun e => e.1 = t).map Prod.snd

end World

/-- What a right means for the world. -/
def Layout.Means (L : Layout ο π ι) (w : World ο π ι) (t : Nat) : Token ο π ι → Prop
  | .right .license => t ∈ w.calls
  | .right .closing => w.closer = some t
  | .right (.sole o) => ∀ t', (t', o) ∉ w.workers
  | .right (.loan o) => (t, o) ∈ w.workers
  | .right (.blank p) =>
    L.shape p = .once ∧ w.at_ p = [] ∧ ∃ o, L.owner p = some o ∧ w.stage o ≠ .unborn
  | .right (.clear p) => w.at_ p = [] ∧ ∃ o, L.owner p = some o ∧
      (w.stage o = .freed ∨ w.stage o = .dying ∧ ∀ t', (t', o) ∉ w.workers)
  | .right (.points q o) => L.shape q = .once ∧
      ∃ r, L.owner q = some r ∧ w.stage r ≠ .unborn ∧ (w.stage r = .alive → (q, o) ∈ w.stored)
  | .right (.bound p o) => L.shape p = .entry ∧ p ∈ w.used ∧ ∀ x, (p, x) ∈ w.stored → x = o
  | .right (.finished i) => w.closer ≠ none ∧ ∀ e ∈ w.stored, L.table e.1 ≠ some i
  | _ => True

structure Sane (L : Layout ο π ι) (w : World ο π ι) : Prop where
  means : ∀ e ∈ w.held, L.Means w e.1 e.2
  ledger : ∀ o, w.count o = w.owned o + w.kept o
  alive : ∀ o, w.stage o = .alive ↔ 0 < w.count o
  dying : ∀ o, w.ends o = if w.stage o = .dying then 1 else 0
  stored : ∀ e ∈ w.stored, L.fits e.1 e.2 = true ∧
    ∀ o, L.owner e.1 = some o → w.stage o = .alive ∨ w.stage o = .dying
  single : ∀ p, L.shape p ≠ .queue → (w.at_ p).length ≤ 1
  used : ∀ e ∈ w.stored, L.shape e.1 = .entry → e.1 ∈ w.used
  blank : ∀ p, w.tally (· = .right (.blank p)) ≤ 1
  workers : ∀ e ∈ w.workers,
    L.lends e.2 = true ∧ (w.stage e.2 = .alive ∨ w.stage e.2 = .dying)
  calls : w.closer ≠ none → w.calls = []
  freed : ∀ o, w.freed.count o = if w.stage o = .freed then 1 else 0
  fault : w.fault = false

theorem Layout.mem_blanks {L : Layout ο π ι} {o : ο} {x : Token ο π ι} :
    x ∈ L.blanks o ↔ ∃ p ∈ L.fields o, L.shape p = .once ∧ x = .right (.blank p) := by
  simp only [Layout.blanks, Multiset.mem_coe, List.mem_map, List.mem_filter, beq_iff_eq, and_assoc]
  exact exists_congr fun p => and_congr_right fun _ => and_congr_right fun _ => eq_comm

namespace World

variable {w : World ο π ι} {t : Nat} {p : π} {o : ο} {x : Token ο π ι}

theorem mem_at_ : o ∈ w.at_ p ↔ (p, o) ∈ w.stored := by
  simp only [at_, List.mem_map, List.mem_filter, beq_iff_eq]
  constructor
  · rintro ⟨⟨q, y⟩, ⟨mem, rfl⟩, rfl⟩
    exact mem
  · intro mem
    exact ⟨(p, o), ⟨mem, rfl⟩, rfl⟩

theorem at_eq_nil : w.at_ p = [] ↔ ∀ o, (p, o) ∉ w.stored := by
  rw [List.eq_nil_iff_forall_not_mem]
  exact forall_congr' fun o => not_congr mem_at_

theorem mem_hand : x ∈ w.hand t ↔ (t, x) ∈ w.held := by
  simp only [hand, Multiset.mem_map, Multiset.mem_filter]
  constructor
  · rintro ⟨⟨t', y⟩, ⟨mem, rfl⟩, rfl⟩
    exact mem
  · intro mem
    exact ⟨(t, x), ⟨mem, rfl⟩, rfl⟩

theorem hand_cons (t' : Nat) (s : Multiset (Nat × Token ο π ι)) :
    ((((t', x) ::ₘ s).filter fun e => e.1 = t).map Prod.snd) =
      (if t' = t then {x} else 0) + (s.filter fun e => e.1 = t).map Prod.snd := by
  by_cases same : t' = t <;> simp [same]

@[simp] theorem hand_grant : (w.grant t x).hand t = x ::ₘ w.hand t := by
  rw [hand, grant, hand_cons, if_pos rfl, Multiset.singleton_add, hand]

@[simp] theorem hand_grant_of_ne {t' : Nat} (ne : t' ≠ t) :
    (w.grant t x).hand t' = w.hand t' := by
  rw [hand, grant, hand_cons, if_neg ne.symm, zero_add, hand]

@[simp] theorem tally_grant {q : Token ο π ι → Prop} [DecidablePred q] :
    (w.grant t x).tally q = w.tally q + if q x then 1 else 0 :=
  Multiset.countP_cons _ _ _

@[simp] theorem tally_copy {q : Token ο π ι → Prop} [DecidablePred q] :
    (w.copy t o).tally q = w.tally q + if q (.ref o) then 1 else 0 :=
  tally_grant

@[simp] theorem tally_lift {q : Token ο π ι → Prop} [DecidablePred q] :
    (w.lift t p o).tally q = w.tally q + if q (.ref o) then 1 else 0 :=
  tally_grant

@[simp] theorem tally_put {q : Token ο π ι → Prop} [DecidablePred q] :
    (w.put t p o).tally q = (w.revoke t (.ref o)).tally q :=
  rfl

@[simp] theorem tally_release {q : Token ο π ι → Prop} [DecidablePred q] :
    (w.release t o).tally q = (w.revoke t (.ref o)).tally q :=
  rfl

@[simp] theorem tally_die {q : Token ο π ι → Prop} [DecidablePred q] :
    (w.die t o).tally q =
      (w.revoke t (.ref o)).tally q + if q (.right (.dying o)) then 1 else 0 :=
  tally_grant

@[simp] theorem tally_bury {L : Layout ο π ι} {q : Token ο π ι → Prop} [DecidablePred q] :
    (w.bury L t o).tally q = (w.revoke t (.right (L.last o))).tally q :=
  rfl

theorem tally_birth {L : Layout ο π ι} {q : Token ο π ι → Prop} [DecidablePred q] :
    (w.birth L t o).tally q =
      w.tally q + ((if q (.ref o) then 1 else 0) + (L.blanks o).countP q) := by
  rw [tally, birth, Multiset.countP_add, Multiset.countP_cons, Multiset.countP_map,
    ← Multiset.countP_eq_card_filter, add_comm]
  exact congrArg _ (Nat.add_comm _ _)

theorem tally_pos {q : Token ο π ι → Prop} [DecidablePred q] (mem : (t, x) ∈ w.held)
    (holds : q x) : 0 < w.tally q :=
  Multiset.countP_pos.mpr ⟨_, mem, holds⟩

theorem exists_of_tally {q : Token ο π ι → Prop} [DecidablePred q] (pos : 0 < w.tally q) :
    ∃ t x, (t, x) ∈ w.held ∧ q x := by
  obtain ⟨⟨t, x⟩, mem, holds⟩ := Multiset.countP_pos.mp pos
  exact ⟨t, x, mem, holds⟩

theorem held_eq (mem : (t, x) ∈ w.held) : w.held = (t, x) ::ₘ (w.revoke t x).held :=
  (Multiset.cons_erase mem).symm

theorem tally_revoke {q : Token ο π ι → Prop} [DecidablePred q] (mem : (t, x) ∈ w.held) :
    w.tally q = (w.revoke t x).tally q + if q x then 1 else 0 := by
  rw [tally, held_eq mem]
  exact Multiset.countP_cons _ _ _

theorem tally_revoke_of_not {q : Token ο π ι → Prop} [DecidablePred q] (other : ¬ q x) :
    (w.revoke t x).tally q = w.tally q := by
  by_cases mem : (t, x) ∈ w.held
  · rw [tally_revoke mem, if_neg other, add_zero]
  · rw [tally, tally, revoke, Multiset.erase_of_notMem mem]

theorem mem_of_revoke {e : Nat × Token ο π ι} (mem : e ∈ (w.revoke t x).held) : e ∈ w.held :=
  Multiset.mem_of_mem_erase mem

theorem hand_revoke {h : Multiset (Token ο π ι)} (hand : w.hand t = x ::ₘ h) :
    (w.revoke t x).hand t = h := by
  have mem : (t, x) ∈ w.held := by
    rw [← mem_hand, hand]
    exact Multiset.mem_cons_self x h
  rw [World.hand, held_eq mem, hand_cons, if_pos rfl, Multiset.singleton_add] at hand
  exact (Multiset.cons_inj_right x).mp hand

@[simp] theorem hand_revoke_of_ne {t' : Nat} (ne : t' ≠ t) :
    (w.revoke t x).hand t' = w.hand t' := by
  by_cases mem : (t, x) ∈ w.held
  · rw [hand, hand, held_eq mem, hand_cons, if_neg ne.symm, zero_add]
  · rw [hand, revoke, Multiset.erase_of_notMem mem, hand]

end World

namespace Sane

variable {L : Layout ο π ι} {w : World ο π ι} {t : Nat} {p : π} {o : ο}

theorem alive_of_held (sane : Sane L w) (held : (t, .ref o) ∈ w.held) : w.stage o = .alive := by
  have owned : 0 < w.owned o := World.tally_pos held rfl
  rw [sane.alive, sane.ledger]
  exact Nat.add_pos_left owned _

theorem alive_of_stored (sane : Sane L w) (stored : (p, o) ∈ w.stored) : w.stage o = .alive := by
  have kept : 0 < w.kept o := List.countP_pos_iff.mpr ⟨_, stored, by simp⟩
  rw [sane.alive, sane.ledger]
  exact Nat.add_pos_right _ kept

theorem stage_of_ends (sane : Sane L w) (ends : 0 < w.ends o) : w.stage o = .dying := by
  rw [sane.dying] at ends
  by_contra other
  rw [if_neg other] at ends
  exact lt_irrefl 0 ends

theorem stage_of_dying (sane : Sane L w) (held : (t, .right (.dying o)) ∈ w.held) :
    w.stage o = .dying :=
  sane.stage_of_ends (World.tally_pos held (.inl rfl))

theorem stage_of_sole (sane : Sane L w) (held : (t, .right (.sole o)) ∈ w.held) :
    w.stage o = .dying :=
  sane.stage_of_ends (World.tally_pos held (.inr rfl))

/-- The last thread of an object. -/
theorem last (sane : Sane L w) (held : (t, .right (L.last o)) ∈ w.held) :
    w.stage o = .dying ∧ ∀ t', (t', o) ∉ w.workers := by
  unfold Layout.last at held
  split at held
  · exact ⟨sane.stage_of_sole held, sane.means _ held⟩
  · rename_i lends
    exact ⟨sane.stage_of_dying held, fun t' mem => lends (sane.workers _ mem).1⟩

/-- An object is alive that something in a thread's hands keeps alive. -/
theorem alive_of_alive (sane : Sane L w) (alive : L.Alive (w.hand t) o) :
    w.stage o = .alive := by
  rcases alive with held | ⟨q, r, known, owner, held⟩
  · exact sane.alive_of_held (World.mem_hand.mp held)
  · obtain ⟨-, r', owner', -, points⟩ := sane.means _ (World.mem_hand.mp known)
    obtain rfl := Option.some.inj (owner.symm.trans owner')
    exact sane.alive_of_stored (points (sane.alive_of_held (World.mem_hand.mp held)))

/-- The owner of a place that a thread may look into. -/
theorem stage_of_reaches (sane : Sane L w) (reaches : L.Reaches (w.hand t) p)
    (owner : L.owner p = some o) :
    w.stage o = .alive ∨ w.stage o = .dying ∧ (t, o) ∈ w.workers := by
  rcases reaches o owner with alive | loan
  · exact .inl (sane.alive_of_alive alive)
  · have worker : (t, o) ∈ w.workers := sane.means _ (World.mem_hand.mp loan)
    rcases (sane.workers _ worker).2 with alive | dying
    · exact .inl alive
    · exact .inr ⟨dying, worker⟩

theorem visit_eq (stage : ∀ o, L.owner p = some o → w.stage o = .alive ∨ w.stage o = .dying) :
    w.visit L p = w := by
  have none : ((L.owner p).any fun o => w.stage o == .unborn || w.stage o == .freed) = false := by
    cases owner : L.owner p with
    | none => rfl
    | some o => rcases stage o owner with stage | stage <;> simp [stage]
  unfold World.visit
  rw [none, Bool.or_false]

theorem touch_eq (alive : w.stage o = .alive) : w.touch o = w := by
  unfold World.touch
  rw [alive]
  simp

end Sane

end References
