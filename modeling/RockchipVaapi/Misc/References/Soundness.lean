import RockchipVaapi.Misc.References.Effects
import RockchipVaapi.Misc.Transition

/-!
# Systems of programs that keep their references in balance

Where every program of a system meets its weakest precondition, no run of its threads, in whatever
order their operations come, uses an object that is gone or loses a reference; and when the last
call has come to its end, so have all threads, and every object was freed once.
-/

set_option linter.unusedSectionVars false

namespace References
open Transition

variable {ο π ι κ : Type} [DecidableEq ο] [DecidableEq π] [DecidableEq ι]

namespace System

variable (S : System ο π ι κ)

/-- The objects that a thread may get hold of have a smaller rank. -/
def bound : Role ο → Nat
  | .worker o => S.rank o
  | _ => S.top

/-- What a thread has in its hands at the end of its program. -/
def post : Role ο → Bool → Multiset (Token ο π ι) → Prop
  | .call, _, h => h = {.right .license}
  | .worker o, _, h => h = {.right (.loan o)}
  | .closer, _, h =>
    h = .right .closing ::ₘ Multiset.ofList (S.tables.map fun i => .right (.finished i))

structure Balanced : Prop where
  wf : S.WF
  destroy : ∀ o, S.wp (S.rank o) (S.destroy o) (fun _ h => h = 0) {.right (.dying o)}
  work : ∀ o, S.lends o = true →
    S.wp (S.rank o) (S.work o) (fun _ h => h = {.right (.loan o)}) {.right (.loan o)}
  entry : ∀ c, S.wp S.top (S.entry c) (fun _ h => h = {.right .license}) {.right .license}
  close : S.wp S.top S.close (fun _ => S.post .closer true) {.right .closing}
  tables : ∀ p i, S.table p = some i → i ∈ S.tables

end System

/-- What holds between the operations of a balanced system. -/
structure Sound (S : System ο π ι κ) (w : World ο π ι) : Prop where
  sane : Sane S.toLayout w
  idle : ∀ t, w.threads t = none → ∀ x ∈ w.hand t, x.Spent
  busy : ∀ t th, w.threads t = some th →
    S.wp (S.bound th.role) th.prog (S.post th.role) (w.hand t)
  small : ∀ t th, w.threads t = some th → ∀ x ∈ w.hand t, ∀ o ∈ x.burden,
    S.rank o < S.bound th.role
  calls : ∀ t, t ∈ w.calls ↔ ∃ prog, w.threads t = some ⟨prog, .call⟩
  workers : ∀ t o, (t, o) ∈ w.workers ↔ ∃ prog, w.threads t = some ⟨prog, .worker o⟩
  closer : ∀ t prog, w.threads t = some ⟨prog, .closer⟩ → w.closer = some t
  closed : w.closer ≠ none → (∃ t prog, w.threads t = some ⟨prog, .closer⟩) ∨
    ∀ i ∈ S.tables, ∃ t, (t, .right (.finished i)) ∈ w.held

section

variable {S : System ο π ι κ} {w : World ο π ι} {t n : Nat} {h h₀ : Multiset (Token ο π ι)}

/-- What a thread gets hold of has a smaller rank than its bound. -/
theorem small_of_fine {op : Op ο π ι} {r : op.Answer} (fine : S.Fine n h op)
    (expects : S.Expects h op r) (same : h = S.takes op + h₀)
    (small : ∀ x ∈ h, ∀ o ∈ x.burden, S.rank o < n) :
    ∀ x ∈ extra w op + (S.gives op r + h₀), ∀ o ∈ x.burden, S.rank o < n := by
  have old (x : Token ο π ι) (mem : x ∈ S.takes op + h₀) : ∀ o ∈ x.burden, S.rank o < n :=
    small x (same ▸ mem)
  have kept (x : Token ο π ι) (mem : x ∈ h₀) := old x (Multiset.mem_add.mpr (.inr mem))
  have taken (x : Token ο π ι) (mem : x ∈ S.takes op) := old x (Multiset.mem_add.mpr (.inl mem))
  have new (o : ο) (rank : S.rank o < n) (x : Token ο π ι) (mem : x ∈ ({.ref o} : Multiset _)) :
      ∀ o ∈ x.burden, S.rank o < n := by
    rw [Multiset.mem_singleton.mp mem]
    rintro _ ⟨⟩
    exact rank
  have all (os : List ο) (rank : ∀ o ∈ os, S.rank o < n) (x : Token ο π ι) (mem : x ∈ refs os) :
      ∀ o ∈ x.burden, S.rank o < n := by
    obtain ⟨o, among, rfl⟩ := List.mem_map.mp (Multiset.mem_coe.mp mem)
    rintro _ ⟨⟩
    exact rank o among
  intro x mem
  rcases Multiset.mem_add.mp mem with left | mem
  · cases op with
    | unref o =>
      by_cases last : w.count o = 1
      · rw [extra, if_pos last] at left
        obtain rfl := Multiset.mem_singleton.mp left
        exact taken (.ref o) (Multiset.mem_singleton_self _)
      · rw [extra, if_neg last] at left
        cases Multiset.notMem_zero x left
    | _ => cases Multiset.notMem_zero x left
  rcases Multiset.mem_add.mp mem with given | mem
  · cases op with
    | new sort =>
      cases r with
      | none => cases Multiset.notMem_zero x given
      | some o =>
        have given : x ∈ .ref o ::ₘ S.blanks o := given
        rcases Multiset.mem_cons.mp given with rfl | blank
        · exact new o (fine o (expects o rfl)) _ (Multiset.mem_singleton_self _)
        · obtain ⟨q, -, -, rfl⟩ := Layout.mem_blanks.mp blank
          simp [Token.burden]
    | ref o =>
      cases r with
      | false => cases Multiset.notMem_zero x given
      | true => exact new o fine.2 x given
    | load p =>
      cases r with
      | none => cases Multiset.notMem_zero x given
      | some o => exact new o (fine.2.2 o (expects o rfl).1) x given
    | swap p o' =>
      cases r with
      | none => cases Multiset.notMem_zero x given
      | some o => exact new o (fine.2.2.2 o (expects o rfl)) x given
    | pull p =>
      cases r with
      | none => cases Multiset.notMem_zero x given
      | some o => exact new o (fine.2.2 o (expects o rfl)) x given
    | offer p o =>
      cases r with
      | true => cases Multiset.notMem_zero x given
      | false => exact taken x given
    | reclaim p o =>
      cases r with
      | false => cases Multiset.notMem_zero x given
      | true => exact new o (fine.2.2 o expects.2) x given
    | set p o =>
      obtain rfl := Multiset.mem_singleton.mp given
      simp [Token.burden]
    | peek p =>
      cases r with
      | none => cases Multiset.notMem_zero x given
      | some o =>
        obtain rfl := Multiset.mem_singleton.mp given
        simp [Token.burden]
    | grab p => exact all r (fun o among => fine.2.2 o (expects o among)) x given
    | drain p =>
      obtain ⟨y, owner⟩ := Option.isSome_iff_exists.mp fine.1
      simp only [Layout.gives, owner] at given
      simp only [Layout.takes, owner] at taken
      rcases Multiset.mem_cons.mp given with rfl | given
      · exact taken _ (Multiset.mem_singleton_self _)
      rcases Multiset.mem_cons.mp given with rfl | given
      · simp [Token.burden]
      · exact all r (fun o among => fine.2 o (expects o among)) x given
    | publish i o =>
      cases r with
      | none => exact taken x given
      | some p =>
        have : x = .right .license ∨ x = .right (.bound p o) := by
          simpa [Layout.gives] using given
        rcases this with rfl | rfl <;> simp [Token.burden]
    | finish i =>
      have given : x ∈ .right .closing ::ₘ .right (.finished i) ::ₘ refs r := given
      rcases Multiset.mem_cons.mp given with rfl | given
      · simp [Token.burden]
      rcases Multiset.mem_cons.mp given with rfl | given
      · simp [Token.burden]
      · refine all r (fun o among => ?_) x given
        obtain ⟨p, table, fits⟩ := expects o among
        exact fine p table o fits
    | join o =>
      obtain rfl := Multiset.mem_singleton.mp given
      exact taken (.right (.dying o)) (Multiset.mem_singleton_self _)
    | _ => cases Multiset.notMem_zero x given
  · exact kept x mem

/-- Nobody gives up the knowledge that a table is empty for good. -/
theorem finished_kept {op : Op ο π ι} {i : ι} (same : h = S.takes op + h₀)
    (known : .right (.finished i) ∈ h) : .right (.finished i) ∈ h₀ := by
  rw [same] at known
  refine (Multiset.mem_add.mp known).resolve_left fun taken => ?_
  cases op with
  | swap p o => cases o <;> simp [Layout.takes] at taken
  | drain p =>
    simp only [Layout.takes] at taken
    split at taken
    · unfold Layout.last at taken
      split at taken <;> simp at taken
    · simp at taken
  | free o =>
    simp only [Layout.takes, Layout.last] at taken
    split at taken <;> simp at taken
  | _ => simp [Layout.takes] at taken

/-- The program behind an operation fits what the operation left. -/
theorem wp_rest (balanced : S.Balanced) {op : Op ο π ι} {k : op.Answer → Prog ο π ι Bool}
    {r : op.Answer} {Q : Bool → Multiset (Token ο π ι) → Prop} (fine : S.Fine n h op)
    (later : S.wp n (k r) Q (S.gives op r + h₀)) :
    S.wp n (rest S w op k r) Q (extra w op + (S.gives op r + h₀)) := by
  have nothing (other : extra w op = 0) (same : rest S w op k r = k r) :
      S.wp n (rest S w op k r) Q (extra w op + (S.gives op r + h₀)) := by
    rw [other, zero_add, same]
    exact later
  cases op with
  | unref o =>
    by_cases last : w.count o = 1
    · rw [rest, extra, if_pos last, if_pos last]
      have destroyed := Layout.wp_bound (show S.rank o ≤ n from fine) (balanced.destroy o)
      refine Layout.wp_bind (Layout.wp_mono ?_ (Layout.wp_frame _ destroyed))
      rintro _ h' ⟨h₁, rfl, rfl⟩
      rw [zero_add]
      exact later
    · exact nothing (if_neg last) (if_neg last)
  | _ => exact nothing rfl rfl

theorem hand_run {prog : Prog ο π ι Bool} {role : Role ο} (t' : Nat) :
    (w.run t prog role).hand t' = w.hand t' := rfl

namespace Sound

/-- A step that concerns one thread. -/
theorem update (sound : Sound S w) {w' : World ο π ι} {new : Option (Thread ο π ι)}
    (sane : Sane S.toLayout w') (others : ∀ t', t' ≠ t → w'.hand t' = w.hand t')
    (threads : w'.threads = Function.update w.threads t new)
    (idle : new = none → ∀ x ∈ w'.hand t, x.Spent)
    (busy : ∀ th, new = some th → S.wp (S.bound th.role) th.prog (S.post th.role) (w'.hand t))
    (small : ∀ th, new = some th → ∀ x ∈ w'.hand t, ∀ o ∈ x.burden, S.rank o < S.bound th.role)
    (calls : ∀ t, t ∈ w'.calls ↔ ∃ prog, w'.threads t = some ⟨prog, .call⟩)
    (workers : ∀ t o, (t, o) ∈ w'.workers ↔ ∃ prog, w'.threads t = some ⟨prog, .worker o⟩)
    (closer : ∀ t prog, w'.threads t = some ⟨prog, .closer⟩ → w'.closer = some t)
    (closed : w'.closer ≠ none → (∃ t prog, w'.threads t = some ⟨prog, .closer⟩) ∨
      ∀ i ∈ S.tables, ∃ t, (t, .right (.finished i)) ∈ w'.held) : Sound S w' := by
  have self : w'.threads t = new := by rw [threads, Function.update_self]
  have apart (t' : Nat) (ne : t' ≠ t) : w'.threads t' = w.threads t' := by
    rw [threads, Function.update_of_ne ne]
  refine ⟨sane, ?_, ?_, ?_, calls, workers, closer, closed⟩
  · intro t' none
    by_cases here : t' = t
    · subst here
      exact idle (self.symm.trans none)
    · rw [others t' here]
      exact sound.idle t' ((apart t' here).symm.trans none)
  · intro t' th running
    by_cases here : t' = t
    · subst here
      exact busy th (self.symm.trans running)
    · rw [others t' here]
      exact sound.busy t' th ((apart t' here).symm.trans running)
  · intro t' th running
    by_cases here : t' = t
    · subst here
      exact small th (self.symm.trans running)
    · rw [others t' here]
      exact sound.small t' th ((apart t' here).symm.trans running)

/-- The roles of threads when one of them goes on with another program. -/
theorem roles_update {p q : Prog ο π ι Bool} {role : Role ο}
    (running : w.threads t = some ⟨p, role⟩) (t' : Nat) (role' : Role ο) :
    (∃ prog, Function.update w.threads t (some ⟨q, role⟩) t' = some ⟨prog, role'⟩) ↔
      ∃ prog, w.threads t' = some ⟨prog, role'⟩ := by
  by_cases here : t' = t
  · subst here
    simp [running]
  · simp [here]

theorem roles_start (q : Prog ο π ι Bool) (role : Role ο) (free : w.threads t = none) (t' : Nat)
    (role' : Role ο) :
    (∃ prog, Function.update w.threads t (some ⟨q, role⟩) t' = some ⟨prog, role'⟩) ↔
      (t' = t ∧ role' = role) ∨ ∃ prog, w.threads t' = some ⟨prog, role'⟩ := by
  by_cases here : t' = t
  · subst here
    simp [free, eq_comm]
  · simp [here]

theorem roles_end (t' : Nat) (role' : Role ο) :
    (∃ prog, Function.update w.threads t none t' = some ⟨prog, role'⟩) ↔
      t' ≠ t ∧ ∃ prog, w.threads t' = some ⟨prog, role'⟩ := by
  by_cases here : t' = t
  · subst here
    simp
  · simp [here]

/-- The program of a thread goes on after an operation, in the same role. -/
theorem act (sound : Sound S w) (balanced : S.Balanced) {op : Op ο π ι}
    {k : op.Answer → Prog ο π ι Bool} {role : Role ο}
    (running : w.threads t = some ⟨.op op k, role⟩) (starts : ∀ o, op ≠ .lend o)
    (found : ∀ p o, op = .reclaim p o → (p, o) ∈ w.stored) {r : op.Answer} {w' : World ο π ι}
    {choice : Choice ο π} (happens : effect S w t op choice = some (r, w')) :
    Sound S (w'.run t (rest S w op k r) role) := by
  obtain ⟨fine, h₀, same, later⟩ := sound.busy t _ running
  have small := sound.small t _ running
  have eff := effect_spec sound.sane balanced.wf starts found fine same happens
  have threads : (w'.run t (rest S w op k r) role).threads =
      Function.update w.threads t (some ⟨rest S w op k r, role⟩) := by
    rw [← eff.rest.threads]
    rfl
  refine sound.update eff.sane.run eff.rest.others threads (fun none => nomatch none) ?_ ?_ ?_ ?_
    ?_ ?_
  · rintro _ ⟨⟩
    rw [hand_run, eff.hand]
    exact wp_rest balanced fine (later r eff.expects)
  · rintro _ ⟨⟩
    rw [hand_run, eff.hand]
    exact small_of_fine fine eff.expects same small
  · show ∀ t', t' ∈ w'.calls ↔ _
    simp only [eff.rest.calls, threads, roles_update running]
    exact sound.calls
  · show ∀ t' o, (t', o) ∈ w'.workers ↔ _
    simp only [eff.rest.workers, threads, roles_update running]
    exact sound.workers
  · intro t' prog busy
    rw [threads] at busy
    show w'.closer = some t'
    rw [eff.rest.closer]
    obtain ⟨prog', before⟩ := (roles_update running t' .closer).mp ⟨prog, busy⟩
    exact sound.closer t' prog' before
  · intro closed
    have closed : w.closer ≠ none := eff.rest.closer ▸ closed
    rw [threads]
    rcases sound.closed closed with ⟨t', closing⟩ | finished
    · exact .inl ⟨t', (roles_update running t' .closer).mpr closing⟩
    · refine .inr fun i mem => ?_
      obtain ⟨t', held⟩ := finished i mem
      refine ⟨t', World.mem_hand.mp ?_⟩
      by_cases here : t' = t
      · subst here
        rw [hand_run, eff.hand]
        exact Multiset.mem_add.mpr (.inr (Multiset.mem_add.mpr
          (.inr (finished_kept same (World.mem_hand.mpr held)))))
      · rw [hand_run, eff.rest.others t' here]
        exact World.mem_hand.mpr held

/-- A thread goes on with another program for which it has what it takes. -/
theorem goOn (sound : Sound S w) {p q : Prog ο π ι Bool} {role : Role ο}
    (running : w.threads t = some ⟨p, role⟩)
    (holds : S.wp (S.bound role) q (S.post role) (w.hand t)) : Sound S (w.run t q role) := by
  have small := sound.small t _ running
  refine sound.update sound.sane.run (fun _ _ => rfl) rfl (fun none => nomatch none) ?_ ?_ ?_ ?_ ?_
    ?_
  · rintro _ ⟨⟩
    exact holds
  · rintro _ ⟨⟩
    exact small
  · intro t'
    exact (sound.calls t').trans (roles_update running t' .call).symm
  · intro t' o
    exact (sound.workers t' o).trans (roles_update running t' (.worker o)).symm
  · intro t' prog busy
    obtain ⟨prog', before⟩ := (roles_update running t' .closer).mp ⟨prog, busy⟩
    exact sound.closer t' prog' before
  · intro closed
    refine (sound.closed closed).imp_left ?_
    rintro ⟨t', closing⟩
    exact ⟨t', (roles_update running t' .closer).mpr closing⟩

/-- A new thread that works on an object. -/
theorem spawn (sound : Sound S w) (balanced : S.Balanced) {o : ο} (alive : w.stage o = .alive)
    (lends : S.lends o = true) (free : w.threads t = none) : Sound S (w.spawn S o t) := by
  have spent := sound.idle t free
  have hand : (w.spawn S o t).hand t = {.right (.loan o)} + w.hand t :=
    World.hand_grant.trans (Multiset.singleton_add _ _).symm
  have roles := roles_start (S.work o) (.worker o) free
  refine sound.update (sound.sane.spawn alive lends) (fun _ ne => World.hand_grant_of_ne ne) rfl
    (fun none => nomatch none) ?_ ?_ ?_ ?_ ?_ ?_
  · rintro _ ⟨⟩
    rw [hand]
    exact Layout.wp_spare spent (balanced.work o lends)
  · rintro _ ⟨⟩ x mem
    rw [hand] at mem
    rcases Multiset.mem_add.mp mem with mem | mem
    · rw [Multiset.mem_singleton.mp mem]
      simp [Token.burden]
    · have := spent x mem
      unfold Token.Spent at this
      unfold Token.burden
      split at this <;> simp at *
  · intro t'
    exact (sound.calls t').trans ((roles t' .call).trans (by simp)).symm
  · intro t' o'
    refine Iff.trans ?_ (roles t' (.worker o')).symm
    rw [← sound.workers t' o']
    show (t', o') ∈ (t, o) :: w.workers ↔ _
    simp
  · intro t' prog busy
    rcases (roles t' .closer).mp ⟨prog, busy⟩ with ⟨-, other⟩ | ⟨prog', before⟩
    · cases other
    · exact sound.closer t' prog' before
  · intro closed
    rcases sound.closed closed with ⟨t', closing⟩ | finished
    · exact .inl ⟨t', (roles t' .closer).mpr (.inr closing)⟩
    · refine .inr fun i mem => ?_
      obtain ⟨t', held⟩ := finished i mem
      exact ⟨t', Multiset.mem_cons_of_mem held⟩

/-- A thread is started that works on an object. -/
theorem lend (sound : Sound S w) (balanced : S.Balanced) {o : ο} {k : Bool → Prog ο π ι Bool}
    {role : Role ο} (running : w.threads t = some ⟨.op (.lend o) k, role⟩) {r : Bool}
    {w' : World ο π ι} {choice : Choice ο π}
    (happens : effect S w t (.lend o) choice = some (r, w')) : Sound S (w'.run t (k r) role) := by
  obtain ⟨fine, h₀, same, later⟩ := sound.busy t _ running
  have same : w.hand t = h₀ := same.trans (zero_add h₀)
  have later : S.wp (S.bound role) (k r) (S.post role) (w.hand t) := by
    have holds : S.wp (S.bound role) (k r) (S.post role) (0 + h₀) := later r trivial
    rwa [zero_add, ← same] at holds
  have alive := sound.sane.alive_of_alive fine.1
  have nothing (other : some (false, w.touch o) = some (r, w')) : Sound S (w'.run t (k r) role) := by
    rw [Sane.touch_eq alive] at other
    obtain ⟨rfl, rfl⟩ := Prod.mk.inj (Option.some.inj other)
    exact sound.goOn running later
  cases choice with
  | thread t' =>
    simp only [effect, Sane.touch_eq alive] at happens
    split at happens
    · rename_i free
      have free := Option.isNone_iff_eq_none.mp free
      obtain ⟨rfl, rfl⟩ := Prod.mk.inj (Option.some.inj happens)
      have ne : t ≠ t' := by
        rintro rfl
        simp [free] at running
      have spawned := sound.spawn balanced alive fine.2 free
      refine spawned.goOn (p := .op (.lend o) k) ?_ ?_
      · exact (Function.update_of_ne ne _ _).trans running
      · rw [show (w.spawn S o t').hand t = w.hand t from World.hand_grant_of_ne ne]
        exact later
    · cases happens
  | _ => exact nothing happens

/-- A thread that works on an object starts over. -/
theorem again (sound : Sound S w) (balanced : S.Balanced) {o : ο}
    (running : w.threads t = some ⟨.pure true, .worker o⟩) :
    Sound S (w.run t (S.work o) (.worker o)) := by
  obtain ⟨h₀, j, same, spent, rfl⟩ := sound.busy t _ running
  have working : (t, o) ∈ w.workers := (sound.workers t o).mpr ⟨_, running⟩
  refine sound.goOn running ?_
  rw [same]
  exact Layout.wp_spare spent (balanced.work o (sound.sane.workers _ working).1)

theorem burden_of_spent {x : Token ο π ι} (spent : x.Spent) : x.burden = none := by
  unfold Token.Spent at spent
  unfold Token.burden
  split at spent <;> simp at *

/-- A call begins. -/
theorem call (sound : Sound S w) (balanced : S.Balanced) {c : κ} (free : w.threads t = none)
    (opened : w.closer = none) :
    Sound S { (w.run t (S.entry c >>= fun _ => pure false) .call).grant t (.right .license) with
      calls := t :: w.calls } := by
  have spent := sound.idle t free
  have hand : (w.grant t (.right .license)).hand t = {.right .license} + w.hand t :=
    World.hand_grant.trans (Multiset.singleton_add _ _).symm
  have roles := roles_start (S.entry c >>= fun _ => pure false) .call free
  have sane : Sane S.toLayout { (w.run t (S.entry c >>= fun _ => pure false) .call).grant t
      (.right .license) with calls := t :: w.calls } := by
    have sane := sound.sane
    have opens : Sane S.toLayout { w.run t (S.entry c >>= fun _ => pure false) .call with
        calls := t :: w.calls } := by
      refine ⟨fun e mem => ?_, sane.ledger, sane.alive, sane.dying, sane.stored, sane.single,
        sane.used, sane.blank, sane.workers, fun closed => absurd opened closed, sane.freed,
        sane.fault⟩
      have means := sane.means e mem
      obtain ⟨t', x | r⟩ := e
      · trivial
      · cases r with
        | license => exact List.mem_cons_of_mem t means
        | _ => exact means
    exact opens.grant trivial List.mem_cons_self
  refine sound.update sane (fun _ ne => World.hand_grant_of_ne ne) rfl (fun none => nomatch none)
    ?_ ?_ ?_ ?_ ?_ ?_
  · rintro _ ⟨⟩
    show S.wp _ _ _ ((w.grant t (.right .license)).hand t)
    rw [hand]
    refine Layout.wp_spare spent (Layout.wp_bind (Layout.wp_mono ?_ (balanced.entry c)))
    rintro _ h' rfl
    exact Layout.wp_pure false rfl
  · rintro _ ⟨⟩ x mem
    have mem : x ∈ (w.grant t (.right .license)).hand t := mem
    rw [hand] at mem
    rcases Multiset.mem_add.mp mem with mem | mem
    · rw [Multiset.mem_singleton.mp mem]
      simp [Token.burden]
    · simp [burden_of_spent (spent x mem)]
  · intro t'
    refine Iff.trans ?_ (roles t' .call).symm
    rw [← sound.calls t']
    show t' ∈ t :: w.calls ↔ _
    simp
  · intro t' o
    exact (sound.workers t' o).trans ((roles t' (.worker o)).trans (by simp)).symm
  · intro t' prog busy
    rcases (roles t' .closer).mp ⟨prog, busy⟩ with ⟨-, other⟩ | ⟨prog', before⟩
    · cases other
    · exact sound.closer t' prog' before
  · exact fun closed => absurd opened closed

/-- The last call begins. -/
theorem close (sound : Sound S w) (balanced : S.Balanced) (free : w.threads t = none)
    (opened : w.closer = none) (alone : w.calls = []) :
    Sound S { (w.run t (S.close >>= fun _ => pure false) .closer).grant t (.right .closing) with
      closer := some t } := by
  have spent := sound.idle t free
  have hand : (w.grant t (.right .closing)).hand t = {.right .closing} + w.hand t :=
    World.hand_grant.trans (Multiset.singleton_add _ _).symm
  have roles := roles_start (S.close >>= fun _ => pure false) .closer free
  have sane : Sane S.toLayout { (w.run t (S.close >>= fun _ => pure false) .closer).grant t
      (.right .closing) with closer := some t } := by
    have sane := sound.sane
    have closes : Sane S.toLayout { w.run t (S.close >>= fun _ => pure false) .closer with
        closer := some t } := by
      refine ⟨fun e mem => ?_, sane.ledger, sane.alive, sane.dying, sane.stored, sane.single,
        sane.used, sane.blank, sane.workers, fun _ => alone, sane.freed, sane.fault⟩
      have means := sane.means e mem
      obtain ⟨t', x | r⟩ := e
      · trivial
      · cases r with
        | closing => cases opened.symm.trans means
        | finished i => exact absurd opened means.1
        | _ => exact means
    exact closes.grant trivial rfl
  refine sound.update sane (fun _ ne => World.hand_grant_of_ne ne) rfl (fun none => nomatch none)
    ?_ ?_ ?_ ?_ ?_ ?_
  · rintro _ ⟨⟩
    show S.wp _ _ _ ((w.grant t (.right .closing)).hand t)
    rw [hand]
    refine Layout.wp_spare spent (Layout.wp_bind (Layout.wp_mono ?_ balanced.close))
    rintro _ h' rfl
    exact Layout.wp_pure false rfl
  · rintro _ ⟨⟩ x mem
    have mem : x ∈ (w.grant t (.right .closing)).hand t := mem
    rw [hand] at mem
    rcases Multiset.mem_add.mp mem with mem | mem
    · rw [Multiset.mem_singleton.mp mem]
      simp [Token.burden]
    · simp [burden_of_spent (spent x mem)]
  · intro t'
    exact (sound.calls t').trans ((roles t' .call).trans (by simp)).symm
  · intro t' o
    exact (sound.workers t' o).trans ((roles t' (.worker o)).trans (by simp)).symm
  · intro t' prog busy
    rcases (roles t' .closer).mp ⟨prog, busy⟩ with ⟨rfl, -⟩ | ⟨prog', before⟩
    · rfl
    · simp [sound.closer t' prog' before] at opened
  · exact fun _ => .inl ⟨t, (roles t .closer).mpr (.inl ⟨rfl, rfl⟩)⟩

/-- A thread ends that keeps nothing of consequence. -/
theorem sane_leave (sane : Sane S.toLayout w) {role : Role ο}
    (spent : ∀ x ∈ (w.leave t role).hand t, x.Spent) : Sane S.toLayout (w.leave t role) := by
  have plain : (role.right : Right ο π ι).Plain := by cases role <;> trivial
  have sane := sane.revoke (t := t) (.inl plain)
  refine ⟨fun e mem => ?_, sane.ledger, sane.alive, sane.dying, sane.stored, sane.single,
    sane.used, sane.blank, fun e mem => sane.workers e (List.mem_filter.mp mem).1, fun closed => ?_,
    sane.freed, sane.fault⟩
  · have means := sane.means e mem
    obtain ⟨t', x | r⟩ := e
    · trivial
    · have other (heavy : ¬ Token.Spent (.right r)) : t' ≠ t := by
        rintro rfl
        exact heavy (spent _ (World.mem_hand.mpr mem))
      cases r with
      | license => exact List.mem_filter.mpr ⟨means, decide_eq_true (other id)⟩
      | loan o => exact List.mem_filter.mpr ⟨means, decide_eq_true (other id)⟩
      | sole o => exact fun t'' worker => means t'' (List.mem_filter.mp worker).1
      | clear q =>
        obtain ⟨none, x, owner, stage⟩ := means
        refine ⟨none, x, owner, stage.imp_right fun gone => ⟨gone.1, fun t'' worker => ?_⟩⟩
        exact gone.2 t'' (List.mem_filter.mp worker).1
      | _ => exact means
  · have calls : w.calls = [] := sane.calls closed
    simp [World.leave, calls]

/-- A thread ends. -/
theorem leave (sound : Sound S w) {role : Role ο} {again : Bool}
    (running : w.threads t = some ⟨.pure again, role⟩) : Sound S (w.leave t role) := by
  obtain ⟨h₀, j, same, spent, post⟩ := sound.busy t _ running
  -- the right of the role goes, and knowledge stays
  have hand : ∃ k, (∀ x ∈ k, x.Spent) ∧ w.hand t = .right role.right ::ₘ k ∧
      (role = .closer → ∀ i ∈ S.tables, .right (.finished i) ∈ k) := by
    cases role with
    | call =>
      obtain rfl := post
      exact ⟨j, spent, same.trans (Multiset.singleton_add _ _), fun other => nomatch other⟩
    | worker o =>
      obtain rfl := post
      exact ⟨j, spent, same.trans (Multiset.singleton_add _ _), fun other => nomatch other⟩
    | closer =>
      obtain rfl := post
      refine ⟨_, fun x mem => ?_, same.trans (Multiset.cons_add _ _ _), fun _ i mem => ?_⟩
      · rcases Multiset.mem_add.mp mem with mem | mem
        · obtain ⟨i, -, rfl⟩ := List.mem_map.mp (Multiset.mem_coe.mp mem)
          trivial
        · exact spent x mem
      · exact Multiset.mem_add.mpr (.inl (Multiset.mem_coe.mpr (List.mem_map.mpr ⟨i, mem, rfl⟩)))
  obtain ⟨k, spent, hand, finished⟩ := hand
  have left : (w.leave t role).hand t = k := World.hand_revoke hand
  have roles := roles_end (w := w) (t := t)
  refine sound.update (sane_leave sound.sane (left ▸ spent))
    (fun _ ne => World.hand_revoke_of_ne ne) rfl (fun _ => left ▸ spent)
    (fun _ some => nomatch some) (fun _ some => nomatch some) ?_ ?_ ?_ ?_
  · intro t'
    refine Iff.trans ?_ (roles t' .call).symm
    rw [← sound.calls t', and_comm]
    simp [World.leave]
  · intro t' o
    refine Iff.trans ?_ (roles t' (.worker o)).symm
    rw [← sound.workers t' o, and_comm]
    simp [World.leave]
  · intro t' prog busy
    obtain ⟨-, prog', before⟩ := (roles t' .closer).mp ⟨prog, busy⟩
    exact sound.closer t' prog' before
  · intro closed
    rcases sound.closed closed with ⟨t', prog, closing⟩ | known
    · by_cases here : t' = t
      · subst here
        obtain ⟨-, rfl⟩ := Thread.mk.inj (Option.some.inj (running.symm.trans closing))
        refine .inr fun i mem => ⟨t', World.mem_hand.mp ?_⟩
        rw [left]
        exact finished rfl i mem
      · exact .inl ⟨t', (roles t' .closer).mpr ⟨here, prog, closing⟩⟩
    · refine .inr fun i mem => ?_
      obtain ⟨t', held⟩ := known i mem
      refine ⟨t', (Multiset.mem_erase_of_ne ?_).mpr held⟩
      cases role <;> simp [Role.right]

theorem step (sound : Sound S w) (balanced : S.Balanced) {a : Action ο π κ} {w' : World ο π ι}
    (found : Found w a) (happens : step S w a = some w') : Sound S w' := by
  cases a with
  | call t c =>
    simp only [References.step] at happens
    split at happens
    · rename_i free
      obtain rfl := Option.some.inj happens
      exact sound.call balanced (Option.isNone_iff_eq_none.mp free.1) free.2
    · cases happens
  | close t =>
    simp only [References.step] at happens
    split at happens
    · rename_i free
      obtain rfl := Option.some.inj happens
      exact sound.close balanced (Option.isNone_iff_eq_none.mp free.1) free.2.1 free.2.2
    · cases happens
  | act t choice =>
    simp only [References.step] at happens
    cases running : w.threads t with
    | none => simp [running] at happens
    | some th =>
      obtain ⟨prog, role⟩ := th
      cases prog with
      | pure goesOn =>
        simp only [running] at happens
        split at happens
        · obtain rfl := Option.some.inj happens
          exact sound.again balanced running
        · obtain rfl := Option.some.inj happens
          exact sound.leave running
      | op op k =>
        simp only [running] at happens
        obtain ⟨⟨r, w₁⟩, done, rfl⟩ := Option.map_eq_some_iff.mp happens
        by_cases starts : ∃ o, op = .lend o
        · obtain ⟨o, rfl⟩ := starts
          exact sound.lend balanced running done
        · refine sound.act balanced running (fun o same => starts ⟨o, same⟩) ?_ done
          rintro p o rfl
          simpa [Found, running] using found

theorem init (S : System ο π ι κ) : Sound S World.init := by
  refine ⟨⟨?_, ?_, ?_, ?_, ?_, ?_, ?_, ?_, ?_, ?_, ?_, rfl⟩, ?_, ?_, ?_, ?_, ?_, ?_, ?_⟩ <;>
    simp [World.init, World.owned, World.kept, World.ends, World.tally, World.at_, World.hand]

/-- Every reachable state of a balanced system is sound. -/
theorem run (balanced : S.Balanced) {as : List (Action ο π κ)} {w : World ο π ι}
    (found : Throughout (References.step S) Found World.init as)
    (hrun : Transition.run (References.step S) World.init as = some w) : Sound S w :=
  run_invariant (fun _ _ _ sound found happens => step sound balanced found happens) as
    World.init w (init S) found hrun

/-- Where no thread is in the middle of its program, the references there are are those in places. -/
theorem settled (sound : Sound S w)
    (between : ∀ t th, w.threads t = some th → ∃ again, th.prog = .pure again) (o : ο) :
    w.count o = w.kept o ∧ w.stage o ≠ .dying := by
  have unheld (t : Nat) (x : Token ο π ι) (burden : x.burden = some o) : (t, x) ∉ w.held := by
    intro held
    have mem := World.mem_hand.mpr held
    cases running : w.threads t with
    | none => simp [burden_of_spent (sound.idle t running x mem)] at burden
    | some th =>
      obtain ⟨prog, role⟩ := th
      obtain ⟨again, rfl⟩ := between t _ running
      obtain ⟨h₀, j, same, spent, post⟩ := sound.busy t _ running
      have light : ∀ y ∈ h₀, y.burden = none := by
        intro y among
        cases role with
        | call | worker =>
          obtain rfl := post
          rw [Multiset.mem_singleton.mp among]
          rfl
        | closer =>
          obtain rfl := post
          rcases Multiset.mem_cons.mp among with rfl | among
          · rfl
          · obtain ⟨i, -, rfl⟩ := List.mem_map.mp (Multiset.mem_coe.mp among)
            rfl
      rw [same] at mem
      rcases Multiset.mem_add.mp mem with mem | mem
      · simp [light x mem] at burden
      · simp [burden_of_spent (spent x mem)] at burden
  constructor
  · have owned : w.owned o = 0 := by
      by_contra some
      obtain ⟨t, x, held, rfl⟩ := World.exists_of_tally (Nat.pos_of_ne_zero some)
      exact unheld t _ rfl held
    rw [sound.sane.ledger, owned, zero_add]
  · intro dying
    have ends := sound.sane.dying o
    rw [if_pos dying] at ends
    obtain ⟨t, x, held, rfl | rfl⟩ :=
      World.exists_of_tally (w := w) (Nat.lt_of_lt_of_eq Nat.one_pos ends.symm)
    · exact unheld t _ rfl held
    · exact unheld t _ rfl held

/-- What a thread does next is possible, if it does not wait for others to be done. -/
theorem effect_enabled (op : Op ο π ι) (goes : ∀ o, op = .join o → w.working o = false) :
    ∃ choice, (effect S w t op choice).isSome = true := by
  refine ⟨.no, ?_⟩
  cases op with
  | join o => simp [effect, goes o rfl]
  | ref o | reclaim p o | offer p o | peek p =>
    simp only [effect]
    split <;> rfl
  | load p =>
    simp only [effect]
    split
    · split <;> rfl
    · rfl
  | _ => rfl

/-- A thread waits only for the threads that work on an object it destroys. -/
theorem waits {th : Thread ο π ι} (running : w.threads t = some th) :
    (∃ choice, (References.step S w (.act t choice)).isSome = true) ∨
      ∃ o k, th.prog = .op (.join o) k ∧ ∃ t', (t', o) ∈ w.workers := by
  obtain ⟨prog, role⟩ := th
  cases prog with
  | pure again =>
    refine .inl ⟨.no, ?_⟩
    simp only [References.step, running]
    split <;> rfl
  | op op k =>
    by_cases goes : ∀ o, op = .join o → w.working o = false
    · obtain ⟨choice, possible⟩ := effect_enabled (S := S) (t := t) op goes
      exact .inl ⟨choice, by simpa [References.step, running] using possible⟩
    · push Not at goes
      obtain ⟨o, rfl, working⟩ := goes
      obtain ⟨⟨t', x⟩, worker, same⟩ := List.any_eq_true.mp (Bool.of_not_eq_false working)
      obtain rfl := eq_of_beq same
      exact .inr ⟨x, k, rfl, t', worker⟩

/-- A thread that works on an object destroys only objects of smaller rank. -/
theorem joins_below (sound : Sound S w) {o x : ο} {k : Unit → Prog ο π ι Bool}
    (running : w.threads t = some ⟨.op (.join x) k, .worker o⟩) :
    S.lends x = true ∧ S.rank x < S.rank o := by
  obtain ⟨lends, h₀, same, -⟩ := sound.busy t _ running
  exact ⟨lends, sound.small t _ running (.right (.dying x)) (by simp [same, Layout.takes]) x rfl⟩

/-- When the last call has come to its end, no thread holds on to an object, and none is left. -/
theorem gone (sound : Sound S w) (balanced : S.Balanced) (closed : w.closer ≠ none)
    (ended : ¬ ∃ t prog, w.threads t = some ⟨prog, .closer⟩) (o : ο) :
    w.stage o ≠ .alive ∧ w.stage o ≠ .dying := by
  have calls : w.calls = [] := sound.sane.calls closed
  have finished := (sound.closed closed).resolve_left ended
  -- by induction on what may refer to the object
  induction room : S.top - S.rank o using Nat.strong_induction_on generalizing o with
  | _ _ ih =>
    have above (x : ο) (rank : S.rank o < S.rank x) : w.stage x ≠ .alive ∧ w.stage x ≠ .dying := by
      have := balanced.wf.top x
      exact ih _ (by omega) x rfl
    have unheld (t : Nat) (x : Token ο π ι) (burden : x.burden = some o) : (t, x) ∉ w.held := by
      intro held
      have mem := World.mem_hand.mpr held
      cases running : w.threads t with
      | none =>
        have := burden_of_spent (sound.idle t running x mem)
        rw [burden] at this
        cases this
      | some th =>
        have rank := sound.small t th running x mem o burden
        obtain ⟨prog, role⟩ := th
        cases role with
        | call =>
          have := (sound.calls t).mpr ⟨prog, running⟩
          simp [calls] at this
        | worker c =>
          have worker := (sound.workers t c).mpr ⟨prog, running⟩
          have stage := (sound.sane.workers _ worker).2
          obtain ⟨alive, dying⟩ := above c rank
          exact stage.elim alive dying
        | closer => exact ended ⟨t, prog, running⟩
    constructor
    · intro alive
      have count := (sound.sane.alive o).mp alive
      rw [sound.sane.ledger] at count
      rcases Nat.add_pos_iff_pos_or_pos.mp count with owned | kept
      · obtain ⟨t, x, held, rfl⟩ := World.exists_of_tally owned
        exact unheld t _ rfl held
      · obtain ⟨⟨p, x⟩, stored, same⟩ := List.countP_pos_iff.mp kept
        obtain rfl := of_decide_eq_true same
        obtain ⟨fits, owner⟩ := sound.sane.stored _ stored
        cases place : S.owner p with
        | none =>
          obtain ⟨i, table⟩ := Option.isSome_iff_exists.mp
            ((balanced.wf.table p).mp ((balanced.wf.entry p).mpr place))
          obtain ⟨t, held⟩ := finished i (balanced.tables p i table)
          exact (sound.sane.means _ held).2 _ stored table
        | some y =>
          obtain ⟨alive, dying⟩ := above y (balanced.wf.rank p y x place fits)
          exact (owner y place).elim alive dying
    · intro dying
      have ends := sound.sane.dying o
      rw [if_pos dying] at ends
      obtain ⟨t, x, held, rfl | rfl⟩ :=
        World.exists_of_tally (w := w) (Nat.lt_of_lt_of_eq Nat.one_pos ends.symm)
      · exact unheld t _ rfl held
      · exact unheld t _ rfl held

/-- When the last call has come to its end, so have all threads, and every object was freed once. -/
theorem all_freed (sound : Sound S w) (balanced : S.Balanced) (closed : w.closer ≠ none)
    (ended : ¬ ∃ t prog, w.threads t = some ⟨prog, .closer⟩) :
    (∀ t, w.threads t = none) ∧
      ∀ o, (w.stage o = .unborn ∧ o ∉ w.freed) ∨ (w.stage o = .freed ∧ w.freed.count o = 1) := by
  have gone := sound.gone balanced closed ended
  constructor
  · intro t
    cases running : w.threads t with
    | none => rfl
    | some th =>
      obtain ⟨prog, role⟩ := th
      cases role with
      | call =>
        have := (sound.calls t).mpr ⟨prog, running⟩
        simp [sound.sane.calls closed] at this
      | worker c =>
        have worker := (sound.workers t c).mpr ⟨prog, running⟩
        exact ((sound.sane.workers _ worker).2.elim (gone c).1 (gone c).2).elim
      | closer => exact absurd ⟨t, prog, running⟩ ended
  · intro o
    have freed := sound.sane.freed o
    cases stage : w.stage o with
    | unborn =>
      rw [stage] at freed
      exact .inl ⟨rfl, List.count_eq_zero.mp freed⟩
    | alive => exact absurd stage (gone o).1
    | dying => exact absurd stage (gone o).2
    | freed =>
      rw [stage] at freed
      exact .inr ⟨rfl, freed⟩

end Sound

end

end References
