import RockchipVaapi.Decode.Teardown

/-!
# The verdict for a fence

`rk_mpp_dec_fail_surface` leaves a decoded surface alone, but `complete_surface_ref` and the last
section of `assign_mpp_frame` write their verdict whatever the surface has. So the verdict for a
fence is final only where the section that settles the surface is the last one that can complete
it: no other picture, call, job, packet or route under the fence is left.
-/

namespace RockchipVaapi.Decode
open Transition

/-- What `vaSyncSurface` returns. -/
inductive SyncStatus
  | success
  | decodingError
  deriving DecidableEq, Repr

/-- `sync_surface_timeout` (`surface.c:647-660`), where it does not have to wait. -/
def rkSyncSurface (s : Surface) : Option SyncStatus :=
  if s.decodeFailed then some .decodingError
  else if s.decoded || s.ctxId.isNone then some .success
  else none

/-- `vaSyncSurface` does not wait. -/
def Surface.ready (s : Surface) : Bool := s.settled || s.ctxId.isNone

theorem rkSyncSurface_isSome (s : Surface) : (rkSyncSurface s).isSome = s.ready := by
  unfold rkSyncSurface Surface.ready Surface.settled
  cases s.decodeFailed <;> cases s.decoded <;> cases s.ctxId <;> rfl

/-! ## What is left under a fence

`fails` says whether the calls of `rk_mpp_dec_fail_surface` count as well. -/

def PacketAvoids (p : Target) : Option (Job × Kind) → Prop
  | some (job, _) => job.target ≠ p
  | none => True

def Hand.Avoids (fails : Bool) (p : Target) : Hand → Prop
  | .waiting packet => PacketAvoids p packet
  | .submitting job => job.target ≠ p
  | .assigning route _ packet => route.target ≠ p ∧ PacketAvoids p packet
  | .completing surface fence packet => (surface, fence) ≠ p ∧ PacketAvoids p packet
  | .failing routes => fails = true → ∀ route ∈ routes, route.target ≠ p
  | .exited => True

def Call.Avoids (fails : Bool) (p : Target) : Call → Prop
  | .failSurface surface fence => fails = true → (surface, fence) ≠ p
  | .enqueue job => job.target ≠ p
  | .reject job => job.target ≠ p
  | _ => True

def Stop.Avoids (fails : Bool) (p : Target) : Stop → Prop
  | .failing pending => fails = true → p ∉ pending
  | _ => True

structure Work.Avoids (fails : Bool) (p : Target) (w : Work) : Prop where
  jobs : ∀ job ∈ w.jobs, job.target ≠ p
  h264Routes : ∀ route ∈ w.h264Routes, route.target ≠ p
  genericRoutes : ∀ route ∈ w.genericRoutes, route.target ≠ p
  hand : w.hand.Avoids fails p

/-- Nothing in a context can complete a surface under a fence. -/
structure NothingLeft (fails : Bool) (p : Target) (ctx : Context) : Prop where
  render : ctx.render ≠ some p
  held : ∀ job, ctx.endPicture = some (some job) → job.target ≠ p
  calls : ∀ call ∈ ctx.calls, call.Avoids fails p
  work : ctx.work.Avoids fails p
  stop : ctx.stop.Avoids fails p

theorem nothingLeft_init (fails : Bool) (p : Target) (coding : Coding) (profileIdc : Nat) :
    NothingLeft fails p (Context.init coding profileIdc) := by
  refine ⟨(fun same => by cases same), (fun job same => by cases same), ?_, ⟨?_, ?_, ?_, trivial⟩,
    trivial⟩
  · exact fun call mem => absurd mem List.not_mem_nil
  · exact fun job mem => absurd mem List.not_mem_nil
  · exact fun route mem => absurd mem List.not_mem_nil
  · exact fun route mem => absurd mem List.not_mem_nil

/-! ## No step brings anything new -/

section

variable {fails : Bool} {p : Target} {ctx ctx' : Context} {surfaces : Surfaces} {t : Touch}

/-- The route that a frame takes was in a list, and the others stay. -/
theorem takeRoute_listed {frame : MppFrame} {route : Route}
    (taken : (takeRoute ctx frame).1 = some route) :
    (route ∈ ctx.h264Routes ∨ route ∈ ctx.genericRoutes) ∧
      (takeRoute ctx frame).2.h264Routes ⊆ ctx.h264Routes ∧
      (takeRoute ctx frame).2.genericRoutes ⊆ ctx.genericRoutes := by
  rcases takeRoute_cases taken with ⟨-, taken, same⟩ | ⟨-, routes, queue, same⟩
  · rw [same]
    exact ⟨.inl (h264RouteTake_some taken).1, h264RouteTake_subset _ _, List.Subset.refl _⟩
  · rw [same, queue]
    exact ⟨.inr List.mem_cons_self, List.Subset.refl _, List.subset_cons_self _ _⟩

theorem forall_mem_snoc {α : Type} {P : α → Prop} {xs : List α} {x : α} (h : ∀ y ∈ xs, P y)
    (last : P x) : ∀ y ∈ xs ++ [x], P y := by
  intro y mem
  rcases List.mem_append.mp mem with mem | mem
  · exact h y mem
  · obtain rfl := List.mem_singleton.mp mem
    exact last

theorem forall_mem_cons {α : Type} {P : α → Prop} {xs : List α} {x : α} (first : P x)
    (h : ∀ y ∈ xs, P y) : ∀ y ∈ x :: xs, P y := by
  intro y mem
  rcases List.mem_cons.mp mem with rfl | mem
  · exact first
  · exact h y mem

/-- The worker makes routes and packets only of the jobs and routes it has. -/
theorem WorkerMove.avoids {a : WorkerAction} {w : Work} (h : ctx.work.Avoids fails p)
    (move : WorkerMove ctx surfaces a t w) : w.Avoids fails p := by
  have avoids := h.hand
  rcases h with ⟨jobs, tokens, generics, -⟩
  cases move with
  | quiet => exact ⟨jobs, tokens, generics, avoids⟩
  | exit hand => exact ⟨jobs, tokens, generics, trivial⟩
  | fetch hand queue =>
    rename_i job rest
    have mem : ∀ j ∈ job :: rest, j.target ≠ p := by
      intro j mem
      apply jobs j
      rw [← queue] at mem
      exact mem
    exact ⟨fun j h => mem j (List.mem_cons_of_mem job h), tokens, generics,
      mem job List.mem_cons_self⟩
  | finish hand why =>
    rw [hand] at avoids
    exact ⟨jobs, tokens, generics, avoids, trivial⟩
  | pair hand coding found =>
    rw [hand] at avoids
    exact ⟨jobs, tokens, generics, avoids⟩
  | route hand coding =>
    rw [hand] at avoids
    exact ⟨jobs, forall_mem_cons avoids tokens, generics, avoids⟩
  | hide hand coding =>
    rw [hand] at avoids
    exact ⟨jobs, tokens, generics, avoids⟩
  | queue hand coding queues =>
    rw [hand] at avoids
    exact ⟨jobs, tokens, forall_mem_snoc generics avoids, avoids⟩
  | refuse hand refused =>
    rename_i job kind
    rw [hand] at avoids
    obtain ⟨tokens', generics'⟩ := refused_subset ctx.work job kind
    exact ⟨jobs, fun r mem => tokens r (tokens' mem), fun r mem => generics r (generics' mem),
      avoids, trivial⟩
  | accept hand kinds => exact ⟨jobs, tokens, generics, trivial⟩
  | replace hand =>
    rw [hand] at avoids
    exact ⟨jobs, forall_mem_cons avoids tokens, generics, trivial⟩
  | lose hand kinds =>
    rw [hand] at avoids
    exact ⟨jobs, tokens, generics, avoids, trivial⟩
  | repeatHidden hand queues =>
    rw [hand] at avoids
    exact ⟨jobs, tokens, forall_mem_snoc generics avoids, avoids⟩
  | drop action shown hand none_left => exact ⟨jobs, tokens, generics, avoids⟩
  | arrive action shown hand taken =>
    rename_i frame patience packet route
    rw [hand] at avoids
    obtain ⟨listed, tokens', generics'⟩ := takeRoute_listed taken
    have target : route.target ≠ p := by
      rcases listed with mem | mem
      · exact tokens route mem
      · exact generics route mem
    refine ⟨?_, fun r mem => tokens r (tokens' mem), fun r mem => generics r (generics' mem),
      target, avoids⟩
    intro job mem
    apply jobs job
    rw [show ctx.work.jobs = ctx.jobs from rfl, ← takeRoute_jobs]
    exact mem
  | stale hand fence =>
    rw [hand] at avoids
    exact ⟨jobs, tokens, generics, avoids.2⟩
  | failAssign hand =>
    rw [hand] at avoids
    exact ⟨jobs, tokens, generics, avoids⟩
  | publish worker =>
    rename_i route frame output k
    have hand : ctx.work.hand = .assigning route frame k.packet := congrArg Worker.hand worker
    rw [hand] at avoids
    exact ⟨jobs, tokens, generics, avoids.2⟩
  | complete hand =>
    rw [hand] at avoids
    exact ⟨jobs, tokens, generics, avoids.2⟩
  | stall hand =>
    refine ⟨jobs, fun r mem => absurd mem List.not_mem_nil,
      fun r mem => absurd mem List.not_mem_nil, ?_⟩
    intro _ r mem
    rcases List.mem_append.mp mem with mem | mem
    · exact tokens r mem
    · exact generics r mem
  | failRoute hand =>
    rename_i route routes
    rw [hand] at avoids
    exact ⟨jobs, tokens, generics, fun all r mem => avoids all r (List.mem_cons_of_mem route mem)⟩
  | recover hand => exact ⟨jobs, tokens, generics, trivial⟩

theorem mem_eraseIdx {calls : List Call} {i : Nat} (h : ∀ call ∈ calls, call.Avoids fails p) :
    ∀ call ∈ calls.eraseIdx i, call.Avoids fails p :=
  fun call mem => h call (List.mem_of_mem_eraseIdx mem)

theorem mem_set {calls : List Call} {i : Nat} {new : Call}
    (h : ∀ call ∈ calls, call.Avoids fails p) (avoids : new.Avoids fails p) :
    ∀ call ∈ calls.set i new, call.Avoids fails p := by
  intro call mem
  rcases List.mem_or_eq_of_mem_set mem with mem | rfl
  · exact h call mem
  · exact avoids

/-- A call other than the `rk_BeginPicture` of the surface makes jobs only of the pictures that are
there. -/
theorem AppMove.nothingLeft {c : ContextId} {a : AppAction} (h : NothingLeft fails p ctx)
    (noBegin : ∀ avc, t ≠ some (p.1, .begin c avc)) (move : AppMove c ctx surfaces a ctx' t) :
    NothingLeft fails p ctx' := by
  cases move with
  | callBegin live =>
    exact ⟨h.render, h.held, forall_mem_snoc h.calls trivial, h.work, h.stop⟩
  | callEnd live =>
    exact ⟨h.render, h.held, forall_mem_snoc h.calls trivial, h.work, h.stop⟩
  | destroy live => exact ⟨h.render, h.held, h.calls, h.work, h.stop⟩
  | begin call free =>
    rename_i i s
    refine ⟨?_, h.held, ?_, h.work, h.stop⟩
    · intro same
      obtain rfl := Option.some.inj same
      exact noBegin _ rfl
    · simp only [beginSection]
      split
      · exact mem_eraseIdx h.calls
      · rename_i previous fence render
        refine mem_set h.calls fun _ same => h.render ?_
        rw [render, same]
  | buildNothing call free render =>
    exact ⟨h.render, h.held, mem_eraseIdx h.calls, h.work, h.stop⟩
  | build call free render =>
    refine ⟨h.render, ?_, mem_eraseIdx h.calls, h.work, h.stop⟩
    intro job built same
    rw [rkMppDecBuildJob_target (Option.some.inj built)] at same
    exact h.render (render.trans (congrArg some same))
  | release render held =>
    exact ⟨(fun same => by cases same), (fun job same => by cases same),
      forall_mem_snoc h.calls (h.held _ held), h.work, h.stop⟩
  | releaseFailed render held =>
    have failing : (Call.failSurface _ _).Avoids fails p := fun _ same =>
      h.render (render.trans (congrArg some same))
    exact ⟨(fun same => by cases same), (fun job same => by cases same),
      forall_mem_snoc h.calls failing, h.work, h.stop⟩
  | failSurface call => exact ⟨h.render, h.held, mem_eraseIdx h.calls, h.work, h.stop⟩
  | enqueueStopped call stopped =>
    have avoids := h.calls _ (List.mem_of_getElem? call)
    exact ⟨h.render, h.held, mem_set h.calls avoids, h.work, h.stop⟩
  | enqueue call =>
    rename_i i job
    have avoids : job.target ≠ p := h.calls _ (List.mem_of_getElem? call)
    exact ⟨h.render, h.held, mem_eraseIdx h.calls,
      ⟨forall_mem_snoc h.work.jobs avoids, h.work.h264Routes, h.work.genericRoutes, h.work.hand⟩,
      h.stop⟩
  | reject call => exact ⟨h.render, h.held, mem_eraseIdx h.calls, h.work, h.stop⟩

theorem StopMove.nothingLeft (h : NothingLeft fails p ctx) (move : StopMove ctx ctx' t) :
    NothingLeft fails p ctx' := by
  cases move with
  | drain stop destroyed calls free => exact ⟨h.render, h.held, h.calls, h.work, trivial⟩
  | join stop worker =>
    refine ⟨h.render, h.held, h.calls, ⟨?_, ?_, ?_, h.work.hand⟩, ?_⟩
    · exact fun job mem => absurd mem List.not_mem_nil
    · exact fun route mem => absurd mem List.not_mem_nil
    · exact fun route mem => absurd mem List.not_mem_nil
    · intro _ mem
      rcases List.mem_append.mp mem with mem | mem
      · obtain ⟨job, mem, same⟩ := List.mem_map.mp mem
        exact h.work.jobs job mem same
      · obtain ⟨route, mem, same⟩ := List.mem_map.mp mem
        rcases List.mem_append.mp mem with mem | mem
        · exact h.work.h264Routes route mem same
        · exact h.work.genericRoutes route mem same
  | failNext stop =>
    have avoids := h.stop
    rw [stop] at avoids
    exact ⟨h.render, h.held, h.calls, h.work, fun all mem => avoids all (List.mem_cons_of_mem _ mem)⟩
  | failRender stop => exact ⟨(fun same => by cases same), h.held, h.calls, h.work, trivial⟩

theorem ctxStep_nothingLeft {c : ContextId} {a : Action} (h : NothingLeft fails p ctx)
    (hstep : ctxStep c ctx surfaces a = some (ctx', t))
    (noBegin : ∀ avc, t ≠ some (p.1, .begin c avc)) : NothingLeft fails p ctx' := by
  cases a with
  | app a => exact (appStep_move hstep).nothingLeft h noBegin
  | worker a =>
    obtain ⟨move, calls⟩ := workerStep_move hstep
    refine ⟨?_, ?_, ?_, move.avoids h.work, ?_⟩
    · rw [calls.render]
      exact h.render
    · rw [calls.endPicture]
      exact h.held
    · rw [calls.calls]
      exact h.calls
    · rw [calls.stop]
      exact h.stop
  | stop a => exact (stopStep_move hstep).nothingLeft h
  | exportSurface surface =>
    obtain ⟨rfl, -⟩ := Prod.mk.inj (Option.some.inj hstep)
    exact h

end

/-! ## Sections that give a verdict -/

/-- A section that can change the verdict of a surface with this fence. -/
def SurfaceOp.Completes (fails : Bool) (fence : Nat) : SurfaceOp → Prop
  | .complete f _ => f = fence
  | .publish f _ => f = fence
  | .fail f => fails = true ∧ f = fence
  | _ => False

/-- Where nothing is left under a fence, no step completes it. -/
theorem ctxStep_completes {c : ContextId} {ctx ctx' : Context} {surfaces : Surfaces} {a : Action}
    {s : SurfaceId} {fence : Nat} {fails : Bool} {op : SurfaceOp}
    (h : NothingLeft fails (s, fence) ctx)
    (hstep : ctxStep c ctx surfaces a = some (ctx', some (s, op))) :
    ¬ op.Completes fails fence := by
  generalize touch : (some (s, op) : Touch) = t at hstep
  cases a with
  | app a =>
    cases appStep_move hstep with
    | begin call free =>
      obtain ⟨rfl, rfl⟩ := Prod.mk.inj (Option.some.inj touch)
      exact id
    | release render held =>
      obtain ⟨rfl, rfl⟩ := Prod.mk.inj (Option.some.inj touch)
      exact id
    | failSurface call =>
      obtain ⟨rfl, rfl⟩ := Prod.mk.inj (Option.some.inj touch)
      rintro ⟨all, rfl⟩
      exact h.calls _ (List.mem_of_getElem? call) all rfl
    | reject call =>
      obtain ⟨rfl, rfl⟩ := Prod.mk.inj (Option.some.inj touch)
      rintro rfl
      exact h.calls _ (List.mem_of_getElem? call) rfl
    | _ => cases touch
  | worker a =>
    have avoids := h.work.hand
    have move := (workerStep_move hstep).1
    generalize ctx'.work = w at move
    cases move with
    | publish worker =>
      obtain ⟨rfl, rfl⟩ := Prod.mk.inj (Option.some.inj touch)
      rename_i route frame output k
      have hand : ctx.work.hand = .assigning route frame k.packet := congrArg Worker.hand worker
      rw [hand] at avoids
      rintro rfl
      exact avoids.1 rfl
    | complete hand =>
      obtain ⟨rfl, rfl⟩ := Prod.mk.inj (Option.some.inj touch)
      rw [hand] at avoids
      rintro rfl
      exact avoids.1 rfl
    | failRoute hand =>
      obtain ⟨rfl, rfl⟩ := Prod.mk.inj (Option.some.inj touch)
      rw [hand] at avoids
      rintro ⟨all, rfl⟩
      exact avoids all _ List.mem_cons_self rfl
    | _ => cases touch
  | stop a =>
    have avoids := h.stop
    cases stopStep_move hstep with
    | failNext stop =>
      obtain ⟨rfl, rfl⟩ := Prod.mk.inj (Option.some.inj touch)
      rw [stop] at avoids
      rintro ⟨all, rfl⟩
      exact avoids all List.mem_cons_self
    | failRender stop =>
      obtain ⟨target, render, same⟩ := Option.map_eq_some_iff.mp touch.symm
      obtain ⟨rfl, rfl⟩ := Prod.mk.inj same
      rintro ⟨-, rfl⟩
      exact h.render render
    | _ => cases touch
  | exportSurface surface =>
    obtain ⟨-, rfl⟩ := Prod.mk.inj (Option.some.inj hstep)
    obtain ⟨rfl, rfl⟩ := Prod.mk.inj (Option.some.inj touch)
    exact id

/-- A section that does not complete a surface leaves its verdict alone; so does a failure of a
settled surface. -/
theorem SurfaceOp.verdict_kept {op : SurfaceOp} (noBegin : ∀ c avc, op ≠ .begin c avc) {s : Surface}
    {fails : Bool} (quiet : ¬ op.Completes fails s.fence)
    (why : fails = true ∨ s.settled = true) :
    (op.apply s).decoded = s.decoded ∧ (op.apply s).decodeFailed = s.decodeFailed := by
  cases op with
  | begin c avc => exact absurd rfl (noBegin c avc)
  | mark fence field =>
    simp only [SurfaceOp.apply]
    split <;> exact ⟨rfl, rfl⟩
  | complete fence success =>
    have other : s.fence ≠ fence := fun same => quiet same.symm
    simp only [SurfaceOp.apply, if_neg other, and_self]
  | publish fence output =>
    have other : s.fence ≠ fence := fun same => quiet same.symm
    simp only [SurfaceOp.apply, if_neg other, and_self]
  | fail fence =>
    simp only [SurfaceOp.apply]
    split
    · rename_i current
      rcases why with all | settled
      · exact absurd ⟨all, current.1.symm⟩ quiet
      · -- a settled surface that is not decoded has failed already
        have failed : s.decodeFailed = true := by
          rw [Surface.settled, current.2, Bool.false_or] at settled
          exact settled
        exact ⟨rfl, failed.symm⟩
    · exact ⟨rfl, rfl⟩
  | exportStable =>
    simp only [SurfaceOp.apply]
    split <;> exact ⟨rfl, rfl⟩

theorem nextFence_ne (fence : Nat) : nextFence fence ≠ fence := by
  unfold nextFence
  simp only
  split
  · rename_i wraps
    rintro rfl
    exact absurd wraps (by decide)
  · rename_i positive
    intro same
    omega

/-- `rk_BeginPicture` issues a new fence for a surface on which `vaSyncSurface` does not wait. -/
theorem SurfaceOp.begin_ready {s : Surface} (ready : s.ready = true) (c : ContextId) (avc : Bool) :
    ((SurfaceOp.begin c avc).apply s).fence ≠ s.fence := by
  simp only [SurfaceOp.apply]
  split
  · rename_i continued
    simp only [Surface.continuation, Bool.and_eq_true, beq_iff_eq, Bool.not_eq_true'] at continued
    obtain ⟨⟨⟨⟨-, ctxId⟩, decoded⟩, failed⟩, -⟩ := continued
    simp only [Surface.ready, Surface.settled, decoded, failed, ctxId, Option.isNone_some,
      Bool.or_self, Bool.false_eq_true] at ready
  · exact nextFence_ne s.fence

theorem SurfaceOp.begin_unready (s : Surface) (c : ContextId) (avc : Bool) :
    ((SurfaceOp.begin c avc).apply s).ready = false := by
  simp only [SurfaceOp.apply]
  split <;> rfl

/-! ## The invariant -/

/-- The section that settles a surface is the last one that can complete it: behind it no context
has a picture, a call, a job, a packet or a route under the fence. -/
def SettlesLast (st : State) (act : ContextId × Action) : Prop :=
  ∀ st', step st act = some st' → ∀ s, (st.surfaces s).settled = false →
    (st'.surfaces s).settled = true →
    ∀ d, NothingLeft false (s, (st'.surfaces s).fence) (st'.contexts d)

structure VerdictInv (st : State) : Prop where
  settled : ∀ s, (st.surfaces s).settled = true →
    ∀ d, NothingLeft false (s, (st.surfaces s).fence) (st.contexts d)
  unused : ∀ s, (st.surfaces s).ctxId = none →
    ∀ d, NothingLeft true (s, (st.surfaces s).fence) (st.contexts d)

theorem verdictInv_init (coding : ContextId → Coding) (profileIdc : ContextId → Nat) :
    VerdictInv (State.init coding profileIdc) where
  settled s settled := by cases settled
  unused s _ d := nothingLeft_init true _ (coding d) (profileIdc d)

section

variable {st st' : State} {act : ContextId × Action} {s : SurfaceId}

/-- What a step means for the verdict of a surface: `rk_BeginPicture` or a section that keeps the
fence. -/
theorem step_surface (hstep : step st act = some st') :
    (∃ avc, st'.surfaces s = (SurfaceOp.begin act.1 avc).apply (st.surfaces s)) ∨
    (st'.surfaces s).fence = (st.surfaces s).fence ∧
      (st'.surfaces s).ctxId = (st.surfaces s).ctxId ∧
      (∀ fails p, p.1 = s → (∀ d, NothingLeft fails p (st.contexts d)) →
        ∀ d, NothingLeft fails p (st'.contexts d)) ∧
      (∀ fails, NothingLeft fails (s, (st.surfaces s).fence) (st.contexts act.1) →
        fails = true ∨ (st.surfaces s).settled = true →
        (st'.surfaces s).decoded = (st.surfaces s).decoded ∧
          (st'.surfaces s).decodeFailed = (st.surfaces s).decodeFailed) := by
  obtain ⟨c, a⟩ := act
  obtain ⟨ctx, t, hctx, self, others, surfaces⟩ := step_cases hstep
  by_cases begun : ∃ avc, t = some (s, .begin c avc)
  · obtain ⟨avc, rfl⟩ := begun
    exact .inl ⟨avc, by rw [surfaces, touched_self]⟩
  · have noBegin : ∀ d avc, t ≠ some (s, .begin d avc) := by
      rintro d avc rfl
      rcases ctxStep_issued hctx with ⟨r, avc', same, -⟩ | ⟨-, none_begun⟩
      · obtain ⟨rfl, op⟩ := Prod.mk.inj (Option.some.inj same)
        obtain ⟨rfl, -⟩ := SurfaceOp.begin.inj op
        exact begun ⟨avc, rfl⟩
      · exact none_begun s d avc rfl
    obtain ⟨fence, ctxId, -, -⟩ := touched_kept st.surfaces noBegin
    rw [surfaces]
    refine .inr ⟨fence, ctxId, ?_, ?_⟩
    · rintro fails p rfl nothing d
      by_cases own : d = c
      · subst own
        rw [self]
        exact ctxStep_nothingLeft (nothing d) hctx (noBegin d)
      · rw [others d own]
        exact nothing d
    · intro fails nothing why
      rcases touched_cases st.surfaces t s with ⟨same, -⟩ | ⟨op, rfl, after⟩
      · rw [same]
        exact ⟨rfl, rfl⟩
      · rw [after]
        refine SurfaceOp.verdict_kept ?_ (ctxStep_completes nothing hctx) why
        rintro d avc rfl
        exact noBegin d avc rfl

/-- A surface that no context has begun stays without work. -/
theorem nothingLeft_unused (h : (st.surfaces s).ctxId = none →
      ∀ d, NothingLeft true (s, (st.surfaces s).fence) (st.contexts d))
    (hstep : step st act = some st') (unused : (st'.surfaces s).ctxId = none) (d : ContextId) :
    NothingLeft true (s, (st'.surfaces s).fence) (st'.contexts d) := by
  rcases step_surface (s := s) hstep with ⟨avc, begun⟩ | ⟨fence, ctxId, nothing, -⟩
  · rw [begun, (SurfaceOp.begin_cases _ _ _).1] at unused
    cases unused
  · rw [fence]
    exact nothing true _ rfl (h (ctxId.symm.trans unused)) d

theorem verdictInv_step (h : VerdictInv st) (last : SettlesLast st act)
    (hstep : step st act = some st') : VerdictInv st' := by
  constructor
  · intro s settled
    rcases step_surface (s := s) hstep with ⟨avc, begun⟩ | ⟨fence, -, nothing, -⟩
    · have unready := SurfaceOp.begin_unready (st.surfaces s) act.1 avc
      rw [← begun, Surface.ready, settled] at unready
      cases unready
    · by_cases before : (st.surfaces s).settled = true
      · rw [fence]
        exact nothing false _ rfl (h.settled s before)
      · exact last st' hstep s (eq_false_of_ne_true before) settled
  · intro s unused d
    exact nothingLeft_unused (h.unused s) hstep unused d

/-- A step that leaves the fence of a surface alone leaves its verdict alone. -/
theorem VerdictInv.kept (h : VerdictInv st) (hstep : step st act = some st')
    (ready : (st.surfaces s).ready = true)
    (stays : (st'.surfaces s).fence = (st.surfaces s).fence) :
    (st'.surfaces s).decoded = (st.surfaces s).decoded ∧
      (st'.surfaces s).decodeFailed = (st.surfaces s).decodeFailed ∧
      (st'.surfaces s).ctxId = (st.surfaces s).ctxId := by
  rcases step_surface (s := s) hstep with ⟨avc, begun⟩ | ⟨-, ctxId, -, verdict⟩
  · rw [begun] at stays
    exact absurd stays (SurfaceOp.begin_ready ready act.1 avc)
  · by_cases settled : (st.surfaces s).settled = true
    · obtain ⟨decoded, failed⟩ := verdict false (h.settled s settled act.1) (.inr settled)
      exact ⟨decoded, failed, ctxId⟩
    · have unused : (st.surfaces s).ctxId = none := by
        rw [Surface.ready, eq_false_of_ne_true settled, Bool.false_or] at ready
        exact Option.isNone_iff_eq_none.mp ready
      obtain ⟨decoded, failed⟩ := verdict true (h.unused s unused act.1) (.inl rfl)
      exact ⟨decoded, failed, ctxId⟩

end

/-- The step leaves the surface at a fence. -/
def StaysAt (s : SurfaceId) (fence : Nat) (st : State) (act : ContextId × Action) : Prop :=
  ∀ st', step st act = some st' → (st'.surfaces s).fence = fence

def staysAt (s : SurfaceId) (fence : Nat) (st : State) (act : ContextId × Action) : Bool :=
  (step st act).all fun st' => (st'.surfaces s).fence == fence

theorem staysAt_iff {s : SurfaceId} {fence : Nat} {st : State} {act : ContextId × Action} :
    staysAt s fence st act = true ↔ StaysAt s fence st act := by
  simp only [staysAt, StaysAt, Option.all_eq_true, beq_iff_eq]

/-- In every run in which a surface is settled by the last section that can complete it, its verdict
and what `vaSyncSurface` returns stay the same as long as it stays at its fence. -/
theorem verdict_final {coding : ContextId → Coding} {profileIdc : ContextId → Nat}
    {acts later : List (ContextId × Action)} {st st' : State} {s : SurfaceId}
    (last : Throughout step SettlesLast (State.init coding profileIdc) (acts ++ later))
    (hrun : run step (State.init coding profileIdc) acts = some st)
    (hlater : run step st later = some st')
    (stays : Throughout step (StaysAt s (st.surfaces s).fence) st later)
    (ready : (st.surfaces s).ready = true) :
    (st'.surfaces s).decoded = (st.surfaces s).decoded ∧
      (st'.surfaces s).decodeFailed = (st.surfaces s).decodeFailed ∧
      rkSyncSurface (st'.surfaces s) = rkSyncSurface (st.surfaces s) := by
  have start : VerdictInv st := run_invariant (I := VerdictInv)
    (fun _ _ _ h last hstep => verdictInv_step h last hstep) acts _ st
    (verdictInv_init coding profileIdc) last.front hrun
  have same := run_invariant
    (I := fun x : State => VerdictInv x ∧ (x.surfaces s).fence = (st.surfaces s).fence ∧
      (x.surfaces s).decoded = (st.surfaces s).decoded ∧
      (x.surfaces s).decodeFailed = (st.surfaces s).decodeFailed ∧
      (x.surfaces s).ctxId = (st.surfaces s).ctxId) ?_ later st st'
    ⟨start, rfl, rfl, rfl, rfl⟩ ((last.rest hrun).and stays) hlater
  · obtain ⟨-, -, decoded, failed, ctxId⟩ := same
    refine ⟨decoded, failed, ?_⟩
    simp only [rkSyncSurface, decoded, failed, ctxId]
  · rintro x act x' ⟨inv, fence, decoded, failed, ctxId⟩ ⟨last, stays⟩ hstep
    have ready' : (x.surfaces s).ready = true := by
      simpa only [Surface.ready, Surface.settled, decoded, failed, ctxId] using ready
    have stays' := stays x' hstep
    obtain ⟨decoded', failed', ctxId'⟩ := inv.kept hstep ready' (stays'.trans fence.symm)
    exact ⟨verdictInv_step inv last hstep, stays', decoded'.trans decoded, failed'.trans failed,
      ctxId'.trans ctxId⟩

/-! ## Runs -/

/-- A step that settles no surface. -/
theorem settlesLast_of_next {st st' : State} {act : ContextId × Action}
    (next : step st act = some st')
    (kept : ∀ s, (st.surfaces s).settled = false → (st'.surfaces s).settled = false) :
    SettlesLast st act := by
  intro st₁ same s before after
  obtain rfl := Option.some.inj (next.symm.trans same)
  rw [kept s before] at after
  cases after

theorem touched_begin_unsettled {surfaces : Surfaces} {r s : SurfaceId} {c : ContextId} {avc : Bool}
    (before : (surfaces s).settled = false) :
    (touched surfaces (some (r, .begin c avc)) s).settled = false := by
  rcases touched_cases surfaces (some (r, .begin c avc)) s with ⟨same, -⟩ | ⟨op, touch, after⟩
  · rw [same]
    exact before
  · obtain ⟨rfl, rfl⟩ := Prod.mk.inj (Option.some.inj touch)
    have unready := SurfaceOp.begin_unready (surfaces r) c avc
    rw [after]
    exact (Bool.or_eq_false_iff.mp unready).1

/-- A VP9 picture whose job cannot be built. -/
def failedBuild : List Action :=
  [.app (.callBegin 0), .app (.begin 0), .app .callEnd, .app (.build 0 (.vp9 false false false 0)),
    .app .release, .app (.failSurface 0)]

/-- The failed build is the only one that settles the surface. -/
theorem failedBuild_settlesLast : Throughout step SettlesLast
    (State.init (fun _ => .vp9) fun _ => 0) (runOf 0 (failedBuild ++ [.app (.callBegin 0)])) := by
  have untouched : ∀ {st st' : State} {act : ContextId × Action}, step st act = some st' →
      st'.surfaces = st.surfaces → SettlesLast st act := by
    intro st st' act next same
    exact settlesLast_of_next next fun s before => by rw [same]; exact before
  refine throughout_cons (untouched rfl rfl) rfl ?_
  refine throughout_cons (settlesLast_of_next rfl ?_) rfl ?_
  · exact fun s before => touched_begin_unsettled before
  refine throughout_cons (untouched rfl rfl) rfl ?_
  refine throughout_cons (untouched rfl rfl) rfl ?_
  refine throughout_cons (untouched rfl rfl) rfl ?_
  refine throughout_cons ?_ rfl (throughout_cons (untouched rfl rfl) rfl trivial)
  intro st' next s before after d
  obtain rfl := Option.some.inj next
  by_cases here : s = 0
  · subst here
    by_cases own : d = 0
    · subst own
      refine ⟨(fun same => by cases same), (fun job same => by cases same), ?_, ⟨?_, ?_, ?_, trivial⟩,
        trivial⟩
      · exact fun call mem => absurd mem List.not_mem_nil
      · exact fun job mem => absurd mem List.not_mem_nil
      · exact fun route mem => absurd mem List.not_mem_nil
      · exact fun route mem => absurd mem List.not_mem_nil
    · simp only [Function.update_of_ne own]
      exact nothingLeft_init false _ .vp9 0
  · have same := congrArg Surface.settled (Function.update_of_ne here
      ((SurfaceOp.fail 1).apply ((SurfaceOp.begin 0 false).apply Surface.init))
      (Function.update (fun _ => Surface.init) 0 ((SurfaceOp.begin 0 false).apply Surface.init)))
    exact absurd (after.symm.trans same) (by rw [Function.update_of_ne here]; decide)

theorem verdict_final_failedBuild : ∃ st st', run step (State.init (fun _ => .vp9) fun _ => 0)
      (runOf 0 failedBuild) = some st ∧ run step st (runOf 0 [.app (.callBegin 0)]) = some st' ∧
    rkSyncSurface (st.surfaces 0) = some .decodingError ∧
    rkSyncSurface (st'.surfaces 0) = some .decodingError := by
  obtain ⟨st, hrun, st', hlater, ready, verdict, stays⟩ : ∃ st, run step
      (State.init (fun _ => .vp9) fun _ => 0) (runOf 0 failedBuild) = some st ∧
      ∃ st', run step st (runOf 0 [.app (.callBegin 0)]) = some st' ∧
        (st.surfaces 0).ready = true ∧ rkSyncSurface (st.surfaces 0) = some .decodingError ∧
        Throughout step (StaysAt 0 (st.surfaces 0).fence) st (runOf 0 [.app (.callBegin 0)]) := by
    refine ⟨_, rfl, _, rfl, rfl, rfl, throughout_cons ?_ rfl trivial⟩
    intro st' next
    obtain rfl := Option.some.inj next
    rfl
  have final := verdict_final failedBuild_settlesLast hrun hlater stays ready
  exact ⟨st, st', hrun, hlater, verdict, final.2.2.trans verdict⟩

/-- Two fields of a pair are enqueued, and the packet of the first one is refused with the output
pool exhausted. -/
def refusedFieldRun : List (ContextId × Action) :=
  runOf 0 (pictureCalls 0 (.avc true false true) ++ pictureCalls 0 (.avc true false true) ++
    [.worker (.next false), .worker (.submit true)] ++
    (List.replicate 25 [Action.worker (.put .busy), .worker (.getFrame none false)]).flatten ++
    [.worker .complete])

/-- MPP accepts the packet of the second field and delivers its frame. -/
def secondFieldRun : List (ContextId × Action) :=
  runOf 0 (submitJob ++ [.worker (.next false)] ++ receiveFrame ⟨2, 1, false, false, false⟩ ++
    [.worker .publish])

/-- The surface stays at its fence, and `vaSyncSurface` returns an error first and then success. -/
theorem refusedField_becomes_decoded : ∃ st st',
    run step (State.init (fun _ => .avc) fun _ => 100) refusedFieldRun = some st ∧
    run step st secondFieldRun = some st' ∧
    Throughout step (StaysAt 0 (st.surfaces 0).fence) st secondFieldRun ∧
    (st.surfaces 0).settled = true ∧
    rkSyncSurface (st.surfaces 0) = some .decodingError ∧
    rkSyncSurface (st'.surfaces 0) = some .success := by
  have evaluated : (run step (State.init (fun _ => .avc) fun _ => 100) refusedFieldRun).any
      (fun st => (run step st secondFieldRun).any fun st' =>
        check step (staysAt 0 (st.surfaces 0).fence) st secondFieldRun &&
        (st.surfaces 0).settled && rkSyncSurface (st.surfaces 0) == some .decodingError &&
        rkSyncSurface (st'.surfaces 0) == some .success) = true := by
    decide +kernel
  obtain ⟨st, hrun, rest⟩ := (Option.any_eq_true _ _).mp evaluated
  obtain ⟨st', hlater, rest⟩ := (Option.any_eq_true _ _).mp rest
  simp only [Bool.and_eq_true, beq_iff_eq] at rest
  obtain ⟨⟨⟨stays, settled⟩, before⟩, after⟩ := rest
  exact ⟨st, st', hrun, hlater, (throughout_of_check stays).imp fun _ _ => staysAt_iff.mp, settled,
    before, after⟩

end RockchipVaapi.Decode
