import RockchipVaapi.Decode.System

/-!
# What a step can do

The facts every property of the decode system starts from: a step changes its own context and at
most one surface, the sections on a surface keep what they are not for, and an application call
leaves the worker's data alone unless it enqueues a job.
-/

namespace RockchipVaapi.Decode
open Transition

/-- A step of `c` is a step of its context and of at most one surface. -/
theorem step_cases {st st' : State} {c : ContextId} {a : Action} (h : step st (c, a) = some st') :
    ∃ ctx t, ctxStep c (st.contexts c) st.surfaces a = some (ctx, t) ∧ st'.contexts c = ctx ∧
      (∀ d, d ≠ c → st'.contexts d = st.contexts d) ∧ st'.surfaces = touched st.surfaces t := by
  obtain ⟨⟨ctx, t⟩, hstep, rfl⟩ := Option.map_eq_some_iff.mp h
  refine ⟨ctx, t, hstep, ?_, ?_, rfl⟩
  · exact Function.update_self ..
  · intro d hd
    exact Function.update_of_ne hd ..

theorem touched_of_ne {surfaces : Surfaces} {t : Touch} {s : SurfaceId}
    (h : ∀ op, t ≠ some (s, op)) : touched surfaces t s = surfaces s := by
  match t with
  | none => rfl
  | some (r, op) =>
    have other : s ≠ r := by
      rintro rfl
      exact h op rfl
    exact Function.update_of_ne other ..

theorem touched_self (surfaces : Surfaces) (s : SurfaceId) (op : SurfaceOp) :
    touched surfaces (some (s, op)) s = op.apply (surfaces s) := Function.update_self ..

/-- A surface after a step: unchanged, or after the section of the step. -/
theorem touched_cases (surfaces : Surfaces) (t : Touch) (s : SurfaceId) :
    touched surfaces t s = surfaces s ∧ (∀ op, t ≠ some (s, op)) ∨
      ∃ op, t = some (s, op) ∧ touched surfaces t s = op.apply (surfaces s) := by
  by_cases h : ∃ op, t = some (s, op)
  · obtain ⟨op, rfl⟩ := h
    exact .inr ⟨op, rfl, touched_self surfaces s op⟩
  · have none_of : ∀ op, t ≠ some (s, op) := fun op hop => h ⟨op, hop⟩
    exact .inl ⟨touched_of_ne none_of, none_of⟩

/-! ## Invariants of one context -/

section

variable {J : Context → Prop}

/-- What the steps of `c` that meet a condition keep, every run of such steps keeps. -/
theorem context_invariant_throughout {Q : Context → Action → Prop} {c : ContextId}
    (keep : ∀ ctx surfaces a ctx' t, J ctx → Q ctx a →
      ctxStep c ctx surfaces a = some (ctx', t) → J ctx')
    {acts : List (ContextId × Action)} {st st' : State} (start : J (st.contexts c))
    (meets : Throughout step (fun st act => act.1 = c → Q (st.contexts c) act.2) st acts)
    (hrun : run step st acts = some st') : J (st'.contexts c) := by
  refine run_invariant (I := fun st : State => J (st.contexts c)) ?_ acts st st' start meets hrun
  intro s act s' h condition hstep
  obtain ⟨ctx, t, hctx, self, other, -⟩ := step_cases hstep
  by_cases hd : act.1 = c
  · subst hd
    rw [self]
    exact keep _ _ _ _ _ h (condition rfl) hctx
  · have ne : c ≠ act.1 := fun h => hd h.symm
    rw [other c ne]
    exact h

/-- What every step of a context keeps, every run keeps. -/
theorem context_invariant {c : ContextId}
    (start : ∀ coding profileIdc, J (Context.init coding profileIdc))
    (keep : ∀ ctx surfaces a ctx' t, J ctx → ctxStep c ctx surfaces a = some (ctx', t) → J ctx')
    {st : State} (reachable : Reachable st) : J (st.contexts c) := by
  obtain ⟨coding, profileIdc, acts, hrun⟩ := reachable
  refine run_invariant' (I := fun st : State => J (st.contexts c)) ?_
    (start (coding c) (profileIdc c)) hrun
  intro s act s' h hstep
  obtain ⟨ctx, t, hctx, self, other, -⟩ := step_cases hstep
  by_cases hd : act.1 = c
  · subst hd
    rw [self]
    exact keep _ _ _ _ _ h hctx
  · have ne : c ≠ act.1 := fun h => hd h.symm
    rw [other c ne]
    exact h

end

/-! ## Sections on a surface -/

/-- Sections other than `rk_BeginPicture` keep the fence and the context of a surface. -/
theorem SurfaceOp.keeps {op : SurfaceOp} (h : ∀ c avc, op ≠ .begin c avc) (s : Surface) :
    (op.apply s).fence = s.fence ∧ (op.apply s).ctxId = s.ctxId ∧ (op.apply s).begins = s.begins := by
  cases op with
  | begin c avc => exact absurd rfl (h c avc)
  | mark fence field => simp only [SurfaceOp.apply]; split <;> exact ⟨rfl, rfl, rfl⟩
  | complete fence success => simp only [SurfaceOp.apply]; split <;> exact ⟨rfl, rfl, rfl⟩
  | fail fence => simp only [SurfaceOp.apply]; split <;> exact ⟨rfl, rfl, rfl⟩
  | publish fence output => simp only [SurfaceOp.apply]; split <;> exact ⟨rfl, rfl, rfl⟩
  | exportStable => simp only [SurfaceOp.apply]; split <;> exact ⟨rfl, rfl, rfl⟩

/-! ## Application calls -/

/-- The data of the worker and of the queue, which a call that enqueues nothing leaves alone. -/
structure SameWork (ctx ctx' : Context) : Prop where
  coding : ctx'.coding = ctx.coding
  profileIdc : ctx'.profileIdc = ctx.profileIdc
  jobs : ctx'.jobs = ctx.jobs
  nextToken : ctx'.nextToken = ctx.nextToken
  hevcSequenceHeaders : ctx'.hevcSequenceHeaders = ctx.hevcSequenceHeaders
  worker : ctx'.worker = ctx.worker
  h264Routes : ctx'.h264Routes = ctx.h264Routes
  genericRoutes : ctx'.genericRoutes = ctx.genericRoutes
  enqueued : ctx'.enqueued = ctx.enqueued
  owed : ctx'.owed = ctx.owed
  mppSequence : ctx'.mppSequence = ctx.mppSequence

/-- What an action of the application can do. -/
inductive AppMove (c : ContextId) (ctx : Context) (surfaces : Surfaces) :
    AppAction → Context → Touch → Prop
  | callBegin {surface : SurfaceId} (live : ctx.destroyed = false) :
    AppMove c ctx surfaces (.callBegin surface)
      { ctx with calls := ctx.calls ++ [.begin surface] } none
  | callEnd (live : ctx.destroyed = false) :
    AppMove c ctx surfaces .callEnd { ctx with calls := ctx.calls ++ [.build] } none
  | destroy (live : ctx.destroyed = false) :
    AppMove c ctx surfaces .destroy { ctx with destroyed := true } none
  | begin {i : Nat} {surface : SurfaceId} (call : ctx.calls[i]? = some (.begin surface))
      (free : ctx.endPicture = none) :
    AppMove c ctx surfaces (.begin i) (beginSection c ctx surfaces i surface).1
      (some (surface, .begin c (ctx.coding == .avc)))
  | buildNothing {i : Nat} {input : BuildInput} (call : ctx.calls[i]? = some .build)
      (free : ctx.endPicture = none) (render : ctx.render = none) :
    AppMove c ctx surfaces (.build i input) { ctx with calls := ctx.calls.eraseIdx i } none
  | build {i : Nat} {input : BuildInput} {surface : SurfaceId} {fence : Nat}
      (call : ctx.calls[i]? = some .build) (free : ctx.endPicture = none)
      (render : ctx.render = some (surface, fence)) :
    AppMove c ctx surfaces (.build i input)
      { ctx with
        calls := ctx.calls.eraseIdx i
        endPicture := some (rkMppDecBuildJob ctx surface fence input) } none
  | release {surface : SurfaceId} {fence : Nat} {job : Job}
      (render : ctx.render = some (surface, fence)) (held : ctx.endPicture = some (some job)) :
    AppMove c ctx surfaces .release
      { ctx with calls := ctx.calls ++ [.enqueue job], render := none, endPicture := none }
      (some (surface, .mark fence job.h264Field))
  | releaseFailed {surface : SurfaceId} {fence : Nat}
      (render : ctx.render = some (surface, fence)) (held : ctx.endPicture = some none) :
    AppMove c ctx surfaces .release
      { ctx with
        calls := ctx.calls ++ [.failSurface surface fence], render := none, endPicture := none } none
  | failSurface {i : Nat} {surface : SurfaceId} {fence : Nat}
      (call : ctx.calls[i]? = some (.failSurface surface fence)) :
    AppMove c ctx surfaces (.failSurface i) { ctx with calls := ctx.calls.eraseIdx i }
      (some (surface, .fail fence))
  | enqueueStopped {i : Nat} {job : Job} (call : ctx.calls[i]? = some (.enqueue job))
      (stopped : ctx.workerStop = true) :
    AppMove c ctx surfaces (.enqueue i) { ctx with calls := ctx.calls.set i (.reject job) } none
  | enqueue {i : Nat} {job : Job} (call : ctx.calls[i]? = some (.enqueue job)) :
    AppMove c ctx surfaces (.enqueue i)
      (rkMppDecEnqueueJob { ctx with calls := ctx.calls.eraseIdx i } job) none
  | reject {i : Nat} {job : Job} (call : ctx.calls[i]? = some (.reject job)) :
    AppMove c ctx surfaces (.reject i) { ctx with calls := ctx.calls.eraseIdx i }
      (some (job.surface, .complete job.fence false))

theorem appStep_move {c : ContextId} {ctx ctx' : Context} {surfaces : Surfaces} {a : AppAction}
    {t : Touch} (h : appStep c ctx surfaces a = some (ctx', t)) :
    AppMove c ctx surfaces a ctx' t := by
  cases a with
  | callBegin surface =>
    simp only [appStep] at h
    split at h
    · cases h
    · rename_i live
      obtain ⟨rfl, rfl⟩ := Prod.mk.inj (Option.some.inj h)
      exact .callBegin (eq_false_of_ne_true live)
  | callEnd =>
    simp only [appStep] at h
    split at h
    · cases h
    · rename_i live
      obtain ⟨rfl, rfl⟩ := Prod.mk.inj (Option.some.inj h)
      exact .callEnd (eq_false_of_ne_true live)
  | destroy =>
    simp only [appStep] at h
    split at h
    · cases h
    · rename_i live
      obtain ⟨rfl, rfl⟩ := Prod.mk.inj (Option.some.inj h)
      exact .destroy (eq_false_of_ne_true live)
  | begin i =>
    simp only [appStep] at h
    split at h
    · rename_i surface call free
      obtain ⟨rfl, rfl⟩ := Prod.mk.inj (Option.some.inj h)
      exact .begin call free
    · cases h
  | build i input =>
    simp only [appStep] at h
    split at h
    · rename_i call free
      obtain ⟨rfl, rfl⟩ := Prod.mk.inj (Option.some.inj h)
      unfold buildSection
      split
      · rename_i render
        exact .buildNothing call free render
      · rename_i surface fence render
        exact .build call free render
    · cases h
  | release =>
    simp only [appStep] at h
    split at h
    · rename_i surface fence job render held
      cases job with
      | some job =>
        obtain ⟨rfl, rfl⟩ := Prod.mk.inj (Option.some.inj h)
        exact .release render held
      | none =>
        obtain ⟨rfl, rfl⟩ := Prod.mk.inj (Option.some.inj h)
        exact .releaseFailed render held
    · cases h
  | failSurface i =>
    simp only [appStep] at h
    split at h
    · rename_i surface fence call
      obtain ⟨rfl, rfl⟩ := Prod.mk.inj (Option.some.inj h)
      exact .failSurface call
    · cases h
  | enqueue i =>
    simp only [appStep] at h
    split at h
    · rename_i job call
      split at h
      · rename_i stopped
        obtain ⟨rfl, rfl⟩ := Prod.mk.inj (Option.some.inj h)
        exact .enqueueStopped call stopped
      · obtain ⟨rfl, rfl⟩ := Prod.mk.inj (Option.some.inj h)
        exact .enqueue call
    · cases h
  | reject i =>
    simp only [appStep] at h
    split at h
    · rename_i job call
      obtain ⟨rfl, rfl⟩ := Prod.mk.inj (Option.some.inj h)
      exact .reject call
    · cases h

/-- A call enqueues its job, or leaves the data of the worker alone. -/
theorem appStep_cases {c : ContextId} {ctx ctx' : Context} {surfaces : Surfaces} {a : AppAction}
    {t : Touch} (h : appStep c ctx surfaces a = some (ctx', t)) :
    SameWork ctx ctx' ∨ ∃ i job, a = .enqueue i ∧ ctx.calls[i]? = some (.enqueue job) ∧
      ctx' = rkMppDecEnqueueJob { ctx with calls := ctx.calls.eraseIdx i } job := by
  cases appStep_move h with
  | enqueue call => exact .inr ⟨_, _, rfl, call, rfl⟩
  | _ => exact .inl (by constructor <;> rfl)

/-! ## Teardown -/

/-- What an action of `rk_mpp_dec_stop` can do. -/
inductive StopMove (ctx : Context) : Context → Touch → Prop
  | drain (stop : ctx.stop = .notCalled) (destroyed : ctx.destroyed = true) (calls : ctx.calls = [])
      (free : ctx.endPicture = none) :
    StopMove ctx { ctx with workerDrain := true, stop := .joining } none
  | join (stop : ctx.stop = .joining) (worker : ctx.worker = .exited) :
    StopMove ctx
      { ctx with
        workerStop := true, jobs := [], h264Routes := [], genericRoutes := [], outstanding := 0
        stop := .failing (ctx.jobs.map (fun job => (job.surface, job.fence)) ++
          (ctx.h264Routes ++ ctx.genericRoutes).map (fun route => (route.surface, route.fence))) }
      none
  | failNext {surface : SurfaceId} {fence : Nat} {pending : List (SurfaceId × Nat)}
      (stop : ctx.stop = .failing ((surface, fence) :: pending)) :
    StopMove ctx { ctx with stop := .failing pending } (some (surface, .fail fence))
  | failRender (stop : ctx.stop = .failing []) :
    StopMove ctx { ctx with render := none, stop := .returned }
      (ctx.render.map fun target => (target.1, .fail target.2))

theorem stopStep_move {ctx ctx' : Context} {a : StopAction} {t : Touch}
    (h : stopStep ctx a = some (ctx', t)) : StopMove ctx ctx' t := by
  cases a with
  | drain =>
    simp only [stopStep] at h
    split at h
    · rename_i stop
      split at h
      · rename_i idle
        obtain ⟨destroyed, calls, free⟩ := idle
        obtain ⟨rfl, rfl⟩ := Prod.mk.inj (Option.some.inj h)
        exact .drain stop destroyed (List.isEmpty_iff.mp calls) (Option.isNone_iff_eq_none.mp free)
      · cases h
    · cases h
  | join =>
    simp only [stopStep] at h
    split at h
    · rename_i stop exited
      obtain ⟨rfl, rfl⟩ := Prod.mk.inj (Option.some.inj h)
      exact .join stop exited
    · cases h
  | failNext =>
    simp only [stopStep] at h
    split at h
    · rename_i surface fence pending stop
      obtain ⟨rfl, rfl⟩ := Prod.mk.inj (Option.some.inj h)
      exact .failNext stop
    · cases h
  | failRender =>
    simp only [stopStep] at h
    split at h
    · rename_i stop
      obtain ⟨rfl, rfl⟩ := Prod.mk.inj (Option.some.inj h)
      exact .failRender stop
    · cases h

/-- `rk_mpp_dec_stop` leaves the calls alone. -/
theorem StopMove.calls {ctx ctx' : Context} {t : Touch} (move : StopMove ctx ctx' t) :
    ctx'.calls = ctx.calls ∧ ctx'.endPicture = ctx.endPicture := by
  cases move <;> exact ⟨rfl, rfl⟩

/-! ## Parts of runs -/

/-- The calls for one picture. -/
def pictureCalls (surface : SurfaceId) (input : BuildInput) : List Action :=
  [.app (.callBegin surface), .app (.begin 0), .app .callEnd, .app (.build 0 input), .app .release,
    .app (.enqueue 0)]

/-- The worker fetches a job and MPP accepts its packet. -/
def submitJob : List Action :=
  [.worker (.next false), .worker (.submit true), .worker (.put (.accepted true))]

/-- The worker receives a frame, up to the last section of `assign_mpp_frame`. -/
def receiveFrame (frame : MppFrame) : List Action :=
  [.worker (.getFrame (some frame) false), .worker .check, .worker (.convert (.usable none)),
    .worker (.copy true), .worker (.retain (some (none, none)))]

/-- A run of one context. -/
def runOf (c : ContextId) (actions : List Action) : List (ContextId × Action) :=
  actions.map fun a => (c, a)

end RockchipVaapi.Decode
