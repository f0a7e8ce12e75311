import RockchipVaapi.Decode.Verdict

/-!
# Polling and waiting

`rk_QuerySurfaceStatus` looks at `decoded` and at the context of a surface, `sync_surface_timeout`
at `decode_failed` as well. The two agree as long as no picture fails: a failed one stays "rendering"
for a client that polls, while a client that waits gets the error.
-/

namespace RockchipVaapi.Decode
open Transition

/-- `VASurfaceStatus`, as far as the driver reports it. -/
inductive VASurfaceStatus
  | rendering
  | ready
  deriving DecidableEq, Repr

/-- `rk_QuerySurfaceStatus` (`surface.c:694-708`). -/
def rkQuerySurfaceStatus (s : Surface) : VASurfaceStatus :=
  if s.decoded || s.ctxId.isNone then .ready else .rendering

/-- What `vaSyncSurface2` returns at once. -/
inductive PollResult
  | success
  | decodingError
  | timedOut
  deriving DecidableEq, Repr

/-- `rk_SyncSurface2` with a timeout of 0 (`surface.c:647-665`). -/
def rkSyncSurface2 (s : Surface) : PollResult :=
  if s.decodeFailed then .decodingError
  else if s.decoded || s.ctxId.isNone then .success
  else .timedOut

/-- The poll reports `VASurfaceRendering` exactly where the call that waits would time out. -/
def Agrees (s : Surface) : Prop :=
  rkQuerySurfaceStatus s = .rendering ↔ rkSyncSurface2 s = .timedOut

/-- Where they agree, a client that polls stops when one that waits does. -/
theorem Agrees.stops {s : Surface} (h : Agrees s) :
    rkQuerySurfaceStatus s ≠ .rendering ↔ (rkSyncSurface s).isSome := by
  refine (not_congr h).trans ?_
  unfold rkSyncSurface2 rkSyncSurface
  split
  · simp
  · split
    · simp
    · simp

theorem agrees_iff (s : Surface) :
    Agrees s ↔ ¬(s.decodeFailed = true ∧ s.decoded = false ∧ s.ctxId ≠ none) := by
  unfold Agrees rkQuerySurfaceStatus rkSyncSurface2
  cases s.decodeFailed <;> cases s.decoded <;> cases s.ctxId <;> simp

/-! ## Failed surfaces -/

/-- The section marks the current picture of a surface as failed. -/
def SurfaceOp.Fails (s : Surface) : SurfaceOp → Prop
  | .complete fence false => s.fence = fence
  | .fail fence => s.fence = fence ∧ s.decoded = false
  | _ => False

/-- A surface that has not failed fails only in such a section. -/
theorem SurfaceOp.apply_decodeFailed (op : SurfaceOp) {s : Surface} (h : s.decodeFailed = false) :
    (op.apply s).decodeFailed = true ↔ op.Fails s := by
  cases op with
  | begin c avc =>
    simp only [SurfaceOp.apply, SurfaceOp.Fails]
    split <;> simp
  | mark fence field =>
    simp only [SurfaceOp.apply, SurfaceOp.Fails]
    split <;> simp [h]
  | complete fence success =>
    simp only [SurfaceOp.apply]
    split
    · rename_i current
      cases success <;> simp [SurfaceOp.Fails, current]
    · rename_i stale
      cases success <;> simp [SurfaceOp.Fails, stale, h]
  | fail fence =>
    simp only [SurfaceOp.apply, SurfaceOp.Fails]
    split
    · rename_i current
      exact ⟨fun _ => current, fun _ => rfl⟩
    · rename_i stale
      exact ⟨fun failed => absurd (h.symm.trans failed) Bool.false_ne_true, fun current =>
        absurd current stale⟩
  | publish fence output =>
    simp only [SurfaceOp.apply, SurfaceOp.Fails]
    split <;> simp [h]
  | exportStable =>
    simp only [SurfaceOp.apply, SurfaceOp.Fails]
    split <;> simp [h]

/-- No surface is both decoded and failed. -/
theorem SurfaceOp.apply_exclusive (op : SurfaceOp) {s : Surface}
    (h : s.decodeFailed = true → s.decoded = false) :
    (op.apply s).decodeFailed = true → (op.apply s).decoded = false := by
  cases op with
  | begin c avc =>
    simp only [SurfaceOp.apply]
    split <;> simp
  | mark fence field =>
    simp only [SurfaceOp.apply]
    split <;> exact h
  | complete fence success =>
    simp only [SurfaceOp.apply]
    split
    · cases success <;> simp
    · exact h
  | fail fence =>
    simp only [SurfaceOp.apply]
    split
    · rename_i current
      exact fun _ => current.2
    · exact h
  | publish fence output =>
    simp only [SurfaceOp.apply]
    split
    · simp
    · exact h
  | exportStable =>
    simp only [SurfaceOp.apply]
    split <;> exact h

/-- What the fields of a surface say about a failure. -/
structure PollInv (st : State) : Prop where
  exclusive : ∀ s, (st.surfaces s).decodeFailed = true → (st.surfaces s).decoded = false
  unused : ∀ s, (st.surfaces s).ctxId = none →
    ∀ d, NothingLeft true (s, (st.surfaces s).fence) (st.contexts d)
  begun : ∀ s, (st.surfaces s).ctxId = none → (st.surfaces s).decodeFailed = false

theorem pollInv_init (coding : ContextId → Coding) (profileIdc : ContextId → Nat) :
    PollInv (State.init coding profileIdc) where
  exclusive s failed := by cases failed
  unused s _ d := nothingLeft_init true _ (coding d) (profileIdc d)
  begun s _ := rfl

section

variable {st st' : State} {act : ContextId × Action}

theorem pollInv_step (h : PollInv st) (hstep : step st act = some st') : PollInv st' := by
  constructor
  · intro s
    obtain ⟨ctx, t, -, -, -, surfaces⟩ := step_cases (c := act.1) (a := act.2) hstep
    rw [surfaces]
    rcases touched_cases st.surfaces t s with ⟨same, -⟩ | ⟨op, -, after⟩
    · rw [same]
      exact h.exclusive s
    · rw [after]
      exact op.apply_exclusive (h.exclusive s)
  · intro s unused d
    exact nothingLeft_unused (h.unused s) hstep unused d
  · intro s unused
    rcases step_surface (s := s) hstep with ⟨avc, begun⟩ | ⟨-, ctxId, -, verdict⟩
    · rw [begun, (SurfaceOp.begin_cases _ _ _).1] at unused
      cases unused
    · have before := ctxId.symm.trans unused
      rw [(verdict true (h.unused s before act.1) (.inl rfl)).2]
      exact h.begun s before

/-- In a reachable state the two disagree exactly about the failed surfaces. -/
theorem PollInv.agrees_iff (h : PollInv st) (s : SurfaceId) :
    Agrees (st.surfaces s) ↔ (st.surfaces s).decodeFailed = false := by
  rw [Decode.agrees_iff]
  constructor
  · intro agrees
    by_contra failed
    rw [Bool.not_eq_false] at failed
    refine agrees ⟨failed, h.exclusive s failed, fun unused => ?_⟩
    rw [h.begun s unused] at failed
    cases failed
  · rintro fine ⟨failed, -⟩
    rw [fine] at failed
    cases failed

/-- The step marks the current picture of no surface as failed. -/
def FailsNone (st : State) (act : ContextId × Action) : Prop :=
  ∀ ctx s op, ctxStep act.1 (st.contexts act.1) st.surfaces act.2 = some (ctx, some (s, op)) →
    ¬op.Fails (st.surfaces s)

/-- A step after which the two agree about every surface. -/
theorem agrees_step (h : PollInv st) (agrees : ∀ s, Agrees (st.surfaces s))
    (hstep : step st act = some st') : (∀ s, Agrees (st'.surfaces s)) ↔ FailsNone st act := by
  have fine (s : SurfaceId) := (h.agrees_iff s).mp (agrees s)
  have next := pollInv_step h hstep
  obtain ⟨ctx, t, hctx, -, -, surfaces⟩ := step_cases (c := act.1) (a := act.2) hstep
  constructor
  · rintro after ctx' s op section_ fails
    obtain ⟨-, rfl⟩ := Prod.mk.inj (Option.some.inj (hctx.symm.trans section_))
    have failed := (op.apply_decodeFailed (fine s)).mpr fails
    rw [← touched_self, ← surfaces, (next.agrees_iff s).mp (after s)] at failed
    cases failed
  · intro none_fails s
    rw [next.agrees_iff, surfaces]
    rcases touched_cases st.surfaces t s with ⟨same, -⟩ | ⟨op, rfl, after⟩
    · rw [same]
      exact fine s
    · rw [after, ← Bool.not_eq_true, op.apply_decodeFailed (fine s)]
      exact none_fails ctx s op hctx

end

/-- Along a run, polling and waiting agree about every surface in every state exactly if no step
marks the current picture of a surface as failed. -/
theorem polling_agrees_iff {coding : ContextId → Coding} {profileIdc : ContextId → Nat}
    {acts : List (ContextId × Action)} {st : State}
    (hrun : run step (State.init coding profileIdc) acts = some st) :
    (∀ front back middle, acts = front ++ back →
      run step (State.init coding profileIdc) front = some middle →
        ∀ s, Agrees (middle.surfaces s)) ↔
      Throughout step FailsNone (State.init coding profileIdc) acts :=
  throughout_iff_reached (I := PollInv) (J := fun st => ∀ s, Agrees (st.surfaces s))
    (fun _ _ _ => pollInv_step) (fun _ _ _ h agrees _ => agrees_step h agrees)
    (pollInv_init coding profileIdc) (fun s => (agrees_iff _).mpr fun failed => by cases failed.1)
    (throughout_true _ acts) hrun

/-- A picture that is begun and waits for its `rk_EndPicture`. -/
def begunPicture : List (ContextId × Action) := runOf 0 [.app (.callBegin 0), .app (.begin 0)]

theorem polling_agrees_begun : ∃ st,
    run step (State.init (fun _ => .vp9) fun _ => 0) begunPicture = some st ∧
    rkQuerySurfaceStatus (st.surfaces 0) = .rendering ∧
    ∀ front back middle, begunPicture = front ++ back →
      run step (State.init (fun _ => .vp9) fun _ => 0) front = some middle →
        ∀ s, Agrees (middle.surfaces s) := by
  refine ⟨_, rfl, rfl, (polling_agrees_iff rfl).mpr ?_⟩
  refine throughout_cons ?_ rfl (throughout_cons ?_ rfl trivial)
  · rintro ctx s op same
    cases same
  · rintro ctx s op same
    obtain ⟨-, same⟩ := Prod.mk.inj (Option.some.inj same)
    obtain ⟨-, rfl⟩ := Prod.mk.inj (Option.some.inj same)
    exact id

/-- The picture that could not be built has failed, and a client that polls never learns it. -/
theorem failedBuild_keeps_rendering : ∃ st, Reachable st ∧
    rkQuerySurfaceStatus (st.surfaces 0) = .rendering ∧
    rkSyncSurface2 (st.surfaces 0) = .decodingError ∧ ¬Agrees (st.surfaces 0) := by
  refine ⟨_, ⟨fun _ => .vp9, fun _ => 0, runOf 0 failedBuild, rfl⟩, rfl, rfl, ?_⟩
  intro agrees
  exact absurd (agrees.mp rfl) (by decide)

end RockchipVaapi.Decode
