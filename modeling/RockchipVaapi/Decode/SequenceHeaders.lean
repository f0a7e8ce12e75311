import RockchipVaapi.Decode.Fifo
import RockchipVaapi.Hevc.RoundTrip

/-!
# The HEVC sequence headers

A packet omits the VPS and SPS where they equal a cache: compared while the packet is built, stored
when its job is enqueued, and never taken back. MPP has the right ones at every accepted packet as
long as the jobs, taken in the order of the queue from what MPP has accepted, lead to the cache.
-/

namespace RockchipVaapi.Decode
open Transition Hevc

/-! ## Jobs and the headers they need -/

/-- The VPS and SPS for the picture of a job. -/
def Job.required (profileIdc : Nat) (job : Job) : Option (List UInt8) :=
  job.picture.bind fun picture => rkHevcWriteSequenceParameterSets 4096 picture.pp picture.iq profileIdc

/-- What `build_hevc_job` makes: the job carries its headers, or has seen them in the cache. -/
structure Built (profileIdc : Nat) (job : Job) : Prop where
  full : job.empty = false
  required : (job.required profileIdc).isSome = true
  headers : job.sequenceHeaders = job.required profileIdc ∨
    job.sequenceHeaders = none ∧ job.cacheSeen = job.required profileIdc

/-- The jobs in front of MPP: after each of them the last headers are those it needs, and after all
of them those of the cache. -/
def Chain (profileIdc : Nat) :
    Option (List UInt8) → List Job → Option (List UInt8) → Prop
  | sequence, [], cache => sequence = cache
  | sequence, job :: jobs, cache =>
    (job.empty = false ∧ (job.required profileIdc).isSome = true ∧
      job.sequenceHeaders.or sequence = job.required profileIdc) ∧
    Chain profileIdc (job.sequenceHeaders.or sequence) jobs cache

theorem Chain.snoc {profileIdc : Nat} {job : Job} (built : Built profileIdc job) :
    ∀ {jobs : List Job} {sequence cache : Option (List UInt8)},
      Chain profileIdc sequence jobs cache →
      (job.sequenceHeaders = none → job.cacheSeen = cache) →
      Chain profileIdc sequence (jobs ++ [job]) (job.sequenceHeaders.or cache) := by
  intro jobs
  induction jobs with
  | nil =>
    intro sequence cache chain current
    obtain rfl : sequence = cache := chain
    refine ⟨⟨built.full, built.required, ?_⟩, rfl⟩
    rcases built.headers with carried | ⟨omitted, seen⟩
    · obtain ⟨bytes, required⟩ := Option.isSome_iff_exists.mp built.required
      rw [carried, required]
      rfl
    · rw [omitted, Option.none_or, ← current omitted, seen]
  | cons first jobs ih =>
    intro sequence cache chain current
    exact ⟨chain.1, ih chain.2 current⟩

/-- A job that carries no headers can be dropped. -/
theorem Chain.skip {profileIdc : Nat} {job : Job} {jobs : List Job}
    {sequence cache : Option (List UInt8)} (chain : Chain profileIdc sequence (job :: jobs) cache)
    (omitted : job.sequenceHeaders = none) : Chain profileIdc sequence jobs cache := by
  have rest := chain.2
  rw [omitted, Option.none_or] at rest
  exact rest

/-! ## The conditions -/

/-- The worker gives up no packet that carries headers. -/
def carriersAccepted (ctx : Context) : Action → Bool
  | .worker a =>
    match ctx.worker.hand with
    | .submitting job => a != .submit false || job.sequenceHeaders.isNone
    | .waiting (some (job, _)) => !refuses ctx a || job.sequenceHeaders.isNone
    | _ => true
  | _ => true

/-- A job without headers is enqueued only while the cache is what its build compared with. -/
def cacheCurrent (ctx : Context) : Action → Bool
  | .app (.enqueue i) =>
    match ctx.calls[i]? with
    | some (.enqueue job) => job.sequenceHeaders.isSome || job.cacheSeen == ctx.hevcSequenceHeaders
    | _ => true
  | _ => true

/-! ## What the calls build -/

theorem buildHevcJob_built {ctx : Context} {surface : SurfaceId} {fence : Nat}
    {picture : HevcPicture} {job : Job} (h : buildHevcJob ctx surface fence picture = some job) :
    Built ctx.profileIdc job := by
  obtain ⟨sequence, written, same⟩ := Option.bind_eq_some_iff.mp h
  obtain rfl := Option.some.inj same
  have required : Job.required ctx.profileIdc { decodeJobCreate surface fence false with
      sequenceHeaders := if ctx.hevcSequenceHeaders ≠ some sequence then some sequence else none
      picture := some picture
      cacheSeen := ctx.hevcSequenceHeaders } = some sequence := written
  refine ⟨rfl, by rw [required]; rfl, ?_⟩
  rw [required]
  by_cases changed : ctx.hevcSequenceHeaders = some sequence
  · refine .inr ⟨?_, changed⟩
    exact if_neg fun h => h changed
  · exact .inl (if_pos changed)

theorem rkMppDecBuildJob_built {ctx : Context} {surface : SurfaceId} {fence : Nat}
    {input : BuildInput} {job : Job} (hevc : ctx.coding = .hevc)
    (h : rkMppDecBuildJob ctx surface fence input = some job) : Built ctx.profileIdc job := by
  unfold rkMppDecBuildJob at h
  rw [hevc] at h
  cases input with
  | hevc ok picture =>
    cases ok with
    | false => cases h
    | true => exact buildHevcJob_built h
  | avc ok empty field => cases h
  | vp9 ok empty hidden repeatSlot => cases h

structure BuiltCalls (profileIdc : Nat) (ctx : Context) : Prop where
  calls : ∀ job, Call.enqueue job ∈ ctx.calls → Built profileIdc job
  endPicture : ∀ job, ctx.endPicture = some (some job) → Built profileIdc job

/-- No call makes a job to enqueue other than by the build. -/
theorem AppMove.builtCalls {c : ContextId} {ctx ctx' : Context} {surfaces : Surfaces}
    {a : AppAction} {t : Touch} (hevc : ctx.coding = .hevc) (h : BuiltCalls ctx.profileIdc ctx)
    (move : AppMove c ctx surfaces a ctx' t) : BuiltCalls ctx.profileIdc ctx' := by
  rcases h with ⟨calls, held⟩
  have erased : ∀ i job, Call.enqueue job ∈ ctx.calls.eraseIdx i → Built ctx.profileIdc job :=
    fun i job mem => calls job (List.mem_of_mem_eraseIdx mem)
  have added : ∀ {call : Call}, (∀ job, call ≠ .enqueue job) →
      ∀ job, Call.enqueue job ∈ ctx.calls ++ [call] → Built ctx.profileIdc job := by
    intro call other job mem
    rcases List.mem_append.mp mem with mem | mem
    · exact calls job mem
    · exact absurd (List.mem_singleton.mp mem).symm (other job)
  have replaced : ∀ {i : Nat} {call : Call}, (∀ job, call ≠ .enqueue job) →
      ∀ job, Call.enqueue job ∈ ctx.calls.set i call → Built ctx.profileIdc job := by
    intro i call other job mem
    rcases List.mem_or_eq_of_mem_set mem with mem | same
    · exact calls job mem
    · exact absurd same.symm (other job)
  cases move with
  | callBegin live => exact ⟨added (fun job same => by cases same), held⟩
  | callEnd live => exact ⟨added (fun job same => by cases same), held⟩
  | destroy live => exact ⟨calls, held⟩
  | begin call free =>
    refine ⟨?_, held⟩
    unfold beginSection
    cases ctx.render with
    | none => exact erased _
    | some target => exact replaced (fun job same => by cases same)
  | buildNothing call free render => exact ⟨erased _, held⟩
  | build call free render =>
    refine ⟨erased _, ?_⟩
    intro job same
    exact rkMppDecBuildJob_built hevc (Option.some.inj same)
  | release render endPicture =>
    refine ⟨?_, fun job same => by cases same⟩
    intro job mem
    rcases List.mem_append.mp mem with mem | mem
    · exact calls job mem
    · obtain rfl := Call.enqueue.inj (List.mem_singleton.mp mem)
      exact held _ endPicture
  | releaseFailed render endPicture =>
    exact ⟨added (fun job same => by cases same), fun job same => by cases same⟩
  | failSurface call => exact ⟨erased _, held⟩
  | enqueueStopped call stopped => exact ⟨replaced (fun job same => by cases same), held⟩
  | enqueue call => exact ⟨erased _, held⟩
  | reject call => exact ⟨erased _, held⟩

/-! ## The invariant -/

structure HevcInv (profileIdc : Nat) (ctx : Context) : Prop where
  hevc : ctx.coding = .hevc
  profile : ctx.profileIdc = profileIdc
  built : BuiltCalls profileIdc ctx
  fresh : ∀ job kind, ctx.work.hand.packet = some (job, kind) → kind = .fresh
  chain : ctx.work.hand = .exited ∨
    Chain profileIdc ctx.mppSequence ctx.work.upcoming ctx.hevcSequenceHeaders

section

variable {ctx : Context} {surfaces : Surfaces} {a : WorkerAction} {t : Touch} {w : Work}
  {profileIdc : Nat}

/-- An HEVC context submits packets with a new token route only. -/
theorem WorkerMove.fresh (h : HevcInv profileIdc ctx) (move : WorkerMove ctx surfaces a t w) :
    ∀ job kind, w.hand.packet = some (job, kind) → kind = .fresh := by
  have keep : ∀ {packet}, ctx.work.hand.packet = packet → w.hand.packet = packet →
      ∀ job kind, w.hand.packet = some (job, kind) → kind = .fresh := by
    intro packet before after job kind same
    exact h.fresh job kind (before.trans (after.symm.trans same))
  have token : ctx.coding.usesTokenRoutes = true := by
    rw [h.hevc]
    rfl
  cases move with
  | quiet => exact h.fresh
  | pair hand coding found => rw [h.hevc] at coding; cases coding
  | route hand coding =>
    intro job kind same
    exact (Prod.mk.inj (Option.some.inj same)).2.symm
  | hide hand coding => rw [token] at coding; cases coding
  | queue hand coding queues => rw [token] at coding; cases coding
  | repeatHidden hand queues => cases h.fresh _ _ (congrArg Hand.packet hand)
  | drop action shown hand none_left => exact keep rfl rfl
  | arrive action shown hand taken => exact keep (congrArg Hand.packet hand) rfl
  | stale hand fence => exact keep (congrArg Hand.packet hand) rfl
  | failAssign hand => exact keep (congrArg Hand.packet hand) rfl
  | publish worker => exact keep (congrArg (fun x : Worker => x.hand.packet) worker) rfl
  | complete hand => exact keep (congrArg Hand.packet hand) rfl
  | _ =>
    intro job kind same
    cases same

/-- A packet with headers is not given up: what is given up can be skipped. -/
theorem carriersAccepted_submitting (carriers : carriersAccepted ctx (.worker a) = true) {job : Job}
    (hand : ctx.work.hand = .submitting job) (action : a = .submit false) :
    job.sequenceHeaders = none := by
  unfold carriersAccepted at carriers
  rw [show ctx.worker.hand = _ from hand, action] at carriers
  simpa only [bne_self_eq_false, Bool.false_or, Option.isNone_iff_eq_none] using carriers

theorem carriersAccepted_refused (carriers : carriersAccepted ctx (.worker a) = true) {job : Job}
    {kind : Kind} (hand : ctx.work.hand = .waiting (some (job, kind)))
    (refused : refuses ctx a = true) : job.sequenceHeaders = none := by
  unfold carriersAccepted at carriers
  rw [show ctx.worker.hand = _ from hand] at carriers
  simpa only [refused, Bool.not_true, Bool.false_or, Option.isNone_iff_eq_none] using carriers

theorem WorkerMove.chain (h : HevcInv profileIdc ctx)
    (carriers : carriersAccepted ctx (.worker a) = true) (move : WorkerMove ctx surfaces a t w) :
    w.hand = .exited ∨ Chain profileIdc w.mppSequence w.upcoming ctx.hevcSequenceHeaders := by
  -- the worker has not exited, so the chain is there
  have chain : ∀ {hand : Hand}, ctx.work.hand = hand → hand ≠ .exited →
      Chain profileIdc ctx.mppSequence (hand.held ++ ctx.jobs) ctx.hevcSequenceHeaders := by
    intro hand same running
    rcases h.chain with exited | chain
    · exact absurd (same.symm.trans exited) running
    · unfold Work.upcoming at chain
      rw [same] at chain
      exact chain
  have fresh := h.fresh
  cases move with
  | quiet => exact h.chain
  | exit hand => exact .inl rfl
  | fetch hand queue =>
    have before := chain hand (by simp)
    rw [queue] at before
    exact .inr before
  | finish hand why =>
    have before := chain hand (by simp)
    rcases why with empty | action
    · rw [before.1.1] at empty
      cases empty
    · exact .inr (before.skip (carriersAccepted_submitting carriers hand action))
  | pair hand coding found =>
    have before := chain hand (by simp)
    exact .inr before
  | route hand coding =>
    have before := chain hand (by simp)
    exact .inr before
  | hide hand coding =>
    have before := chain hand (by simp)
    exact .inr before
  | queue hand coding queues =>
    have before := chain hand (by simp)
    exact .inr before
  | refuse hand refused =>
    have before := chain hand (by simp)
    exact .inr (before.skip (carriersAccepted_refused carriers hand refused))
  | accept hand kinds =>
    have before := chain hand (by simp)
    exact .inr before.2
  | replace hand => cases fresh _ _ (congrArg Hand.packet hand)
  | lose hand kinds =>
    obtain rfl := fresh _ _ (congrArg Hand.packet hand)
    rcases kinds with same | ⟨token, same⟩ <;> cases same
  | repeatHidden hand queues => cases fresh _ _ (congrArg Hand.packet hand)
  | drop action shown hand none_left => exact h.chain
  | arrive action shown hand taken =>
    have before := chain hand (by simp)
    rename_i frame patience packet route
    have jobs : (takeRoute ctx frame).2.jobs = ctx.jobs := takeRoute_jobs ctx frame
    have sequence : (takeRoute ctx frame).2.mppSequence = ctx.mppSequence := by
      unfold takeRoute
      split <;> rfl
    refine .inr ?_
    simp only [Work.upcoming, Context.work, jobs, sequence]
    exact before
  | stale hand fence =>
    have before := chain hand (by simp)
    exact .inr before
  | failAssign hand =>
    have before := chain hand (by simp)
    exact .inr before
  | publish worker =>
    rename_i route frame output k
    have hand : ctx.work.hand = .assigning route frame k.packet := congrArg Worker.hand worker
    have before := chain hand (by simp)
    exact .inr before
  | complete hand =>
    have before := chain hand (by simp)
    exact .inr before
  | stall hand =>
    have before := chain hand (by simp)
    exact .inr before
  | failRoute hand =>
    have before := chain hand (by simp)
    exact .inr before
  | recover hand =>
    have before := chain hand (by simp)
    exact .inr before

end

theorem BuiltCalls.of_eq {profileIdc : Nat} {ctx ctx' : Context} (h : BuiltCalls profileIdc ctx)
    (calls : ctx'.calls = ctx.calls) (endPicture : ctx'.endPicture = ctx.endPicture) :
    BuiltCalls profileIdc ctx' := by
  rcases h with ⟨built, held⟩
  refine ⟨?_, ?_⟩
  · rw [calls]
    exact built
  · rw [endPicture]
    exact held

theorem HevcInv.enqueue {profileIdc : Nat} {ctx : Context} {i : Nat} {job : Job}
    (h : HevcInv profileIdc ctx) (call : ctx.calls[i]? = some (.enqueue job))
    (current : cacheCurrent ctx (.app (.enqueue i)) = true) :
    ctx.work.hand = .exited ∨ Chain profileIdc ctx.mppSequence
      (ctx.work.upcoming ++
        [{ job with token := nextToken ctx.nextToken, serial := ctx.enqueued.length }])
      (job.sequenceHeaders.or ctx.hevcSequenceHeaders) := by
  rcases h.chain with exited | chain
  · exact .inl exited
  · refine .inr ?_
    obtain ⟨full, required, headers⟩ := h.built.calls job (List.mem_of_getElem? call)
    have built : Built profileIdc
        { job with token := nextToken ctx.nextToken, serial := ctx.enqueued.length } :=
      ⟨full, required, headers⟩
    apply Chain.snoc built chain
    intro omitted
    have omitted' : job.sequenceHeaders = none := omitted
    simp only [cacheCurrent, call, omitted', Option.isSome_none, Bool.false_or, beq_iff_eq]
      at current
    exact current

theorem hevcInv_step {profileIdc : Nat} {c : ContextId} {ctx ctx' : Context} {surfaces : Surfaces}
    {a : Action} {t : Touch} (h : HevcInv profileIdc ctx)
    (carriers : carriersAccepted ctx a = true) (current : cacheCurrent ctx a = true)
    (hstep : ctxStep c ctx surfaces a = some (ctx', t)) : HevcInv profileIdc ctx' := by
  cases a with
  | app a =>
    have move := appStep_move hstep
    have built : BuiltCalls profileIdc ctx' := by
      have same := h.profile
      have kept := move.builtCalls h.hevc (same.symm ▸ h.built)
      exact same ▸ kept
    rcases appStep_cases hstep with same | ⟨i, job, rfl, call, rfl⟩
    · refine ⟨same.coding.trans h.hevc, same.profileIdc.trans h.profile, built, ?_, ?_⟩
      · rw [same.work]
        exact h.fresh
      · rw [same.work, same.mppSequence, same.hevcSequenceHeaders]
        exact h.chain
    · refine ⟨h.hevc, h.profile, built, h.fresh, ?_⟩
      rcases h.enqueue call current with exited | chain
      · exact .inl exited
      · unfold Work.upcoming at chain
        rw [List.append_assoc] at chain
        exact .inr chain
  | worker a =>
    obtain ⟨move, calls⟩ := workerStep_move hstep
    refine ⟨calls.coding.trans h.hevc, calls.profileIdc.trans h.profile,
      h.built.of_eq calls.calls calls.endPicture, move.fresh h, ?_⟩
    rw [calls.hevcSequenceHeaders]
    exact move.chain h carriers
  | stop a =>
    have callsKept := (stopStep_move hstep).calls
    rcases stopStep_cases hstep with same | joined
    · refine ⟨same.coding.trans h.hevc, same.profileIdc.trans h.profile,
        h.built.of_eq callsKept.1 callsKept.2, ?_, ?_⟩
      · rw [same.work]
        exact h.fresh
      · rw [same.work, same.mppSequence, same.hevcSequenceHeaders]
        exact h.chain
    · have hand : ctx'.work.hand = .exited := by
        rw [joined.work]
        exact congrArg Worker.hand joined.worker
      refine ⟨joined.coding.trans h.hevc, joined.profileIdc.trans h.profile,
        h.built.of_eq callsKept.1 callsKept.2, ?_, .inl hand⟩
      intro job kind packet
      rw [hand] at packet
      cases packet
  | exportSurface surface =>
    obtain ⟨rfl, -⟩ := Prod.mk.inj (Option.some.inj hstep)
    exact h

theorem hevcInv_init (profileIdc : Nat) : HevcInv profileIdc (Context.init .hevc profileIdc) where
  hevc := rfl
  profile := rfl
  built := ⟨fun job mem => absurd mem List.not_mem_nil, fun job same => by cases same⟩
  fresh job kind packet := by cases packet
  chain := .inr rfl

/-! ## Whole runs -/

/-- No packet with headers is given up, and no job without headers is enqueued after the cache has
changed under it. -/
def HeaderDiscipline (c : ContextId) (st : State) (act : ContextId × Action) : Bool :=
  act.1 != c || carriersAccepted (st.contexts c) act.2 && cacheCurrent (st.contexts c) act.2

/-- In a run of such steps, MPP has the VPS and SPS of every packet that it accepts: the last ones
among the accepted packets, this one included, are those written for its picture. -/
theorem hevcSequence_current {coding : ContextId → Coding} {profileIdc : ContextId → Nat}
    {c : ContextId} (hevc : coding c = .hevc) {acts : List (ContextId × Action)} {st st' : State}
    (hrun : run step (State.init coding profileIdc) acts = some st)
    (discipline : Throughout step (fun st act => HeaderDiscipline c st act = true)
      (State.init coding profileIdc) acts)
    {sub : Submission} (worker : (st.contexts c).worker = .put sub) (tries : sub.tries < 500)
    {made : Bool} (accepted : step st (c, .worker (.put (.accepted made))) = some st') :
    ∃ picture bytes, sub.job.picture = some picture ∧
      rkHevcWriteSequenceParameterSets 4096 picture.pp picture.iq (profileIdc c) = some bytes ∧
      (st'.contexts c).mppSequence = some bytes := by
  have inv : HevcInv (profileIdc c) (st.contexts c) := by
    apply context_invariant_throughout (c := c)
      (Q := fun ctx a => carriersAccepted ctx a = true ∧ cacheCurrent ctx a = true) ?_ ?_ ?_ hrun
    · intro ctx surfaces a ctx' t h condition hstep
      exact hevcInv_step h condition.1 condition.2 hstep
    · rw [show (State.init coding profileIdc).contexts c = Context.init .hevc (profileIdc c) by
        rw [← hevc]; rfl]
      exact hevcInv_init (profileIdc c)
    · refine discipline.imp ?_
      intro s act condition same
      simpa only [HeaderDiscipline, same, bne_self_eq_false, Bool.false_or, Bool.and_eq_true]
        using condition
  have hand : (st.contexts c).work.hand = .waiting (some (sub.job, sub.kind)) :=
    congrArg Worker.hand worker
  have fresh := inv.fresh sub.job sub.kind (congrArg Hand.packet hand)
  have needed : (sub.job.required (profileIdc c)).isSome = true ∧
      sub.job.sequenceHeaders.or (st.contexts c).mppSequence = sub.job.required (profileIdc c) := by
    rcases inv.chain with exited | chain
    · rw [hand] at exited
      cases exited
    · unfold Work.upcoming at chain
      rw [hand] at chain
      exact chain.1.2
  obtain ⟨ctx, t, hctx, self, -, -⟩ := step_cases accepted
  have sequence : ctx.mppSequence = sub.job.sequenceHeaders.or (st.contexts c).mppSequence := by
    simp only [ctxStep, workerStep, worker, if_neg (Nat.not_le_of_lt tries)] at hctx
    obtain ⟨rfl, -⟩ := Prod.mk.inj (Option.some.inj hctx)
    simp only [packetAccepted, fresh, drainHevcAfterSubmit]
    split <;> rfl
  obtain ⟨bytes, required⟩ := Option.isSome_iff_exists.mp needed.1
  obtain ⟨picture, same, written⟩ := Option.bind_eq_some_iff.mp required
  refine ⟨picture, bytes, same, written, ?_⟩
  rw [self, sequence, needed.2, required]

/-- The worker has a packet to put, and MPP accepts it; `p` sees the job and the state behind. -/
def acceptsNext (st : State) (p : Job → Context → Bool) : Bool :=
  match (st.contexts 0).worker with
  | .put sub =>
    decide (sub.tries < 500) &&
      (step st (0, .worker (.put (.accepted true)))).any fun st' => p sub.job (st'.contexts 0)
  | _ => false

theorem acceptsNext_cases {st : State} {p : Job → Context → Bool} (h : acceptsNext st p = true) :
    ∃ sub st', (st.contexts 0).worker = .put sub ∧ sub.tries < 500 ∧
      step st (0, .worker (.put (.accepted true))) = some st' ∧ p sub.job (st'.contexts 0) = true := by
  unfold acceptsNext at h
  split at h
  · rename_i sub worker
    obtain ⟨tries, accepted⟩ := Bool.and_eq_true_iff.mp h
    obtain ⟨st', hstep, holds⟩ := (Option.any_eq_true _ _).mp accepted
    exact ⟨sub, st', worker, of_decide_eq_true tries, hstep, holds⟩
  · cases h

/-- Two pictures with the same parameters; the packet of the first, which carries the VPS and SPS,
is refused with the output pool exhausted. -/
def refusedCarrierRun : List (ContextId × Action) :=
  runOf 0 (pictureCalls 0 (.hevc true ⟨blockPicture, none⟩) ++
    [.worker (.next false), .worker (.submit true)] ++
    (List.replicate 25 [Action.worker (.put .busy), .worker (.getFrame none false)]).flatten ++
    [.worker .complete] ++
    pictureCalls 1 (.hevc true ⟨blockPicture, none⟩) ++
    [.worker (.next false), .worker (.submit true)])

/-- MPP accepts the packet of the second picture without ever having seen its VPS and SPS. -/
theorem refusedCarrier_loses_headers :
    ∃ st st' sub bytes, run step (State.init (fun _ => .hevc) fun _ => 1) refusedCarrierRun = some st ∧
      (st.contexts 0).worker = .put sub ∧ sub.tries < 500 ∧
      step st (0, .worker (.put (.accepted true))) = some st' ∧
      sub.job.required 1 = some bytes ∧ (st'.contexts 0).mppSequence = none := by
  have evaluated : (run step (State.init (fun _ => .hevc) fun _ => 1) refusedCarrierRun).any
      (fun st => acceptsNext st fun job ctx =>
        (job.required 1).isSome && ctx.mppSequence.isNone) = true := by
    decide +kernel
  obtain ⟨st, hrun, next⟩ := (Option.any_eq_true _ _).mp evaluated
  obtain ⟨sub, st', worker, tries, hstep, lost⟩ := acceptsNext_cases next
  obtain ⟨required, none_sent⟩ := Bool.and_eq_true_iff.mp lost
  obtain ⟨bytes, written⟩ := Option.isSome_iff_exists.mp required
  exact ⟨st, st', sub, bytes, hrun, worker, tries, hstep, written,
    Option.isNone_iff_eq_none.mp none_sent⟩

/-- Two pictures with the same parameters; the packet of the second omits the VPS and SPS. -/
def omittedHeadersRun : List (ContextId × Action) :=
  runOf 0 (pictureCalls 0 (.hevc true ⟨blockPicture, none⟩) ++ submitJob ++
    [.worker (.getFrame none false)] ++ pictureCalls 1 (.hevc true ⟨blockPicture, none⟩) ++
    [.worker (.next false), .worker (.submit true)])

theorem hevcSequence_current_picture : ∃ st st' sub picture bytes,
    (st.contexts 0).worker = .put sub ∧
      step st (0, .worker (.put (.accepted true))) = some st' ∧ sub.job.picture = some picture ∧
      rkHevcWriteSequenceParameterSets 4096 picture.pp picture.iq 1 = some bytes ∧
      (st'.contexts 0).mppSequence = some bytes := by
  have evaluated : (run step (State.init (fun _ => .hevc) fun _ => 1) omittedHeadersRun).any
      (fun st => acceptsNext st fun job _ => job.sequenceHeaders.isNone) = true := by
    decide +kernel
  have discipline : Throughout step (fun st act => HeaderDiscipline 0 st act = true)
      (State.init (fun _ => .hevc) fun _ => 1) omittedHeadersRun :=
    throughout_of_check (by decide +kernel)
  obtain ⟨st, hrun, next⟩ := (Option.any_eq_true _ _).mp evaluated
  obtain ⟨sub, st', worker, tries, hstep, -⟩ := acceptsNext_cases next
  obtain ⟨picture, bytes, same, written, sequence⟩ :=
    hevcSequence_current (c := 0) rfl hrun discipline worker tries hstep
  exact ⟨st, st', sub, picture, bytes, worker, hstep, same, written, sequence⟩

end RockchipVaapi.Decode
