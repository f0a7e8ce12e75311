import RockchipVaapi.Decode.Steps

/-!
# The moves of the worker

The worker seen from the routes: what it has in its hands, and how a step moves jobs and routes
between the queue, the route lists and its hands. Retries, timers and counters are gone.
`workerStep_move` says that every step of the worker is such a move; the properties of the routing
are proved from the moves.
-/

namespace RockchipVaapi.Decode

/-- The packet a drain is part of the submission of. -/
def Resume.packet : Resume → Option (Job × Kind)
  | .put sub => some (sub.job, sub.kind)
  | _ => none

/-- What the worker has in its hands. `packet` is the packet it is submitting meanwhile. -/
inductive Hand
  | waiting (packet : Option (Job × Kind))
  | submitting (job : Job)
  | assigning (route : Route) (frame : MppFrame) (packet : Option (Job × Kind))
  | completing (surface : SurfaceId) (fence : Nat) (packet : Option (Job × Kind))
  | failing (routes : List Route)
  | exited

def Worker.hand : Worker → Hand
  | .mainLoop => .waiting none
  | .submit job => .submitting job
  | .put sub => .waiting (some (sub.job, sub.kind))
  | .eos _ => .waiting none
  | .drain k => .waiting k.packet
  | .check route frame k => .assigning route frame k.packet
  | .convert route frame k => .assigning route frame k.packet
  | .copy route frame _ k => .assigning route frame k.packet
  | .retain route frame _ _ k => .assigning route frame k.packet
  | .publish route frame _ k => .assigning route frame k.packet
  | .complete surface fence _ k => .completing surface fence (k.bind Resume.packet)
  | .failing routes => .failing routes
  | .exited => .exited

/-- The data of the worker. -/
structure Work where
  hand : Hand
  jobs : List Job
  h264Routes : List Route
  genericRoutes : List Route
  owed : List Nat
  mppSequence : Option (List UInt8)

def Context.work (ctx : Context) : Work where
  hand := ctx.worker.hand
  jobs := ctx.jobs
  h264Routes := ctx.h264Routes
  genericRoutes := ctx.genericRoutes
  owed := ctx.owed
  mppSequence := ctx.mppSequence

/-- The packet of a job is refused: without a packet, in a stop, after all tries, or with the pool
exhausted. -/
def refuses (ctx : Context) : WorkerAction → Bool
  | .put outcome =>
    match ctx.worker with
    | .put sub => 500 ≤ sub.tries || outcome == .unmade || outcome == .stopping
    | _ => false
  | .getFrame none patience =>
    match ctx.worker with
    | .drain (.put sub) => 25 ≤ sub.starved + 1 && !patience
    | _ => false
  | _ => false

/-- A route is queued for the frames of a VP9 context. -/
def queuesRoute (ctx : Context) : WorkerAction → Bool
  | .submit made =>
    match ctx.worker with
    | .submit job => !job.empty && !job.hidden && made
    | _ => false
  | .put (.accepted made) =>
    match ctx.worker with
    | .put ⟨job, .hidden, _, _⟩ => decide (job.repeatSlot < 8) && made
    | _ => false
  | _ => false

/-- The routes and the hands after a refused packet. -/
def Work.refused (w : Work) (job : Job) (kind : Kind) : Work :=
  { w with
    hand := .completing job.surface job.fence none
    h264Routes := match kind with
      | .fresh => (h264RouteTake job.token w.h264Routes).2
      | .paired token => (h264RouteTake token w.h264Routes).2
      | _ => w.h264Routes
    genericRoutes := match kind with
      | .repeated => genericRouteRemove w.genericRoutes job.serial
      | .shown => genericRouteRemove w.genericRoutes job.serial
      | _ => w.genericRoutes }

/-- What MPP holds after an accepted packet. -/
def Work.accepted (w : Work) (job : Job) (kind : Kind) : Work :=
  { w with
    mppSequence := job.sequenceHeaders.or w.mppSequence
    owed := match kind with
      | .hidden => w.owed
      | _ => w.owed ++ [job.serial] }

/-- What an action of the worker can do. -/
inductive WorkerMove (ctx : Context) (surfaces : Surfaces) (a : WorkerAction) : Touch → Work → Prop
  | quiet : WorkerMove ctx surfaces a none ctx.work
  | exit (hand : ctx.work.hand = .waiting none) :
    WorkerMove ctx surfaces a none { ctx.work with hand := .exited }
  | fetch {job : Job} {jobs : List Job} (hand : ctx.work.hand = .waiting none)
      (queue : ctx.jobs = job :: jobs) :
    WorkerMove ctx surfaces a none { ctx.work with hand := .submitting job, jobs := jobs }
  -- `worker_submit_job` up to the first packet
  | finish {job : Job} (hand : ctx.work.hand = .submitting job)
      (why : job.empty = true ∨ a = .submit false) :
    WorkerMove ctx surfaces a none
      { ctx.work with hand := .completing job.surface job.fence none }
  | pair {job : Job} {route : Route} (hand : ctx.work.hand = .submitting job)
      (coding : ctx.coding = .avc)
      (found : h264RouteFindSurface ctx.h264Routes job.surface job.fence = some route) :
    WorkerMove ctx surfaces a none
      { ctx.work with hand := .waiting (some (job, .paired route.token)) }
  | route {job : Job} (hand : ctx.work.hand = .submitting job)
      (coding : ctx.coding.usesTokenRoutes = true) :
    WorkerMove ctx surfaces a none
      { ctx.work with
        hand := .waiting (some (job, .fresh)), h264Routes := frameRouteCreate job :: ctx.h264Routes }
  | hide {job : Job} (hand : ctx.work.hand = .submitting job)
      (coding : ctx.coding.usesTokenRoutes = false) :
    WorkerMove ctx surfaces a none { ctx.work with hand := .waiting (some (job, .hidden)) }
  | queue {job : Job} (hand : ctx.work.hand = .submitting job)
      (coding : ctx.coding.usesTokenRoutes = false) (queues : queuesRoute ctx a = true) :
    WorkerMove ctx surfaces a none
      { ctx.work with
        hand := .waiting (some (job, .shown))
        genericRoutes := ctx.genericRoutes ++ [frameRouteCreate job] }
  -- the packet
  | refuse {job : Job} {kind : Kind} (hand : ctx.work.hand = .waiting (some (job, kind)))
      (refused : refuses ctx a = true) :
    WorkerMove ctx surfaces a none (ctx.work.refused job kind)
  | accept {job : Job} {kind : Kind} (hand : ctx.work.hand = .waiting (some (job, kind)))
      (kinds : kind = .fresh ∨ kind = .repeated ∨ kind = .shown ∨
        ∃ token route, kind = .paired token ∧
          h264RouteFindSurface ctx.h264Routes job.surface job.fence = some route) :
    WorkerMove ctx surfaces a none { ctx.work.accepted job kind with hand := .waiting none }
  | replace {job : Job} {token : Nat}
      (hand : ctx.work.hand = .waiting (some (job, .paired token))) :
    WorkerMove ctx surfaces a none
      { ctx.work.accepted job (.paired token) with
        hand := .waiting none
        h264Routes := { frameRouteCreate job with token := token } :: ctx.h264Routes }
  | lose {job : Job} {kind : Kind} (hand : ctx.work.hand = .waiting (some (job, kind)))
      (kinds : kind = .hidden ∨ ∃ token, kind = .paired token) :
    WorkerMove ctx surfaces a none
      { ctx.work.accepted job kind with hand := .completing job.surface job.fence none }
  | repeatHidden {job : Job} (hand : ctx.work.hand = .waiting (some (job, .hidden)))
      (queues : queuesRoute ctx a = true) :
    WorkerMove ctx surfaces a none
      { ctx.work.accepted job .hidden with
        hand := .waiting (some (job, .repeated))
        genericRoutes := ctx.genericRoutes ++ [frameRouteCreate job] }
  -- a frame
  | drop {frame : MppFrame} {patience : Bool} {packet : Option (Job × Kind)}
      (action : a = .getFrame (some frame) patience) (shown : frame.infoChange = false)
      (hand : ctx.work.hand = .waiting packet) (none_left : (takeRoute ctx frame).1 = none) :
    WorkerMove ctx surfaces a none { ctx.work with owed := ctx.owed.erase frame.producer }
  | arrive {frame : MppFrame} {patience : Bool} {packet : Option (Job × Kind)} {route : Route}
      (action : a = .getFrame (some frame) patience) (shown : frame.infoChange = false)
      (hand : ctx.work.hand = .waiting packet) (taken : (takeRoute ctx frame).1 = some route) :
    WorkerMove ctx surfaces a none
      { (takeRoute ctx frame).2.work with
        hand := .assigning route frame packet, owed := ctx.owed.erase frame.producer }
  | stale {route : Route} {frame : MppFrame} {packet : Option (Job × Kind)}
      (hand : ctx.work.hand = .assigning route frame packet)
      (fence : (surfaces route.surface).fence ≠ route.fence) :
    WorkerMove ctx surfaces a none { ctx.work with hand := .waiting packet }
  | failAssign {route : Route} {frame : MppFrame} {packet : Option (Job × Kind)}
      (hand : ctx.work.hand = .assigning route frame packet) :
    WorkerMove ctx surfaces a none
      { ctx.work with hand := .completing route.surface route.fence packet }
  | publish {route : Route} {frame : MppFrame} {output : Output} {k : Resume}
      (worker : ctx.worker = .publish route frame output k) :
    WorkerMove ctx surfaces a (some (route.surface, .publish route.fence output))
      { ctx.work with hand := .waiting k.packet }
  | complete {surface : SurfaceId} {fence : Nat} {success : Bool} {packet : Option (Job × Kind)}
      (hand : ctx.work.hand = .completing surface fence packet) :
    WorkerMove ctx surfaces a (some (surface, .complete fence success))
      { ctx.work with hand := .waiting packet }
  -- `fail_pending_routes`
  | stall (hand : ctx.work.hand = .waiting none) :
    WorkerMove ctx surfaces a none
      { ctx.work with
        hand := .failing (ctx.h264Routes ++ ctx.genericRoutes), h264Routes := []
        genericRoutes := [] }
  | failRoute {route : Route} {routes : List Route}
      (hand : ctx.work.hand = .failing (route :: routes)) :
    WorkerMove ctx surfaces a (some (route.surface, .fail route.fence))
      { ctx.work with hand := .failing routes }
  | recover (hand : ctx.work.hand = .failing []) :
    WorkerMove ctx surfaces a none { ctx.work with hand := .waiting none }

/-! ## What the helpers of the worker do -/

/-- The data of the calls and of `rk_mpp_dec_stop`, which the worker leaves alone. -/
structure SameCalls (ctx ctx' : Context) : Prop where
  coding : ctx'.coding = ctx.coding
  profileIdc : ctx'.profileIdc = ctx.profileIdc
  destroyed : ctx'.destroyed = ctx.destroyed
  calls : ctx'.calls = ctx.calls
  endPicture : ctx'.endPicture = ctx.endPicture
  render : ctx'.render = ctx.render
  nextToken : ctx'.nextToken = ctx.nextToken
  hevcSequenceHeaders : ctx'.hevcSequenceHeaders = ctx.hevcSequenceHeaders
  stop : ctx'.stop = ctx.stop
  issued : ctx'.issued = ctx.issued
  enqueued : ctx'.enqueued = ctx.enqueued

theorem SameCalls.trans {a b c : Context} (h : SameCalls a b) (h' : SameCalls b c) :
    SameCalls a c := by
  constructor
  · exact h'.coding.trans h.coding
  · exact h'.profileIdc.trans h.profileIdc
  · exact h'.destroyed.trans h.destroyed
  · exact h'.calls.trans h.calls
  · exact h'.endPicture.trans h.endPicture
  · exact h'.render.trans h.render
  · exact h'.nextToken.trans h.nextToken
  · exact h'.hevcSequenceHeaders.trans h.hevcSequenceHeaders
  · exact h'.stop.trans h.stop
  · exact h'.issued.trans h.issued
  · exact h'.enqueued.trans h.enqueued

theorem resumeTrue_work (ctx : Context) (consumed : Bool) (k : Resume) :
    (resumeTrue ctx consumed k).work = { ctx.work with hand := .waiting k.packet } ∧
      SameCalls ctx (resumeTrue ctx consumed k) := by
  cases k <;> exact ⟨rfl, by constructor <;> rfl⟩

theorem submitted_work (ctx : Context) :
    (submitted ctx).work = { ctx.work with hand := .waiting none } ∧
      SameCalls ctx (submitted ctx) := ⟨rfl, by constructor <;> rfl⟩

theorem drainHevcAfterSubmit_work (ctx : Context) :
    (drainHevcAfterSubmit ctx).work = { ctx.work with hand := .waiting none } ∧
      SameCalls ctx (drainHevcAfterSubmit ctx) := by
  unfold drainHevcAfterSubmit
  split
  · exact ⟨rfl, by constructor <;> rfl⟩
  · exact submitted_work ctx

theorem putFailed_work (ctx : Context) (sub : Submission) :
    (putFailed ctx sub).work = ctx.work.refused sub.job sub.kind ∧
      SameCalls ctx (putFailed ctx sub) := by
  obtain ⟨job, kind, tries, starved⟩ := sub
  cases kind <;> exact ⟨rfl, by constructor <;> rfl⟩

theorem h264RouteTake_none {token : Nat} {routes : List Route}
    (h : (h264RouteTake token routes).1 = none) : (h264RouteTake token routes).2 = routes := by
  induction routes with
  | nil => rfl
  | cons route routes ih =>
    unfold h264RouteTake at h ⊢
    split
    · rename_i same
      rw [if_pos same] at h
      cases h
    · rename_i other
      rw [if_neg other] at h
      rw [ih h]

theorem takeRoute_none {ctx : Context} {frame : MppFrame} (h : (takeRoute ctx frame).1 = none) :
    (takeRoute ctx frame).2 = ctx := by
  unfold takeRoute at h ⊢
  split
  · rename_i coding
    rw [if_pos coding] at h
    simp only [h264RouteTake_none h]
  · rename_i coding
    rw [if_neg coding] at h
    have empty : ctx.genericRoutes = [] := List.head?_eq_none_iff.mp h
    simp only [empty, List.tail_nil]
    rw [← empty]

/-- A route is taken from the tokens, or is the first of the others. -/
theorem takeRoute_cases {ctx : Context} {frame : MppFrame} {route : Route}
    (taken : (takeRoute ctx frame).1 = some route) :
    (ctx.coding.usesTokenRoutes = true ∧
      (h264RouteTake frame.pts ctx.h264Routes).1 = some route ∧
      (takeRoute ctx frame).2 =
        { ctx with h264Routes := (h264RouteTake frame.pts ctx.h264Routes).2 }) ∨
      (ctx.coding.usesTokenRoutes = false ∧ ∃ routes, ctx.genericRoutes = route :: routes ∧
        (takeRoute ctx frame).2 = { ctx with genericRoutes := routes }) := by
  unfold takeRoute at taken ⊢
  cases coding : ctx.coding.usesTokenRoutes with
  | true =>
    rw [coding, if_pos rfl] at taken
    exact .inl ⟨rfl, taken, rfl⟩
  | false =>
    rw [coding, if_neg Bool.false_ne_true] at taken
    obtain ⟨routes, same⟩ := List.head?_eq_some_iff.mp taken
    refine .inr ⟨rfl, routes, same, ?_⟩
    rw [if_neg Bool.false_ne_true, same]
    rfl

theorem takeRoute_jobs (ctx : Context) (frame : MppFrame) :
    (takeRoute ctx frame).2.jobs = ctx.jobs := by
  unfold takeRoute
  split <;> rfl

theorem takeRoute_sameCalls (ctx : Context) (frame : MppFrame) :
    SameCalls ctx (takeRoute ctx frame).2 := by
  unfold takeRoute
  split <;> constructor <;> rfl

/-! ## Every step is a move -/

section

variable {ctx ctx' : Context} {surfaces : Surfaces} {t : Touch}

/-- At the top of its loop the worker leaves, fetches a job, or waits for what is outstanding. -/
theorem nextJob_cases {expired : Bool} (h : nextJob ctx expired = some ctx') :
    ctx' = { ctx with worker := .exited } ∨
      (∃ job jobs, ctx.jobs = job :: jobs ∧
        ctx' = { ctx with jobs := jobs, worker := .submit job }) ∨
      ctx.outstanding ≠ 0 ∧
        ((∃ draining, ctx' = { ctx with worker := .drain (.mainLoop draining) }) ∨
          ctx' = { ctx with worker := .eos 0, signalledEos := true }) := by
  unfold nextJob at h
  split at h
  · exact .inl (Option.some.inj h).symm
  · split at h
    · split at h
      · split at h
        · exact .inl (Option.some.inj h).symm
        · rename_i waits
          have pending : ctx.outstanding ≠ 0 := fun zero => waits (.inr (.inr zero))
          split at h
          · exact .inr (.inr ⟨pending, .inl ⟨true, (Option.some.inj h).symm⟩⟩)
          · exact .inr (.inr ⟨pending, .inr (Option.some.inj h).symm⟩)
      · split at h
        · cases h
        · rename_i pending
          exact .inr (.inr ⟨pending, .inl ⟨false, (Option.some.inj h).symm⟩⟩)
    · rename_i job jobs queue
      split at h
      · exact .inl (Option.some.inj h).symm
      · exact .inr (.inl ⟨job, jobs, queue, (Option.some.inj h).symm⟩)

theorem nextJob_move {a : WorkerAction} {expired : Bool} (worker : ctx.worker = .mainLoop)
    (h : nextJob ctx expired = some ctx') :
    WorkerMove ctx surfaces a none ctx'.work ∧ SameCalls ctx ctx' := by
  have hand : ctx.work.hand = .waiting none := congrArg Worker.hand worker
  rcases nextJob_cases h with rfl | ⟨job, jobs, queue, rfl⟩ | ⟨-, ⟨draining, rfl⟩ | rfl⟩
  · exact ⟨.exit hand, by constructor <;> rfl⟩
  · exact ⟨.fetch hand queue, by constructor <;> rfl⟩
  · have same : ({ ctx with worker := .drain (.mainLoop draining) } : Context).work = ctx.work := by
      simp only [Context.work, Worker.hand, worker, Resume.packet]
    rw [same]
    exact ⟨.quiet, by constructor <;> rfl⟩
  · have same : ({ ctx with worker := .eos 0, signalledEos := true } : Context).work =
        ctx.work := by
      simp only [Context.work, Worker.hand, worker]
    rw [same]
    exact ⟨.quiet, by constructor <;> rfl⟩

theorem workerSubmitJob_move {job : Job} {made : Bool} (worker : ctx.worker = .submit job) :
    WorkerMove ctx surfaces (.submit made) none (workerSubmitJob ctx job made).work ∧
      SameCalls ctx (workerSubmitJob ctx job made) := by
  have hand : ctx.work.hand = .submitting job := congrArg Worker.hand worker
  unfold workerSubmitJob
  split
  · rename_i empty
    exact ⟨.finish hand (.inl empty), by constructor <;> rfl⟩
  · rename_i full
    split
    · rename_i coding
      simp only
      split
      · rename_i route found
        -- only a field of an AVC picture looks for a route
        split at found
        · rename_i paired
          have avc : ctx.coding = .avc := by
            simp only [Bool.and_eq_true, beq_iff_eq] at paired
            exact paired.1
          exact ⟨.pair hand avc found, by constructor <;> rfl⟩
        · cases found
      · split
        · exact ⟨.route hand coding, by constructor <;> rfl⟩
        · rename_i unmade
          exact ⟨.finish hand (.inr (by rw [eq_false_of_ne_true unmade])), by constructor <;> rfl⟩
    · rename_i coding
      have generic : ctx.coding.usesTokenRoutes = false := eq_false_of_ne_true coding
      split
      · exact ⟨.hide hand generic, by constructor <;> rfl⟩
      · rename_i shown
        split
        · rename_i made
          refine ⟨.queue hand generic ?_, by constructor <;> rfl⟩
          simp only [queuesRoute, worker, eq_false_of_ne_true full, eq_false_of_ne_true shown, made,
            Bool.not_false, Bool.and_self]
        · rename_i unmade
          exact ⟨.finish hand (.inr (by rw [eq_false_of_ne_true unmade])), by constructor <;> rfl⟩

theorem putFailed_move {a : WorkerAction} {sub : Submission}
    (hand : ctx.work.hand = .waiting (some (sub.job, sub.kind))) (refused : refuses ctx a = true) :
    WorkerMove ctx surfaces a none (putFailed ctx sub).work ∧ SameCalls ctx (putFailed ctx sub) := by
  obtain ⟨work, calls⟩ := putFailed_work ctx sub
  rw [work]
  exact ⟨.refuse hand refused, calls⟩

theorem drainHevcAfterSubmit_move {a : WorkerAction} {x : Context} {w : Work}
    (work : { x.work with hand := .waiting none } = w) (calls : SameCalls ctx x)
    (move : WorkerMove ctx surfaces a none w) :
    WorkerMove ctx surfaces a none (drainHevcAfterSubmit x).work ∧
      SameCalls ctx (drainHevcAfterSubmit x) := by
  obtain ⟨drained, same⟩ := drainHevcAfterSubmit_work x
  rw [drained, work]
  exact ⟨move, calls.trans same⟩

theorem packetAccepted_move {sub : Submission} {made : Bool} (worker : ctx.worker = .put sub) :
    WorkerMove ctx surfaces (.put (.accepted made)) none (packetAccepted ctx sub made).work ∧
      SameCalls ctx (packetAccepted ctx sub made) := by
  have hand : ctx.work.hand = .waiting (some (sub.job, sub.kind)) := congrArg Worker.hand worker
  obtain ⟨job, kind, tries, starved⟩ := sub
  cases kind with
  | fresh =>
    exact drainHevcAfterSubmit_move rfl (by constructor <;> rfl) (.accept hand (.inl rfl))
  | paired token =>
    simp only [packetAccepted]
    split
    · rename_i route found
      exact ⟨.accept hand (.inr (.inr (.inr ⟨token, route, rfl, found⟩))), by constructor <;> rfl⟩
    · split
      · exact drainHevcAfterSubmit_move rfl (by constructor <;> rfl) (.replace hand)
      · exact ⟨.lose hand (.inr ⟨token, rfl⟩), by constructor <;> rfl⟩
  | hidden =>
    simp only [packetAccepted]
    split
    · exact ⟨.lose hand (.inl rfl), by constructor <;> rfl⟩
    · rename_i slot
      split
      · rename_i made
        refine ⟨.repeatHidden hand ?_, by constructor <;> rfl⟩
        simp only [queuesRoute, worker, decide_eq_true (Nat.lt_of_not_le slot), made, Bool.and_self]
      · exact ⟨.lose hand (.inl rfl), by constructor <;> rfl⟩
  | repeated =>
    exact drainHevcAfterSubmit_move rfl (by constructor <;> rfl) (.accept hand (.inr (.inl rfl)))
  | shown =>
    exact drainHevcAfterSubmit_move rfl (by constructor <;> rfl)
      (.accept hand (.inr (.inr (.inl rfl))))

/-- Without a frame the drain goes back to its loop, gives the packet up, or fails all routes. -/
theorem resumeFalse_move {patience : Bool} {k : Resume} (worker : ctx.worker = .drain k) :
    WorkerMove ctx surfaces (.getFrame none patience) none (resumeFalse ctx patience k).work ∧
      SameCalls ctx (resumeFalse ctx patience k) := by
  have hand : ctx.work.hand = .waiting k.packet := congrArg Worker.hand worker
  have back : ∀ {x : Context}, x.work = { ctx.work with hand := .waiting k.packet } →
      SameCalls ctx x →
      WorkerMove ctx surfaces (.getFrame none patience) none x.work ∧ SameCalls ctx x := by
    intro x work calls
    rw [work, ← hand]
    exact ⟨.quiet, calls⟩
  cases k with
  | mainLoop draining =>
    simp only [resumeFalse]
    split
    · exact back rfl (by constructor <;> rfl)
    · split
      · exact back rfl (by constructor <;> rfl)
      · split
        · exact back rfl (by constructor <;> rfl)
        · exact ⟨.stall hand, by constructor <;> rfl⟩
  | afterSubmit => exact back rfl (by constructor <;> rfl)
  | put sub =>
    simp only [resumeFalse]
    split
    · exact back rfl (by constructor <;> rfl)
    · split
      · exact back rfl (by constructor <;> rfl)
      · rename_i starved impatient
        refine putFailed_move hand ?_
        have tired : 25 ≤ sub.starved + 1 := Nat.le_of_not_lt starved
        simp only [refuses, worker, eq_false_of_ne_true impatient, decide_eq_true tired,
          Bool.not_false, Bool.and_self]
  | eos tries =>
    simp only [resumeFalse]
    split <;> exact back rfl (by constructor <;> rfl)

theorem frameArrived_move {frame : MppFrame} {patience : Bool} {k : Resume}
    (worker : ctx.worker = .drain k) :
    WorkerMove ctx surfaces (.getFrame (some frame) patience) none (frameArrived ctx frame k).work ∧
      SameCalls ctx (frameArrived ctx frame k) := by
  have hand : ctx.work.hand = .waiting k.packet := congrArg Worker.hand worker
  unfold frameArrived
  simp only
  split
  · obtain ⟨work, calls⟩ := resumeTrue_work { ctx with sawEos := ctx.sawEos || frame.eos } false k
    have same : (resumeTrue { ctx with sawEos := ctx.sawEos || frame.eos } false k).work =
        ctx.work := by
      rw [work, ← hand]
      rfl
    rw [same]
    exact ⟨.quiet, .trans (by constructor <;> rfl) calls⟩
  · rename_i info
    have shown : frame.infoChange = false := eq_false_of_ne_true info
    generalize counted : ({ ctx with
      sawEos := ctx.sawEos || frame.eos, owed := ctx.owed.erase frame.producer } : Context) = x
    have calls : SameCalls ctx x := by
      subst counted
      constructor <;> rfl
    have found : (takeRoute x frame).1 = (takeRoute ctx frame).1 := by
      subst counted
      unfold takeRoute
      split <;> rfl
    have rest : (takeRoute x frame).2.work =
        { (takeRoute ctx frame).2.work with owed := ctx.owed.erase frame.producer } := by
      subst counted
      unfold takeRoute
      split <;> rfl
    have calls' := calls.trans (takeRoute_sameCalls x frame)
    split
    · rename_i y taken
      have none_left : (takeRoute ctx frame).1 = none := by rw [← found, taken]
      rw [taken] at rest calls'
      obtain ⟨work, back⟩ := resumeTrue_work y false k
      have same : (resumeTrue y false k).work =
          { ctx.work with owed := ctx.owed.erase frame.producer } := by
        rw [work, rest, takeRoute_none none_left, ← hand]
      rw [same]
      exact ⟨.drop rfl shown hand none_left, calls'.trans back⟩
    · rename_i route y taken
      have found' : (takeRoute ctx frame).1 = some route := by rw [← found, taken]
      rw [taken] at rest calls'
      have same : ({ y with worker := .check route frame k } : Context).work =
          { (takeRoute ctx frame).2.work with
            hand := .assigning route frame k.packet, owed := ctx.owed.erase frame.producer } := by
        rw [show ({ y with worker := .check route frame k } : Context).work =
          { y.work with hand := .assigning route frame k.packet } from rfl, rest]
      rw [same]
      exact ⟨.arrive rfl shown hand found', calls'.trans (by constructor <;> rfl)⟩

theorem failAssign_move {a : WorkerAction} {route : Route} {frame : MppFrame} {k : Resume}
    (hand : ctx.work.hand = .assigning route frame k.packet) :
    WorkerMove ctx surfaces a none (failAssign ctx route k).work ∧
      SameCalls ctx (failAssign ctx route k) :=
  ⟨.failAssign hand, by constructor <;> rfl⟩

theorem resumeTrue_move {a : WorkerAction} {consumed : Bool} {k : Resume}
    (move : WorkerMove ctx surfaces a t { ctx.work with hand := .waiting k.packet }) :
    WorkerMove ctx surfaces a t (resumeTrue ctx consumed k).work ∧
      SameCalls ctx (resumeTrue ctx consumed k) := by
  obtain ⟨work, calls⟩ := resumeTrue_work ctx consumed k
  rw [work]
  exact ⟨move, calls⟩

/-- A step inside `assign_mpp_frame` that keeps the route in hand. -/
theorem assigning_move {a : WorkerAction} {w : Worker} (same : w.hand = ctx.worker.hand) :
    WorkerMove ctx surfaces a none ({ ctx with worker := w } : Context).work ∧
      SameCalls ctx { ctx with worker := w } := by
  have work : ({ ctx with worker := w } : Context).work = ctx.work := by
    simp only [Context.work, same]
  rw [work]
  exact ⟨.quiet, by constructor <;> rfl⟩

/-- Every step of the worker is one of its moves, and leaves the data of the calls alone. -/
theorem workerStep_move {a : WorkerAction} (h : workerStep ctx surfaces a = some (ctx', t)) :
    WorkerMove ctx surfaces a t ctx'.work ∧ SameCalls ctx ctx' := by
  cases a with
  | next expired =>
    simp only [workerStep] at h
    split at h
    · rename_i worker
      obtain ⟨x, next, same⟩ := Option.map_eq_some_iff.mp h
      obtain ⟨rfl, rfl⟩ := Prod.mk.inj same
      exact nextJob_move worker next
    · cases h
  | submit made =>
    simp only [workerStep] at h
    split at h
    · rename_i job worker
      obtain ⟨rfl, rfl⟩ := Prod.mk.inj (Option.some.inj h)
      exact workerSubmitJob_move worker
    · cases h
  | put outcome =>
    simp only [workerStep] at h
    split at h
    · rename_i sub worker
      have hand : ctx.work.hand = .waiting (some (sub.job, sub.kind)) := congrArg Worker.hand worker
      split at h
      · rename_i tries
        obtain ⟨rfl, rfl⟩ := Prod.mk.inj (Option.some.inj h)
        refine putFailed_move hand ?_
        simp only [refuses, worker, decide_eq_true tries, Bool.true_or]
      · cases outcome with
        | unmade =>
          simp only at h
          split at h
          · obtain ⟨rfl, rfl⟩ := Prod.mk.inj (Option.some.inj h)
            refine putFailed_move hand ?_
            simp only [refuses, worker, beq_self_eq_true, Bool.or_true, Bool.true_or]
          · cases h
        | stopping =>
          simp only at h
          split at h
          · obtain ⟨rfl, rfl⟩ := Prod.mk.inj (Option.some.inj h)
            refine putFailed_move hand ?_
            simp only [refuses, worker, beq_self_eq_true, Bool.or_true]
          · cases h
        | busy =>
          obtain ⟨rfl, rfl⟩ := Prod.mk.inj (Option.some.inj h)
          apply assigning_move
          rw [worker]
          rfl
        | accepted made =>
          obtain ⟨rfl, rfl⟩ := Prod.mk.inj (Option.some.inj h)
          exact packetAccepted_move worker
    · cases h
  | putEos accepted =>
    simp only [workerStep] at h
    split at h
    · rename_i tries worker
      split at h
      · obtain ⟨rfl, rfl⟩ := Prod.mk.inj (Option.some.inj h)
        apply assigning_move
        rw [worker]
        rfl
      · obtain ⟨rfl, rfl⟩ := Prod.mk.inj (Option.some.inj h)
        apply assigning_move
        rw [worker]
        rfl
    · cases h
  | getFrame frame patience =>
    simp only [workerStep] at h
    split at h
    · rename_i k worker
      cases frame with
      | some frame =>
        obtain ⟨rfl, rfl⟩ := Prod.mk.inj (Option.some.inj h)
        exact frameArrived_move worker
      | none =>
        obtain ⟨rfl, rfl⟩ := Prod.mk.inj (Option.some.inj h)
        exact resumeFalse_move worker
    · cases h
  | check =>
    simp only [workerStep] at h
    split at h
    · rename_i route frame k worker
      have hand : ctx.work.hand = .assigning route frame k.packet := congrArg Worker.hand worker
      split at h
      · rename_i stale
        obtain ⟨rfl, rfl⟩ := Prod.mk.inj (Option.some.inj h)
        exact resumeTrue_move (.stale hand stale)
      · split at h
        · obtain ⟨rfl, rfl⟩ := Prod.mk.inj (Option.some.inj h)
          exact failAssign_move hand
        · obtain ⟨rfl, rfl⟩ := Prod.mk.inj (Option.some.inj h)
          exact assigning_move hand.symm
    · cases h
  | convert conversion =>
    simp only [workerStep] at h
    split at h
    · rename_i route frame k worker
      have hand : ctx.work.hand = .assigning route frame k.packet := congrArg Worker.hand worker
      cases conversion with
      | unusable =>
        obtain ⟨rfl, rfl⟩ := Prod.mk.inj (Option.some.inj h)
        exact failAssign_move hand
      | usable converted =>
        obtain ⟨rfl, rfl⟩ := Prod.mk.inj (Option.some.inj h)
        exact assigning_move hand.symm
    · cases h
  | copy fits =>
    simp only [workerStep] at h
    split at h
    · rename_i route frame converted k worker
      have hand : ctx.work.hand = .assigning route frame k.packet := congrArg Worker.hand worker
      split at h
      · obtain ⟨rfl, rfl⟩ := Prod.mk.inj (Option.some.inj h)
        exact assigning_move hand.symm
      · split at h
        · obtain ⟨rfl, rfl⟩ := Prod.mk.inj (Option.some.inj h)
          exact failAssign_move hand
        · obtain ⟨rfl, rfl⟩ := Prod.mk.inj (Option.some.inj h)
          exact assigning_move hand.symm
    · cases h
  | retain refs =>
    simp only [workerStep] at h
    split at h
    · rename_i route frame converted copied k worker
      have hand : ctx.work.hand = .assigning route frame k.packet := congrArg Worker.hand worker
      split at h
      · obtain ⟨rfl, rfl⟩ := Prod.mk.inj (Option.some.inj h)
        exact assigning_move hand.symm
      · split at h
        · cases h
        · obtain ⟨rfl, rfl⟩ := Prod.mk.inj (Option.some.inj h)
          exact failAssign_move hand
    · cases h
  | publish =>
    simp only [workerStep] at h
    split at h
    · rename_i route frame output k worker
      obtain ⟨rfl, rfl⟩ := Prod.mk.inj (Option.some.inj h)
      exact resumeTrue_move (.publish worker)
    · cases h
  | complete =>
    simp only [workerStep] at h
    split at h
    · rename_i surface fence success k worker
      have hand : ctx.work.hand = .completing surface fence (k.bind Resume.packet) :=
        congrArg Worker.hand worker
      obtain ⟨rfl, rfl⟩ := Prod.mk.inj (Option.some.inj h)
      cases k with
      | none => exact ⟨.complete hand, (submitted_work ctx).2⟩
      | some k => exact resumeTrue_move (.complete hand)
    · cases h
  | failRoute =>
    simp only [workerStep] at h
    split at h
    · rename_i worker
      obtain ⟨rfl, rfl⟩ := Prod.mk.inj (Option.some.inj h)
      exact ⟨.recover (congrArg Worker.hand worker), by constructor <;> rfl⟩
    · rename_i route routes worker
      obtain ⟨rfl, rfl⟩ := Prod.mk.inj (Option.some.inj h)
      exact ⟨.failRoute (congrArg Worker.hand worker), by constructor <;> rfl⟩
    · cases h

end

/-! ## The steps of a context, seen from its routes -/

/-- The step of `rk_mpp_dec_stop` behind the join takes the queue and the routes. -/
structure Joined (ctx ctx' : Context) : Prop where
  worker : ctx.worker = .exited
  work : ctx'.work = { ctx.work with jobs := [], h264Routes := [], genericRoutes := [] }
  coding : ctx'.coding = ctx.coding
  profileIdc : ctx'.profileIdc = ctx.profileIdc
  calls : ctx'.calls = ctx.calls
  endPicture : ctx'.endPicture = ctx.endPicture
  nextToken : ctx'.nextToken = ctx.nextToken
  hevcSequenceHeaders : ctx'.hevcSequenceHeaders = ctx.hevcSequenceHeaders
  enqueued : ctx'.enqueued = ctx.enqueued

theorem SameWork.work {ctx ctx' : Context} (h : SameWork ctx ctx') : ctx'.work = ctx.work := by
  simp only [Context.work, h.jobs, h.worker, h.h264Routes, h.genericRoutes, h.owed, h.mppSequence]

theorem stopStep_cases {ctx ctx' : Context} {a : StopAction} {t : Touch}
    (h : stopStep ctx a = some (ctx', t)) : SameWork ctx ctx' ∨ Joined ctx ctx' := by
  cases stopStep_move h with
  | join stop worker => exact .inr ⟨worker, rfl, rfl, rfl, rfl, rfl, rfl, rfl, rfl⟩
  | _ => exact .inl (by constructor <;> rfl)

/-- A step of a context leaves the queue and the routes alone, enqueues a job, is a move of the
worker, or takes everything behind the join. -/
inductive WorkStep (ctx : Context) (surfaces : Surfaces) (a : Action) (ctx' : Context) : Prop
  | same (same : SameWork ctx ctx')
  | enqueue {i : Nat} {job : Job} (action : a = .app (.enqueue i))
      (call : ctx.calls[i]? = some (.enqueue job))
      (result : ctx' = rkMppDecEnqueueJob { ctx with calls := ctx.calls.eraseIdx i } job)
  | worker {w : WorkerAction} {t : Touch} (action : a = .worker w)
      (move : WorkerMove ctx surfaces w t ctx'.work) (calls : SameCalls ctx ctx')
  | joined (joined : Joined ctx ctx')

theorem ctxStep_cases {c : ContextId} {ctx ctx' : Context} {surfaces : Surfaces} {a : Action}
    {t : Touch} (h : ctxStep c ctx surfaces a = some (ctx', t)) : WorkStep ctx surfaces a ctx' := by
  cases a with
  | app a =>
    rcases appStep_cases h with same | ⟨i, job, rfl, call, result⟩
    · exact .same same
    · exact .enqueue rfl call result
  | worker a =>
    obtain ⟨move, calls⟩ := workerStep_move h
    exact .worker rfl move calls
  | stop a =>
    rcases stopStep_cases h with same | joined
    · exact .same same
    · exact .joined joined
  | exportSurface surface =>
    obtain ⟨rfl, -⟩ := Prod.mk.inj (Option.some.inj h)
    exact .same (by constructor <;> rfl)

end RockchipVaapi.Decode
