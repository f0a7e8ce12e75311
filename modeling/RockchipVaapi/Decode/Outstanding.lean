import RockchipVaapi.Decode.RouteLedger

/-!
# The outstanding pictures

`outstanding_frames` against the routes of a context with tokens. A route is listed before its
packet is accepted and counted afterwards; a frame takes the route out of the list first and is
counted down behind it. In between the two differ by what the worker has in its hands. All of this
rests on the tokens: MPP cannot return a frame for the packet that it has yet to accept.
-/

namespace RockchipVaapi.Decode
open Transition

/-! ## What is counted -/

/-- A route is out of the list, and `outstanding` still counts it. -/
def Worker.taken : Worker → Bool
  | .check _ _ _ => true
  | .convert _ _ _ => true
  | .copy _ _ _ _ => true
  | .retain _ _ _ _ _ => true
  | .publish _ _ _ _ => true
  | .complete _ _ _ k => k.isSome
  | _ => false

/-- What the counter depends on. -/
structure Tally where
  outstanding : Nat
  routes : List Route
  packet : Option (Job × Kind)
  taken : Bool
  upcoming : List Job

def Context.tally (ctx : Context) : Tally where
  outstanding := ctx.outstanding
  routes := ctx.h264Routes
  packet := ctx.worker.hand.packet
  taken := ctx.worker.taken
  upcoming := ctx.work.upcoming

/-- The PTS of the packet of a submission. -/
def Submission.pts (sub : Submission) : Nat :=
  match sub.kind with
  | .paired token => token
  | _ => sub.job.token

/-- The PTS of the packet that MPP accepts in a step. That of the end-of-stream marker is not
set. -/
def acceptedPts (ctx : Context) : WorkerAction → List Nat
  | .put (.accepted _) =>
    match ctx.worker with
    | .put sub => if 500 ≤ sub.tries then [] else [sub.pts]
    | _ => []
  | .putEos true =>
    match ctx.worker with
    | .eos tries => if 50 ≤ tries then [] else [0]
    | _ => []
  | _ => []

/-- What a step of the worker does to a tally. -/
inductive TallyMove (ctx : Context) (a : WorkerAction) : Tally → Prop
  | keep (accepted : acceptedPts ctx a ⊆ [0]) : TallyMove ctx a ctx.tally
  | finish {rest : List Job} (accepted : acceptedPts ctx a = []) (idle : ctx.tally.packet = none)
      (later : rest.Sublist ctx.tally.upcoming) :
    TallyMove ctx a { ctx.tally with upcoming := rest }
  | pair {job : Job} {route : Route} (accepted : acceptedPts ctx a = [])
      (idle : ctx.tally.packet = none) (front : job ∈ ctx.tally.upcoming)
      (found : h264RouteFindSurface ctx.tally.routes job.surface job.fence = some route) :
    TallyMove ctx a { ctx.tally with packet := some (job, .paired route.token) }
  | route {job : Job} (accepted : acceptedPts ctx a = []) (idle : ctx.tally.packet = none)
      (front : job ∈ ctx.tally.upcoming) :
    TallyMove ctx a
      { ctx.tally with
        packet := some (job, .fresh), routes := frameRouteCreate job :: ctx.tally.routes }
  | refuseFresh {job : Job} {rest : List Job} (accepted : acceptedPts ctx a = [])
      (packet : ctx.tally.packet = some (job, .fresh)) (upcoming : ctx.tally.upcoming = job :: rest) :
    TallyMove ctx a
      { ctx.tally with
        packet := none, routes := (h264RouteTake job.token ctx.tally.routes).2, upcoming := rest }
  | refusePaired {job : Job} {token : Nat} {rest : List Job} (accepted : acceptedPts ctx a = [])
      (packet : ctx.tally.packet = some (job, .paired token))
      (upcoming : ctx.tally.upcoming = job :: rest) :
    TallyMove ctx a
      { ctx.tally with
        packet := none
        routes := (h264RouteTake token ctx.tally.routes).2
        outstanding :=
          if (h264RouteTake token ctx.tally.routes).1.isSome then ctx.tally.outstanding - 1
          else ctx.tally.outstanding
        upcoming := rest }
  | count {job : Job} {rest : List Job} (accepted : acceptedPts ctx a = [job.token])
      (packet : ctx.tally.packet = some (job, .fresh)) (upcoming : ctx.tally.upcoming = job :: rest) :
    TallyMove ctx a
      { ctx.tally with
        packet := none, outstanding := ctx.tally.outstanding + 1, upcoming := rest }
  | share {job : Job} {token : Nat} {rest : List Job} (accepted : acceptedPts ctx a = [token])
      (packet : ctx.tally.packet = some (job, .paired token))
      (upcoming : ctx.tally.upcoming = job :: rest) :
    TallyMove ctx a { ctx.tally with packet := none, upcoming := rest }
  | replace {job : Job} {token : Nat} {rest : List Job} (accepted : acceptedPts ctx a = [token])
      (packet : ctx.tally.packet = some (job, .paired token))
      (upcoming : ctx.tally.upcoming = job :: rest)
      (missing : h264RouteFindSurface ctx.tally.routes job.surface job.fence = none) :
    TallyMove ctx a
      { ctx.tally with
        packet := none
        routes := { frameRouteCreate job with token := token } :: ctx.tally.routes
        outstanding := ctx.tally.outstanding + 1
        upcoming := rest }
  | take {frame : MppFrame} {patience : Bool} {route : Route}
      (action : a = .getFrame (some frame) patience) (shown : frame.infoChange = false)
      (free : ctx.tally.taken = false)
      (found : (h264RouteTake frame.pts ctx.tally.routes).1 = some route) :
    TallyMove ctx a
      { ctx.tally with
        taken := true, routes := (h264RouteTake frame.pts ctx.tally.routes).2 }
  | give (accepted : acceptedPts ctx a = []) (taken : ctx.tally.taken = true) :
    TallyMove ctx a { ctx.tally with taken := false, outstanding := ctx.tally.outstanding - 1 }
  | stall (accepted : acceptedPts ctx a = []) (idle : ctx.tally.packet = none)
      (free : ctx.tally.taken = false) :
    TallyMove ctx a { ctx.tally with outstanding := 0, routes := [] }

theorem tally_eq {ctx : Context} {w : Worker} (worker : ctx.worker = w) :
    ctx.tally = ⟨ctx.outstanding, ctx.h264Routes, w.hand.packet, w.taken, w.hand.held ++ ctx.jobs⟩ := by
  subst worker
  rfl

section

variable {ctx ctx' : Context} {surfaces : Surfaces} {a : WorkerAction} {t : Tally}

/-- A step that ends with another worker in the same place. -/
theorem TallyMove.stays {w : Worker} (worker : ctx.worker = w)
    (accepted : acceptedPts ctx a ⊆ [0])
    (same : ctx'.tally =
      ⟨ctx.outstanding, ctx.h264Routes, w.hand.packet, w.taken, w.hand.held ++ ctx.jobs⟩) :
    TallyMove ctx a ctx'.tally := by
  rw [same, ← tally_eq worker]
  exact .keep accepted

theorem nextJob_tally {expired : Bool} (worker : ctx.worker = .mainLoop)
    (h : nextJob ctx expired = some ctx') : TallyMove ctx (.next expired) ctx'.tally := by
  have nothing : acceptedPts ctx (.next expired) ⊆ [0] := List.nil_subset _
  rcases nextJob_cases h with rfl | ⟨job, jobs, queue, rfl⟩ | ⟨-, ⟨draining, rfl⟩ | rfl⟩
  · exact .stays worker nothing rfl
  · refine .stays worker nothing ?_
    rw [queue]
    rfl
  · exact .stays worker nothing rfl
  · exact .stays worker nothing rfl

theorem submit_tally {job : Job} {made : Bool} (worker : ctx.worker = .submit job)
    (token : ctx.coding.usesTokenRoutes = true) :
    TallyMove ctx (.submit made) (workerSubmitJob ctx job made).tally := by
  have before := tally_eq worker
  have idle : ctx.tally.packet = none := by rw [before]; rfl
  have front : job ∈ ctx.tally.upcoming := by rw [before]; exact List.mem_cons_self
  have finished (success : Bool) :
      TallyMove ctx (.submit made) (completeJob ctx job success).tally := by
    have after : (completeJob ctx job success).tally = { ctx.tally with upcoming := ctx.jobs } := by
      rw [before]
      rfl
    rw [after]
    refine .finish rfl idle ?_
    rw [before]
    exact List.sublist_cons_self job ctx.jobs
  unfold workerSubmitJob
  rw [if_pos token]
  split
  · exact finished true
  · dsimp only
    split
    · rename_i route found
      have paired : h264RouteFindSurface ctx.tally.routes job.surface job.fence = some route := by
        split at found
        · exact found
        · cases found
      have after : ({ ctx with worker := .put ⟨job, .paired route.token, 0, 0⟩ } : Context).tally =
          { ctx.tally with packet := some (job, .paired route.token) } := by
        rw [before]
        rfl
      rw [after]
      exact .pair rfl idle front paired
    · split
      · have after : ({ ctx with
            h264Routes := frameRouteCreate job :: ctx.h264Routes
            worker := .put ⟨job, .fresh, 0, 0⟩ } : Context).tally =
              { ctx.tally with
                packet := some (job, .fresh), routes := frameRouteCreate job :: ctx.tally.routes } := by
          rw [before]
          rfl
        rw [after]
        exact .route rfl idle front
      · exact finished false

/-- The tally of a worker that has a packet to submit. -/
theorem tally_packet {sub : Submission} {w : Worker} (worker : ctx.worker = w)
    (hand : w.hand = .waiting (some (sub.job, sub.kind))) :
    ctx.tally.packet = some (sub.job, sub.kind) ∧ ctx.tally.upcoming = sub.job :: ctx.jobs := by
  rw [tally_eq worker, hand]
  exact ⟨rfl, rfl⟩

theorem putFailed_tally {sub : Submission} {w : Worker} (worker : ctx.worker = w)
    (hand : w.hand = .waiting (some (sub.job, sub.kind))) (free : w.taken = false)
    (kinds : sub.kind = .fresh ∨ ∃ token, sub.kind = .paired token)
    (accepted : acceptedPts ctx a = []) : TallyMove ctx a (putFailed ctx sub).tally := by
  have before := tally_eq worker
  obtain ⟨packet, upcoming⟩ := tally_packet worker hand
  rcases kinds with kind | ⟨token, kind⟩
  · rw [kind] at packet
    have after : (putFailed ctx sub).tally =
        { ctx.tally with
          packet := none, routes := (h264RouteTake sub.job.token ctx.tally.routes).2
          upcoming := ctx.jobs } := by
      unfold putFailed
      rw [kind, before, free]
      rfl
    rw [after]
    exact .refuseFresh accepted packet upcoming
  · rw [kind] at packet
    have after : (putFailed ctx sub).tally =
        { ctx.tally with
          packet := none
          routes := (h264RouteTake token ctx.tally.routes).2
          outstanding :=
            if (h264RouteTake token ctx.tally.routes).1.isSome then ctx.tally.outstanding - 1
            else ctx.tally.outstanding
          upcoming := ctx.jobs } := by
      unfold putFailed
      rw [kind, before, free]
      rfl
    rw [after]
    exact .refusePaired accepted packet upcoming

theorem drainHevcAfterSubmit_tally (ctx : Context) : (drainHevcAfterSubmit ctx).tally =
    ⟨ctx.outstanding, ctx.h264Routes, none, false, ctx.jobs⟩ := by
  unfold drainHevcAfterSubmit
  split <;> rfl

theorem packetAccepted_tally {sub : Submission} {made : Bool} (worker : ctx.worker = .put sub)
    (kinds : sub.kind = .fresh ∨ ∃ token, sub.kind = .paired token)
    (accepted : acceptedPts ctx a = [sub.pts]) :
    TallyMove ctx a (packetAccepted ctx sub made).tally := by
  have before := tally_eq worker
  obtain ⟨packet, upcoming⟩ := tally_packet worker rfl
  unfold Submission.pts at accepted
  rcases kinds with kind | ⟨token, kind⟩
  · rw [kind] at packet accepted
    have after : (packetAccepted ctx sub made).tally =
        { ctx.tally with
          packet := none, outstanding := ctx.tally.outstanding + 1, upcoming := ctx.jobs } := by
      unfold packetAccepted
      rw [kind]
      dsimp only
      rw [drainHevcAfterSubmit_tally, before]
      rfl
    rw [after]
    exact .count accepted packet upcoming
  · rw [kind] at packet accepted
    have shared {x : Context} (same : x.tally = ⟨ctx.outstanding, ctx.h264Routes, none, false, ctx.jobs⟩) :
        TallyMove ctx a x.tally := by
      have after : x.tally = { ctx.tally with packet := none, upcoming := ctx.jobs } := by
        rw [same, before]
        rfl
      rw [after]
      exact .share accepted packet upcoming
    unfold packetAccepted
    rw [kind]
    dsimp only
    split
    · exact shared rfl
    · rename_i missing
      split
      · have after : (drainHevcAfterSubmit { accept ctx sub with
            h264Routes := { frameRouteCreate sub.job with token := token } ::
              (accept ctx sub).h264Routes
            outstanding := (accept ctx sub).outstanding + 1 }).tally =
            { ctx.tally with
              packet := none
              routes := { frameRouteCreate sub.job with token := token } :: ctx.tally.routes
              outstanding := ctx.tally.outstanding + 1
              upcoming := ctx.jobs } := by
          rw [drainHevcAfterSubmit_tally, before]
          rfl
        rw [after]
        refine .replace accepted packet upcoming ?_
        rw [before]
        exact missing
      · exact shared rfl

theorem resumeTrue_tally (ctx : Context) (consumed : Bool) (k : Resume) :
    (resumeTrue ctx consumed k).tally =
      ⟨if consumed then ctx.outstanding - 1 else ctx.outstanding, ctx.h264Routes,
        k.packet, false, (k.packet.map Prod.fst).toList ++ ctx.jobs⟩ := by
  cases k <;> rfl

/-- The drain is back with the route that it has counted down. -/
theorem resume_tally {w : Worker} {k : Resume} (worker : ctx.worker = w)
    (taken : w.taken = true) (packet : w.hand.packet = k.packet)
    (held : w.hand.held = (k.packet.map Prod.fst).toList) (accepted : acceptedPts ctx a = []) :
    TallyMove ctx a (resumeTrue ctx true k).tally := by
  have before := tally_eq worker
  have after : (resumeTrue ctx true k).tally =
      { ctx.tally with taken := false, outstanding := ctx.tally.outstanding - 1 } := by
    rw [resumeTrue_tally, before, packet, held]
    rfl
  rw [after]
  refine .give accepted ?_
  rw [before]
  exact taken

theorem resumeFalse_tally {k : Resume} {patience : Bool} (worker : ctx.worker = .drain k)
    (kinds : ∀ job kind, ctx.tally.packet = some (job, kind) →
      kind = .fresh ∨ ∃ token, kind = .paired token) :
    TallyMove ctx (.getFrame none patience) (resumeFalse ctx patience k).tally := by
  have nothing : acceptedPts ctx (.getFrame none patience) ⊆ [0] := List.nil_subset _
  cases k with
  | mainLoop draining =>
    simp only [resumeFalse]
    split
    · exact .stays worker nothing rfl
    · split
      · exact .stays worker nothing rfl
      · split
        · exact .stays worker nothing rfl
        · have before := tally_eq worker
          have after : ({ ctx with
              worker := .failing (ctx.h264Routes ++ ctx.genericRoutes), h264Routes := []
              genericRoutes := [], outstanding := 0, stalledSince := false } : Context).tally =
              { ctx.tally with outstanding := 0, routes := [] } := by
            rw [before]
            rfl
          rw [after]
          exact .stall rfl (by rw [before]; rfl) (by rw [before]; rfl)
  | afterSubmit => exact .stays worker nothing rfl
  | put sub =>
    simp only [resumeFalse]
    split
    · exact .stays worker nothing rfl
    · split
      · exact .stays worker nothing rfl
      · have hand : (Worker.put sub).hand = .waiting (some (sub.job, sub.kind)) := rfl
        obtain ⟨packet, -⟩ := tally_packet worker hand
        exact putFailed_tally worker rfl rfl (kinds _ _ packet) rfl
  | eos tries =>
    simp only [resumeFalse]
    split <;> exact .stays worker nothing rfl

theorem frameArrived_tally {frame : MppFrame} {patience : Bool} {k : Resume}
    (worker : ctx.worker = .drain k) (token : ctx.coding.usesTokenRoutes = true) :
    TallyMove ctx (.getFrame (some frame) patience) (frameArrived ctx frame k).tally := by
  have nothing : acceptedPts ctx (.getFrame (some frame) patience) ⊆ [0] := List.nil_subset _
  have before := tally_eq worker
  unfold frameArrived
  dsimp only
  split
  · refine .stays worker nothing ?_
    rw [resumeTrue_tally]
    rfl
  · rename_i info
    unfold takeRoute
    rw [if_pos token]
    split
    · rename_i y taken
      obtain ⟨none_left, rfl⟩ := Prod.mk.inj taken
      refine .stays worker nothing ?_
      rw [resumeTrue_tally]
      simp only [h264RouteTake_none none_left]
      rfl
    · rename_i route y taken
      obtain ⟨found, rfl⟩ := Prod.mk.inj taken
      have after : ({ ({ ctx with
          sawEos := ctx.sawEos || frame.eos, owed := ctx.owed.erase frame.producer
          h264Routes := (h264RouteTake frame.pts ctx.h264Routes).2 } : Context) with
            worker := .check route frame k } : Context).tally =
          { ctx.tally with
            taken := true, routes := (h264RouteTake frame.pts ctx.tally.routes).2 } := by
        rw [before]
        rfl
      have free : ctx.tally.taken = false := by
        rw [before]
        rfl
      have found' : (h264RouteTake frame.pts ctx.tally.routes).1 = some route := by
        rw [before]
        exact found
      exact after ▸ .take rfl (eq_false_of_ne_true info) free found'

/-- Inside `assign_mpp_frame`, where the route stays out of the list. -/
theorem assigning_tally {w w' : Worker} (worker : ctx.worker = w)
    (taken : w'.taken = w.taken) (packet : w'.hand.packet = w.hand.packet)
    (held : w'.hand.held = w.hand.held) (accepted : acceptedPts ctx a = []) :
    TallyMove ctx a ({ ctx with worker := w' } : Context).tally := by
  refine .stays worker (by rw [accepted]; exact List.nil_subset _) ?_
  rw [← taken, ← packet, ← held]
  rfl

/-- Every step of the worker of a context with tokens is one of these moves. -/
theorem workerStep_tally {t : Touch} (packets : TokenPackets ctx)
    (token : ctx.coding.usesTokenRoutes = true)
    (h : workerStep ctx surfaces a = some (ctx', t)) : TallyMove ctx a ctx'.tally := by
  have kinds := packets token
  cases a with
  | next expired =>
    simp only [workerStep] at h
    split at h
    · rename_i worker
      obtain ⟨x, next, same⟩ := Option.map_eq_some_iff.mp h
      obtain ⟨rfl, rfl⟩ := Prod.mk.inj same
      exact nextJob_tally worker next
    · cases h
  | submit made =>
    simp only [workerStep] at h
    split at h
    · rename_i job worker
      obtain ⟨rfl, rfl⟩ := Prod.mk.inj (Option.some.inj h)
      exact submit_tally worker token
    · cases h
  | put outcome =>
    simp only [workerStep] at h
    split at h
    · rename_i sub worker
      obtain ⟨packet, -⟩ := tally_packet worker rfl
      have kinds := kinds _ _ packet
      split at h
      · rename_i tired
        obtain ⟨rfl, rfl⟩ := Prod.mk.inj (Option.some.inj h)
        refine putFailed_tally worker rfl rfl kinds ?_
        cases outcome <;> simp only [acceptedPts, worker, if_pos tired]
      · rename_i patient
        cases outcome with
        | unmade =>
          dsimp only at h
          split at h
          · obtain ⟨rfl, rfl⟩ := Prod.mk.inj (Option.some.inj h)
            exact putFailed_tally worker rfl rfl kinds rfl
          · cases h
        | stopping =>
          dsimp only at h
          split at h
          · obtain ⟨rfl, rfl⟩ := Prod.mk.inj (Option.some.inj h)
            exact putFailed_tally worker rfl rfl kinds rfl
          · cases h
        | busy =>
          obtain ⟨rfl, rfl⟩ := Prod.mk.inj (Option.some.inj h)
          exact assigning_tally worker rfl rfl rfl rfl
        | accepted made =>
          obtain ⟨rfl, rfl⟩ := Prod.mk.inj (Option.some.inj h)
          refine packetAccepted_tally worker kinds ?_
          simp only [acceptedPts, worker, if_neg patient]
    · cases h
  | putEos accepted =>
    simp only [workerStep] at h
    split at h
    · rename_i tries worker
      have marker : acceptedPts ctx (.putEos accepted) ⊆ [0] := by
        cases accepted with
        | false => exact List.nil_subset _
        | true =>
          simp only [acceptedPts, worker]
          split
          · exact List.nil_subset _
          · exact List.Subset.refl _
      split at h
      · obtain ⟨rfl, rfl⟩ := Prod.mk.inj (Option.some.inj h)
        exact .stays worker marker rfl
      · obtain ⟨rfl, rfl⟩ := Prod.mk.inj (Option.some.inj h)
        exact .stays worker marker rfl
    · cases h
  | getFrame frame patience =>
    simp only [workerStep] at h
    split at h
    · rename_i k worker
      cases frame with
      | some frame =>
        obtain ⟨rfl, rfl⟩ := Prod.mk.inj (Option.some.inj h)
        exact frameArrived_tally worker token
      | none =>
        obtain ⟨rfl, rfl⟩ := Prod.mk.inj (Option.some.inj h)
        exact resumeFalse_tally worker kinds
    · cases h
  | check =>
    simp only [workerStep] at h
    split at h
    · rename_i route frame k worker
      split at h
      · obtain ⟨rfl, rfl⟩ := Prod.mk.inj (Option.some.inj h)
        exact resume_tally worker rfl rfl rfl rfl
      · split at h
        · obtain ⟨rfl, rfl⟩ := Prod.mk.inj (Option.some.inj h)
          exact assigning_tally worker rfl rfl rfl rfl
        · obtain ⟨rfl, rfl⟩ := Prod.mk.inj (Option.some.inj h)
          exact assigning_tally worker rfl rfl rfl rfl
    · cases h
  | convert conversion =>
    simp only [workerStep] at h
    split at h
    · rename_i route frame k worker
      cases conversion with
      | unusable =>
        obtain ⟨rfl, rfl⟩ := Prod.mk.inj (Option.some.inj h)
        exact assigning_tally worker rfl rfl rfl rfl
      | usable converted =>
        obtain ⟨rfl, rfl⟩ := Prod.mk.inj (Option.some.inj h)
        exact assigning_tally worker rfl rfl rfl rfl
    · cases h
  | copy fits =>
    simp only [workerStep] at h
    split at h
    · rename_i route frame converted k worker
      split at h
      · obtain ⟨rfl, rfl⟩ := Prod.mk.inj (Option.some.inj h)
        exact assigning_tally worker rfl rfl rfl rfl
      · split at h
        · obtain ⟨rfl, rfl⟩ := Prod.mk.inj (Option.some.inj h)
          exact assigning_tally worker rfl rfl rfl rfl
        · obtain ⟨rfl, rfl⟩ := Prod.mk.inj (Option.some.inj h)
          exact assigning_tally worker rfl rfl rfl rfl
    · cases h
  | retain refs =>
    simp only [workerStep] at h
    split at h
    · rename_i route frame converted copied k worker
      split at h
      · obtain ⟨rfl, rfl⟩ := Prod.mk.inj (Option.some.inj h)
        exact assigning_tally worker rfl rfl rfl rfl
      · split at h
        · cases h
        · obtain ⟨rfl, rfl⟩ := Prod.mk.inj (Option.some.inj h)
          exact assigning_tally worker rfl rfl rfl rfl
    · cases h
  | publish =>
    simp only [workerStep] at h
    split at h
    · rename_i route frame output k worker
      obtain ⟨rfl, rfl⟩ := Prod.mk.inj (Option.some.inj h)
      exact resume_tally worker rfl rfl rfl rfl
    · cases h
  | complete =>
    simp only [workerStep] at h
    split at h
    · rename_i surface fence success k worker
      obtain ⟨rfl, rfl⟩ := Prod.mk.inj (Option.some.inj h)
      cases k with
      | none => exact .stays worker (List.nil_subset _) rfl
      | some k => exact resume_tally worker rfl rfl rfl rfl
    · cases h
  | failRoute =>
    simp only [workerStep] at h
    split at h
    · rename_i worker
      obtain ⟨rfl, rfl⟩ := Prod.mk.inj (Option.some.inj h)
      exact .stays worker (List.nil_subset _) rfl
    · rename_i route routes worker
      obtain ⟨rfl, rfl⟩ := Prod.mk.inj (Option.some.inj h)
      exact .stays worker (List.nil_subset _) rfl
    · cases h

end

/-! ## The balance -/

/-- A route that is listed but not counted yet: that of a packet that MPP has yet to accept. -/
def uncounted : Option (Job × Kind) → Nat
  | some (_, .fresh) => 1
  | _ => 0

/-- The tally of a context whose last token was `next`, where MPP has accepted packets with the PTS
`pts`. The routes are those of accepted packets, and that of the packet under submission. -/
structure TallyInv (next : Nat) (pts : List Nat) (t : Tally) : Prop where
  sorted : (t.upcoming.map Job.token).Pairwise (· < ·)
  issued : ∀ job ∈ t.upcoming, 0 < job.token ∧ job.token ≤ next
  bounded : ∀ n ∈ pts, n ≤ next
  ahead : ∀ job ∈ t.upcoming, job.token ∉ pts
  front : ∀ job kind, t.packet = some (job, kind) → job ∈ t.upcoming
  live : ∀ route ∈ t.routes, route.token ∈ pts ∨
    ∃ job, t.packet = some (job, .fresh) ∧ job.token = route.token
  paired : ∀ job token, t.packet = some (job, .paired token) → token ∈ pts
  listed : ∀ job, t.packet = some (job, .fresh) → ∃ route ∈ t.routes, route.token = job.token
  distinct : (t.routes.map Route.token).Nodup
  counted : t.outstanding + uncounted t.packet = t.routes.length + t.taken.toNat

theorem h264RouteTake_isSome {token : Nat} {routes : List Route} {route : Route}
    (mem : route ∈ routes) (same : route.token = token) :
    ∃ first, (h264RouteTake token routes).1 = some first := by
  induction routes with
  | nil => cases mem
  | cons first routes ih =>
    unfold h264RouteTake
    split
    · exact ⟨first, rfl⟩
    · rename_i other
      rcases List.mem_cons.mp mem with rfl | mem
      · exact absurd same other
      · exact ih mem

/-- A frame that is not an announcement carries the PTS of a packet that MPP has accepted. -/
def ptsAccepted (pts : List Nat) : Action → Bool
  | .worker (.getFrame (some frame) _) => frame.infoChange || decide (frame.pts ∈ pts)
  | _ => true

section

variable {ctx : Context} {a : WorkerAction} {t' : Tally} {next : Nat} {pts : List Nat}

/-- The route that a frame or a refused packet takes out of the list. -/
theorem TallyInv.without {t : Tally} (h : TallyInv next pts t) {token : Nat} {route : Route}
    (found : (h264RouteTake token t.routes).1 = some route) :
    t.routes.length = (h264RouteTake token t.routes).2.length + 1 ∧
      ((h264RouteTake token t.routes).2.map Route.token).Nodup ∧
      ∀ other ∈ (h264RouteTake token t.routes).2, other.token ≠ token := by
  have perm := h264RouteTake_perm found
  have distinct := (perm.map Route.token).nodup_iff.mp h.distinct
  obtain ⟨-, same⟩ := h264RouteTake_some found
  rw [List.map_cons, List.nodup_cons, same] at distinct
  refine ⟨perm.length_eq, distinct.2, fun other mem here => ?_⟩
  exact distinct.1 (List.mem_map.mpr ⟨other, mem, here⟩)

/-- Between the packets of new pictures, MPP has accepted the packets of all routes. -/
theorem TallyInv.all_accepted {t : Tally} (h : TallyInv next pts t)
    (known : ∀ job, t.packet ≠ some (job, .fresh)) : ∀ route ∈ t.routes, route.token ∈ pts := by
  intro route mem
  rcases h.live route mem with accepted | ⟨job, packet, -⟩
  · exact accepted
  · exact absurd packet (known job)

/-- The jobs behind the one whose packet is accepted have later tokens. -/
theorem TallyInv.accept {t : Tally} (h : TallyInv next pts t) {job : Job} {rest : List Job}
    (upcoming : t.upcoming = job :: rest) {token : Nat} (own : token = job.token ∨ token ∈ pts) :
    (rest.map Job.token).Pairwise (· < ·) ∧
      (∀ later ∈ rest, 0 < later.token ∧ later.token ≤ next) ∧
      (∀ n ∈ pts ++ [token], n ≤ next) ∧ ∀ later ∈ rest, later.token ∉ pts ++ [token] := by
  have sorted := h.sorted
  have issued := h.issued
  rw [upcoming] at sorted issued
  rw [List.map_cons, List.pairwise_cons] at sorted
  have below : token ≤ next := by
    rcases own with rfl | mem
    · exact (issued job List.mem_cons_self).2
    · exact h.bounded token mem
  refine ⟨sorted.2, fun later mem => issued later (List.mem_cons_of_mem job mem), ?_, ?_⟩
  · intro n mem
    rcases List.mem_append.mp mem with mem | mem
    · exact h.bounded n mem
    · rw [List.mem_singleton.mp mem]
      exact below
  · intro later mem accepted
    have other : later.token ∉ pts :=
      h.ahead later (upcoming ▸ List.mem_cons_of_mem job mem)
    rcases List.mem_append.mp accepted with accepted | accepted
    · exact other accepted
    · have same := List.mem_singleton.mp accepted
      rcases own with own | mem'
      · have after := sorted.1 later.token (List.mem_map_of_mem mem)
        omega
      · exact other (same ▸ mem')

/-- A step of the worker keeps the balance, if a field shares the token of no route but that of its
own surface and MPP returns nothing before it has accepted it. -/
theorem TallyMove.inv (move : TallyMove ctx a t') (h : TallyInv next pts ctx.tally)
    (answers : ptsAccepted pts (.worker a) = true)
    (shared : ∀ job token, ctx.tally.packet = some (job, .paired token) →
      ∀ route ∈ ctx.tally.routes, route.token = token →
        route.surface = job.surface ∧ route.fence = job.fence) :
    TallyInv next (pts ++ acceptedPts ctx a) t' := by
  cases move with
  | keep accepted =>
    have marker {n : Nat} (mem : n ∈ pts ++ acceptedPts ctx a) : n ∈ pts ∨ n = 0 :=
      (List.mem_append.mp mem).imp_right fun mem => List.mem_singleton.mp (accepted mem)
    constructor
    case bounded =>
      intro n mem
      rcases marker mem with mem | rfl
      · exact h.bounded n mem
      · exact Nat.zero_le next
    case ahead =>
      intro job mem accepted
      rcases marker accepted with accepted | zero
      · exact h.ahead job mem accepted
      · have := (h.issued job mem).1
        omega
    case live =>
      intro route mem
      exact (h.live route mem).imp_left fun mem => List.mem_append_left _ mem
    case paired =>
      intro job token packet
      exact List.mem_append_left _ (h.paired job token packet)
    case sorted => exact h.sorted
    case issued => exact h.issued
    case front => exact h.front
    case listed => exact h.listed
    case distinct => exact h.distinct
    case counted => exact h.counted
  | finish accepted idle later =>
    rw [accepted, List.append_nil]
    constructor
    case sorted => exact h.sorted.sublist (later.map _)
    case issued => exact fun job mem => h.issued job (later.subset mem)
    case bounded => exact h.bounded
    case ahead => exact fun job mem => h.ahead job (later.subset mem)
    case front =>
      intro job kind packet
      rw [idle] at packet
      cases packet
    case live => exact h.live
    case paired => exact h.paired
    case listed => exact h.listed
    case distinct => exact h.distinct
    case counted => exact h.counted
  | pair accepted idle front found =>
    rename_i job route
    rw [accepted, List.append_nil]
    obtain ⟨mem, -⟩ := h264RouteFindSurface_some found
    have all := h.all_accepted fun job fresh => by
      rw [idle] at fresh
      cases fresh
    constructor
    case sorted => exact h.sorted
    case issued => exact h.issued
    case bounded => exact h.bounded
    case ahead => exact h.ahead
    case front =>
      intro job' kind packet
      obtain ⟨rfl, -⟩ := Prod.mk.inj (Option.some.inj packet)
      exact front
    case live => exact fun other mem => .inl (all other mem)
    case paired =>
      intro job' token packet
      obtain ⟨-, same⟩ := Prod.mk.inj (Option.some.inj packet)
      obtain rfl := Kind.paired.inj same
      exact all route mem
    case listed =>
      intro job' packet
      obtain ⟨-, same⟩ := Prod.mk.inj (Option.some.inj packet)
      cases same
    case distinct => exact h.distinct
    case counted =>
      have counted := h.counted
      rw [idle] at counted
      exact counted
  | route accepted idle front =>
    rename_i job
    rw [accepted, List.append_nil]
    have all := h.all_accepted fun job fresh => by
      rw [idle] at fresh
      cases fresh
    constructor
    case sorted => exact h.sorted
    case issued => exact h.issued
    case bounded => exact h.bounded
    case ahead => exact h.ahead
    case front =>
      intro job' kind packet
      obtain ⟨rfl, -⟩ := Prod.mk.inj (Option.some.inj packet)
      exact front
    case live =>
      intro other mem
      rcases List.mem_cons.mp mem with rfl | mem
      · exact .inr ⟨job, rfl, rfl⟩
      · exact .inl (all other mem)
    case paired =>
      intro job' token packet
      obtain ⟨-, same⟩ := Prod.mk.inj (Option.some.inj packet)
      cases same
    case listed =>
      intro job' packet
      obtain ⟨rfl, -⟩ := Prod.mk.inj (Option.some.inj packet)
      exact ⟨frameRouteCreate job, List.mem_cons_self, rfl⟩
    case distinct =>
      rw [List.map_cons, List.nodup_cons]
      refine ⟨fun mem => ?_, h.distinct⟩
      obtain ⟨other, mem, same⟩ := List.mem_map.mp mem
      have accepted := all other mem
      rw [same] at accepted
      exact h.ahead job front accepted
    case counted =>
      have counted := h.counted
      rw [idle] at counted
      simp only [uncounted, List.length_cons] at counted ⊢
      omega
  | refuseFresh accepted packet upcoming =>
    rename_i job rest
    rw [accepted, List.append_nil]
    obtain ⟨route, mem, same⟩ := h.listed job packet
    obtain ⟨first, found⟩ := h264RouteTake_isSome mem same
    obtain ⟨length, distinct, others⟩ := h.without found
    have later : rest ⊆ ctx.tally.upcoming := upcoming ▸ List.subset_cons_self job rest
    constructor
    case sorted =>
      have sorted := h.sorted
      rw [upcoming] at sorted
      exact sorted.of_cons
    case issued => exact fun job mem => h.issued job (later mem)
    case bounded => exact h.bounded
    case ahead => exact fun job mem => h.ahead job (later mem)
    case front => intro job' kind packet; cases packet
    case live =>
      intro other mem
      rcases h.live other (h264RouteTake_subset _ _ mem) with accepted | ⟨job', packet', own⟩
      · exact .inl accepted
      · rw [packet] at packet'
        obtain ⟨rfl, -⟩ := Prod.mk.inj (Option.some.inj packet')
        exact absurd own.symm (others other mem)
    case paired => intro job' token packet; cases packet
    case listed => intro job' packet; cases packet
    case distinct => exact distinct
    case counted =>
      have counted := h.counted
      rw [packet] at counted
      simp only [uncounted] at counted ⊢
      omega
  | refusePaired accepted packet upcoming =>
    rename_i job token rest
    rw [accepted, List.append_nil]
    have all := h.all_accepted fun job' fresh => by
      rw [packet] at fresh
      cases fresh
    have later : rest ⊆ ctx.tally.upcoming := upcoming ▸ List.subset_cons_self job rest
    constructor
    case sorted =>
      have sorted := h.sorted
      rw [upcoming] at sorted
      exact sorted.of_cons
    case issued => exact fun job mem => h.issued job (later mem)
    case bounded => exact h.bounded
    case ahead => exact fun job mem => h.ahead job (later mem)
    case front => intro job' kind packet; cases packet
    case live => exact fun other mem => .inl (all other (h264RouteTake_subset _ _ mem))
    case paired => intro job' token packet; cases packet
    case listed => intro job' packet; cases packet
    case distinct =>
      cases found : (h264RouteTake token ctx.tally.routes).1 with
      | none =>
        rw [h264RouteTake_none found]
        exact h.distinct
      | some route => exact (h.without found).2.1
    case counted =>
      have counted := h.counted
      rw [packet] at counted
      simp only [uncounted] at counted ⊢
      cases found : (h264RouteTake token ctx.tally.routes).1 with
      | none =>
        rw [h264RouteTake_none found]
        exact counted
      | some route =>
        have := (h.without found).1
        simp only [Option.isSome_some, if_true]
        omega
  | count accepted packet upcoming =>
    rename_i job rest
    rw [accepted]
    obtain ⟨sorted, issued, bounded, ahead⟩ := h.accept upcoming (.inl rfl)
    refine ⟨sorted, issued, bounded, ahead, ?_, ?_, ?_, ?_, h.distinct, ?_⟩
    · intro job' kind packet
      cases packet
    · intro route mem
      refine .inl (List.mem_append.mpr ?_)
      rcases h.live route mem with accepted | ⟨job', packet', own⟩
      · exact .inl accepted
      · rw [packet] at packet'
        obtain ⟨rfl, -⟩ := Prod.mk.inj (Option.some.inj packet')
        exact .inr (List.mem_singleton.mpr own.symm)
    · intro job' token packet
      cases packet
    · intro job' packet
      cases packet
    · have counted := h.counted
      rw [packet] at counted
      exact counted
  | share accepted packet upcoming =>
    rename_i job token rest
    rw [accepted]
    obtain ⟨sorted, issued, bounded, ahead⟩ := h.accept upcoming (.inr (h.paired job token packet))
    have all := h.all_accepted fun job' fresh => by
      rw [packet] at fresh
      cases fresh
    refine ⟨sorted, issued, bounded, ahead, ?_, ?_, ?_, ?_, h.distinct, ?_⟩
    · intro job' kind packet
      cases packet
    · exact fun route mem => .inl (List.mem_append_left _ (all route mem))
    · intro job' token packet
      cases packet
    · intro job' packet
      cases packet
    · have counted := h.counted
      rw [packet] at counted
      exact counted
  | replace accepted packet upcoming missing =>
    rename_i job token rest
    rw [accepted]
    obtain ⟨sorted, issued, bounded, ahead⟩ := h.accept upcoming (.inr (h.paired job token packet))
    have all := h.all_accepted fun job' fresh => by
      rw [packet] at fresh
      cases fresh
    refine ⟨sorted, issued, bounded, ahead, ?_, ?_, ?_, ?_, ?_, ?_⟩
    · intro job' kind packet
      cases packet
    · intro route mem
      refine .inl (List.mem_append.mpr ?_)
      rcases List.mem_cons.mp mem with rfl | mem
      · exact .inr (List.mem_singleton.mpr rfl)
      · exact .inl (all route mem)
    · intro job' token packet
      cases packet
    · intro job' packet
      cases packet
    · -- a route with the token would be for the surface and the fence of the job
      rw [List.map_cons, List.nodup_cons]
      refine ⟨fun mem => ?_, h.distinct⟩
      obtain ⟨route, mem, same⟩ := List.mem_map.mp mem
      obtain ⟨surface, fence⟩ := shared job token packet route mem same
      have absent := List.find?_eq_none.mp missing route mem
      simp only [surface, fence, beq_self_eq_true, Bool.and_self, not_true_eq_false] at absent
    · have counted := h.counted
      rw [packet] at counted
      simp only [uncounted, List.length_cons] at counted ⊢
      omega
  | take action shown free found =>
    rename_i frame patience route
    have returned : frame.pts ∈ pts := by
      rw [action] at answers
      simp only [ptsAccepted, shown, Bool.false_or, decide_eq_true_eq] at answers
      exact answers
    have nothing : acceptedPts ctx a = [] := by
      rw [action]
      rfl
    rw [nothing, List.append_nil]
    obtain ⟨length, distinct, others⟩ := h.without found
    refine ⟨h.sorted, h.issued, h.bounded, h.ahead, h.front, ?_, h.paired, ?_, distinct, ?_⟩
    · exact fun other mem => h.live other (h264RouteTake_subset _ _ mem)
    · intro job packet
      obtain ⟨own, mem, same⟩ := h.listed job packet
      refine ⟨own, ?_, same⟩
      rcases List.mem_cons.mp ((h264RouteTake_perm found).subset mem) with rfl | mem
      · -- MPP has not accepted the packet of this route
        have taken := (h264RouteTake_some found).2
        rw [← taken, same] at returned
        exact absurd returned (h.ahead job (h.front job .fresh packet))
      · exact mem
    · have counted := h.counted
      rw [free] at counted
      simp only [Bool.toNat_false, Bool.toNat_true] at counted ⊢
      omega
  | give accepted taken =>
    rw [accepted, List.append_nil]
    refine ⟨h.sorted, h.issued, h.bounded, h.ahead, h.front, h.live, h.paired, h.listed, h.distinct,
      ?_⟩
    have counted := h.counted
    rw [taken] at counted
    simp only [Bool.toNat_false, Bool.toNat_true] at counted ⊢
    -- a route that is not counted yet is listed
    have listed : uncounted ctx.tally.packet ≤ ctx.tally.routes.length := by
      unfold uncounted
      split
      · rename_i job packet
        obtain ⟨route, mem, -⟩ := h.listed job packet
        exact List.length_pos_of_mem mem
      · exact Nat.zero_le _
    omega
  | stall accepted idle free =>
    rw [accepted, List.append_nil]
    refine ⟨h.sorted, h.issued, h.bounded, h.ahead, h.front, ?_, h.paired, ?_, List.nodup_nil, ?_⟩
    · intro route mem
      cases mem
    · intro job packet
      rw [idle] at packet
      cases packet
    · rw [idle, free]
      rfl

end

/-! ## The steps of a context -/

/-- What the worker and the calls keep of a context with tokens, up to the wrap of the counter. -/
structure CountInv (pts : List Nat) (ctx : Context) : Prop where
  coding : ctx.coding.usesTokenRoutes = true
  tokens : TokenInv ctx
  packets : TokenPackets ctx
  tally : ctx.enqueued.length < 2 ^ 63 - 1 → TallyInv ctx.nextToken pts ctx.tally

theorem HandKnown.packet {coding : Coding} {enqueued : List Job} {hand : Hand}
    (h : HandKnown coding enqueued hand) : PacketKnown enqueued hand.packet := by
  cases hand with
  | waiting packet => exact h
  | assigning route frame packet => exact h.2.2
  | completing surface fence packet => exact h.2
  | _ => trivial

/-- A route that has the token of a field is one for its surface and its fence. -/
theorem CountInv.shared {pts : List Nat} {ctx : Context} (h : CountInv pts ctx)
    (bound : ctx.enqueued.length < 2 ^ 63 - 1) (job : Job) (token : Nat)
    (packet : ctx.tally.packet = some (job, .paired token)) (route : Route)
    (mem : route ∈ ctx.tally.routes) (same : route.token = token) :
    route.surface = job.surface ∧ route.fence = job.fence := by
  have known : PacketKnown ctx.enqueued ctx.tally.packet := h.tokens.routed.hand.packet
  rw [packet] at known
  have issued := (h.tokens.routed.h264Routes route mem).token
  rw [same] at issued
  exact h.tokens.numbered.eq_of_issued (by omega) issued (known.2 token rfl)

/-- What the calls do to a tally: they enqueue a job, or end the worker. -/
theorem ctxStep_tally {c : ContextId} {ctx ctx' : Context} {surfaces : Surfaces} {a : Action}
    {t : Touch} (other : ∀ w, a ≠ .worker w) (hstep : ctxStep c ctx surfaces a = some (ctx', t)) :
    (ctx'.tally = ctx.tally ∨ ctx'.tally = ⟨0, [], none, false, []⟩) ∧
        ctx'.enqueued = ctx.enqueued ∧ ctx'.nextToken = ctx.nextToken ∨
      ∃ calls job, ctx' = rkMppDecEnqueueJob { ctx with calls := calls } job := by
  cases a with
  | app a =>
    cases appStep_move hstep with
    | enqueue call => exact .inr ⟨_, _, rfl⟩
    | _ => exact .inl ⟨.inl rfl, rfl, rfl⟩
  | worker a => exact absurd rfl (other a)
  | stop a =>
    cases stopStep_move hstep with
    | join stop exited =>
      refine .inl ⟨.inr ?_, rfl, rfl⟩
      simp only [Context.tally, Context.work, Work.upcoming, exited]
      rfl
    | _ => exact .inl ⟨.inl rfl, rfl, rfl⟩
  | exportSurface surface =>
    obtain ⟨rfl, -⟩ := Prod.mk.inj (Option.some.inj hstep)
    exact .inl ⟨.inl rfl, rfl, rfl⟩

theorem TallyInv.ended {next : Nat} {pts : List Nat} (bounded : ∀ n ∈ pts, n ≤ next) :
    TallyInv next pts ⟨0, [], none, false, []⟩ where
  sorted := List.Pairwise.nil
  issued job mem := absurd mem List.not_mem_nil
  bounded := bounded
  ahead job mem := absurd mem List.not_mem_nil
  front job kind packet := by cases packet
  live route mem := absurd mem List.not_mem_nil
  paired job token packet := by cases packet
  listed job packet := by cases packet
  distinct := List.nodup_nil
  counted := rfl

/-- A new job gets the next token. -/
theorem TallyInv.enqueue {next : Nat} {pts : List Nat} {t : Tally} (h : TallyInv next pts t)
    (job : Job) (token : job.token = next + 1) :
    TallyInv (next + 1) pts { t with upcoming := t.upcoming ++ [job] } := by
  have fewer {n : Nat} (below : n ≤ next) : n ≤ next + 1 := Nat.le_succ_of_le below
  refine ⟨?_, ?_, fun n mem => fewer (h.bounded n mem), ?_, ?_, h.live, h.paired, h.listed,
    h.distinct, h.counted⟩
  · rw [List.map_append, List.pairwise_append]
    refine ⟨h.sorted, List.pairwise_singleton _ _, ?_⟩
    intro n mem m last
    obtain ⟨earlier, before, rfl⟩ := List.mem_map.mp mem
    rw [List.mem_singleton.mp last, token]
    exact Nat.lt_succ_of_le (h.issued earlier before).2
  · intro queued mem
    rcases List.mem_append.mp mem with mem | mem
    · exact ⟨(h.issued queued mem).1, fewer (h.issued queued mem).2⟩
    · rw [List.mem_singleton.mp mem, token]
      exact ⟨Nat.succ_pos next, Nat.le_refl _⟩
  · intro queued mem accepted
    rcases List.mem_append.mp mem with mem | mem
    · exact h.ahead queued mem accepted
    · rw [List.mem_singleton.mp mem, token] at accepted
      exact absurd (h.bounded _ accepted) (Nat.not_succ_le_self next)
  · intro submitted kind packet
    exact List.mem_append_left _ (h.front submitted kind packet)

/-- The PTS of the packet that MPP accepts in an action. -/
def Action.acceptedPts (ctx : Context) : Action → List Nat
  | .worker a => Decode.acceptedPts ctx a
  | _ => []

theorem countInv_step {c : ContextId} {ctx ctx' : Context} {surfaces : Surfaces} {a : Action}
    {t : Touch} {pts : List Nat} (h : CountInv pts ctx) (answers : ptsAccepted pts a = true)
    (hstep : ctxStep c ctx surfaces a = some (ctx', t)) :
    CountInv (pts ++ a.acceptedPts ctx) ctx' := by
  refine ⟨?_, tokenInv_step h.tokens hstep, tokenPackets_step h.packets hstep, ?_⟩
  · cases ctxStep_cases hstep with
    | same same => exact same.coding.symm ▸ h.coding
    | enqueue action call result => exact result ▸ h.coding
    | worker action move calls => exact calls.coding.symm ▸ h.coding
    | joined joined => exact joined.coding.symm ▸ h.coding
  · intro bound
    by_cases worker : ∃ w, a = .worker w
    · obtain ⟨w, rfl⟩ := worker
      obtain ⟨-, calls⟩ := workerStep_move hstep
      rw [calls.enqueued] at bound
      rw [calls.nextToken]
      exact (workerStep_tally h.packets h.coding hstep).inv (h.tally bound) answers (h.shared bound)
    · have other (w : WorkerAction) (same : a = .worker w) : False := worker ⟨w, same⟩
      have nothing : a.acceptedPts ctx = [] := by
        cases a with
        | worker w => exact absurd rfl (other w)
        | _ => rfl
      rw [nothing, List.append_nil]
      rcases ctxStep_tally other hstep with ⟨tally, enqueued, next⟩ | ⟨calls, job, rfl⟩
      · rw [enqueued] at bound
        rw [next]
        rcases tally with tally | tally
        · rw [tally]
          exact h.tally bound
        · rw [tally]
          exact .ended (h.tally bound).bounded
      · have length : (rkMppDecEnqueueJob { ctx with calls := calls } job).enqueued.length =
            ctx.enqueued.length + 1 := List.length_append
        rw [length] at bound
        obtain ⟨next, -⟩ := h.tokens.numbered (by omega)
        have token : nextToken ctx.nextToken = ctx.nextToken + 1 := nextToken_of_lt (by omega)
        have queued := (h.tally (by omega)).enqueue
          { job with token := nextToken ctx.nextToken, serial := ctx.enqueued.length } token
        have tally : (rkMppDecEnqueueJob { ctx with calls := calls } job).tally =
            { ctx.tally with
              upcoming := ctx.tally.upcoming ++ [{ job with
                token := nextToken ctx.nextToken, serial := ctx.enqueued.length }] } := by
          simp only [Context.tally, Context.work, Work.upcoming, rkMppDecEnqueueJob,
            List.append_assoc]
        rw [tally]
        rw [← token] at queued
        exact queued

/-! ## Whole runs -/

/-- A run with the PTS of the packets of a context that MPP has accepted. -/
abbrev Answered := State × List Nat

def answeredStep (c : ContextId) (r : Answered) (act : ContextId × Action) : Option Answered :=
  (step r.1 act).map fun st =>
    (st, if act.1 = c then r.2 ++ act.2.acceptedPts (r.1.contexts c) else r.2)

/-- MPP returns a frame with a PTS only after it has accepted a packet with this PTS. -/
def AnswersPackets (c : ContextId) (r : Answered) (act : ContextId × Action) : Bool :=
  act.1 != c || ptsAccepted r.2 act.2

/-- The worker is at the top of its loop and waits for work. -/
def Sleeps (st : State) (c : ContextId) : Prop :=
  (st.contexts c).worker = .mainLoop ∧ ∀ expired, step st (c, .worker (.next expired)) = none

theorem countInv_run {c : ContextId} {coding : ContextId → Coding} {profileIdc : ContextId → Nat}
    (token : (coding c).usesTokenRoutes = true) {acts : List (ContextId × Action)} {r : Answered}
    (hrun : run (answeredStep c) (State.init coding profileIdc, []) acts = some r)
    (answers : Throughout (answeredStep c) (fun r act => AnswersPackets c r act = true)
      (State.init coding profileIdc, []) acts) : CountInv r.2 (r.1.contexts c) := by
  refine run_invariant (I := fun r : Answered => CountInv r.2 (r.1.contexts c)) ?_ acts _ r ?_
    answers hrun
  · intro r act r' h answer hstep
    obtain ⟨st, hst, rfl⟩ := Option.map_eq_some_iff.mp hstep
    obtain ⟨ctx, t, hctx, self, other, -⟩ := step_cases hst
    by_cases here : act.1 = c
    · subst here
      simp only [AnswersPackets, bne_self_eq_false, Bool.false_or] at answer
      simp only [if_true]
      rw [self]
      exact countInv_step h answer hctx
    · simp only [if_neg here]
      rw [other c fun same => here same.symm]
      exact h
  · refine ⟨token, tokenInv_init (coding c) (profileIdc c), ?_, fun _ => .ended ?_⟩
    · intro _ job kind packet
      cases packet
    · intro n mem
      cases mem

/-- The worker goes to wait for a frame, or for MPP to take the end-of-stream marker. -/
def Worker.drains : Worker → Bool
  | .drain _ => true
  | .eos _ => true
  | _ => false

theorem nextJob_none {ctx : Context} {expired : Bool} (h : nextJob ctx expired = none) :
    ctx.jobs = [] ∧ ctx.outstanding = 0 := by
  unfold nextJob at h
  split at h
  · cases h
  · split at h
    · rename_i queue
      split at h
      · split at h
        · cases h
        · split at h <;> cases h
      · split at h
        · rename_i zero
          exact ⟨queue, zero⟩
        · cases h
    · split at h <;> cases h

theorem nextJob_drains {ctx ctx' : Context} {expired : Bool} (h : nextJob ctx expired = some ctx')
    (drains : ctx'.worker.drains = true) : ctx.outstanding ≠ 0 := by
  rcases nextJob_cases h with rfl | ⟨job, jobs, -, rfl⟩ | ⟨pending, -⟩
  · cases drains
  · cases drains
  · exact pending

/-- In every run of a context with tokens, before the token counter wraps around and with an MPP
that answers packets it has accepted: the tokens of the routes are distinct, and at the top of the
worker's loop the counter is the number of routes, all of them of packets that MPP has accepted; so
the worker sleeps only with nothing pending, and does not go to drain without a route. -/
theorem outstanding_eq_routes {coding : ContextId → Coding} {profileIdc : ContextId → Nat}
    {c : ContextId} (token : (coding c).usesTokenRoutes = true) {acts : List (ContextId × Action)}
    {r : Answered}
    (hrun : run (answeredStep c) (State.init coding profileIdc, []) acts = some r)
    (answers : Throughout (answeredStep c) (fun r act => AnswersPackets c r act = true)
      (State.init coding profileIdc, []) acts)
    (bound : (r.1.contexts c).enqueued.length < 2 ^ 63 - 1) :
    ((r.1.contexts c).h264Routes.map Route.token).Nodup ∧
      ((r.1.contexts c).worker = .mainLoop →
        (r.1.contexts c).outstanding = (r.1.contexts c).h264Routes.length ∧
        (∀ route ∈ (r.1.contexts c).h264Routes, route.token ∈ r.2) ∧
        (Sleeps r.1 c → (r.1.contexts c).jobs = [] ∧ (r.1.contexts c).h264Routes = []) ∧
        ∀ expired st', step r.1 (c, .worker (.next expired)) = some st' →
          (st'.contexts c).worker.drains = true → (r.1.contexts c).h264Routes ≠ []) := by
  have inv := (countInv_run token hrun answers).tally bound
  refine ⟨inv.distinct, fun worker => ?_⟩
  have tally := tally_eq worker
  have idle : (r.1.contexts c).tally.packet = none := by
    rw [tally]
    rfl
  have free : (r.1.contexts c).tally.taken = false := by
    rw [tally]
    rfl
  have counted : (r.1.contexts c).outstanding = (r.1.contexts c).h264Routes.length := by
    have counted := inv.counted
    rw [idle, free] at counted
    exact counted
  have next (expired : Bool) : workerStep (r.1.contexts c) r.1.surfaces (.next expired) =
      (nextJob (r.1.contexts c) expired).map fun ctx => (ctx, none) := by
    simp only [workerStep, worker]
  refine ⟨counted, inv.all_accepted fun job packet => ?_, ?_, ?_⟩
  · rw [idle] at packet
    cases packet
  · rintro ⟨-, blocked⟩
    have none_left := Option.map_eq_none_iff.mp (blocked false)
    simp only [ctxStep, next, Option.map_eq_none_iff] at none_left
    obtain ⟨jobs, zero⟩ := nextJob_none none_left
    exact ⟨jobs, List.length_eq_zero_iff.mp (counted.symm.trans zero)⟩
  · intro expired st' hstep drains
    obtain ⟨ctx, t, hctx, self, -, -⟩ := step_cases hstep
    simp only [ctxStep, next] at hctx
    obtain ⟨x, hnext, same⟩ := Option.map_eq_some_iff.mp hctx
    obtain ⟨rfl, -⟩ := Prod.mk.inj same
    rw [self] at drains
    intro empty
    refine nextJob_drains hnext drains ?_
    rw [counted, empty]
    rfl

/-- The first field of a picture is submitted; a frame comes for it while MPP is still busy with the
packet of the second. -/
def splitFieldsRun : List (ContextId × Action) :=
  runOf 0 (pictureCalls 0 (.avc true false true) ++ submitJob ++
    pictureCalls 0 (.avc true false true) ++
    [.worker (.next false), .worker (.submit true), .worker (.put .busy)] ++
    receiveFrame ⟨1, 0, false, false, false⟩ ++ [.worker .publish, .worker (.put (.accepted true))])

/-- The second field has a route of its own, with the token of the first. -/
theorem outstanding_eq_routes_splitFields : ∃ r : Answered,
    run (answeredStep 0) (State.init (fun _ => .avc) fun _ => 100, []) splitFieldsRun = some r ∧
      (r.1.contexts 0).h264Routes.map Route.token = [1] ∧
      (r.1.contexts 0).outstanding = (r.1.contexts 0).h264Routes.length := by
  obtain ⟨r, hrun, worker, tokens, length, answers⟩ : ∃ r : Answered,
      run (answeredStep 0) (State.init (fun _ => .avc) fun _ => 100, []) splitFieldsRun = some r ∧
        (r.1.contexts 0).worker = .mainLoop ∧
        (r.1.contexts 0).h264Routes.map Route.token = [1] ∧
        (r.1.contexts 0).enqueued.length = 2 ∧
        check (answeredStep 0) (AnswersPackets 0) (State.init (fun _ => .avc) fun _ => 100, [])
          splitFieldsRun = true := ⟨_, rfl, rfl, rfl, rfl, rfl⟩
  refine ⟨r, hrun, tokens, ?_⟩
  exact ((outstanding_eq_routes rfl hrun (throughout_of_check answers) (by omega)).2 worker).1

end RockchipVaapi.Decode
