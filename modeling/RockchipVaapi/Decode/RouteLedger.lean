import RockchipVaapi.Decode.Fifo
import RockchipVaapi.Decode.Teardown
import RockchipVaapi.Misc.Ledger

/-!
# Every route is destroyed once

The routes of one context from `frame_route_create` to `frame_route_destroy`. The runs here carry
the routes that were created, those that were destroyed and those that stand outside the lists in
between: in `assign_mpp_frame`, or in `fail_pending_routes`. A refused packet with a token destroys
the route it finds under its token, if there is one; a refused VP9 packet destroys its own route, whether or not a
frame has taken it from the queue during the submission.
-/

namespace RockchipVaapi.Decode
open Transition Accounting

/-! ## The ledger -/

/-- The routes that `frame_route_create` has returned and that `frame_route_destroy` was called for,
and those that were taken out of the lists. A route is known by the serial number of its job. -/
structure RouteLedger where
  created : List Nat
  destroyed : List Nat
  held : List Route
  deriving Repr

def RouteLedger.init : RouteLedger := ⟨[], [], []⟩

/-- What a step does with routes. -/
inductive RouteEvent
  | nothing
  | create (serial : Nat)
  /-- A list gives routes away. -/
  | take (routes : List Route)
  /-- `frame_route_destroy` for the first route that was taken. -/
  | release
  /-- `frame_route_destroy` behind a refused packet. -/
  | destroy (serial : Nat)

def RouteLedger.record (l : RouteLedger) : RouteEvent → RouteLedger
  | .nothing => l
  | .create serial => { l with created := l.created ++ [serial] }
  | .take routes => { l with held := l.held ++ routes }
  | .release =>
    match l.held with
    | [] => l
    | route :: held => { l with held := held, destroyed := l.destroyed ++ [route.serial] }
  | .destroy serial => { l with destroyed := l.destroyed ++ [serial] }

/-- `worker_submit_job` up to the first packet (`mpp_dec.c:1193-1208`, `1287-1293`). -/
def submitEvent (ctx : Context) (job : Job) (made : Bool) : RouteEvent :=
  if job.empty || !made then .nothing
  else if ctx.coding.usesTokenRoutes then
    if ctx.coding == .avc && job.h264Field then
      match h264RouteFindSurface ctx.h264Routes job.surface job.fence with
      | some _ => .nothing
      | none => .create job.serial
    else .create job.serial
  else if job.hidden then .nothing
  else .create job.serial

/-- `worker_submit_job` behind an accepted packet (`mpp_dec.c:1227-1236`, `1265-1273`). -/
def acceptEvent (ctx : Context) (sub : Submission) (made : Bool) : RouteEvent :=
  match sub.kind with
  | .paired _ =>
    match h264RouteFindSurface ctx.h264Routes sub.job.surface sub.job.fence with
    | some _ => .nothing
    | none => if made then .create sub.job.serial else .nothing
  | .hidden => if sub.job.repeatSlot < 8 && made then .create sub.job.serial else .nothing
  | _ => .nothing

/-- `frame_route_destroy(h264_route_take(c, token))`. -/
def destroyTaken (token : Nat) (routes : List Route) : RouteEvent :=
  match (h264RouteTake token routes).1 with
  | some route => .destroy route.serial
  | none => .nothing

/-- `worker_submit_job` behind a refused packet (`mpp_dec.c:1212-1217`, `1279-1281`,
`1295-1297`). -/
def refuseEvent (ctx : Context) (sub : Submission) : RouteEvent :=
  match sub.kind with
  | .fresh => destroyTaken sub.job.token ctx.h264Routes
  | .paired token => destroyTaken token ctx.h264Routes
  | .hidden => .nothing
  | .repeated | .shown => .destroy sub.job.serial

def workerEvent (ctx : Context) (surfaces : Surfaces) (a : WorkerAction) : RouteEvent :=
  match ctx.worker, a with
  | .submit job, .submit made => submitEvent ctx job made
  | .put sub, .put outcome =>
    if refuses ctx (.put outcome) then refuseEvent ctx sub
    else match outcome with
      | .accepted made => acceptEvent ctx sub made
      | _ => .nothing
  | .drain k, .getFrame none patience =>
    match k with
    | .put sub => if refuses ctx (.getFrame none patience) then refuseEvent ctx sub else .nothing
    -- `fail_pending_routes` behind the stall timer
    | .mainLoop draining =>
      if 0 < ctx.outstanding ∧ draining = false ∧ ctx.stalledSince = true ∧ patience = false then
        .take (ctx.h264Routes ++ ctx.genericRoutes)
      else .nothing
    | _ => .nothing
  | .drain _, .getFrame (some frame) _ =>
    if frame.infoChange then .nothing
    else match (takeRoute ctx frame).1 with
      | some route => .take [route]
      | none => .nothing
  -- the ends of `assign_mpp_frame`
  | .check route _ _, .check =>
    if (surfaces route.surface).fence ≠ route.fence then .release else .nothing
  | .publish .., .publish => .release
  | .complete _ _ _ (some _), .complete => .release
  | .failing (_ :: _), .failRoute => .release
  | _, _ => .nothing

/-- `rk_mpp_dec_stop` fails the queued jobs first, then the routes. -/
def stopEvent (ctx : Context) (l : RouteLedger) : StopAction → RouteEvent
  | .join => .take (ctx.h264Routes ++ ctx.genericRoutes)
  | .failNext =>
    match ctx.stop with
    | .failing pending => if pending.length ≤ l.held.length then .release else .nothing
    | _ => .nothing
  | _ => .nothing

def routeEvent (ctx : Context) (surfaces : Surfaces) (l : RouteLedger) : Action → RouteEvent
  | .worker a => workerEvent ctx surfaces a
  | .stop a => stopEvent ctx l a
  | _ => .nothing

/-- A state with the ledger of the routes of one context. -/
abbrev Ledgered := State × RouteLedger

def ledgerStep (c : ContextId) (r : Ledgered) (act : ContextId × Action) : Option Ledgered :=
  (step r.1 act).map fun st =>
    (st, if act.1 = c then r.2.record (routeEvent (r.1.contexts c) r.1.surfaces r.2 act.2) else r.2)

/-! ## What is to be shown -/

/-- No route is destroyed twice, none is in a list behind its destruction, and when `rk_mpp_dec_stop`
has returned every route that was created has been destroyed. -/
structure RoutesReleased (ctx : Context) (l : RouteLedger) : Prop where
  distinct : l.created.Nodup
  once : ∀ serial, l.destroyed.count serial ≤ 1
  unreachable : ∀ route ∈ ctx.h264Routes ++ ctx.genericRoutes, route.serial ∉ l.destroyed
  all : ctx.stop = .returned → ∀ serial ∈ l.created, l.destroyed.count serial = 1

/-- A VP9 packet is refused only while its own route is queued: no drain of its submission has
consumed it. -/
def keepsOwnRoute (ctx : Context) : Action → Bool
  | .worker a =>
    !refuses ctx a || match ctx.work.hand.packet with
      | some (job, .repeated) => ctx.genericRoutes.any fun route => route.serial == job.serial
      | some (job, .shown) => ctx.genericRoutes.any fun route => route.serial == job.serial
      | _ => true
  | _ => true

/-! ## The accounts -/

/-- The job of a packet whose route is still to be created. -/
def unroutedPacket : Option (Job × Kind) → List Nat
  | some (job, .hidden) => [job.serial]
  | some (job, .paired _) => [job.serial]
  | _ => []

def Hand.unrouted : Hand → List Nat
  | .submitting job => [job.serial]
  | hand => unroutedPacket hand.packet

/-- The jobs without a route. -/
def Work.unrouted (w : Work) : List Nat := w.hand.unrouted ++ w.jobs.map Job.serial

/-- The routes in the lists. -/
def Work.listed (w : Work) : List Route := w.h264Routes ++ w.genericRoutes

def accounts (w : Work) (l : RouteLedger) : Ledger Nat where
  waiting := w.unrouted
  live := (w.listed ++ l.held).map Route.serial
  created := l.created
  destroyed := l.destroyed

/-- The worker's thread has not returned. -/
def Worker.running : Worker → Bool
  | .exited => false
  | _ => true

theorem Worker.ne_exited {w : Worker} (runs : w.running = true) : w ≠ .exited := by
  rintro rfl
  cases runs

/-- The routes that the worker has taken out of the lists. -/
def Worker.Holds : Worker → List Route → Prop
  | .check route _ _, held => held = [route]
  | .convert route _ _, held => held = [route]
  | .copy route _ _ _, held => held = [route]
  | .retain route _ _ _ _, held => held = [route]
  | .publish route _ _ _, held => held = [route]
  | .complete _ _ _ (some _), held => ∃ route, held = [route]
  | .failing routes, held => held = routes
  | .exited, _ => True
  | _, held => held = []

/-- The routes that `rk_mpp_dec_stop` has taken out of the lists. -/
def Stop.Holds : Stop → List Route → Prop
  | .failing pending, held => ∃ jobs, pending = jobs ++ held.map Route.target
  | _, held => held = []

theorem Stop.holds_nil (stop : Stop) : stop.Holds [] := by
  cases stop with
  | failing pending => exact ⟨pending, (List.append_nil pending).symm⟩
  | _ => rfl

structure LedgerInv (ctx : Context) (l : RouteLedger) : Prop where
  balanced : Balanced (accounts ctx.work l)
  known : ∀ serial ∈ (accounts ctx.work l).created ++ (accounts ctx.work l).waiting,
    serial < ctx.enqueued.length
  worker : ctx.worker.Holds l.held
  stop : ctx.worker = .exited → ctx.stop.Holds l.held

/-! ## Entries -/

section

variable {w w' : Work} {l : RouteLedger}

theorem nothing_move (waiting : w'.unrouted.Sublist w.unrouted) (routes : w'.listed = w.listed) :
    Move (accounts w l) (accounts w' (l.record .nothing)) := by
  refine .keep waiting.subperm ?_ rfl rfl
  show ((w'.listed ++ l.held).map Route.serial).Perm ((w.listed ++ l.held).map Route.serial)
  rw [routes]

theorem create_move (route : Route) (waiting : w.unrouted = route.serial :: w'.unrouted)
    (routes : w'.listed.Perm (route :: w.listed)) :
    Move (accounts w l) (accounts w' (l.record (.create route.serial))) :=
  .create route.serial (.of_eq waiting) ((routes.append_right l.held).map Route.serial) rfl rfl

theorem take_move {routes : List Route} (waiting : w'.unrouted.Sublist w.unrouted)
    (taken : w.listed.Perm (w'.listed ++ routes)) :
    Move (accounts w l) (accounts w' (l.record (.take routes))) := by
  have passed : (w'.listed ++ (l.held ++ routes)).Perm (w.listed ++ l.held) :=
    ((List.perm_append_comm.append_left w'.listed).trans
      (.of_eq (List.append_assoc ..).symm)).trans (taken.symm.append_right l.held)
  exact .keep waiting.subperm (passed.map Route.serial) rfl rfl

theorem release_move {route : Route} {held : List Route} (holds : l.held = route :: held)
    (waiting : w'.unrouted.Sublist w.unrouted) (routes : w'.listed = w.listed) :
    Move (accounts w l) (accounts w' (l.record .release)) := by
  have after : l.record .release =
      { l with held := held, destroyed := l.destroyed ++ [route.serial] } := by
    simp only [RouteLedger.record, holds]
  have first : (w.listed ++ l.held).Perm (route :: (w'.listed ++ held)) := by
    rw [holds, routes]
    exact List.perm_middle
  rw [after]
  exact .destroy route.serial waiting.subperm (first.map Route.serial) rfl rfl

theorem destroy_move {route : Route} (waiting : w'.unrouted.Sublist w.unrouted)
    (routes : w.listed.Perm (route :: w'.listed)) :
    Move (accounts w l) (accounts w' (l.record (.destroy route.serial))) :=
  .destroy route.serial waiting.subperm ((routes.append_right l.held).map Route.serial) rfl rfl

end

/-! ## Refused packets -/

theorem h264RouteTake_perm {token : Nat} {routes : List Route} {route : Route}
    (h : (h264RouteTake token routes).1 = some route) :
    routes.Perm (route :: (h264RouteTake token routes).2) := by
  induction routes with
  | nil => cases h
  | cons first routes ih =>
    unfold h264RouteTake at h ⊢
    split
    · rename_i same
      rw [if_pos same] at h
      obtain rfl := Option.some.inj h
      exact .refl _
    · rename_i other
      rw [if_neg other] at h
      exact ((ih h).cons first).trans (.swap route first _)

theorem genericRouteRemove_perm {routes : List Route} {serial : Nat}
    (queued : routes.any (fun route => route.serial == serial) = true) :
    ∃ route, route.serial = serial ∧ routes.Perm (route :: genericRouteRemove routes serial) := by
  obtain ⟨route, mem, same⟩ := List.any_eq_true.mp queued
  obtain ⟨found, front, back, before, here, shape, erased⟩ :=
    List.exists_of_eraseP (p := fun route => route.serial == serial) mem same
  refine ⟨found, by simpa using here, ?_⟩
  rw [genericRouteRemove, erased, shape]
  exact List.perm_middle

/-- Behind a refused packet with a token, the route under the token is destroyed, if there is
one. -/
theorem destroyTaken_move {w w' : Work} {l : RouteLedger} (token : Nat)
    (waiting : w'.unrouted.Sublist w.unrouted)
    (h264Routes : w'.h264Routes = (h264RouteTake token w.h264Routes).2)
    (genericRoutes : w'.genericRoutes = w.genericRoutes) :
    Move (accounts w l) (accounts w' (l.record (destroyTaken token w.h264Routes))) := by
  unfold destroyTaken
  cases taken : (h264RouteTake token w.h264Routes).1 with
  | none =>
    refine nothing_move waiting ?_
    rw [Work.listed, Work.listed, h264Routes, genericRoutes, h264RouteTake_none taken]
  | some route =>
    refine destroy_move waiting ?_
    rw [Work.listed, Work.listed, h264Routes, genericRoutes]
    exact (h264RouteTake_perm taken).append_right _

theorem refuse_move {ctx : Context} {l : RouteLedger} {sub : Submission}
    (own : sub.kind = .repeated ∨ sub.kind = .shown →
      ctx.genericRoutes.any (fun route => route.serial == sub.job.serial) = true) :
    Move (accounts ctx.work l)
      (accounts (putFailed ctx sub).work (l.record (refuseEvent ctx sub))) := by
  rw [(putFailed_work ctx sub).1]
  have waiting : ∀ kind, (ctx.work.refused sub.job kind).unrouted.Sublist ctx.work.unrouted :=
    fun kind => (List.nil_sublist _).append (.refl _)
  have queued : ctx.genericRoutes.any (fun route => route.serial == sub.job.serial) = true →
      ∀ kind, kind = .repeated ∨ kind = .shown → Move (accounts ctx.work l)
        (accounts (ctx.work.refused sub.job kind) (l.record (.destroy sub.job.serial))) := by
    intro queued kind fifo
    obtain ⟨route, same, perm⟩ := genericRouteRemove_perm queued
    rw [← same]
    refine destroy_move (waiting kind) ?_
    have lists : (ctx.work.refused sub.job kind).listed =
        ctx.h264Routes ++ genericRouteRemove ctx.genericRoutes sub.job.serial := by
      rcases fifo with rfl | rfl <;> rfl
    rw [lists]
    exact (perm.append_left ctx.h264Routes).trans List.perm_middle
  unfold refuseEvent
  cases kind : sub.kind with
  | fresh => exact destroyTaken_move _ (waiting _) rfl rfl
  | paired token => exact destroyTaken_move _ (waiting _) rfl rfl
  | hidden => exact nothing_move (waiting _) rfl
  | repeated => exact queued (own (.inl kind)) _ (.inl rfl)
  | shown => exact queued (own (.inr kind)) _ (.inr rfl)

/-! ## The steps of the worker -/

section

variable {ctx : Context} {surfaces : Surfaces} {l : RouteLedger}

theorem submit_move {job : Job} (worker : ctx.worker = .submit job) (made : Bool) :
    Move (accounts ctx.work l)
      (accounts (workerSubmitJob ctx job made).work (l.record (submitEvent ctx job made))) := by
  have before : ctx.work.unrouted = job.serial :: ctx.jobs.map Job.serial := by
    unfold Work.unrouted
    rw [show ctx.work.hand = .submitting job from congrArg Worker.hand worker]
    rfl
  have drops : ∀ {w : Work}, w.unrouted = ctx.jobs.map Job.serial →
      w.unrouted.Sublist ctx.work.unrouted := by
    intro w after
    rw [after, before]
    exact List.sublist_cons_self ..
  have keeps : ∀ {w : Work}, w.unrouted = job.serial :: ctx.jobs.map Job.serial →
      w.unrouted.Sublist ctx.work.unrouted := by
    intro w after
    rw [after, before]
  have unmade : ∀ w, (made = false → w.listed = ctx.work.listed ∧
      w.unrouted.Sublist ctx.work.unrouted) → made = false →
      Move (accounts ctx.work l) (accounts w (l.record (submitEvent ctx job made))) := by
    rintro w same rfl
    have event : submitEvent ctx job false = .nothing := by simp [submitEvent]
    rw [event]
    exact nothing_move (same rfl).2 (same rfl).1
  have created : ∀ w, submitEvent ctx job made = .create job.serial →
      w.unrouted = ctx.jobs.map Job.serial →
      w.listed.Perm (frameRouteCreate job :: ctx.work.listed) →
      Move (accounts ctx.work l) (accounts w (l.record (submitEvent ctx job made))) := by
    intro w event after routes
    rw [event]
    exact create_move (frameRouteCreate job) (before.trans (by rw [after]; rfl)) routes
  unfold workerSubmitJob
  split
  · rename_i empty
    have event : submitEvent ctx job made = .nothing := by simp [submitEvent, empty]
    rw [event]
    exact nothing_move (drops rfl) rfl
  rename_i full
  split
  · rename_i coding
    simp only
    split
    · rename_i route found
      split at found
      · rename_i paired
        have event : submitEvent ctx job made = .nothing := by
          cases made <;> simp [submitEvent, full, coding, paired, found]
        rw [event]
        exact nothing_move (keeps rfl) rfl
      · cases found
    · rename_i found
      split
      · rename_i isMade
        refine created _ ?_ rfl (.refl _)
        by_cases paired : (ctx.coding == .avc && job.h264Field) = true
        · rw [if_pos paired] at found
          simp [submitEvent, full, coding, paired, found, isMade]
        · simp [submitEvent, full, coding, paired, isMade]
      · rename_i isUnmade
        exact unmade _ (fun _ => ⟨rfl, drops rfl⟩) (eq_false_of_ne_true isUnmade)
  · rename_i coding
    split
    · rename_i hidden
      have event : submitEvent ctx job made = .nothing := by
        cases made <;> simp [submitEvent, full, coding, hidden]
      rw [event]
      exact nothing_move (keeps rfl) rfl
    rename_i shown
    split
    · rename_i isMade
      refine created _ (by simp [submitEvent, full, coding, shown, isMade]) rfl ?_
      show (ctx.h264Routes ++ (ctx.genericRoutes ++ [frameRouteCreate job])).Perm _
      rw [← List.append_assoc]
      exact List.perm_append_singleton _ _
    · rename_i isUnmade
      exact unmade _ (fun _ => ⟨rfl, drops rfl⟩) (eq_false_of_ne_true isUnmade)

theorem drainHevcAfterSubmit_holds (ctx : Context) :
    (drainHevcAfterSubmit ctx).worker.Holds [] ∧
      (drainHevcAfterSubmit ctx).worker.running = true := by
  unfold drainHevcAfterSubmit
  split <;> exact ⟨rfl, rfl⟩

theorem accept_move {sub : Submission} (worker : ctx.worker = .put sub) (made : Bool) :
    Move (accounts ctx.work l)
      (accounts (packetAccepted ctx sub made).work (l.record (acceptEvent ctx sub made))) := by
  have before : ctx.work.unrouted =
      unroutedPacket (some (sub.job, sub.kind)) ++ ctx.jobs.map Job.serial := by
    unfold Work.unrouted
    rw [show ctx.work.hand = .waiting (some (sub.job, sub.kind)) from congrArg Worker.hand worker]
    rfl
  have drops : ∀ {w : Work}, w.unrouted = ctx.jobs.map Job.serial →
      w.unrouted.Sublist ctx.work.unrouted := by
    intro w after
    rw [after, before]
    exact List.sublist_append_right ..
  obtain ⟨job, kind, tries, starved⟩ := sub
  cases kind with
  | fresh =>
    have event : acceptEvent ctx ⟨job, .fresh, tries, starved⟩ made = .nothing := rfl
    rw [event]
    simp only [packetAccepted]
    rw [(drainHevcAfterSubmit_work _).1]
    exact nothing_move (drops rfl) rfl
  | paired token =>
    simp only [packetAccepted, acceptEvent]
    have same : h264RouteFindSurface (accept ctx ⟨job, .paired token, tries, starved⟩).h264Routes
        job.surface job.fence = h264RouteFindSurface ctx.h264Routes job.surface job.fence := rfl
    rw [same]
    cases h264RouteFindSurface ctx.h264Routes job.surface job.fence with
    | some route => exact nothing_move (drops rfl) rfl
    | none =>
      cases made with
      | false => exact nothing_move (drops rfl) rfl
      | true =>
        simp only [if_true]
        rw [(drainHevcAfterSubmit_work _).1]
        exact create_move { frameRouteCreate job with token := token } before (.refl _)
  | hidden =>
    simp only [packetAccepted, acceptEvent]
    split
    · rename_i late
      rw [if_neg (by simp; omega)]
      exact nothing_move (drops rfl) rfl
    · rename_i early
      cases made with
      | false =>
        simp only [Bool.and_false, Bool.false_eq_true, if_false]
        exact nothing_move (drops rfl) rfl
      | true =>
        have slot : decide (job.repeatSlot < 8) = true := decide_eq_true (by omega)
        simp only [slot, Bool.and_self, if_true]
        refine create_move (frameRouteCreate job) before ?_
        show (ctx.h264Routes ++ (ctx.genericRoutes ++ [frameRouteCreate job])).Perm _
        rw [← List.append_assoc]
        exact List.perm_append_singleton _ _
  | repeated =>
    have event : acceptEvent ctx ⟨job, .repeated, tries, starved⟩ made = .nothing := rfl
    rw [event]
    simp only [packetAccepted]
    rw [(drainHevcAfterSubmit_work _).1]
    exact nothing_move (drops rfl) rfl
  | shown =>
    have event : acceptEvent ctx ⟨job, .shown, tries, starved⟩ made = .nothing := rfl
    rw [event]
    simp only [packetAccepted]
    rw [(drainHevcAfterSubmit_work _).1]
    exact nothing_move (drops rfl) rfl

/-- A step of the worker with the entry that it makes in the ledger. -/
structure LedgerStep (ctx ctx' : Context) (l : RouteLedger) (event : RouteEvent) : Prop where
  move : Move (accounts ctx.work l) (accounts ctx'.work (l.record event))
  holds : ctx'.worker.Holds (l.record event).held
  exits : ctx'.worker = .exited → (l.record event).held = []

theorem LedgerStep.running {ctx' : Context} {event : RouteEvent}
    (move : Move (accounts ctx.work l) (accounts ctx'.work (l.record event)))
    (holds : ctx'.worker.Holds (l.record event).held) (runs : ctx'.worker.running = true) :
    LedgerStep ctx ctx' l event :=
  ⟨move, holds, fun exited => absurd exited (Worker.ne_exited runs)⟩

/-- The worker goes on with the same packet and the same lists. -/
theorem passes {ctx' : Context} {event : RouteEvent} (none_made : event = .nothing)
    (packet : ctx'.work.hand.unrouted = ctx.work.hand.unrouted) (jobs : ctx'.work.jobs = ctx.work.jobs)
    (routes : ctx'.work.listed = ctx.work.listed) (holds : ctx'.worker.Holds l.held)
    (runs : ctx'.worker.running = true) : LedgerStep ctx ctx' l event := by
  subst none_made
  refine .running (nothing_move ?_ routes) holds runs
  unfold Work.unrouted
  rw [packet, jobs]

/-- An end of `assign_mpp_frame`. -/
theorem releases {ctx' : Context} {event : RouteEvent} {route : Route} (released : event = .release)
    (packet : ctx'.work.hand.unrouted = ctx.work.hand.unrouted) (jobs : ctx'.work.jobs = ctx.work.jobs)
    (routes : ctx'.work.listed = ctx.work.listed) (held : l.held = [route])
    (holds : ctx'.worker.Holds []) : LedgerStep ctx ctx' l event := by
  subst released
  have after : (l.record .release).held = [] := by simp only [RouteLedger.record, held]
  refine ⟨release_move held ?_ routes, by rw [after]; exact holds, fun _ => after⟩
  unfold Work.unrouted
  rw [packet, jobs]

theorem resumeTrue_holds (ctx : Context) (consumed : Bool) (k : Resume) :
    (resumeTrue ctx consumed k).worker.Holds [] ∧
      (resumeTrue ctx consumed k).worker.running = true := by
  cases k <;> exact ⟨rfl, rfl⟩

theorem next_recorded {ctx' : Context} {expired : Bool} (worker : ctx.worker = .mainLoop)
    (held : l.held = []) (h : nextJob ctx expired = some ctx') :
    LedgerStep ctx ctx' l .nothing := by
  have same : ctx.work.hand.unrouted = [] := by
    rw [show ctx.work.hand = .waiting none from congrArg Worker.hand worker]
    rfl
  rcases nextJob_cases h with rfl | ⟨job, jobs, queue, rfl⟩ | ⟨-, ⟨draining, rfl⟩ | rfl⟩
  · refine ⟨nothing_move ?_ rfl, trivial, fun _ => held⟩
    exact (List.nil_sublist _).append (.refl _)
  · refine .running (nothing_move ?_ rfl) held rfl
    unfold Work.unrouted
    rw [same, show ctx.work.jobs = job :: jobs from queue]
    exact .refl _
  · exact passes rfl same.symm rfl rfl held rfl
  · exact passes rfl same.symm rfl rfl held rfl

theorem refuse_recorded {sub : Submission} {a : WorkerAction}
    (packet : ctx.work.hand.packet = some (sub.job, sub.kind)) (held : l.held = [])
    (refused : refuses ctx a = true) (own : keepsOwnRoute ctx (.worker a) = true) :
    LedgerStep ctx (putFailed ctx sub) l (refuseEvent ctx sub) := by
  have untouched : (l.record (refuseEvent ctx sub)).held = l.held := by
    unfold refuseEvent destroyTaken
    split <;> (try split) <;> rfl
  have worker : (putFailed ctx sub).worker = .complete sub.job.surface sub.job.fence false none := by
    unfold putFailed
    split <;> rfl
  refine .running (refuse_move ?_) ?_ ?_
  · intro fifo
    simp only [keepsOwnRoute, refused, packet, Bool.not_true, Bool.false_or] at own
    rcases fifo with kind | kind <;> simpa only [kind] using own
  · rw [untouched, worker]
    exact held
  · rw [worker]
    rfl

theorem noFrame_recorded {k : Resume} {patience : Bool} (worker : ctx.worker = .drain k)
    (held : l.held = []) (own : keepsOwnRoute ctx (.worker (.getFrame none patience)) = true) :
    LedgerStep ctx (resumeFalse ctx patience k) l
      (workerEvent ctx surfaces (.getFrame none patience)) := by
  have hand : ctx.work.hand = .waiting k.packet := congrArg Worker.hand worker
  cases k with
  | mainLoop draining =>
    have back : ∀ {x : Context}, x.worker = .mainLoop → x.work.jobs = ctx.work.jobs →
        x.work.listed = ctx.work.listed →
        ¬ (0 < ctx.outstanding ∧ draining = false ∧ ctx.stalledSince = true ∧ patience = false) →
        LedgerStep ctx x l (workerEvent ctx surfaces (.getFrame none patience)) := by
      intro x loop jobs routes patient
      have packet : x.work.hand.unrouted = ctx.work.hand.unrouted := by
        rw [hand, show x.work.hand = .waiting none from congrArg Worker.hand loop]
        rfl
      refine passes ?_ packet jobs routes (by rw [loop]; exact held) (by rw [loop]; rfl)
      simp only [workerEvent, worker, if_neg patient]
    simp only [resumeFalse]
    split
    · rename_i idle
      refine back rfl rfl rfl ?_
      rintro ⟨outstanding, notDraining, -, -⟩
      rcases idle with none_left | draining
      · omega
      · rw [notDraining] at draining
        cases draining
    rename_i busy
    split
    · rename_i fresh
      refine back rfl rfl rfl ?_
      rintro ⟨-, -, stalled, -⟩
      rw [fresh] at stalled
      cases stalled
    rename_i stalled
    split
    · rename_i patient
      refine back rfl rfl rfl ?_
      rintro ⟨-, -, -, impatient⟩
      rw [impatient] at patient
      cases patient
    · rename_i impatient
      have event : workerEvent ctx surfaces (.getFrame none patience) =
          .take (ctx.h264Routes ++ ctx.genericRoutes) := by
        simp only [not_or] at busy
        simp only [workerEvent, worker]
        rw [if_pos ⟨by omega, eq_false_of_ne_true busy.2, eq_true_of_ne_false stalled,
          eq_false_of_ne_true impatient⟩]
      rw [event]
      refine .running (take_move ?_ (.refl _)) ?_ rfl
      · exact (List.nil_sublist _).append (.refl _)
      · show l.held ++ (ctx.h264Routes ++ ctx.genericRoutes) = _
        rw [held, List.nil_append]
  | afterSubmit =>
    refine passes (by simp only [workerEvent, worker]) ?_ rfl rfl held rfl
    rw [hand]
    rfl
  | put sub =>
    have back : ∀ {x : Context} {sub' : Submission}, x.worker = .put sub' →
        (sub'.job, sub'.kind) = (sub.job, sub.kind) → x.work.jobs = ctx.work.jobs →
        x.work.listed = ctx.work.listed → refuses ctx (.getFrame none patience) = false →
        LedgerStep ctx x l (workerEvent ctx surfaces (.getFrame none patience)) := by
      intro x sub' put same jobs routes kept
      have packet : x.work.hand.unrouted = ctx.work.hand.unrouted := by
        rw [hand, show x.work.hand = .waiting (some (sub'.job, sub'.kind)) from
          congrArg Worker.hand put, same]
        rfl
      refine passes ?_ packet jobs routes (by rw [put]; exact held) (by rw [put]; rfl)
      simp only [workerEvent, worker, kept, Bool.false_eq_true, if_false]
    simp only [resumeFalse]
    split
    · rename_i starved
      refine back rfl rfl rfl rfl ?_
      simp only [refuses, worker, Bool.and_eq_false_iff, decide_eq_false_iff_not]
      exact .inl (by omega)
    rename_i starved
    split
    · rename_i patient
      refine back rfl rfl rfl rfl ?_
      simp only [refuses, worker, patient, Bool.not_true, Bool.and_false]
    · rename_i impatient
      have refused : refuses ctx (.getFrame none patience) = true := by
        have tired : 25 ≤ sub.starved + 1 := Nat.le_of_not_lt starved
        simp only [refuses, worker, eq_false_of_ne_true impatient, decide_eq_true tired,
          Bool.not_false, Bool.and_self]
      have event : workerEvent ctx surfaces (.getFrame none patience) = refuseEvent ctx sub := by
        simp only [workerEvent, worker, refused, if_true]
      rw [event]
      exact refuse_recorded (congrArg Hand.packet hand) held refused own
  | eos tries =>
    simp only [resumeFalse]
    split
    · refine passes (by simp only [workerEvent, worker]) ?_ rfl rfl held rfl
      rw [hand]
      rfl
    · refine passes (by simp only [workerEvent, worker]) ?_ rfl rfl held rfl
      rw [hand]
      rfl

theorem takeRoute_perm {frame : MppFrame} {route : Route}
    (taken : (takeRoute ctx frame).1 = some route) :
    ctx.work.listed.Perm ((takeRoute ctx frame).2.work.listed ++ [route]) := by
  have front : ctx.work.listed.Perm (route :: (takeRoute ctx frame).2.work.listed) := by
    rcases takeRoute_cases taken with ⟨-, taken, same⟩ | ⟨-, routes, queue, same⟩
    · rw [same]
      exact (h264RouteTake_perm taken).append_right _
    · rw [same]
      show (ctx.h264Routes ++ ctx.genericRoutes).Perm (route :: (ctx.h264Routes ++ routes))
      rw [queue]
      exact List.perm_middle
  exact front.trans (List.perm_append_singleton _ _).symm

theorem frame_recorded {k : Resume} {frame : MppFrame} {patience : Bool}
    (worker : ctx.worker = .drain k) (held : l.held = []) :
    LedgerStep ctx (frameArrived ctx frame k) l
      (workerEvent ctx surfaces (.getFrame (some frame) patience)) := by
  have hand : ctx.work.hand = .waiting k.packet := congrArg Worker.hand worker
  have back : ∀ x : Context, x.jobs = ctx.jobs → x.h264Routes = ctx.h264Routes →
      x.genericRoutes = ctx.genericRoutes →
      workerEvent ctx surfaces (.getFrame (some frame) patience) = .nothing →
      LedgerStep ctx (resumeTrue x false k) l
        (workerEvent ctx surfaces (.getFrame (some frame) patience)) := by
    intro x jobs h264Routes genericRoutes event
    obtain ⟨work, -⟩ := resumeTrue_work x false k
    obtain ⟨holds, runs⟩ := resumeTrue_holds x false k
    refine passes event ?_ ?_ ?_ (by rw [held]; exact holds) runs
    · rw [work, hand]
    · rw [work]
      exact jobs
    · rw [work]
      show x.h264Routes ++ x.genericRoutes = _
      rw [h264Routes, genericRoutes]
      rfl
  unfold frameArrived
  simp only
  split
  · rename_i info
    exact back _ rfl rfl rfl (by simp only [workerEvent, worker, info, if_true])
  rename_i info
  generalize counted : ({ ctx with
    sawEos := ctx.sawEos || frame.eos, owed := ctx.owed.erase frame.producer } : Context) = x
  have found : (takeRoute x frame).1 = (takeRoute ctx frame).1 := by
    subst counted
    unfold takeRoute
    split <;> rfl
  have event : workerEvent ctx surfaces (.getFrame (some frame) patience) =
      match (takeRoute ctx frame).1 with
      | some route => .take [route]
      | none => .nothing := by
    simp only [workerEvent, worker, if_neg info]
  split
  · rename_i y taken
    have none_left : (takeRoute x frame).1 = none := by rw [taken]
    have same : y = x := by
      have rest := takeRoute_none none_left
      rw [taken] at rest
      exact rest
    rw [found] at none_left
    subst same counted
    exact back _ rfl rfl rfl (by rw [event, none_left])
  · rename_i route y taken
    have found' : (takeRoute x frame).1 = some route := by rw [taken]
    have perm := takeRoute_perm found'
    have jobs : y.jobs = ctx.jobs := by
      have kept := takeRoute_jobs x frame
      rw [taken] at kept
      subst counted
      exact kept
    rw [found] at found'
    rw [taken] at perm
    rw [event, found']
    refine .running (take_move ?_ ?_) ?_ rfl
    · unfold Work.unrouted
      rw [hand, show ({ y with worker := .check route frame k } : Context).work.jobs = ctx.jobs
        from jobs]
      exact .refl _
    · subst counted
      exact perm
    · show l.held ++ [route] = [route]
      rw [held, List.nil_append]

theorem workerSubmitJob_holds (ctx : Context) (job : Job) (made : Bool) :
    (workerSubmitJob ctx job made).worker.Holds [] ∧
      (workerSubmitJob ctx job made).worker.running = true := by
  unfold workerSubmitJob
  split
  · exact ⟨rfl, rfl⟩
  split
  · simp only
    split
    · exact ⟨rfl, rfl⟩
    · split <;> exact ⟨rfl, rfl⟩
  · split
    · exact ⟨rfl, rfl⟩
    · split <;> exact ⟨rfl, rfl⟩

theorem packetAccepted_holds (ctx : Context) (sub : Submission) (made : Bool) :
    (packetAccepted ctx sub made).worker.Holds [] ∧
      (packetAccepted ctx sub made).worker.running = true := by
  obtain ⟨job, kind, tries, starved⟩ := sub
  cases kind with
  | paired token =>
    simp only [packetAccepted]
    split
    · exact ⟨rfl, rfl⟩
    · split
      · exact drainHevcAfterSubmit_holds _
      · exact ⟨rfl, rfl⟩
  | hidden =>
    simp only [packetAccepted]
    split
    · exact ⟨rfl, rfl⟩
    · split <;> exact ⟨rfl, rfl⟩
  | _ => exact drainHevcAfterSubmit_holds _

/-- A step inside `assign_mpp_frame` that keeps the route. -/
theorem assign_recorded {w : Worker} {route : Route} {event : RouteEvent}
    (none_made : event = .nothing) (packet : w.hand.packet = ctx.work.hand.packet)
    (before : ctx.work.hand.unrouted = unroutedPacket ctx.work.hand.packet)
    (after : w.hand.unrouted = unroutedPacket w.hand.packet) (held : l.held = [route])
    (holds : w.Holds [route]) (runs : w.running = true) :
    LedgerStep ctx { ctx with worker := w } l event := by
  refine passes none_made ?_ rfl rfl (by rw [held]; exact holds) runs
  rw [before, ← packet]
  exact after

/-- An end of `assign_mpp_frame` destroys its route. -/
theorem resume_recorded {k : Resume} {route : Route} {event : RouteEvent}
    (released : event = .release) (packet : ctx.work.hand.packet = k.packet)
    (before : ctx.work.hand.unrouted = unroutedPacket ctx.work.hand.packet)
    (held : l.held = [route]) : LedgerStep ctx (resumeTrue ctx true k) l event := by
  obtain ⟨work, -⟩ := resumeTrue_work ctx true k
  refine releases released ?_ ?_ ?_ held (resumeTrue_holds ctx true k).1
  · rw [work, before, packet]
    rfl
  · rw [work]
  · rw [work]
    rfl

/-- A turn of `put_packet_draining`. -/
theorem put_recorded {ctx' : Context} {outcome : PutOutcome} {t : Touch}
    (holds : ctx.worker.Holds l.held) (own : keepsOwnRoute ctx (.worker (.put outcome)) = true)
    (h : workerStep ctx surfaces (.put outcome) = some (ctx', t)) :
    LedgerStep ctx ctx' l (workerEvent ctx surfaces (.put outcome)) := by
  simp only [workerStep] at h
  split at h
  · rename_i sub worker
    have hand : ctx.work.hand = .waiting (some (sub.job, sub.kind)) := congrArg Worker.hand worker
    rw [worker] at holds
    have refused : refuses ctx (.put outcome) = true →
        LedgerStep ctx (putFailed ctx sub) l (workerEvent ctx surfaces (.put outcome)) := by
      intro refused
      have event : workerEvent ctx surfaces (.put outcome) = refuseEvent ctx sub := by
        simp only [workerEvent, worker, refused, if_true]
      rw [event]
      exact refuse_recorded (congrArg Hand.packet hand) holds refused own
    split at h
    · rename_i tired
      obtain ⟨rfl, rfl⟩ := Prod.mk.inj (Option.some.inj h)
      exact refused (by simp only [refuses, worker, decide_eq_true tired, Bool.true_or])
    rename_i fewer
    cases outcome with
    | unmade =>
      simp only at h
      split at h
      · obtain ⟨rfl, rfl⟩ := Prod.mk.inj (Option.some.inj h)
        exact refused (by
          simp only [refuses, worker, beq_self_eq_true, Bool.or_true, Bool.true_or])
      · cases h
    | stopping =>
      simp only at h
      split at h
      · obtain ⟨rfl, rfl⟩ := Prod.mk.inj (Option.some.inj h)
        exact refused (by simp only [refuses, worker, beq_self_eq_true, Bool.or_true])
      · cases h
    | busy =>
      obtain ⟨rfl, rfl⟩ := Prod.mk.inj (Option.some.inj h)
      have event : workerEvent ctx surfaces (.put .busy) = .nothing := by
        have kept : refuses ctx (.put .busy) = false := by
          simp only [refuses, worker, decide_eq_false fewer]
          rfl
        simp only [workerEvent, worker, kept, Bool.false_eq_true, if_false]
      refine passes event ?_ rfl rfl holds rfl
      rw [hand]
      rfl
    | accepted made =>
      obtain ⟨rfl, rfl⟩ := Prod.mk.inj (Option.some.inj h)
      have event : workerEvent ctx surfaces (.put (.accepted made)) = acceptEvent ctx sub made := by
        have kept : refuses ctx (.put (.accepted made)) = false := by
          simp only [refuses, worker, decide_eq_false fewer]
          rfl
        simp only [workerEvent, worker, kept, Bool.false_eq_true, if_false]
      have kept : (l.record (acceptEvent ctx sub made)).held = [] := by
        rw [← show l.held = [] from holds]
        unfold acceptEvent
        (repeat' split) <;> rfl
      have stays := packetAccepted_holds ctx sub made
      rw [event]
      exact .running (accept_move worker made) (by rw [kept]; exact stays.1) stays.2
  · cases h

theorem workerStep_recorded {ctx' : Context} {a : WorkerAction} {t : Touch}
    (holds : ctx.worker.Holds l.held) (own : keepsOwnRoute ctx (.worker a) = true)
    (h : workerStep ctx surfaces a = some (ctx', t)) :
    LedgerStep ctx ctx' l (workerEvent ctx surfaces a) := by
  cases a with
  | next expired =>
    simp only [workerStep] at h
    split at h
    · rename_i worker
      obtain ⟨x, next, same⟩ := Option.map_eq_some_iff.mp h
      obtain ⟨rfl, rfl⟩ := Prod.mk.inj same
      rw [worker] at holds
      have event : workerEvent ctx surfaces (.next expired) = .nothing := by
        simp only [workerEvent, worker]
      rw [event]
      exact next_recorded worker holds next
    · cases h
  | submit made =>
    simp only [workerStep] at h
    split at h
    · rename_i job worker
      obtain ⟨rfl, rfl⟩ := Prod.mk.inj (Option.some.inj h)
      rw [worker] at holds
      have event : workerEvent ctx surfaces (.submit made) = submitEvent ctx job made := by
        simp only [workerEvent, worker]
      have kept : (l.record (submitEvent ctx job made)).held = [] := by
        rw [← holds]
        unfold submitEvent
        (repeat' split) <;> rfl
      have stays := workerSubmitJob_holds ctx job made
      rw [event]
      exact .running (submit_move worker made) (by rw [kept]; exact stays.1) stays.2
    · cases h
  | put outcome => exact put_recorded holds own h
  | putEos accepted =>
    simp only [workerStep] at h
    split at h
    · rename_i tries worker
      have event : workerEvent ctx surfaces (.putEos accepted) = .nothing := by
        simp only [workerEvent, worker]
      have none_left : ctx.work.hand.unrouted = [] := by
        rw [show ctx.work.hand = .waiting none from congrArg Worker.hand worker]
        rfl
      rw [worker] at holds
      split at h
      · obtain ⟨rfl, rfl⟩ := Prod.mk.inj (Option.some.inj h)
        exact passes event none_left.symm rfl rfl holds rfl
      · obtain ⟨rfl, rfl⟩ := Prod.mk.inj (Option.some.inj h)
        exact passes event none_left.symm rfl rfl holds rfl
    · cases h
  | getFrame frame patience =>
    simp only [workerStep] at h
    split at h
    · rename_i k worker
      rw [worker] at holds
      cases frame with
      | some frame =>
        obtain ⟨rfl, rfl⟩ := Prod.mk.inj (Option.some.inj h)
        exact frame_recorded worker holds
      | none =>
        obtain ⟨rfl, rfl⟩ := Prod.mk.inj (Option.some.inj h)
        exact noFrame_recorded worker holds own
    · cases h
  | check =>
    simp only [workerStep] at h
    split at h
    · rename_i route frame k worker
      have hand : ctx.work.hand = .assigning route frame k.packet := congrArg Worker.hand worker
      rw [worker] at holds
      split at h
      · rename_i stale
        obtain ⟨rfl, rfl⟩ := Prod.mk.inj (Option.some.inj h)
        exact resume_recorded (by simp only [workerEvent, worker, if_pos stale]) (by rw [hand]; rfl)
          (by rw [hand]; rfl) holds
      rename_i current
      have event : workerEvent ctx surfaces .check = .nothing := by
        simp only [workerEvent, worker, if_neg current]
      split at h
      · obtain ⟨rfl, rfl⟩ := Prod.mk.inj (Option.some.inj h)
        exact assign_recorded event (by rw [hand]; rfl) (by rw [hand]; rfl) rfl holds ⟨_, rfl⟩ rfl
      · obtain ⟨rfl, rfl⟩ := Prod.mk.inj (Option.some.inj h)
        exact assign_recorded event (by rw [hand]; rfl) (by rw [hand]; rfl) rfl holds rfl rfl
    · cases h
  | convert conversion =>
    simp only [workerStep] at h
    split at h
    · rename_i route frame k worker
      have hand : ctx.work.hand = .assigning route frame k.packet := congrArg Worker.hand worker
      have event : workerEvent ctx surfaces (.convert conversion) = .nothing := by
        simp only [workerEvent, worker]
      rw [worker] at holds
      cases conversion with
      | unusable =>
        obtain ⟨rfl, rfl⟩ := Prod.mk.inj (Option.some.inj h)
        exact assign_recorded event (by rw [hand]; rfl) (by rw [hand]; rfl) rfl holds ⟨_, rfl⟩ rfl
      | usable converted =>
        obtain ⟨rfl, rfl⟩ := Prod.mk.inj (Option.some.inj h)
        exact assign_recorded event (by rw [hand]; rfl) (by rw [hand]; rfl) rfl holds rfl rfl
    · cases h
  | copy fits =>
    simp only [workerStep] at h
    split at h
    · rename_i route frame converted k worker
      have hand : ctx.work.hand = .assigning route frame k.packet := congrArg Worker.hand worker
      have event : workerEvent ctx surfaces (.copy fits) = .nothing := by
        simp only [workerEvent, worker]
      rw [worker] at holds
      split at h
      · obtain ⟨rfl, rfl⟩ := Prod.mk.inj (Option.some.inj h)
        exact assign_recorded event (by rw [hand]; rfl) (by rw [hand]; rfl) rfl holds rfl rfl
      · split at h
        · obtain ⟨rfl, rfl⟩ := Prod.mk.inj (Option.some.inj h)
          exact assign_recorded event (by rw [hand]; rfl) (by rw [hand]; rfl) rfl holds ⟨_, rfl⟩
            rfl
        · obtain ⟨rfl, rfl⟩ := Prod.mk.inj (Option.some.inj h)
          exact assign_recorded event (by rw [hand]; rfl) (by rw [hand]; rfl) rfl holds rfl rfl
    · cases h
  | retain refs =>
    simp only [workerStep] at h
    split at h
    · rename_i route frame converted copied k worker
      have hand : ctx.work.hand = .assigning route frame k.packet := congrArg Worker.hand worker
      have event : workerEvent ctx surfaces (.retain refs) = .nothing := by
        simp only [workerEvent, worker]
      rw [worker] at holds
      split at h
      · obtain ⟨rfl, rfl⟩ := Prod.mk.inj (Option.some.inj h)
        exact assign_recorded event (by rw [hand]; rfl) (by rw [hand]; rfl) rfl holds rfl rfl
      · split at h
        · cases h
        · obtain ⟨rfl, rfl⟩ := Prod.mk.inj (Option.some.inj h)
          exact assign_recorded event (by rw [hand]; rfl) (by rw [hand]; rfl) rfl holds ⟨_, rfl⟩
            rfl
    · cases h
  | publish =>
    simp only [workerStep] at h
    split at h
    · rename_i route frame output k worker
      have hand : ctx.work.hand = .assigning route frame k.packet := congrArg Worker.hand worker
      rw [worker] at holds
      obtain ⟨rfl, rfl⟩ := Prod.mk.inj (Option.some.inj h)
      exact resume_recorded (by simp only [workerEvent, worker]) (by rw [hand]; rfl)
        (by rw [hand]; rfl) holds
    · cases h
  | complete =>
    simp only [workerStep] at h
    split at h
    · rename_i surface fence success k worker
      have hand : ctx.work.hand = .completing surface fence (k.bind Resume.packet) :=
        congrArg Worker.hand worker
      obtain ⟨rfl, rfl⟩ := Prod.mk.inj (Option.some.inj h)
      rw [worker] at holds
      cases k with
      | none =>
        refine passes (by simp only [workerEvent, worker]) ?_ rfl rfl holds rfl
        rw [hand]
        rfl
      | some k =>
        obtain ⟨route, held⟩ := holds
        exact resume_recorded (by simp only [workerEvent, worker]) (by rw [hand]; rfl)
          (by rw [hand]; rfl) held
    · cases h
  | failRoute =>
    simp only [workerStep] at h
    split at h
    · rename_i worker
      obtain ⟨rfl, rfl⟩ := Prod.mk.inj (Option.some.inj h)
      rw [worker] at holds
      refine passes (by simp only [workerEvent, worker]) ?_ rfl rfl holds rfl
      rw [show ctx.work.hand = .failing [] from congrArg Worker.hand worker]
      rfl
    · rename_i route routes worker
      obtain ⟨rfl, rfl⟩ := Prod.mk.inj (Option.some.inj h)
      rw [worker] at holds
      have event : workerEvent ctx surfaces .failRoute = .release := by
        simp only [workerEvent, worker]
      have rest : (l.record .release).held = routes := by
        simp only [RouteLedger.record, show l.held = route :: routes from holds]
      rw [event]
      refine .running (release_move holds ?_ rfl) rest rfl
      unfold Work.unrouted
      rw [show ctx.work.hand = .failing (route :: routes) from congrArg Worker.hand worker]
      exact .refl _
    · cases h

end

/-! ## The steps of a context -/

theorem appStep_stop {c : ContextId} {ctx ctx' : Context} {surfaces : Surfaces} {a : AppAction}
    {t : Touch} (h : appStep c ctx surfaces a = some (ctx', t)) :
    ctx'.stop = ctx.stop ∧ ctx'.worker = ctx.worker := by
  cases appStep_move h <;> exact ⟨rfl, rfl⟩

theorem exited_of_hand {w : Worker} (h : w.hand = .exited) : w = .exited := by
  cases w with
  | exited => rfl
  | _ => cases h

section

variable {ctx : Context} {l : RouteLedger}

/-- A step that is no entry in the ledger and leaves the worker alone. -/
theorem LedgerInv.same {ctx' : Context} (h : LedgerInv ctx l) (same : SameWork ctx ctx')
    (stop : ctx'.worker = .exited → ctx'.stop.Holds l.held) : LedgerInv ctx' l := by
  refine ⟨?_, ?_, ?_, stop⟩
  · rw [same.work]
    exact h.balanced
  · rw [same.work, same.enqueued]
    exact h.known
  · rw [same.worker]
    exact h.worker

theorem LedgerInv.enqueue (h : LedgerInv ctx l) (job : Job) :
    LedgerInv (rkMppDecEnqueueJob ctx job) l := by
  have waiting : accounts (rkMppDecEnqueueJob ctx job).work l =
      { accounts ctx.work l with
        waiting := (accounts ctx.work l).waiting ++ [ctx.enqueued.length] } := by
    simp only [accounts, Work.unrouted, Context.work, rkMppDecEnqueueJob, List.map_append,
      List.append_assoc]
    rfl
  have length : (rkMppDecEnqueueJob ctx job).enqueued.length = ctx.enqueued.length + 1 :=
    List.length_append
  refine ⟨?_, ?_, h.worker, h.stop⟩
  · rw [waiting]
    exact h.balanced.announce fun mem => Nat.lt_irrefl _ (h.known _ mem)
  · rw [waiting, length]
    intro serial mem
    rw [← List.append_assoc] at mem
    rcases List.mem_append.mp mem with mem | mem
    · exact Nat.lt_succ_of_lt (h.known serial mem)
    · rw [List.mem_singleton.mp mem]
      exact Nat.lt_succ_self _

/-- The routes that `rk_mpp_dec_stop` has taken are the last of what it has to fail. -/
theorem stopStep_ledger {ctx' : Context} {a : StopAction} {t : Touch}
    (h : LedgerInv ctx l) (stopped : Stopped ctx) (hstep : stopStep ctx a = some (ctx', t)) :
    LedgerInv ctx' (l.record (stopEvent ctx l a)) := by
  cases a with
  | drain =>
    simp only [stopStep] at hstep
    split at hstep
    · rename_i notCalled
      split at hstep
      · obtain ⟨rfl, rfl⟩ := Prod.mk.inj (Option.some.inj hstep)
        refine h.same (by constructor <;> rfl) fun exited => ?_
        have holds := h.stop exited
        rw [notCalled] at holds
        exact holds
      · cases hstep
    · cases hstep
  | join =>
    simp only [stopStep] at hstep
    split at hstep
    · rename_i joining exited
      obtain ⟨rfl, rfl⟩ := Prod.mk.inj (Option.some.inj hstep)
      have held : l.held = [] := by
        have holds := h.stop exited
        rw [joining] at holds
        exact holds
      have move : Move (accounts ctx.work l)
          (accounts { ctx.work with jobs := [], h264Routes := [], genericRoutes := [] }
            (l.record (.take (ctx.h264Routes ++ ctx.genericRoutes)))) :=
        take_move ((List.Sublist.refl _).append (List.nil_sublist _)) (.refl _)
      refine ⟨h.balanced.move move, fun serial mem => h.known serial (move.names_subset mem), ?_, ?_⟩
      · rw [show ({ ctx with
          workerStop := true, jobs := [], h264Routes := [], genericRoutes := [], outstanding := 0
          stop := .failing (ctx.jobs.map (fun job => (job.surface, job.fence)) ++
            (ctx.h264Routes ++ ctx.genericRoutes).map
              fun route => (route.surface, route.fence)) } : Context).worker = .exited from exited]
        trivial
      · intro _
        refine ⟨ctx.jobs.map fun job => (job.surface, job.fence), ?_⟩
        show _ = _ ++ (l.held ++ (ctx.h264Routes ++ ctx.genericRoutes)).map Route.target
        rw [held]
        rfl
    · cases hstep
  | failNext =>
    simp only [stopStep] at hstep
    split at hstep
    · rename_i surface fence pending failing
      obtain ⟨rfl, rfl⟩ := Prod.mk.inj (Option.some.inj hstep)
      have exited := exited_of_hand (stopped.joined (.inl ⟨_, failing⟩)).1
      have holds := h.stop exited
      rw [failing] at holds
      obtain ⟨jobs, split⟩ := holds
      cases jobs with
      | nil =>
        -- the jobs are failed: what is left are the routes
        cases held : l.held with
        | nil =>
          rw [held] at split
          cases split
        | cons route rest =>
          rw [held] at split
          have length := congrArg List.length split
          rw [List.nil_append, List.length_map] at length
          have event : stopEvent ctx l .failNext = .release := by
            simp only [stopEvent, failing, held]
            rw [if_pos (Nat.le_of_eq length)]
          have after : (l.record .release).held = rest := by simp only [RouteLedger.record, held]
          have move : Move (accounts ctx.work l) (accounts ctx.work (l.record .release)) :=
            release_move held (.refl _) rfl
          rw [event]
          refine ⟨h.balanced.move move, fun serial mem => h.known serial (move.names_subset mem),
            ?_, ?_⟩
          · rw [show ({ ctx with stop := .failing pending } : Context).worker = .exited from exited]
            trivial
          · intro _
            rw [after]
            exact ⟨[], (List.cons.inj split).2⟩
      | cons job jobs =>
        have length := congrArg List.length split
        rw [List.cons_append, List.length_cons, List.length_cons, List.length_append,
          List.length_map] at length
        have event : stopEvent ctx l .failNext = .nothing := by
          simp only [stopEvent, failing]
          rw [if_neg (by rw [List.length_cons]; omega)]
        rw [event]
        exact h.same (by constructor <;> rfl) fun _ => ⟨jobs, (List.cons.inj split).2⟩
    · cases hstep
  | failRender =>
    simp only [stopStep] at hstep
    split at hstep
    · rename_i failing
      obtain ⟨rfl, rfl⟩ := Prod.mk.inj (Option.some.inj hstep)
      refine h.same (by constructor <;> rfl) fun exited => ?_
      have holds := h.stop exited
      rw [failing] at holds
      obtain ⟨jobs, split⟩ := holds
      exact List.map_eq_nil_iff.mp (List.append_eq_nil_iff.mp split.symm).2
    · cases hstep

theorem ledgerInv_step {c : ContextId} {ctx' : Context} {surfaces : Surfaces} {a : Action}
    {t : Touch} (h : LedgerInv ctx l) (stopped : Stopped ctx) (own : keepsOwnRoute ctx a = true)
    (hstep : ctxStep c ctx surfaces a = some (ctx', t)) :
    LedgerInv ctx' (l.record (routeEvent ctx surfaces l a)) := by
  cases a with
  | app a =>
    obtain ⟨stop, worker⟩ := appStep_stop hstep
    rcases appStep_cases hstep with same | ⟨i, job, rfl, call, rfl⟩
    · refine h.same same fun exited => ?_
      rw [stop]
      exact h.stop (worker.symm.trans exited)
    · have idle : LedgerInv { ctx with calls := ctx.calls.eraseIdx i } l :=
        ⟨h.balanced, h.known, h.worker, h.stop⟩
      exact idle.enqueue job
  | worker a =>
    obtain ⟨-, calls⟩ := workerStep_move hstep
    obtain ⟨move, holds, exits⟩ := workerStep_recorded h.worker own hstep
    refine ⟨h.balanced.move move, ?_, holds, fun exited => ?_⟩
    · rw [calls.enqueued]
      exact fun serial mem => h.known serial (move.names_subset mem)
    · show ctx'.stop.Holds (l.record (workerEvent ctx surfaces a)).held
      rw [exits exited]
      exact ctx'.stop.holds_nil
  | stop a => exact stopStep_ledger h stopped hstep
  | exportSurface surface =>
    obtain ⟨rfl, -⟩ := Prod.mk.inj (Option.some.inj hstep)
    exact h

end

/-! ## Contexts with tokens -/

/-- The packets of a context with tokens are those of its two branches. -/
def TokenPackets (ctx : Context) : Prop :=
  ctx.coding.usesTokenRoutes = true → ∀ job kind, ctx.work.hand.packet = some (job, kind) →
    kind = .fresh ∨ ∃ token, kind = .paired token

theorem WorkerMove.tokenPackets {ctx : Context} {surfaces : Surfaces} {a : WorkerAction} {t : Touch}
    {w : Work} (h : TokenPackets ctx) (token : ctx.coding.usesTokenRoutes = true)
    (move : WorkerMove ctx surfaces a t w) : ∀ job kind, w.hand.packet = some (job, kind) →
      kind = .fresh ∨ ∃ token, kind = .paired token := by
  have keep : ∀ {packet}, ctx.work.hand.packet = packet → w.hand.packet = packet →
      ∀ job kind, w.hand.packet = some (job, kind) → kind = .fresh ∨ ∃ token, kind = .paired token := by
    intro packet before after job kind same
    exact h token job kind (before.trans (after.symm.trans same))
  have idle : w.hand.packet = none → ∀ job kind, w.hand.packet = some (job, kind) →
      kind = .fresh ∨ ∃ token, kind = .paired token := by
    intro none_left job kind same
    rw [none_left] at same
    cases same
  cases move with
  | quiet => exact h token
  | pair hand coding found =>
    intro job kind same
    obtain ⟨-, rfl⟩ := Prod.mk.inj (Option.some.inj same)
    exact .inr ⟨_, rfl⟩
  | route hand coding =>
    intro job kind same
    obtain ⟨-, rfl⟩ := Prod.mk.inj (Option.some.inj same)
    exact .inl rfl
  | hide hand coding => rw [token] at coding; cases coding
  | queue hand coding queues => rw [token] at coding; cases coding
  | repeatHidden hand queues =>
    rcases h token _ _ (congrArg Hand.packet hand) with same | ⟨_, same⟩ <;> cases same
  | drop action shown hand none_left => exact keep rfl rfl
  | arrive action shown hand taken => exact keep (congrArg Hand.packet hand) rfl
  | stale hand fence => exact keep (congrArg Hand.packet hand) rfl
  | failAssign hand => exact keep (congrArg Hand.packet hand) rfl
  | publish worker => exact keep (congrArg (fun x : Worker => x.hand.packet) worker) rfl
  | complete hand => exact keep (congrArg Hand.packet hand) rfl
  | _ => exact idle rfl

theorem tokenPackets_step {c : ContextId} {ctx ctx' : Context} {surfaces : Surfaces} {a : Action}
    {t : Touch} (h : TokenPackets ctx) (hstep : ctxStep c ctx surfaces a = some (ctx', t)) :
    TokenPackets ctx' := by
  cases ctxStep_cases hstep with
  | same same =>
    unfold TokenPackets
    rw [same.coding, same.work]
    exact h
  | enqueue action call result =>
    subst result
    exact h
  | worker action move calls =>
    intro token
    rw [calls.coding] at token
    exact move.tokenPackets h token
  | joined joined =>
    unfold TokenPackets
    rw [joined.coding, joined.work]
    exact h

/-- A context with tokens never refuses a VP9 packet. -/
theorem TokenPackets.keepsOwnRoute {ctx : Context} (h : TokenPackets ctx)
    (token : ctx.coding.usesTokenRoutes = true) (a : Action) : keepsOwnRoute ctx a = true := by
  cases a with
  | worker a =>
    simp only [Decode.keepsOwnRoute]
    cases packet : ctx.work.hand.packet with
    | none => simp only [Bool.or_true]
    | some submitted =>
      obtain ⟨job, kind⟩ := submitted
      rcases h token job kind packet with rfl | ⟨_, rfl⟩ <;> simp only [Bool.or_true]
  | _ => rfl

/-! ## Whole runs -/

/-- The condition on a run: in a VP9 context, no packet is refused whose own route a drain of its
submission has consumed. -/
def KeepsOwnRoutes (c : ContextId) (r : Ledgered) (act : ContextId × Action) : Prop :=
  act.1 = c → (r.1.contexts c).coding.usesTokenRoutes = false →
    keepsOwnRoute (r.1.contexts c) act.2 = true

structure RunInv (c : ContextId) (r : Ledgered) : Prop where
  ledger : LedgerInv (r.1.contexts c) r.2
  context : ContextInv (r.1.contexts c)
  tokens : TokenPackets (r.1.contexts c)

theorem runInv_init (c : ContextId) (coding : ContextId → Coding) (profileIdc : ContextId → Nat) :
    RunInv c (State.init coding profileIdc, .init) := by
  refine ⟨⟨⟨.refl _, List.nodup_nil⟩, ?_, rfl, nofun⟩, contextInv_init (coding c) (profileIdc c), ?_⟩
  · intro serial mem
    cases mem
  · intro _ job kind packet
    cases packet

theorem runInv_step {c : ContextId} {r r' : Ledgered} {act : ContextId × Action} (h : RunInv c r)
    (own : KeepsOwnRoutes c r act) (hstep : ledgerStep c r act = some r') : RunInv c r' := by
  obtain ⟨st, hst, rfl⟩ := Option.map_eq_some_iff.mp hstep
  obtain ⟨ctx, t, hctx, self, other, -⟩ := step_cases hst
  by_cases here : act.1 = c
  · subst here
    have kept : keepsOwnRoute (r.1.contexts act.1) act.2 = true := by
      cases token : (r.1.contexts act.1).coding.usesTokenRoutes with
      | true => exact h.tokens.keepsOwnRoute token act.2
      | false => exact own rfl token
    simp only [if_true]
    refine ⟨?_, ?_, ?_⟩
    · rw [self]
      exact ledgerInv_step h.ledger h.context.stopped kept hctx
    · rw [self]
      exact contextInv_step h.context hctx
    · rw [self]
      exact tokenPackets_step h.tokens hctx
  · rw [if_neg here]
    have same := other c fun h => here h.symm
    exact ⟨by rw [same]; exact h.ledger, by rw [same]; exact h.context, by rw [same]; exact h.tokens⟩

theorem RunInv.released {c : ContextId} {r : Ledgered} (h : RunInv c r) :
    RoutesReleased (r.1.contexts c) r.2 := by
  obtain ⟨⟨balanced, -, -, stop⟩, context, -⟩ := h
  refine ⟨balanced.fresh.sublist (List.sublist_append_left _ _), balanced.count_destroyed_le, ?_, ?_⟩
  · intro route mem destroyed
    exact balanced.not_live destroyed
      (List.mem_map_of_mem (List.mem_append.mpr (.inl mem)))
  · intro returned serial created
    obtain ⟨hand, -, h264Routes, genericRoutes⟩ := context.stopped.joined (.inr returned)
    have held := stop (exited_of_hand hand)
    rw [returned] at held
    refine balanced.released ?_ created
    show (((r.1.contexts c).h264Routes ++ (r.1.contexts c).genericRoutes) ++ r.2.held).map
      Route.serial = []
    rw [h264Routes, genericRoutes, held]
    rfl

/-- Whatever MPP does, in every run in which no VP9 packet is refused after a drain of its own
submission has consumed its route: no route is ever destroyed twice or left in a list behind its
destruction, and at the end of `rk_mpp_dec_stop` every route has been destroyed. -/
theorem routes_released {coding : ContextId → Coding} {profileIdc : ContextId → Nat} (c : ContextId)
    {acts : List (ContextId × Action)} {r : Ledgered}
    (hrun : run (ledgerStep c) (State.init coding profileIdc, .init) acts = some r)
    (keeps : Throughout (ledgerStep c) (KeepsOwnRoutes c) (State.init coding profileIdc, .init)
      acts) : RoutesReleased (r.1.contexts c) r.2 :=
  (run_invariant (I := RunInv c) (fun _ _ _ h own hstep => runInv_step h own hstep) acts _ r
    (runInv_init c coding profileIdc) keeps hrun).released

/-- A shown VP9 picture up to its first packet. -/
def shownPicture : List Action :=
  pictureCalls 0 (.vp9 true false false 8) ++ [.worker (.next false), .worker (.submit true)]

/-- The drain of a teardown begins and the packet under submission is given up. -/
def givenUp : List Action := [.app .destroy, .stop .drain, .worker (.put .stopping)]

/-- MPP rejects the packet of the picture and returns a frame, which takes the route of the picture;
then the context is destroyed and the packet is given up. -/
def consumedRun : List (ContextId × Action) :=
  runOf 0 (shownPicture ++ [.worker (.put .busy)] ++ receiveFrame ⟨1, 0, false, false, false⟩ ++
    [.worker .publish] ++ givenUp)

/-- The only route is passed to `frame_route_destroy` twice. -/
theorem consumedRoute_destroyedTwice : ∃ r : Ledgered,
    run (ledgerStep 0) (State.init (fun _ => .vp9) fun _ => 0, .init) consumedRun = some r ∧
      r.2.created = [0] ∧ r.2.destroyed = [0, 0] ∧ ¬ RoutesReleased (r.1.contexts 0) r.2 := by
  obtain ⟨r, hrun, created, destroyed⟩ : ∃ r : Ledgered,
      run (ledgerStep 0) (State.init (fun _ => .vp9) fun _ => 0, .init) consumedRun = some r ∧
        r.2.created = [0] ∧ r.2.destroyed = [0, 0] := ⟨_, rfl, rfl, rfl⟩
  refine ⟨r, hrun, created, destroyed, fun released => ?_⟩
  have once := released.once 0
  rw [destroyed] at once
  exact absurd once (by decide)

/-- The packet is given up while its route is queued, and `rk_mpp_dec_stop` returns. -/
theorem routes_released_givenUp : ∃ r : Ledgered,
    run (ledgerStep 0) (State.init (fun _ => .vp9) fun _ => 0, .init)
      (runOf 0 (shownPicture ++ givenUp ++
        [.worker .complete, .worker (.next true), .stop .join, .stop .failRender])) = some r ∧
      (r.1.contexts 0).stop = .returned ∧ r.2.created = [0] ∧ RoutesReleased (r.1.contexts 0) r.2 := by
  obtain ⟨r, hrun, returned, created⟩ : ∃ r : Ledgered,
      run (ledgerStep 0) (State.init (fun _ => .vp9) fun _ => 0, .init)
        (runOf 0 (shownPicture ++ givenUp ++
          [.worker .complete, .worker (.next true), .stop .join, .stop .failRender])) = some r ∧
        (r.1.contexts 0).stop = .returned ∧ r.2.created = [0] := ⟨_, rfl, rfl, rfl⟩
  refine ⟨r, hrun, returned, created, routes_released 0 hrun ?_⟩
  exact Throughout.imp (P := fun r act => keepsOwnRoute (r.1.contexts 0) act.2 = true)
    (fun _ _ keeps _ _ => keeps) (throughout_of_check rfl)

end RockchipVaapi.Decode
