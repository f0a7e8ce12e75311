import RockchipVaapi.Decode.TokenRouting

/-!
# Teardown leaves no fence unsignalled

Between `rk_BeginPicture` and its signal, somebody owes the signal of a fence: the picture being
rendered, a call, a job, a route, the worker or `rk_mpp_dec_stop`. Every step passes the debt on or
pays it, and when `rk_mpp_dec_stop` returns there is nobody left who could owe one. The one way to
lose a debt is to take the route of another job under the same token, after the token counter has
wrapped around.
-/

namespace RockchipVaapi.Decode
open Transition

/-- A surface and one of its fences. -/
abbrev Target := SurfaceId × Nat

def Job.target (job : Job) : Target := (job.surface, job.fence)

def Route.target (route : Route) : Target := (route.surface, route.fence)

theorem frameRouteCreate_target (job : Job) : (frameRouteCreate job).target = job.target := rfl

/-! ## Who owes the signal of a fence -/

def Call.owes : Call → List Target
  | .failSurface surface fence => [(surface, fence)]
  | .enqueue job => [job.target]
  | .reject job => [job.target]
  | _ => []

/-- A hidden packet has no route; the other packets under submission have one in a list. -/
def packetOwes : Option (Job × Kind) → List Target
  | some (job, .hidden) => [job.target]
  | _ => []

def Hand.owes : Hand → List Target
  | .waiting packet => packetOwes packet
  | .submitting job => [job.target]
  | .assigning route _ packet => route.target :: packetOwes packet
  | .completing surface fence packet => (surface, fence) :: packetOwes packet
  | .failing routes => routes.map Route.target
  | .exited => []

def Stop.owes : Stop → List Target
  | .failing pending => pending
  | _ => []

/-- The worker, its queue or its routes owe a signal. -/
inductive WorkOwes (w : Work) : Target → Prop
  | job {job : Job} (mem : job ∈ w.jobs) : WorkOwes w job.target
  | h264Route {route : Route} (mem : route ∈ w.h264Routes) : WorkOwes w route.target
  | genericRoute {route : Route} (mem : route ∈ w.genericRoutes) : WorkOwes w route.target
  | hand {p : Target} (mem : p ∈ w.hand.owes) : WorkOwes w p

inductive Owes (ctx : Context) : Target → Prop
  | render {p : Target} (render : ctx.render = some p) : Owes ctx p
  | call {call : Call} {p : Target} (mem : call ∈ ctx.calls) (owes : p ∈ call.owes) : Owes ctx p
  | work {p : Target} (work : WorkOwes ctx.work p) : Owes ctx p
  | stop {p : Target} (mem : p ∈ ctx.stop.owes) : Owes ctx p

/-! ## Paying -/

def Surface.settled (s : Surface) : Bool := s.decoded || s.decodeFailed

/-- A section that settles a surface with this fence. -/
def SurfaceOp.Settles (fence : Nat) (op : SurfaceOp) : Prop :=
  ∀ s : Surface, s.fence = fence → (op.apply s).settled = true

/-- A step pays the signal of a fence, or the fence is no longer that of the surface. -/
def Paid (surfaces : Surfaces) (t : Touch) (p : Target) : Prop :=
  (∃ op, t = some (p.1, op) ∧ op.Settles p.2) ∨ (surfaces p.1).fence ≠ p.2

theorem SurfaceOp.settles_publish (fence : Nat) (output : Output) :
    (SurfaceOp.publish fence output).Settles fence := by
  intro s same
  simp only [SurfaceOp.apply, if_pos same, Surface.settled, Bool.true_or]

theorem SurfaceOp.settles_complete (fence : Nat) (success : Bool) :
    (SurfaceOp.complete fence success).Settles fence := by
  intro s same
  simp only [SurfaceOp.apply, if_pos same, Surface.settled, Bool.or_not_self]

theorem SurfaceOp.settles_fail (fence : Nat) : (SurfaceOp.fail fence).Settles fence := by
  intro s same
  by_cases decoded : s.decoded = false
  · simp only [SurfaceOp.apply, if_pos (And.intro same decoded), Surface.settled, Bool.or_true]
  · have done : s.decoded = true := eq_true_of_ne_false decoded
    simp only [SurfaceOp.apply, done, Surface.settled]
    split <;> simp only [Bool.true_or, Bool.or_true, done]

/-! ## The worker passes debts on -/

/-- A route is taken with its token, or stays. -/
theorem h264RouteTake_mem {token : Nat} {routes : List Route} {route : Route}
    (mem : route ∈ routes) : route ∈ (h264RouteTake token routes).2 ∨ route.token = token := by
  induction routes with
  | nil => cases mem
  | cons first routes ih =>
    unfold h264RouteTake
    split
    · rename_i same
      rcases List.mem_cons.mp mem with rfl | mem
      · exact .inr same
      · exact .inl mem
    · rcases List.mem_cons.mp mem with rfl | mem
      · exact .inl List.mem_cons_self
      · rcases ih mem with mem | same
        · exact .inl (List.mem_cons_of_mem first mem)
        · exact .inr same

theorem h264RouteTake_mem_or {token : Nat} {routes : List Route} {route taken : Route}
    (mem : route ∈ routes) (h : (h264RouteTake token routes).1 = some taken) :
    route ∈ (h264RouteTake token routes).2 ∨ route = taken := by
  induction routes with
  | nil => cases mem
  | cons first routes ih =>
    unfold h264RouteTake at h ⊢
    split
    · rename_i same
      rw [if_pos same] at h
      obtain rfl := Option.some.inj h
      rcases List.mem_cons.mp mem with rfl | mem
      · exact .inr rfl
      · exact .inl mem
    · rename_i other
      rw [if_neg other] at h
      rcases List.mem_cons.mp mem with rfl | mem
      · exact .inl List.mem_cons_self
      · rcases ih mem h with mem | same
        · exact .inl (List.mem_cons_of_mem first mem)
        · exact .inr same

theorem genericRouteRemove_mem {routes : List Route} {serial : Nat} {route : Route}
    (mem : route ∈ routes) :
    route ∈ genericRouteRemove routes serial ∨ route.serial = serial := by
  by_cases same : route.serial = serial
  · exact .inr same
  · refine .inl ((List.mem_eraseP_of_neg ?_).mpr mem)
    simpa only [beq_iff_eq] using same

section

variable {ctx : Context} {surfaces : Surfaces} {a : WorkerAction} {t : Touch} {w : Work}

/-- The routes that a refused packet takes are for the surface and the fence of its job. -/
theorem refused_owes {job : Job} {kind : Kind} (inv : TokenInv ctx)
    (bound : ctx.enqueued.length < 2 ^ 63)
    (known : PacketKnown ctx.enqueued (some (job, kind))) {route : Route} :
    (route ∈ ctx.h264Routes →
      route ∈ (ctx.work.refused job kind).h264Routes ∨ route.target = job.target) ∧
    (route ∈ ctx.genericRoutes →
      route ∈ (ctx.work.refused job kind).genericRoutes ∨ route.target = job.target) := by
  obtain ⟨listed, paired⟩ := known
  have own : Issued ctx.enqueued job.token job.surface job.fence :=
    ⟨job, listed.mem, rfl, rfl, rfl⟩
  -- a token belongs to one surface and fence
  have taken : ∀ {token : Nat}, Issued ctx.enqueued token job.surface job.fence →
      route ∈ ctx.h264Routes →
      route ∈ (h264RouteTake token ctx.h264Routes).2 ∨ route.target = job.target := by
    intro token issued mem
    rcases h264RouteTake_mem mem with stays | same
    · exact .inl stays
    · have theirs := (inv.routed.h264Routes route mem).token
      rw [same] at theirs
      obtain ⟨surface, fence⟩ := inv.numbered.eq_of_issued bound theirs issued
      exact .inr (Prod.ext surface fence)
  have removed : route ∈ ctx.genericRoutes →
      route ∈ genericRouteRemove ctx.genericRoutes job.serial ∨ route.target = job.target := by
    intro mem
    rcases genericRouteRemove_mem mem with stays | same
    · exact .inl stays
    · obtain ⟨theirs, at_serial, surface, fence⟩ := (inv.routed.genericRoutes route mem).serial
      rw [same] at at_serial
      obtain rfl := Option.some.inj (listed.symm.trans at_serial)
      exact .inr (Prod.ext surface.symm fence.symm)
  cases kind with
  | fresh => exact ⟨taken own, .inl⟩
  | paired token => exact ⟨taken (paired token rfl), .inl⟩
  | hidden => exact ⟨.inl, .inl⟩
  | repeated => exact ⟨.inl, removed⟩
  | shown => exact ⟨.inl, removed⟩

/-- What a frame takes from the routes is its route. -/
theorem takeRoute_mem {frame : MppFrame} {taken route : Route}
    (h : (takeRoute ctx frame).1 = some taken) :
    (route ∈ ctx.h264Routes → route ∈ (takeRoute ctx frame).2.h264Routes ∨ route = taken) ∧
    (route ∈ ctx.genericRoutes → route ∈ (takeRoute ctx frame).2.genericRoutes ∨ route = taken) := by
  rcases takeRoute_cases h with ⟨-, h, same⟩ | ⟨-, routes, queue, same⟩
  · rw [same]
    exact ⟨fun mem => h264RouteTake_mem_or mem h, .inl⟩
  · rw [same, queue]
    refine ⟨.inl, fun mem => ?_⟩
    rcases List.mem_cons.mp mem with first | mem
    · exact .inr first
    · exact .inl mem

theorem WorkerMove.owes_job (move : WorkerMove ctx surfaces a t w) {job : Job}
    (mem : job ∈ ctx.jobs) : WorkOwes w job.target := by
  cases move with
  | fetch hand queue =>
    rw [queue] at mem
    rcases List.mem_cons.mp mem with rfl | mem
    · exact .hand List.mem_cons_self
    · exact .job mem
  | arrive action shown hand taken =>
    rw [← takeRoute_jobs ctx _] at mem
    exact .job mem
  | _ => exact .job mem

theorem WorkerMove.owes_h264Route (inv : TokenInv ctx) (bound : ctx.enqueued.length < 2 ^ 63)
    (move : WorkerMove ctx surfaces a t w) {route : Route} (mem : route ∈ ctx.h264Routes) :
    WorkOwes w route.target := by
  have known := inv.routed.hand
  cases move with
  | route hand coding => exact .h264Route (List.mem_cons_of_mem _ mem)
  | replace hand => exact .h264Route (List.mem_cons_of_mem _ mem)
  | refuse hand refused =>
    rw [hand] at known
    rcases (refused_owes inv bound known).1 mem with stays | same
    · exact .h264Route stays
    · rw [same]
      exact .hand List.mem_cons_self
  | arrive action shown hand taken =>
    rcases (takeRoute_mem taken).1 mem with stays | rfl
    · exact .h264Route stays
    · exact .hand List.mem_cons_self
  | stall hand => exact .hand (List.mem_map_of_mem (List.mem_append_left _ mem))
  | _ => exact .h264Route mem

theorem WorkerMove.owes_genericRoute (inv : TokenInv ctx) (bound : ctx.enqueued.length < 2 ^ 63)
    (move : WorkerMove ctx surfaces a t w) {route : Route} (mem : route ∈ ctx.genericRoutes) :
    WorkOwes w route.target := by
  have known := inv.routed.hand
  cases move with
  | queue hand coding queues => exact .genericRoute (List.mem_append_left _ mem)
  | repeatHidden hand queues => exact .genericRoute (List.mem_append_left _ mem)
  | refuse hand refused =>
    rw [hand] at known
    rcases (refused_owes inv bound known).2 mem with stays | same
    · exact .genericRoute stays
    · rw [same]
      exact .hand List.mem_cons_self
  | arrive action shown hand taken =>
    rcases (takeRoute_mem taken).2 mem with stays | rfl
    · exact .genericRoute stays
    · exact .hand List.mem_cons_self
  | stall hand => exact .hand (List.mem_map_of_mem (List.mem_append_right _ mem))
  | _ => exact .genericRoute mem

theorem WorkerMove.owes_hand {p : Target} (move : WorkerMove ctx surfaces a t w)
    (mem : p ∈ ctx.work.hand.owes) : WorkOwes w p ∨ Paid surfaces t p := by
  have nobody : ∀ {x : Hand}, ctx.work.hand = x → x.owes = [] → False := by
    intro x hand none_left
    rw [hand, none_left] at mem
    cases mem
  cases move with
  | quiet => exact .inl (.hand mem)
  | exit hand => exact (nobody hand rfl).elim
  | fetch hand queue => exact (nobody hand rfl).elim
  | finish hand why =>
    rw [hand] at mem
    exact .inl (.hand mem)
  | pair hand coding found =>
    rw [hand] at mem
    obtain rfl := List.mem_singleton.mp mem
    obtain ⟨listed, surface, fence⟩ := h264RouteFindSurface_some found
    rename_i job route
    have same : route.target = job.target := Prod.ext surface fence
    rw [← same]
    exact .inl (.h264Route listed)
  | route hand coding =>
    rw [hand] at mem
    obtain rfl := List.mem_singleton.mp mem
    rw [← frameRouteCreate_target]
    exact .inl (.h264Route List.mem_cons_self)
  | hide hand coding =>
    rw [hand] at mem
    exact .inl (.hand mem)
  | queue hand coding queues =>
    rw [hand] at mem
    obtain rfl := List.mem_singleton.mp mem
    rw [← frameRouteCreate_target]
    exact .inl (.genericRoute (List.mem_append_right _ List.mem_cons_self))
  | refuse hand refused =>
    rename_i job kind
    rw [hand] at mem
    cases kind with
    | hidden => exact .inl (.hand mem)
    | _ => cases mem
  | accept hand kinds =>
    rcases kinds with rfl | rfl | rfl | ⟨token, route, rfl, -⟩ <;> exact (nobody hand rfl).elim
  | replace hand => exact (nobody hand rfl).elim
  | lose hand kinds =>
    rcases kinds with rfl | ⟨token, rfl⟩
    · rw [hand] at mem
      exact .inl (.hand mem)
    · exact (nobody hand rfl).elim
  | repeatHidden hand queues =>
    rw [hand] at mem
    obtain rfl := List.mem_singleton.mp mem
    rw [← frameRouteCreate_target]
    exact .inl (.genericRoute (List.mem_append_right _ List.mem_cons_self))
  | drop action shown hand none_left => exact .inl (.hand mem)
  | arrive action shown hand taken =>
    rw [hand] at mem
    exact .inl (.hand (List.mem_cons_of_mem _ mem))
  | stale hand fence =>
    rw [hand] at mem
    rcases List.mem_cons.mp mem with rfl | mem
    · exact .inr (.inr fence)
    · exact .inl (.hand mem)
  | failAssign hand =>
    rw [hand] at mem
    exact .inl (.hand mem)
  | publish worker =>
    rename_i route frame output k
    have hand : ctx.work.hand = .assigning route frame k.packet := congrArg Worker.hand worker
    rw [hand] at mem
    rcases List.mem_cons.mp mem with rfl | mem
    · exact .inr (.inl ⟨_, rfl, SurfaceOp.settles_publish _ _⟩)
    · exact .inl (.hand mem)
  | complete hand =>
    rw [hand] at mem
    rcases List.mem_cons.mp mem with rfl | mem
    · exact .inr (.inl ⟨_, rfl, SurfaceOp.settles_complete _ _⟩)
    · exact .inl (.hand mem)
  | stall hand => exact (nobody hand rfl).elim
  | failRoute hand =>
    rw [hand] at mem
    rcases List.mem_cons.mp mem with rfl | mem
    · exact .inr (.inl ⟨_, rfl, SurfaceOp.settles_fail _⟩)
    · exact .inl (.hand mem)
  | recover hand => exact (nobody hand rfl).elim

/-- A move of the worker pays a debt or leaves it with the worker, its queue or its routes. -/
theorem WorkerMove.owes (inv : TokenInv ctx) (bound : ctx.enqueued.length < 2 ^ 63) {p : Target}
    (move : WorkerMove ctx surfaces a t w) (h : WorkOwes ctx.work p) :
    WorkOwes w p ∨ Paid surfaces t p := by
  cases h with
  | job mem => exact .inl (move.owes_job mem)
  | h264Route mem => exact .inl (move.owes_h264Route inv bound mem)
  | genericRoute mem => exact .inl (move.owes_genericRoute inv bound mem)
  | hand mem => exact move.owes_hand mem

end

/-! ## The calls pass debts on -/

theorem mem_eraseIdx_or {calls : List Call} {i : Nat} {call other : Call}
    (at_i : calls[i]? = some other) (mem : call ∈ calls) :
    call ∈ calls.eraseIdx i ∨ call = other := by
  obtain ⟨j, at_j⟩ := List.mem_iff_getElem?.mp mem
  by_cases same : j = i
  · subst same
    exact .inr (Option.some.inj (at_j.symm.trans at_i))
  · exact .inl (List.mem_eraseIdx_iff_getElem?.mpr ⟨j, same, at_j⟩)

theorem mem_set_or {calls : List Call} {i : Nat} {call other : Call} (new : Call)
    (at_i : calls[i]? = some other) (mem : call ∈ calls) : call ∈ calls.set i new ∨ call = other := by
  obtain ⟨j, at_j⟩ := List.mem_iff_getElem?.mp mem
  by_cases same : j = i
  · subst same
    exact .inr (Option.some.inj (at_j.symm.trans at_i))
  · refine .inl (List.mem_iff_getElem?.mpr ⟨j, ?_⟩)
    rw [List.getElem?_set_ne (Ne.symm same), at_j]

theorem set_mem {calls : List Call} {i : Nat} {other : Call} (new : Call)
    (at_i : calls[i]? = some other) : new ∈ calls.set i new := by
  have bound : i < calls.length := (List.getElem?_eq_some_iff.mp at_i).1
  exact List.mem_set bound new

/-- The job of the call that holds the picture lock is for the picture being rendered. -/
def Held (ctx : Context) : Prop :=
  ∀ job, ctx.endPicture = some (some job) → ctx.render = some job.target

section

variable {c : ContextId} {ctx ctx' : Context} {surfaces : Surfaces} {a : AppAction} {t : Touch}
  {p : Target}

theorem AppMove.owes_render (held : Held ctx) (move : AppMove c ctx surfaces a ctx' t)
    (h : ctx.render = some p) : Owes ctx' p := by
  cases move with
  | begin call free =>
    rename_i i surface
    have failing : Call.failSurface p.1 p.2 ∈ (beginSection c ctx surfaces i surface).1.calls := by
      simp only [beginSection, h]
      exact set_mem _ call
    exact .call failing List.mem_cons_self
  | buildNothing call free render =>
    rw [render] at h
    cases h
  | release render endPicture =>
    rename_i surface fence job
    obtain rfl : job.target = p := Option.some.inj ((held job endPicture).symm.trans h)
    exact .call (List.mem_append_right _ List.mem_cons_self) List.mem_cons_self
  | releaseFailed render endPicture =>
    obtain rfl := Option.some.inj (render.symm.trans h)
    exact .call (List.mem_append_right _ List.mem_cons_self) List.mem_cons_self
  | _ => exact .render h

theorem AppMove.owes_call (move : AppMove c ctx surfaces a ctx' t) {call : Call}
    (mem : call ∈ ctx.calls) (owes : p ∈ call.owes) : Owes ctx' p ∨ Paid surfaces t p := by
  cases move with
  | callBegin live => exact .inl (.call (List.mem_append_left _ mem) owes)
  | callEnd live => exact .inl (.call (List.mem_append_left _ mem) owes)
  | destroy live => exact .inl (.call mem owes)
  | begin at_i free =>
    refine .inl (.call ?_ owes)
    simp only [beginSection]
    split
    · rcases mem_eraseIdx_or at_i mem with stays | rfl
      · exact stays
      · cases owes
    · rcases mem_set_or _ at_i mem with stays | rfl
      · exact stays
      · cases owes
  | buildNothing at_i free render =>
    rcases mem_eraseIdx_or at_i mem with stays | rfl
    · exact .inl (.call stays owes)
    · cases owes
  | build at_i free render =>
    rcases mem_eraseIdx_or at_i mem with stays | rfl
    · exact .inl (.call stays owes)
    · cases owes
  | release render endPicture => exact .inl (.call (List.mem_append_left _ mem) owes)
  | releaseFailed render endPicture => exact .inl (.call (List.mem_append_left _ mem) owes)
  | failSurface at_i =>
    rcases mem_eraseIdx_or at_i mem with stays | rfl
    · exact .inl (.call stays owes)
    · obtain rfl := List.mem_singleton.mp owes
      exact .inr (.inl ⟨_, rfl, SurfaceOp.settles_fail _⟩)
  | enqueueStopped at_i stopped =>
    rename_i i job
    rcases mem_set_or (.reject job) at_i mem with stays | rfl
    · exact .inl (.call stays owes)
    · exact .inl (.call (set_mem (.reject job) at_i) owes)
  | enqueue at_i =>
    rename_i i job
    rcases mem_eraseIdx_or at_i mem with stays | rfl
    · exact .inl (.call stays owes)
    · obtain rfl := List.mem_singleton.mp owes
      have queued : WorkOwes
          (rkMppDecEnqueueJob { ctx with calls := ctx.calls.eraseIdx i } job).work
          (Job.target { job with token := nextToken ctx.nextToken, serial := ctx.enqueued.length }) :=
        .job (List.mem_append_right _ List.mem_cons_self)
      exact .inl (.work queued)
  | reject at_i =>
    rcases mem_eraseIdx_or at_i mem with stays | rfl
    · exact .inl (.call stays owes)
    · obtain rfl := List.mem_singleton.mp owes
      exact .inr (.inl ⟨_, rfl, SurfaceOp.settles_complete _ _⟩)

theorem AppMove.owes_work (move : AppMove c ctx surfaces a ctx' t) (h : WorkOwes ctx.work p) :
    WorkOwes ctx'.work p := by
  cases move with
  | enqueue call =>
    cases h with
    | job mem => exact .job (List.mem_append_left _ mem)
    | h264Route mem => exact .h264Route mem
    | genericRoute mem => exact .genericRoute mem
    | hand mem => exact .hand mem
  | _ => exact h

/-- A call pays a debt, or leaves it with the picture being rendered, a call or the queue. -/
theorem AppMove.owes (held : Held ctx) (move : AppMove c ctx surfaces a ctx' t) (h : Owes ctx p) :
    Owes ctx' p ∨ Paid surfaces t p := by
  cases h with
  | render render => exact .inl (move.owes_render held render)
  | call mem owes => exact move.owes_call mem owes
  | work work => exact .inl (.work (move.owes_work work))
  | stop mem =>
    refine .inl (.stop ?_)
    cases move <;> exact mem

end

/-- `rk_mpp_dec_stop` pays a debt or leaves it where it was; from the queue and the routes it takes
the debts over. -/
theorem StopMove.owes {ctx ctx' : Context} {surfaces : Surfaces} {t : Touch} {p : Target}
    (move : StopMove ctx ctx' t) (h : Owes ctx p) : Owes ctx' p ∨ Paid surfaces t p := by
  cases move with
  | drain stop destroyed calls free =>
    cases h with
    | render render => exact .inl (.render render)
    | call mem owes => exact .inl (.call mem owes)
    | work work => exact .inl (.work work)
    | stop mem =>
      rw [stop] at mem
      cases mem
  | join stop worker =>
    cases h with
    | render render => exact .inl (.render render)
    | call mem owes => exact .inl (.call mem owes)
    | work work =>
      refine .inl (.stop ?_)
      cases work with
      | job mem => exact List.mem_append_left _ (List.mem_map_of_mem mem)
      | h264Route mem =>
        exact List.mem_append_right _ (List.mem_map_of_mem (List.mem_append_left _ mem))
      | genericRoute mem =>
        exact List.mem_append_right _ (List.mem_map_of_mem (List.mem_append_right _ mem))
      | hand mem =>
        rw [show ctx.work.hand = .exited from congrArg Worker.hand worker] at mem
        cases mem
    | stop mem =>
      rw [stop] at mem
      cases mem
  | failNext stop =>
    cases h with
    | render render => exact .inl (.render render)
    | call mem owes => exact .inl (.call mem owes)
    | work work => exact .inl (.work work)
    | stop mem =>
      rw [stop] at mem
      rcases List.mem_cons.mp mem with rfl | mem
      · exact .inr (.inl ⟨_, rfl, SurfaceOp.settles_fail _⟩)
      · exact .inl (.stop mem)
  | failRender stop =>
    cases h with
    | render render =>
      refine .inr (.inl ⟨.fail p.2, ?_, SurfaceOp.settles_fail _⟩)
      rw [render]
      rfl
    | call mem owes => exact .inl (.call mem owes)
    | work work => exact .inl (.work work)
    | stop mem =>
      rw [stop] at mem
      cases mem

/-! ## A stopped context -/

/-- From `rk_mpp_dec_stop` on no call is in progress; behind the join the worker has exited and has
nothing left; and when `rk_mpp_dec_stop` returns there is no picture being rendered. -/
structure Stopped (ctx : Context) : Prop where
  idle : ctx.stop ≠ .notCalled → ctx.destroyed = true ∧ ctx.calls = [] ∧ ctx.endPicture = none
  joined : (∃ pending, ctx.stop = .failing pending) ∨ ctx.stop = .returned →
    ctx.work.hand = .exited ∧ ctx.jobs = [] ∧ ctx.h264Routes = [] ∧ ctx.genericRoutes = []
  returned : ctx.stop = .returned → ctx.render = none

/-- Everything known about a context on its way to the end of `rk_mpp_dec_stop`. -/
structure ContextInv (ctx : Context) : Prop where
  tokens : TokenInv ctx
  held : Held ctx
  stopped : Stopped ctx

theorem rkMppDecBuildJob_target {ctx : Context} {surface : SurfaceId} {fence : Nat}
    {input : BuildInput} {job : Job} (h : rkMppDecBuildJob ctx surface fence input = some job) :
    job.target = (surface, fence) := by
  unfold rkMppDecBuildJob at h
  split at h
  · obtain rfl := Option.some.inj h
    rfl
  · obtain ⟨sequence, -, same⟩ := Option.bind_eq_some_iff.mp h
    obtain rfl := Option.some.inj same
    rfl
  · obtain rfl := Option.some.inj h
    rfl
  · cases h

theorem AppMove.held {c : ContextId} {ctx ctx' : Context} {surfaces : Surfaces} {a : AppAction}
    {t : Touch} (h : Held ctx) (move : AppMove c ctx surfaces a ctx' t) : Held ctx' := by
  cases move with
  | begin call free =>
    intro job held
    rw [show ctx.endPicture = _ from held] at free
    cases free
  | build call free render =>
    intro job held
    rw [rkMppDecBuildJob_target (Option.some.inj held)]
    exact render
  | release render held =>
    intro job none_left
    cases none_left
  | releaseFailed render held =>
    intro job none_left
    cases none_left
  | _ => exact h

/-- A context in `rk_mpp_dec_stop` has no call that could take a step. -/
theorem AppMove.running {c : ContextId} {ctx ctx' : Context} {surfaces : Surfaces} {a : AppAction}
    {t : Touch} (h : Stopped ctx) (move : AppMove c ctx surfaces a ctx' t) :
    ctx.stop = .notCalled := by
  by_contra called
  obtain ⟨destroyed, calls, free⟩ := h.idle called
  have none_left : ∀ {i : Nat} {call : Call}, ctx.calls[i]? = some call → False := by
    intro i call at_i
    rw [calls] at at_i
    cases at_i
  cases move with
  | callBegin live => rw [destroyed] at live; cases live
  | callEnd live => rw [destroyed] at live; cases live
  | destroy live => rw [destroyed] at live; cases live
  | begin call free => exact none_left call
  | buildNothing call free render => exact none_left call
  | build call free render => exact none_left call
  | release render held => rw [free] at held; cases held
  | releaseFailed render held => rw [free] at held; cases held
  | failSurface call => exact none_left call
  | enqueueStopped call stopped => exact none_left call
  | enqueue call => exact none_left call
  | reject call => exact none_left call

theorem Stopped.of_notCalled {ctx : Context} (h : ctx.stop = .notCalled) : Stopped ctx := by
  refine ⟨fun called => absurd h called, ?_, ?_⟩
  · rintro (⟨pending, failing⟩ | returned)
    · rw [h] at failing
      cases failing
    · rw [h] at returned
      cases returned
  · intro returned
    rw [h] at returned
    cases returned

theorem WorkerMove.exited {ctx : Context} {surfaces : Surfaces} {a : WorkerAction} {t : Touch}
    {w : Work} (move : WorkerMove ctx surfaces a t w) (exited : ctx.work.hand = .exited) :
    w = ctx.work := by
  have gone : ∀ {x : Hand}, ctx.work.hand = x → x ≠ .exited → w = ctx.work := by
    intro x hand other
    exact absurd (hand.symm.trans exited) other
  cases move with
  | quiet => rfl
  | publish worker =>
    rename_i route frame output k
    have hand : ctx.work.hand = .assigning route frame k.packet := congrArg Worker.hand worker
    rw [exited] at hand
    cases hand
  | exit hand => exact gone hand nofun
  | fetch hand queue => exact gone hand nofun
  | finish hand why => exact gone hand nofun
  | pair hand coding found => exact gone hand nofun
  | route hand coding => exact gone hand nofun
  | hide hand coding => exact gone hand nofun
  | queue hand coding queues => exact gone hand nofun
  | refuse hand refused => exact gone hand nofun
  | accept hand kinds => exact gone hand nofun
  | replace hand => exact gone hand nofun
  | lose hand kinds => exact gone hand nofun
  | repeatHidden hand queues => exact gone hand nofun
  | drop action shown hand none_left => exact gone hand nofun
  | arrive action shown hand taken => exact gone hand nofun
  | stale hand fence => exact gone hand nofun
  | failAssign hand => exact gone hand nofun
  | complete hand => exact gone hand nofun
  | stall hand => exact gone hand nofun
  | failRoute hand => exact gone hand nofun
  | recover hand => exact gone hand nofun

theorem contextInv_step {c : ContextId} {ctx ctx' : Context} {surfaces : Surfaces} {a : Action}
    {t : Touch} (h : ContextInv ctx) (hstep : ctxStep c ctx surfaces a = some (ctx', t)) :
    ContextInv ctx' := by
  have tokens := tokenInv_step h.tokens hstep
  cases a with
  | app a =>
    have move := appStep_move hstep
    refine ⟨tokens, move.held h.held, .of_notCalled ?_⟩
    have running := move.running h.stopped
    cases move <;> exact running
  | worker a =>
    obtain ⟨move, calls⟩ := workerStep_move hstep
    refine ⟨tokens, ?_, ?_, ?_, ?_⟩
    · intro job held
      rw [calls.endPicture] at held
      rw [calls.render]
      exact h.held job held
    · rw [calls.stop, calls.destroyed, calls.calls, calls.endPicture]
      exact h.stopped.idle
    · rw [calls.stop]
      intro behind
      have before := h.stopped.joined behind
      have same : ctx'.work = ctx.work := move.exited before.1
      have jobs : ctx'.jobs = ctx.jobs := congrArg Work.jobs same
      have tokens : ctx'.h264Routes = ctx.h264Routes := congrArg Work.h264Routes same
      have generics : ctx'.genericRoutes = ctx.genericRoutes := congrArg Work.genericRoutes same
      rw [same, jobs, tokens, generics]
      exact before
    · rw [calls.stop, calls.render]
      exact h.stopped.returned
  | stop a =>
    cases stopStep_move hstep with
    | drain stop destroyed calls free =>
      refine ⟨tokens, h.held, fun _ => ⟨destroyed, calls, free⟩, ?_, fun same => by cases same⟩
      rintro (⟨pending, failing⟩ | returned)
      · cases failing
      · cases returned
    | join stop worker =>
      refine ⟨tokens, h.held, fun _ => h.stopped.idle ?_, ?_, fun same => by cases same⟩
      · rw [stop]
        exact nofun
      · intro _
        exact ⟨congrArg Worker.hand worker, rfl, rfl, rfl⟩
    | failNext stop =>
      refine ⟨tokens, h.held, fun _ => h.stopped.idle ?_, fun _ => h.stopped.joined (.inl ⟨_, stop⟩),
        fun same => by cases same⟩
      rw [stop]
      exact nofun
    | failRender stop =>
      have idle := h.stopped.idle (by rw [stop]; exact nofun)
      refine ⟨tokens, ?_, fun _ => idle, fun _ => h.stopped.joined (.inl ⟨_, stop⟩), fun _ => rfl⟩
      intro job held
      rw [show ctx.endPicture = _ from held] at idle
      cases idle.2.2
  | exportSurface surface =>
    obtain ⟨rfl, -⟩ := Prod.mk.inj (Option.some.inj hstep)
    exact h

/-! ## The debts of a step -/

section

variable {c : ContextId} {ctx ctx' : Context} {surfaces : Surfaces} {a : Action} {t : Touch}

/-- Every step pays a debt or passes it on. -/
theorem ctxStep_owes (inv : ContextInv ctx) (bound : ctx.enqueued.length < 2 ^ 63)
    (hstep : ctxStep c ctx surfaces a = some (ctx', t)) {p : Target} (h : Owes ctx p) :
    Owes ctx' p ∨ Paid surfaces t p := by
  cases a with
  | app a => exact (appStep_move hstep).owes inv.held h
  | worker a =>
    obtain ⟨move, calls⟩ := workerStep_move hstep
    cases h with
    | render render => exact .inl (.render (calls.render.trans render))
    | call mem owes =>
      rw [← calls.calls] at mem
      exact .inl (.call mem owes)
    | work work =>
      rcases move.owes inv.tokens bound work with work | paid
      · exact .inl (.work work)
      · exact .inr paid
    | stop mem =>
      rw [← calls.stop] at mem
      exact .inl (.stop mem)
  | stop a => exact (stopStep_move hstep).owes h
  | exportSurface surface =>
    obtain ⟨rfl, -⟩ := Prod.mk.inj (Option.some.inj hstep)
    exact .inl h

theorem ctxStep_enqueued (hstep : ctxStep c ctx surfaces a = some (ctx', t)) :
    ctx.enqueued.length ≤ ctx'.enqueued.length := by
  cases ctxStep_cases hstep with
  | same same => rw [same.enqueued]
  | enqueue action call result =>
    rw [result]
    exact (List.sublist_append_left _ _).length_le
  | worker action move calls => rw [calls.enqueued]
  | joined joined => rw [joined.enqueued]

/-- What `rk_BeginPicture` records of the surface it has begun. -/
structure Begun (ctx ctx' : Context) (s : SurfaceId) (surface : Surface) : Prop where
  render : ctx'.render = some (s, surface.fence)
  issued : ctx'.issued = (s, surface.begins, surface.fence) :: ctx.issued

theorem WorkerMove.noBegin {a : WorkerAction} {w : Work} (move : WorkerMove ctx surfaces a t w) :
    ∀ s d avc, t ≠ some (s, .begin d avc) := by
  cases move <;> exact nofun

/-- Only `rk_BeginPicture` issues a fence. -/
theorem ctxStep_issued (hstep : ctxStep c ctx surfaces a = some (ctx', t)) :
    (∃ s avc, t = some (s, .begin c avc) ∧
      Begun ctx ctx' s ((SurfaceOp.begin c avc).apply (surfaces s))) ∨
    ctx'.issued = ctx.issued ∧ ∀ s d avc, t ≠ some (s, .begin d avc) := by
  cases a with
  | app a =>
    cases appStep_move hstep with
    | begin call free => exact .inl ⟨_, _, rfl, rfl, rfl⟩
    | _ => exact .inr ⟨rfl, nofun⟩
  | worker a =>
    obtain ⟨move, calls⟩ := workerStep_move hstep
    exact .inr ⟨calls.issued, move.noBegin⟩
  | stop a =>
    cases stopStep_move hstep with
    | failRender stop =>
      refine .inr ⟨rfl, ?_⟩
      cases ctx.render <;> exact nofun
    | _ => exact .inr ⟨rfl, nofun⟩
  | exportSurface surface =>
    obtain ⟨rfl, rfl⟩ := Prod.mk.inj (Option.some.inj hstep)
    exact .inr ⟨rfl, nofun⟩

end

/-- A section other than `rk_BeginPicture` unsettles no surface. -/
theorem SurfaceOp.unsettled {op : SurfaceOp} (h : ∀ c avc, op ≠ .begin c avc) {s : Surface}
    (after : (op.apply s).settled = false) : s.settled = false := by
  have settles : ∀ {fence : Nat}, op.Settles fence → s.fence ≠ fence := by
    intro fence settles same
    rw [settles s same] at after
    cases after
  cases op with
  | begin c avc => exact absurd rfl (h c avc)
  | mark fence field =>
    simp only [SurfaceOp.apply] at after
    split at after <;> exact after
  | complete fence success =>
    simpa only [SurfaceOp.apply, if_neg (settles (settles_complete fence success))] using after
  | fail fence =>
    have other := settles (settles_fail fence)
    simpa only [SurfaceOp.apply, if_neg (fun both : s.fence = fence ∧ _ => other both.1)] using after
  | publish fence output =>
    simpa only [SurfaceOp.apply, if_neg (settles (settles_publish fence output))] using after
  | exportStable =>
    simp only [SurfaceOp.apply] at after
    split at after <;> exact after

/-! ## The invariant -/

/-- Every unsettled fence of context `c` has somebody who owes its signal, and the fences that `c`
was issued are those of its last pictures or have been advanced. -/
structure FenceInv (c : ContextId) (st : State) : Prop where
  context : ContextInv (st.contexts c)
  owed : (st.contexts c).enqueued.length < 2 ^ 63 → ∀ s, (st.surfaces s).ctxId = some c →
    (st.surfaces s).settled = false → Owes (st.contexts c) (s, (st.surfaces s).fence)
  issued : ∀ s begins fence, (s, begins, fence) ∈ (st.contexts c).issued →
    begins ≤ (st.surfaces s).begins ∧ (begins = (st.surfaces s).begins →
      (st.surfaces s).ctxId = some c ∧ (st.surfaces s).fence = fence)

section

variable {c : ContextId}

/-- A surface behind a section that `rk_BeginPicture` of another context did not run: it has the
fence and the context of before, and was unsettled if it still is. -/
theorem touched_kept (surfaces : Surfaces) {t : Touch} {s : SurfaceId}
    (noBegin : ∀ d avc, t ≠ some (s, .begin d avc)) :
    (touched surfaces t s).fence = (surfaces s).fence ∧
      (touched surfaces t s).ctxId = (surfaces s).ctxId ∧
      (touched surfaces t s).begins = (surfaces s).begins ∧
      ((touched surfaces t s).settled = false → (surfaces s).settled = false) := by
  rcases touched_cases surfaces t s with ⟨same, -⟩ | ⟨op, rfl, after⟩
  · rw [same]
    exact ⟨rfl, rfl, rfl, id⟩
  · have other : ∀ d avc, op ≠ .begin d avc := by
      rintro d avc rfl
      exact noBegin d avc rfl
    obtain ⟨fence, ctxId, begins⟩ := SurfaceOp.keeps other (surfaces s)
    rw [after]
    exact ⟨fence, ctxId, begins, SurfaceOp.unsettled other⟩

/-- A fence that is paid in a step is settled behind it, or was not current. -/
theorem Paid.settled {surfaces : Surfaces} {t : Touch} {s : SurfaceId}
    (paid : Paid surfaces t (s, (surfaces s).fence)) : (touched surfaces t s).settled = true := by
  rcases paid with ⟨op, rfl, settles⟩ | other
  · rw [touched_self]
    exact settles (surfaces s) rfl
  · exact absurd rfl other

/-- `rk_BeginPicture` advances the fence of a surface, or continues its picture. -/
theorem SurfaceOp.begin_cases (d : ContextId) (avc : Bool) (s : Surface) :
    ((SurfaceOp.begin d avc).apply s).ctxId = some d ∧
    (((SurfaceOp.begin d avc).apply s).begins = s.begins + 1 ∨
      s.ctxId = some d ∧ ((SurfaceOp.begin d avc).apply s).begins = s.begins ∧
        ((SurfaceOp.begin d avc).apply s).fence = s.fence) := by
  simp only [SurfaceOp.apply]
  split
  · rename_i continued
    simp only [Surface.continuation, Bool.and_eq_true, beq_iff_eq] at continued
    exact ⟨rfl, .inr ⟨continued.1.1.1.2, rfl, rfl⟩⟩
  · exact ⟨rfl, .inl rfl⟩

/-- A fence that was issued before stays the last one of its surface, or the surface moves on. -/
theorem issued_kept {surfaces : Surfaces} {t : Touch} {s : SurfaceId} {begins fence : Nat}
    (h : begins ≤ (surfaces s).begins ∧ (begins = (surfaces s).begins →
      (surfaces s).ctxId = some c ∧ (surfaces s).fence = fence)) :
    begins ≤ (touched surfaces t s).begins ∧ (begins = (touched surfaces t s).begins →
      (touched surfaces t s).ctxId = some c ∧ (touched surfaces t s).fence = fence) := by
  obtain ⟨le, last⟩ := h
  by_cases begun : ∃ d avc, t = some (s, .begin d avc)
  · obtain ⟨d, avc, rfl⟩ := begun
    rw [touched_self]
    obtain ⟨ctxId, advanced | ⟨same, begins', fence'⟩⟩ := SurfaceOp.begin_cases d avc (surfaces s)
    · rw [advanced]
      exact ⟨Nat.le_succ_of_le le, fun eq => by omega⟩
    · rw [begins', fence', ctxId, ← same]
      exact ⟨le, last⟩
  · have noBegin : ∀ d avc, t ≠ some (s, .begin d avc) := fun d avc same => begun ⟨d, avc, same⟩
    obtain ⟨fence', ctxId, begins', -⟩ := touched_kept surfaces noBegin
    rw [fence', ctxId, begins']
    exact ⟨le, last⟩

theorem fenceInv_step {st st' : State} {act : ContextId × Action} (h : FenceInv c st)
    (hstep : step st act = some st') : FenceInv c st' := by
  obtain ⟨d, a⟩ := act
  obtain ⟨ctx, t, hctx, self, others, surfaces⟩ := step_cases hstep
  by_cases own : d = c
  · subst own
    refine ⟨?_, ?_, ?_⟩
    · rw [self]
      exact contextInv_step h.context hctx
    · rw [self, surfaces]
      intro bound s ctxId unsettled
      have bound' := Nat.lt_of_le_of_lt (ctxStep_enqueued hctx) bound
      by_cases begun : ∃ avc, t = some (s, .begin d avc)
      · -- the picture just begun is being rendered
        rcases ctxStep_issued hctx with ⟨r, avc, rfl, begins⟩ | ⟨-, none_begun⟩
        · obtain ⟨avc', same⟩ := begun
          obtain ⟨rfl, -⟩ := Prod.mk.inj (Option.some.inj same)
          rw [touched_self]
          exact .render begins.render
        · obtain ⟨avc, same⟩ := begun
          exact absurd same (none_begun s d avc)
      · have noBegin : ∀ e avc, t ≠ some (s, .begin e avc) := by
          rintro e avc rfl
          rcases ctxStep_issued hctx with ⟨r, avc', same, -⟩ | ⟨-, none_begun⟩
          · obtain ⟨rfl, op⟩ := Prod.mk.inj (Option.some.inj same)
            obtain ⟨rfl, -⟩ := SurfaceOp.begin.inj op
            exact begun ⟨avc, rfl⟩
          · exact none_begun s e avc rfl
        obtain ⟨fence, ctxId', -, before⟩ := touched_kept st.surfaces noBegin
        have owes := h.owed bound' s (ctxId'.symm.trans ctxId) (before unsettled)
        rw [fence]
        rcases ctxStep_owes h.context bound' hctx owes with owes | paid
        · exact owes
        · rw [paid.settled] at unsettled
          cases unsettled
    · rw [self, surfaces]
      intro s begins fence mem
      rcases ctxStep_issued hctx with ⟨r, avc, rfl, begun⟩ | ⟨same, -⟩
      · rw [begun.issued] at mem
        rcases List.mem_cons.mp mem with same | mem
        · obtain ⟨rfl, rest⟩ := Prod.mk.inj same
          obtain ⟨rfl, rfl⟩ := Prod.mk.inj rest
          rw [touched_self]
          exact ⟨Nat.le_refl _, fun _ => ⟨(SurfaceOp.begin_cases d avc _).1, rfl⟩⟩
        · exact issued_kept (h.issued s begins fence mem)
      · rw [same] at mem
        exact issued_kept (h.issued s begins fence mem)
  · have kept := others c (Ne.symm own)
    refine ⟨?_, ?_, ?_⟩
    · rw [kept]
      exact h.context
    · rw [kept, surfaces]
      intro bound s ctxId unsettled
      have noBegin : ∀ e avc, t ≠ some (s, .begin e avc) := by
        rintro e avc rfl
        rcases ctxStep_issued hctx with ⟨r, avc', same, -⟩ | ⟨-, none_begun⟩
        · obtain ⟨rfl, op⟩ := Prod.mk.inj (Option.some.inj same)
          obtain ⟨rfl, -⟩ := SurfaceOp.begin.inj op
          rw [touched_self, (SurfaceOp.begin_cases _ avc _).1] at ctxId
          exact own (Option.some.inj ctxId)
        · exact none_begun s e avc rfl
      obtain ⟨fence, ctxId', -, before⟩ := touched_kept st.surfaces noBegin
      rw [fence]
      exact h.owed bound s (ctxId'.symm.trans ctxId) (before unsettled)
    · rw [kept, surfaces]
      intro s begins fence mem
      exact issued_kept (h.issued s begins fence mem)

end

/-! ## The end of `rk_mpp_dec_stop` -/

theorem contextInv_init (coding : Coding) (profileIdc : Nat) :
    ContextInv (Context.init coding profileIdc) where
  tokens := tokenInv_init coding profileIdc
  held job same := by cases same
  stopped := .of_notCalled rfl

theorem fenceInv_init (c : ContextId) (coding : ContextId → Coding) (profileIdc : ContextId → Nat) :
    FenceInv c (State.init coding profileIdc) := by
  refine ⟨contextInv_init (coding c) (profileIdc c), ?_, ?_⟩
  · intro _ s ctxId
    cases ctxId
  · intro s begins fence mem
    cases mem

theorem fenceInv_of_reachable {st : State} (reachable : Reachable st) (c : ContextId) :
    FenceInv c st := by
  obtain ⟨coding, profileIdc, acts, hrun⟩ := reachable
  exact run_invariant' (I := FenceInv c) (fun _ _ _ h hstep => fenceInv_step h hstep)
    (fenceInv_init c coding profileIdc) hrun

/-- When `rk_mpp_dec_stop` has returned, nobody owes a signal. -/
theorem Stopped.not_owes {ctx : Context} (h : Stopped ctx) (returned : ctx.stop = .returned)
    (p : Target) : ¬ Owes ctx p := by
  have idle := h.idle (by rw [returned]; exact nofun)
  obtain ⟨hand, jobs, tokens, generics⟩ := h.joined (.inr returned)
  intro owes
  cases owes with
  | render render =>
    rw [h.returned returned] at render
    cases render
  | call mem owes =>
    rw [idle.2.1] at mem
    cases mem
  | work work =>
    cases work with
    | job mem =>
      rw [show ctx.work.jobs = [] from jobs] at mem
      cases mem
    | h264Route mem =>
      rw [show ctx.work.h264Routes = [] from tokens] at mem
      cases mem
    | genericRoute mem =>
      rw [show ctx.work.genericRoutes = [] from generics] at mem
      cases mem
    | hand mem =>
      rw [hand] at mem
      cases mem
  | stop mem =>
    rw [returned] at mem
    cases mem

/-- Before the token counter wraps around: when `rk_mpp_dec_stop` has returned, every fence that the
context was issued has been advanced or is settled. -/
theorem teardown_signals {st : State} (reachable : Reachable st) {c : ContextId}
    (bound : (st.contexts c).enqueued.length < 2 ^ 63)
    (returned : (st.contexts c).stop = .returned) {s : SurfaceId} {begins fence : Nat}
    (mem : (s, begins, fence) ∈ (st.contexts c).issued) :
    begins < (st.surfaces s).begins ∨
      (st.surfaces s).fence = fence ∧ (st.surfaces s).settled = true := by
  obtain ⟨context, owed, issued⟩ := fenceInv_of_reachable reachable c
  obtain ⟨le, last⟩ := issued s begins fence mem
  rcases Nat.lt_or_eq_of_le le with advanced | current
  · exact .inl advanced
  · obtain ⟨ctxId, same⟩ := last current
    refine .inr ⟨same, ?_⟩
    by_contra unsettled
    exact context.stopped.not_owes returned _ (owed bound s ctxId (eq_false_of_ne_true unsettled))

/-- A picture is begun, and the context is destroyed. -/
theorem teardown_signals_begin : ∃ st : State, (st.contexts 0).stop = .returned ∧
    (0, 1, 1) ∈ (st.contexts 0).issued ∧ (st.surfaces 0).settled = true := by
  obtain ⟨st, hrun, returned, mem, begins, bound⟩ : ∃ st, run step
      (State.init (fun _ => .vp9) fun _ => 0)
      (runOf 0 [.app (.callBegin 0), .app (.begin 0), .app .destroy, .stop .drain,
        .worker (.next false), .stop .join, .stop .failRender]) = some st ∧
      (st.contexts 0).stop = .returned ∧ (0, 1, 1) ∈ (st.contexts 0).issued ∧
      (st.surfaces 0).begins = 1 ∧ (st.contexts 0).enqueued.length = 0 :=
    ⟨_, rfl, rfl, List.mem_cons_self, rfl, rfl⟩
  refine ⟨st, returned, mem, ?_⟩
  have settled := teardown_signals ⟨_, _, _, hrun⟩ (by omega) returned mem
  rcases settled with advanced | ⟨-, settled⟩
  · omega
  · exact settled

/-! ## A token that comes around -/

/-- A surface whose first picture was begun by context 0 and is unsettled. -/
def waitingSurface : Surface := { Surface.init with ctxId := some 0, fence := 1, begins := 1 }

/-- An H.264 context whose first picture has its route in the list, token counter at `n`. -/
def wrappingContext (n : Nat) (issued : List (SurfaceId × Nat × Nat)) (enqueued : List Job)
    (owed : List Nat) : Context :=
  { Context.init .avc 100 with
    nextToken := n, h264Routes := [⟨0, 1, 1, 0⟩], outstanding := 1, issued := issued
    enqueued := enqueued, owed := owed }

/-- The route of the first picture is still waiting for its frame, and the token counter has moved
on to `n`. -/
structure Wrapping (n : Nat) (st : State) : Prop where
  context : st.contexts 0 = wrappingContext n (st.contexts 0).issued (st.contexts 0).enqueued
    (st.contexts 0).owed
  issued : (0, 1, 1) ∈ (st.contexts 0).issued
  first : st.surfaces 0 = waitingSurface
  last : st.surfaces 2 = Surface.init

/-- A picture without slices on surface 1: its job is enqueued and completed at once. -/
def emptyPicture : List (ContextId × Action) :=
  runOf 0 (pictureCalls 1 (.avc true true false) ++
    [.worker (.next false), .worker (.submit false), .worker .complete])

theorem update_context {st : State} {ctx : Context} (h : st.contexts 0 = ctx) :
    st = { st with contexts := Function.update st.contexts 0 ctx } := by
  rw [← h, Function.update_eq_self]

/-- A step of context 0, with what it makes of the context. -/
theorem run_cons_zero {f : ContextId → Context} {surfaces : Surfaces} {ctx ctx' : Context}
    {a : Action} {t : Touch} {as : List Action} {P : State → Prop}
    (h : ctxStep 0 ctx surfaces a = some (ctx', t))
    (rest : ∃ st, run step ⟨Function.update f 0 ctx', touched surfaces t⟩ (runOf 0 as) = some st ∧
      P st) : ∃ st, run step ⟨Function.update f 0 ctx, surfaces⟩ (runOf 0 (a :: as)) = some st ∧
      P st := by
  have first : step ⟨Function.update f 0 ctx, surfaces⟩ (0, a) =
      some ⟨Function.update f 0 ctx', touched surfaces t⟩ := by
    simp only [step, Function.update_self, h, Option.map_some, Function.update_idem]
  rw [runOf, List.map_cons, run, first]
  exact rest

/-- An H.264 context without a call in progress. -/
def idleContext (ctx : Context) : Context :=
  { ctx with
    coding := .avc, destroyed := false, calls := [], endPicture := none, render := none
    workerStop := false }

theorem idleContext_wrappingContext (n : Nat) (issued : List (SurfaceId × Nat × Nat))
    (enqueued : List Job) (owed : List Nat) :
    idleContext (wrappingContext n issued enqueued owed) = wrappingContext n issued enqueued owed :=
  rfl

/-- The calls for one picture, made one after the other, enqueue its job. -/
theorem pictureCalls_run {ctx : Context} {surface : SurfaceId} {empty field : Bool}
    {f : ContextId → Context} {surfaces : Surfaces} {as : List Action} {P : State → Prop}
    {begun : Surface} (start : (SurfaceOp.begin 0 true).apply (surfaces surface) = begun)
    (rest : ∀ done : Surfaces, (∀ s, s ≠ surface → done s = surfaces s) →
      done surface = (SurfaceOp.mark begun.fence field).apply begun → ∃ st, run step
      ⟨Function.update f 0 (rkMppDecEnqueueJob
        (idleContext { ctx with issued := (surface, begun.begins, begun.fence) :: ctx.issued })
        { decodeJobCreate surface begun.fence empty with h264Field := field }), done⟩
      (runOf 0 as) = some st ∧ P st) :
    ∃ st, run step ⟨Function.update f 0 (idleContext ctx), surfaces⟩
      (runOf 0 (pictureCalls surface (.avc true empty field) ++ as)) = some st ∧ P st := by
  generalize drawing : idleContext
    { ctx with issued := (surface, begun.begins, begun.fence) :: ctx.issued } = ctx₁ at rest
  generalize built : ({ decodeJobCreate surface begun.fence empty with
    h264Field := field } : Job) = job at rest
  have call : ctxStep 0 (idleContext ctx) surfaces (.app (.callBegin surface)) =
      some ({ idleContext ctx with calls := [.begin surface] }, none) := rfl
  have begin : ctxStep 0 { idleContext ctx with calls := [.begin surface] } surfaces
      (.app (.begin 0)) =
      some ({ ctx₁ with render := some (surface, begun.fence) }, some (surface, .begin 0 true)) := by
    subst drawing start
    rfl
  have callEnd : ∀ later, ctxStep 0 { ctx₁ with render := some (surface, begun.fence) } later
      (.app .callEnd) =
      some ({ ctx₁ with render := some (surface, begun.fence), calls := [.build] }, none) := by
    intro later
    subst drawing
    rfl
  have build : ∀ later, ctxStep 0
      { ctx₁ with render := some (surface, begun.fence), calls := [.build] } later
      (.app (.build 0 (.avc true empty field))) =
      some ({ ctx₁ with
        render := some (surface, begun.fence), endPicture := some (some job) }, none) := by
    intro later
    subst drawing built
    rfl
  have release : ∀ later, ctxStep 0
      { ctx₁ with render := some (surface, begun.fence), endPicture := some (some job) }
      later (.app .release) =
      some ({ ctx₁ with calls := [.enqueue job] },
        some (surface, .mark begun.fence job.h264Field)) := by
    intro later
    subst drawing
    rfl
  have enqueue : ∀ later, ctxStep 0 { ctx₁ with calls := [.enqueue job] } later
      (.app (.enqueue 0)) = some (rkMppDecEnqueueJob ctx₁ job, none) := by
    intro later
    subst drawing
    rfl
  refine run_cons_zero call <| run_cons_zero begin <| run_cons_zero (callEnd _) <|
    run_cons_zero (build _) <| run_cons_zero (release _) <| run_cons_zero (enqueue _) <|
    rest _ ?_ ?_
  · intro s other
    simp only [touched, Function.update_of_ne other]
  · subst start built
    simp only [touched, Function.update_self]

theorem wrapping_emptyPicture {n : Nat} {st : State} (h : Wrapping n st) (small : n + 1 < 2 ^ 63) :
    ∃ st', run step st emptyPicture = some st' ∧ Wrapping (n + 1) st' := by
  obtain ⟨context, issued, first, last⟩ := h
  generalize (st.contexts 0).issued = before at context issued
  generalize (st.contexts 0).enqueued = enqueued at context
  generalize (st.contexts 0).owed = owed at context
  rw [update_context context, ← nextToken_of_lt small, ← idleContext_wrappingContext]
  refine pictureCalls_run rfl ?_
  intro done kept _
  generalize (SurfaceOp.begin 0 true).apply (st.surfaces 1) = begun
  generalize next : wrappingContext (nextToken n) ((1, begun.begins, begun.fence) :: before)
    (enqueued ++ [{ decodeJobCreate 1 begun.fence true with
      token := nextToken n, serial := enqueued.length }]) owed = ctx
  have fetch : ctxStep 0 (rkMppDecEnqueueJob (idleContext
      { wrappingContext n before enqueued owed with
        issued := (1, begun.begins, begun.fence) :: before })
      { decodeJobCreate 1 begun.fence true with h264Field := false }) done
      (.worker (.next false)) =
      some ({ ctx with worker := .submit { decodeJobCreate 1 begun.fence true with
        token := nextToken n, serial := enqueued.length } }, none) := by
    subst next
    rfl
  have finish : ctxStep 0 { ctx with worker := .submit { decodeJobCreate 1 begun.fence true with
      token := nextToken n, serial := enqueued.length } } done (.worker (.submit false)) =
      some ({ ctx with worker := .complete 1 begun.fence true none }, none) := by
    subst next
    rfl
  have complete : ctxStep 0 { ctx with worker := .complete 1 begun.fence true none } done
      (.worker .complete) = some (ctx, some (1, .complete begun.fence true)) := by
    subst next
    rfl
  refine run_cons_zero fetch <| run_cons_zero finish <| run_cons_zero complete ⟨_, rfl, ?_⟩
  subst next
  have kept' : ∀ s, s ≠ 1 → touched done (some (1, .complete begun.fence true)) s =
      st.surfaces s := by
    intro s other
    rw [← kept s other]
    exact Function.update_of_ne other _ _
  refine ⟨rfl, List.mem_cons_of_mem _ issued, ?_, ?_⟩
  · rw [← first]
    exact kept' 0 (by decide)
  · rw [← last]
    exact kept' 2 (by decide)

theorem wrapping_start : ∃ st, run step (State.init (fun _ => .avc) fun _ => 100)
    (runOf 0 (pictureCalls 0 (.avc true false false) ++ submitJob)) = some st ∧ Wrapping 1 st := by
  have start : State.init (fun _ => .avc) (fun _ => 100) =
      ⟨Function.update (fun _ => Context.init .avc 100) 0 (idleContext (Context.init .avc 100)),
        fun _ => Surface.init⟩ := by
    rw [show idleContext (Context.init .avc 100) = Context.init .avc 100 from rfl,
      Function.update_eq_self]
    rfl
  rw [start]
  refine pictureCalls_run rfl ?_
  intro done kept own
  refine run_cons_zero rfl <| run_cons_zero rfl <| run_cons_zero rfl ⟨_, rfl, ?_⟩
  exact ⟨rfl, List.mem_cons_self, own, kept 2 (by decide)⟩

/-- Up to the wrap-around every value of the token counter is reached. -/
theorem wrapping_reached {n : Nat} (positive : 0 < n) (small : n < 2 ^ 63) : ∃ acts st,
    run step (State.init (fun _ => .avc) fun _ => 100) acts = some st ∧ Wrapping n st := by
  induction n, positive using Nat.le_induction with
  | base =>
    obtain ⟨st, hrun, wrapping⟩ := wrapping_start
    exact ⟨_, st, hrun, wrapping⟩
  | succ n _ ih =>
    obtain ⟨acts, st, hrun, wrapping⟩ := ih (by omega)
    obtain ⟨st', cycle, wrapping'⟩ := wrapping_emptyPicture wrapping small
    refine ⟨acts ++ emptyPicture, st', ?_, wrapping'⟩
    rw [run_append, hrun, Option.bind_some, cycle]

/-- The picture with the second token 1: while its packet is submitted the frame of the first one
arrives and takes its route; then the context is destroyed, the packet is given up and takes the
route of the first picture. -/
def secondTokenOne : List (ContextId × Action) :=
  runOf 0 (pictureCalls 2 (.avc true false false) ++
    ([.worker (.next false), .worker (.submit true), .worker (.put .busy)] ++
      receiveFrame ⟨1, 0, false, false, false⟩ ++
      [.worker .publish, .app .destroy, .stop .drain, .worker (.put .stopping), .worker .complete,
        .worker (.next false), .stop .join, .stop .failRender]))

/-- Behind a wrap-around the picture with the second token 1 takes the route of the first one with
it: `rk_mpp_dec_stop` returns and leaves the first picture unsignalled. -/
theorem secondTokenOne_run {n : Nat} {st : State} (h : Wrapping n st) (wraps : nextToken n = 1) :
    ∃ st', run step st secondTokenOne = some st' ∧ (st'.contexts 0).stop = .returned ∧
      (0, 1, 1) ∈ (st'.contexts 0).issued ∧ (st'.surfaces 0).begins = 1 ∧
      (st'.surfaces 0).fence = 1 ∧ (st'.surfaces 0).settled = false := by
  obtain ⟨context, issued, first, last⟩ := h
  generalize (st.contexts 0).issued = before at context issued
  generalize (st.contexts 0).enqueued = enqueued at context
  generalize (st.contexts 0).owed = owed at context
  rw [update_context context, ← idleContext_wrappingContext]
  have start : (SurfaceOp.begin 0 true).apply (st.surfaces 2) =
      ⟨⟨none, none, none⟩, false, false, false, false, some 0, 1, 1⟩ := by
    rw [last]
    rfl
  unfold secondTokenOne
  refine pictureCalls_run start ?_
  intro done kept own
  have surfaces : done = fun s => if s = 0 then waitingSurface else if s = 2 then
      ⟨⟨none, none, none⟩, false, false, false, false, some 0, 1, 1⟩ else done s := by
    funext s
    split
    · rename_i same
      rw [same, kept 0 (by decide), first]
    · split
      · rename_i same
        rw [same, own]
        rfl
      · rfl
  generalize queue : ({ decodeJobCreate 2 1 false with
    token := 1, serial := enqueued.length } : Job) = queued
  have next : rkMppDecEnqueueJob (idleContext { wrappingContext n before enqueued owed with
      issued := (2, 1, 1) :: (wrappingContext n before enqueued owed).issued })
      { decodeJobCreate 2 1 false with h264Field := false } =
    { wrappingContext 1 ((2, 1, 1) :: before) (enqueued ++ [queued]) owed with
      jobs := [queued] } := by
    unfold rkMppDecEnqueueJob
    rw [show (idleContext { wrappingContext n before enqueued owed with
      issued := (2, 1, 1) :: (wrappingContext n before enqueued owed).issued }).nextToken = n
      from rfl, wraps, ← queue]
    rfl
  rw [surfaces, next]
  subst queue
  exact ⟨_, rfl, rfl, List.mem_cons_of_mem _ issued, rfl, rfl, rfl⟩

/-- After a wrap-around, `rk_mpp_dec_stop` returns and leaves the first picture unsignalled. -/
theorem wrappedToken_loses_fence : ∃ st, Reachable st ∧ (st.contexts 0).stop = .returned ∧
    (0, 1, 1) ∈ (st.contexts 0).issued ∧ ¬ (1 < (st.surfaces 0).begins ∨
      (st.surfaces 0).fence = 1 ∧ (st.surfaces 0).settled = true) := by
  obtain ⟨n, wraps, positive, small⟩ : ∃ n, nextToken n = 1 ∧ 0 < n ∧ n < 2 ^ 63 :=
    ⟨9223372036854775807, by norm_num [nextToken], by norm_num, by norm_num⟩
  obtain ⟨acts, st, hrun, wrapping⟩ := wrapping_reached positive small
  obtain ⟨st', ending, returned, mem, begins, -, settled⟩ := secondTokenOne_run wrapping wraps
  have reached : Reachable st' := by
    refine ⟨fun _ => .avc, fun _ => 100, acts ++ secondTokenOne, ?_⟩
    rw [run_append, hrun, Option.bind_some, ending]
  refine ⟨st', reached, returned, mem, ?_⟩
  rw [begins, settled]
  rintro (advanced | ⟨-, done⟩)
  · exact Nat.lt_irrefl 1 advanced
  · cases done

end RockchipVaapi.Decode
