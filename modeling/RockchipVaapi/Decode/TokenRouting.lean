import RockchipVaapi.Decode.WorkerMove

/-!
# Token routing

Jobs get distinct tokens, and every route anywhere in the worker carries the surface and the fence
of a job with its token. So a frame of an H.264 or HEVC context reaches the surface that its token
was issued for, and the fence checked in the last section of `assign_mpp_frame` is that of the job.
-/

namespace RockchipVaapi.Decode
open Transition

/-! ## Routes and the jobs they were made for -/

/-- The job was enqueued, at its place in the order of enqueueing. -/
def Listed (enqueued : List Job) (job : Job) : Prop := enqueued[job.serial]? = some job

/-- An enqueued job with this token, surface and fence. -/
def Issued (enqueued : List Job) (token : Nat) (surface : SurfaceId) (fence : Nat) : Prop :=
  ∃ job ∈ enqueued, job.token = token ∧ job.surface = surface ∧ job.fence = fence

/-- The token and the serial number of a route belong to jobs for its surface and fence. -/
structure Known (enqueued : List Job) (route : Route) : Prop where
  token : Issued enqueued route.token route.surface route.fence
  serial : ∃ job, enqueued[route.serial]? = some job ∧ job.surface = route.surface ∧
    job.fence = route.fence

/-- The packet under submission is that of a job, and a field shares the token of a job for the
same surface and fence. -/
def PacketKnown (enqueued : List Job) : Option (Job × Kind) → Prop
  | none => True
  | some (job, kind) => Listed enqueued job ∧
      ∀ token, kind = .paired token → Issued enqueued token job.surface job.fence

def HandKnown (coding : Coding) (enqueued : List Job) : Hand → Prop
  | .waiting packet => PacketKnown enqueued packet
  | .submitting job => Listed enqueued job
  | .assigning route frame packet => Known enqueued route ∧
      (coding.usesTokenRoutes = true → frame.pts = route.token) ∧ PacketKnown enqueued packet
  | .completing surface fence packet =>
      (∃ job ∈ enqueued, job.surface = surface ∧ job.fence = fence) ∧ PacketKnown enqueued packet
  | .failing routes => ∀ route ∈ routes, Known enqueued route
  | .exited => True

/-- Everything the worker has comes from an enqueued job. -/
structure Routed (coding : Coding) (enqueued : List Job) (w : Work) : Prop where
  jobs : ∀ job ∈ w.jobs, Listed enqueued job
  h264Routes : ∀ route ∈ w.h264Routes, Known enqueued route
  genericRoutes : ∀ route ∈ w.genericRoutes, Known enqueued route
  hand : HandKnown coding enqueued w.hand

theorem Listed.mem {enqueued : List Job} {job : Job} (h : Listed enqueued job) : job ∈ enqueued :=
  List.mem_of_getElem? h

theorem Listed.known {enqueued : List Job} {job : Job} (h : Listed enqueued job) :
    Known enqueued (frameRouteCreate job) :=
  ⟨⟨job, h.mem, rfl, rfl, rfl⟩, job, h, rfl, rfl⟩

theorem Known.target {enqueued : List Job} {route : Route} (h : Known enqueued route) :
    ∃ job ∈ enqueued, job.surface = route.surface ∧ job.fence = route.fence := by
  obtain ⟨job, mem, -, surface, fence⟩ := h.token
  exact ⟨job, mem, surface, fence⟩

section

variable {enqueued : List Job} (more : List Job)

theorem getElem?_append_some {i : Nat} {job : Job} (h : enqueued[i]? = some job) :
    (enqueued ++ more)[i]? = some job := by
  have bound : i < enqueued.length := (List.getElem?_eq_some_iff.mp h).1
  rw [List.getElem?_append_left bound, h]

theorem Issued.append {token : Nat} {surface : SurfaceId} {fence : Nat}
    (h : Issued enqueued token surface fence) : Issued (enqueued ++ more) token surface fence := by
  obtain ⟨job, mem, same⟩ := h
  exact ⟨job, List.mem_append_left more mem, same⟩

theorem Known.append {route : Route} (h : Known enqueued route) : Known (enqueued ++ more) route := by
  obtain ⟨token, job, at_serial, same⟩ := h
  exact ⟨token.append more, job, getElem?_append_some more at_serial, same⟩

theorem PacketKnown.append {packet : Option (Job × Kind)} (h : PacketKnown enqueued packet) :
    PacketKnown (enqueued ++ more) packet := by
  cases packet with
  | none => trivial
  | some packet =>
    obtain ⟨listed, paired⟩ := h
    exact ⟨getElem?_append_some more listed, fun token same => (paired token same).append more⟩

theorem HandKnown.append {coding : Coding} {hand : Hand} (h : HandKnown coding enqueued hand) :
    HandKnown coding (enqueued ++ more) hand := by
  cases hand with
  | waiting packet => exact PacketKnown.append more h
  | submitting job => exact getElem?_append_some more h
  | assigning route frame packet =>
    obtain ⟨known, pts, packet⟩ := h
    exact ⟨known.append more, pts, packet.append more⟩
  | completing surface fence packet =>
    obtain ⟨⟨job, mem, same⟩, packet⟩ := h
    exact ⟨⟨job, List.mem_append_left more mem, same⟩, packet.append more⟩
  | failing routes => exact fun route mem => (h route mem).append more
  | exited => trivial

theorem Routed.append {coding : Coding} {w : Work} (h : Routed coding enqueued w) :
    Routed coding (enqueued ++ more) w where
  jobs job mem := getElem?_append_some more (h.jobs job mem)
  h264Routes route mem := (h.h264Routes route mem).append more
  genericRoutes route mem := (h.genericRoutes route mem).append more
  hand := h.hand.append more

end

/-! ## Taking a route -/

theorem h264RouteTake_some {token : Nat} {routes : List Route} {route : Route}
    (h : (h264RouteTake token routes).1 = some route) : route ∈ routes ∧ route.token = token := by
  induction routes with
  | nil => cases h
  | cons first routes ih =>
    unfold h264RouteTake at h
    split at h
    · rename_i same
      obtain rfl := Option.some.inj h
      exact ⟨List.mem_cons_self, same⟩
    · obtain ⟨mem, same⟩ := ih h
      exact ⟨List.mem_cons_of_mem first mem, same⟩

theorem h264RouteTake_subset (token : Nat) (routes : List Route) :
    (h264RouteTake token routes).2 ⊆ routes := by
  induction routes with
  | nil => exact List.Subset.refl []
  | cons first routes ih =>
    unfold h264RouteTake
    split
    · exact List.subset_cons_self first routes
    · exact List.cons_subset_cons first ih

theorem h264RouteFindSurface_some {routes : List Route} {surface : SurfaceId} {fence : Nat}
    {route : Route} (h : h264RouteFindSurface routes surface fence = some route) :
    route ∈ routes ∧ route.surface = surface ∧ route.fence = fence := by
  have same := List.find?_some h
  simp only [Bool.and_eq_true, beq_iff_eq] at same
  exact ⟨List.mem_of_find?_eq_some h, same⟩

/-! ## Every step keeps the routes known -/

section

variable {ctx : Context} {surfaces : Surfaces} {a : WorkerAction}

/-- The route that a frame takes, and the routes that stay. -/
theorem takeRoute_known {frame : MppFrame} {route : Route}
    (h : Routed ctx.coding ctx.enqueued ctx.work) (taken : (takeRoute ctx frame).1 = some route) :
    Known ctx.enqueued route ∧ (ctx.coding.usesTokenRoutes = true → frame.pts = route.token) ∧
      (takeRoute ctx frame).2.h264Routes ⊆ ctx.h264Routes ∧
      (takeRoute ctx frame).2.genericRoutes ⊆ ctx.genericRoutes := by
  rcases takeRoute_cases taken with ⟨-, taken, same⟩ | ⟨coding, routes, queue, same⟩
  · obtain ⟨mem, token⟩ := h264RouteTake_some taken
    rw [same]
    exact ⟨h.h264Routes route mem, fun _ => token.symm, h264RouteTake_subset _ _,
      List.Subset.refl _⟩
  · have mem : route ∈ ctx.genericRoutes := queue ▸ List.mem_cons_self
    rw [same]
    refine ⟨h.genericRoutes route mem, fun token => ?_, List.Subset.refl _,
      queue ▸ List.subset_cons_self _ _⟩
    rw [coding] at token
    cases token

theorem genericRouteRemove_subset (routes : List Route) (serial : Nat) :
    genericRouteRemove routes serial ⊆ routes := List.eraseP_subset

/-- A refused packet takes at most its route. -/
theorem refused_subset (w : Work) (job : Job) (kind : Kind) :
    (w.refused job kind).h264Routes ⊆ w.h264Routes ∧
      (w.refused job kind).genericRoutes ⊆ w.genericRoutes := by
  cases kind with
  | fresh => exact ⟨h264RouteTake_subset _ _, List.Subset.refl _⟩
  | paired token => exact ⟨h264RouteTake_subset _ _, List.Subset.refl _⟩
  | hidden => exact ⟨List.Subset.refl _, List.Subset.refl _⟩
  | repeated => exact ⟨List.Subset.refl _, genericRouteRemove_subset _ _⟩
  | shown => exact ⟨List.Subset.refl _, genericRouteRemove_subset _ _⟩

theorem WorkerMove.routed {t : Touch} {w : Work} (h : Routed ctx.coding ctx.enqueued ctx.work)
    (move : WorkerMove ctx surfaces a t w) : Routed ctx.coding ctx.enqueued w := by
  have known := h.hand
  rcases h with ⟨jobs, tokens, generics, -⟩
  cases move with
  | quiet => exact ⟨jobs, tokens, generics, known⟩
  | exit hand => exact ⟨jobs, tokens, generics, trivial⟩
  | fetch hand queue =>
    rename_i job rest
    have mem : ∀ j ∈ job :: rest, Listed ctx.enqueued j := by
      intro j mem
      apply jobs j
      rw [← queue] at mem
      exact mem
    exact ⟨fun j h => mem j (List.mem_cons_of_mem job h), tokens, generics,
      mem job List.mem_cons_self⟩
  | finish hand why =>
    rename_i job
    rw [hand] at known
    exact ⟨jobs, tokens, generics, ⟨job, known.mem, rfl, rfl⟩, trivial⟩
  | pair hand coding found =>
    rename_i job route
    rw [hand] at known
    obtain ⟨mem, surface, fence⟩ := h264RouteFindSurface_some found
    refine ⟨jobs, tokens, generics, known, ?_⟩
    intro token same
    obtain rfl := Kind.paired.inj same
    rw [← surface, ← fence]
    exact (tokens route mem).token
  | route hand coding =>
    rw [hand] at known
    refine ⟨jobs, ?_, generics, known, fun token same => by cases same⟩
    intro r mem
    rcases List.mem_cons.mp mem with rfl | mem
    · exact known.known
    · exact tokens r mem
  | hide hand coding =>
    rw [hand] at known
    exact ⟨jobs, tokens, generics, known, fun token same => by cases same⟩
  | queue hand coding queues =>
    rw [hand] at known
    refine ⟨jobs, tokens, ?_, known, fun token same => by cases same⟩
    intro r mem
    rcases List.mem_append.mp mem with mem | mem
    · exact generics r mem
    · obtain rfl := List.mem_singleton.mp mem
      exact known.known
  | refuse hand refused =>
    rename_i job kind
    rw [hand] at known
    obtain ⟨tokens', generics'⟩ := refused_subset ctx.work job kind
    exact ⟨jobs, fun r mem => tokens r (tokens' mem), fun r mem => generics r (generics' mem),
      ⟨job, known.1.mem, rfl, rfl⟩, trivial⟩
  | accept hand kinds => exact ⟨jobs, tokens, generics, trivial⟩
  | replace hand =>
    rename_i job token
    rw [hand] at known
    refine ⟨jobs, ?_, generics, trivial⟩
    intro r mem
    rcases List.mem_cons.mp mem with rfl | mem
    · exact ⟨known.2 token rfl, job, known.1, rfl, rfl⟩
    · exact tokens r mem
  | lose hand kinds =>
    rename_i job kind
    rw [hand] at known
    exact ⟨jobs, tokens, generics, ⟨job, known.1.mem, rfl, rfl⟩, trivial⟩
  | repeatHidden hand queues =>
    rw [hand] at known
    refine ⟨jobs, tokens, ?_, known.1, fun token same => by cases same⟩
    intro r mem
    rcases List.mem_append.mp mem with mem | mem
    · exact generics r mem
    · obtain rfl := List.mem_singleton.mp mem
      exact known.1.known
  | drop action shown hand none_left => exact ⟨jobs, tokens, generics, known⟩
  | arrive action shown hand taken =>
    rw [hand] at known
    obtain ⟨route_known, pts, tokens', generics'⟩ :=
      takeRoute_known ⟨jobs, tokens, generics, hand ▸ known⟩ taken
    refine ⟨?_, fun r mem => tokens r (tokens' mem), fun r mem => generics r (generics' mem),
      route_known, pts, known⟩
    intro job mem
    apply jobs job
    rw [show ctx.work.jobs = ctx.jobs from rfl, ← takeRoute_jobs]
    exact mem
  | stale hand fence =>
    rw [hand] at known
    exact ⟨jobs, tokens, generics, known.2.2⟩
  | failAssign hand =>
    rw [hand] at known
    exact ⟨jobs, tokens, generics, known.1.target, known.2.2⟩
  | publish worker =>
    rename_i route frame output k
    have hand : ctx.work.hand = .assigning route frame k.packet := congrArg Worker.hand worker
    rw [hand] at known
    exact ⟨jobs, tokens, generics, known.2.2⟩
  | complete hand =>
    rw [hand] at known
    exact ⟨jobs, tokens, generics, known.2⟩
  | stall hand =>
    refine ⟨jobs, fun r mem => absurd mem List.not_mem_nil,
      fun r mem => absurd mem List.not_mem_nil, ?_⟩
    intro r mem
    rcases List.mem_append.mp mem with mem | mem
    · exact tokens r mem
    · exact generics r mem
  | failRoute hand =>
    rename_i route routes
    rw [hand] at known
    exact ⟨jobs, tokens, generics, fun r mem => known r (List.mem_cons_of_mem route mem)⟩
  | recover hand => exact ⟨jobs, tokens, generics, trivial⟩

end

/-! ## Tokens -/

theorem nextToken_of_lt {token : Nat} (h : token + 1 < 2 ^ 63) : nextToken token = token + 1 := by
  have small : (token + 1) % 2 ^ 64 = token + 1 := Nat.mod_eq_of_lt (by omega)
  unfold nextToken
  simp only [small]
  rw [if_neg (by omega)]

/-- Until the counter wraps around, the tokens number the jobs. -/
def Numbered (ctx : Context) : Prop :=
  ctx.enqueued.length < 2 ^ 63 → ctx.nextToken = ctx.enqueued.length ∧
    ∀ i job, ctx.enqueued[i]? = some job → job.token = i + 1

structure TokenInv (ctx : Context) : Prop where
  numbered : Numbered ctx
  routed : Routed ctx.coding ctx.enqueued ctx.work

theorem Numbered.of_eq {ctx ctx' : Context} (h : Numbered ctx)
    (next : ctx'.nextToken = ctx.nextToken) (enqueued : ctx'.enqueued = ctx.enqueued) :
    Numbered ctx' := by
  unfold Numbered
  rw [next, enqueued]
  exact h

theorem Numbered.enqueue {ctx : Context} (h : Numbered ctx) (job : Job) :
    Numbered (rkMppDecEnqueueJob ctx job) := by
  intro bound
  have length : (rkMppDecEnqueueJob ctx job).enqueued.length = ctx.enqueued.length + 1 :=
    List.length_append
  rw [length] at bound
  obtain ⟨next, tokens⟩ := h (by omega)
  have issued : nextToken ctx.nextToken = ctx.enqueued.length + 1 := by
    rw [next]
    exact nextToken_of_lt bound
  refine ⟨issued.trans length.symm, ?_⟩
  intro i queued at_i
  by_cases old : i < ctx.enqueued.length
  · rw [show (rkMppDecEnqueueJob ctx job).enqueued[i]? = ctx.enqueued[i]? from
      List.getElem?_append_left old] at at_i
    exact tokens i queued at_i
  · obtain ⟨inside, -⟩ := List.getElem?_eq_some_iff.mp at_i
    obtain rfl : i = ctx.enqueued.length := by omega
    rw [show (rkMppDecEnqueueJob ctx job).enqueued = ctx.enqueued ++ [_] from rfl,
      List.getElem?_concat_length] at at_i
    obtain rfl := Option.some.inj at_i
    exact issued

theorem Routed.enqueue {ctx : Context} (h : Routed ctx.coding ctx.enqueued ctx.work) (job : Job) :
    Routed (rkMppDecEnqueueJob ctx job).coding (rkMppDecEnqueueJob ctx job).enqueued
      (rkMppDecEnqueueJob ctx job).work := by
  obtain ⟨jobs, tokens, generics, hand⟩ := h.append
    [{ job with token := nextToken ctx.nextToken, serial := ctx.enqueued.length }]
  refine ⟨?_, tokens, generics, hand⟩
  intro queued mem
  rcases List.mem_append.mp mem with mem | mem
  · exact jobs queued mem
  · obtain rfl := List.mem_singleton.mp mem
    exact List.getElem?_concat_length

theorem Routed.joined {ctx ctx' : Context} (h : Routed ctx.coding ctx.enqueued ctx.work)
    (joined : Joined ctx ctx') : Routed ctx'.coding ctx'.enqueued ctx'.work := by
  rw [joined.coding, joined.enqueued, joined.work]
  exact ⟨fun j mem => absurd mem List.not_mem_nil, fun r mem => absurd mem List.not_mem_nil,
    fun r mem => absurd mem List.not_mem_nil, h.hand⟩

theorem tokenInv_step {c : ContextId} {ctx ctx' : Context} {surfaces : Surfaces} {a : Action}
    {t : Touch} (h : TokenInv ctx) (hstep : ctxStep c ctx surfaces a = some (ctx', t)) :
    TokenInv ctx' := by
  rcases h with ⟨numbered, routed⟩
  cases ctxStep_cases hstep with
  | same same =>
    refine ⟨numbered.of_eq same.nextToken same.enqueued, ?_⟩
    rw [same.coding, same.enqueued, same.work]
    exact routed
  | enqueue action call result =>
    subst result
    exact ⟨Numbered.enqueue numbered _, Routed.enqueue routed _⟩
  | worker action move calls =>
    refine ⟨numbered.of_eq calls.nextToken calls.enqueued, ?_⟩
    rw [calls.coding, calls.enqueued]
    exact move.routed routed
  | joined joined =>
    exact ⟨numbered.of_eq joined.nextToken joined.enqueued, routed.joined joined⟩

theorem tokenInv_init (coding : Coding) (profileIdc : Nat) :
    TokenInv (Context.init coding profileIdc) := by
  refine ⟨fun _ => ⟨rfl, ?_⟩, ?_⟩
  · intro i job at_i
    cases at_i
  · exact ⟨fun j mem => absurd mem List.not_mem_nil, fun r mem => absurd mem List.not_mem_nil,
      fun r mem => absurd mem List.not_mem_nil, trivial⟩

theorem tokenInv_of_reachable {st : State} (reachable : Reachable st) (c : ContextId) :
    TokenInv (st.contexts c) :=
  context_invariant (J := TokenInv) (c := c) tokenInv_init
    (fun _ _ _ _ _ h hstep => tokenInv_step h hstep) reachable

/-- Two jobs with one token are one job. -/
theorem Numbered.eq_of_token {ctx : Context} (h : Numbered ctx) (bound : ctx.enqueued.length < 2 ^ 63)
    {job job' : Job} (mem : job ∈ ctx.enqueued) (mem' : job' ∈ ctx.enqueued)
    (same : job.token = job'.token) : job = job' := by
  obtain ⟨-, tokens⟩ := h bound
  obtain ⟨i, at_i⟩ := List.mem_iff_getElem?.mp mem
  obtain ⟨j, at_j⟩ := List.mem_iff_getElem?.mp mem'
  have ti := tokens i job at_i
  have tj := tokens j job' at_j
  obtain rfl : i = j := by omega
  exact Option.some.inj (at_i.symm.trans at_j)

theorem Numbered.eq_of_issued {ctx : Context} (h : Numbered ctx)
    (bound : ctx.enqueued.length < 2 ^ 63) {token fence fence' : Nat} {surface surface' : SurfaceId}
    (first : Issued ctx.enqueued token surface fence)
    (second : Issued ctx.enqueued token surface' fence') : surface = surface' ∧ fence = fence' := by
  obtain ⟨job, mem, same, rfl, rfl⟩ := first
  obtain ⟨job', mem', same', rfl, rfl⟩ := second
  obtain rfl := h.eq_of_token bound mem mem' (same.trans same'.symm)
  exact ⟨rfl, rfl⟩

/-! ## What the worker does to surfaces -/

/-- The surface and the fence that a section of the worker on a surface is for. -/
def Worker.target : Worker → Option (SurfaceId × Nat)
  | .publish route _ _ _ => some (route.surface, route.fence)
  | .complete surface fence _ _ => some (surface, fence)
  | .failing (route :: _) => some (route.surface, route.fence)
  | _ => none

/-- The next step of the worker binds a frame to a surface: it is the last section of
`assign_mpp_frame`, and the fence of the route is that of the surface. -/
def Publishes (st : State) (c : ContextId) (s : SurfaceId) (frame : MppFrame) : Prop :=
  ∃ route output k, (st.contexts c).worker = .publish route frame output k ∧
    route.surface = s ∧ route.fence = (st.surfaces s).fence

theorem Worker.complete_of_hand {w : Worker} {surface : SurfaceId} {fence : Nat}
    {packet : Option (Job × Kind)} (h : w.hand = .completing surface fence packet) :
    ∃ success k, w = .complete surface fence success k := by
  cases w with
  | complete s f success k =>
    obtain ⟨rfl, rfl, -⟩ := Hand.completing.inj h
    exact ⟨success, k, rfl⟩
  | _ => cases h

theorem Worker.failing_of_hand {w : Worker} {routes : List Route} (h : w.hand = .failing routes) :
    w = .failing routes := by
  cases w with
  | failing rs => rw [Hand.failing.inj h]
  | _ => cases h

/-- A section that leaves alone every surface with another fence. -/
def SurfaceOp.Fenced (fence : Nat) (op : SurfaceOp) : Prop :=
  ∀ s : Surface, s.fence ≠ fence → op.apply s = s

theorem SurfaceOp.fenced_publish (fence : Nat) (output : Output) :
    (SurfaceOp.publish fence output).Fenced fence := by
  intro s other
  simp only [SurfaceOp.apply, if_neg other]

theorem SurfaceOp.fenced_complete (fence : Nat) (success : Bool) :
    (SurfaceOp.complete fence success).Fenced fence := by
  intro s other
  simp only [SurfaceOp.apply, if_neg other]

theorem SurfaceOp.fenced_fail (fence : Nat) : (SurfaceOp.fail fence).Fenced fence := by
  intro s other
  simp only [SurfaceOp.apply]
  rw [if_neg]
  exact fun h => other h.1

/-- What a fenced section changes is its surface, under the present fence. -/
theorem touched_changed {surfaces : Surfaces} {r s : SurfaceId} {op : SurfaceOp} {fence : Nat}
    (fenced : op.Fenced fence) (changed : touched surfaces (some (r, op)) s ≠ surfaces s) :
    r = s ∧ (surfaces s).fence = fence := by
  by_cases same : r = s
  · subst same
    refine ⟨rfl, ?_⟩
    by_contra other
    rw [touched_self] at changed
    exact changed (fenced _ other)
  · refine absurd (touched_of_ne ?_) changed
    intro o h
    exact same (Prod.mk.inj (Option.some.inj h)).1

/-- A move of the worker touches no surface, or the surface of its target under the fence of the
target; it binds an output only in the last section of `assign_mpp_frame`. -/
theorem WorkerMove.touch {ctx : Context} {surfaces : Surfaces} {a : WorkerAction} {t : Touch}
    {w : Work} (move : WorkerMove ctx surfaces a t w) :
    t = none ∨ ∃ s fence op, t = some (s, op) ∧ ctx.worker.target = some (s, fence) ∧
      op.Fenced fence ∧ ((∀ x : Surface, (op.apply x).output = x.output) ∨
        ∃ route frame output k, ctx.worker = .publish route frame output k ∧
          route.surface = s ∧ route.fence = fence) := by
  cases move with
  | publish worker =>
    rename_i route frame output k
    refine .inr ⟨route.surface, route.fence, _, rfl, ?_, SurfaceOp.fenced_publish _ _, .inr ?_⟩
    · rw [worker]
      rfl
    · exact ⟨route, frame, output, k, worker, rfl, rfl⟩
  | complete hand =>
    rename_i surface fence success packet
    obtain ⟨success, k, worker⟩ := Worker.complete_of_hand hand
    refine .inr ⟨surface, fence, _, rfl, ?_, SurfaceOp.fenced_complete _ _, .inl ?_⟩
    · rw [worker]
      rfl
    · intro x
      simp only [SurfaceOp.apply]
      split <;> rfl
  | failRoute hand =>
    rename_i route routes
    have worker := Worker.failing_of_hand hand
    refine .inr ⟨route.surface, route.fence, _, rfl, ?_, SurfaceOp.fenced_fail _, .inl ?_⟩
    · rw [worker]
      rfl
    · intro x
      simp only [SurfaceOp.apply]
      split <;> rfl
  | _ => exact .inl rfl

/-- The target of the worker is that of a job. -/
theorem Routed.target {ctx : Context} (h : Routed ctx.coding ctx.enqueued ctx.work) {s : SurfaceId}
    {fence : Nat} (target : ctx.worker.target = some (s, fence)) :
    ∃ job ∈ ctx.enqueued, job.surface = s ∧ job.fence = fence := by
  have known : HandKnown ctx.coding ctx.enqueued ctx.worker.hand := h.hand
  cases worker : ctx.worker with
  | publish route frame output k =>
    rw [worker] at target known
    obtain ⟨rfl, rfl⟩ := Prod.mk.inj (Option.some.inj target)
    exact known.1.target
  | complete surface fence success k =>
    rw [worker] at target known
    obtain ⟨rfl, rfl⟩ := Prod.mk.inj (Option.some.inj target)
    exact known.1
  | failing routes =>
    rw [worker] at target known
    cases routes with
    | nil => cases target
    | cons route routes =>
      obtain ⟨rfl, rfl⟩ := Prod.mk.inj (Option.some.inj target)
      exact (known route List.mem_cons_self).target
  | _ =>
    rw [worker] at target
    cases target

/-- Before the token counter wraps around: a frame that `assign_mpp_frame` binds to a surface
carries the token of a job for this surface and for its present fence; nothing else binds an
output; and a step of the worker changes a surface only on behalf of a job for this surface whose
fence is still that of the surface. -/
theorem tokenRouting_safe {st st' : State} {c : ContextId} {a : WorkerAction}
    (reachable : Reachable st) (coding : (st.contexts c).coding.usesTokenRoutes = true)
    (bound : (st.contexts c).enqueued.length < 2 ^ 63 - 1)
    (hstep : step st (c, .worker a) = some st') :
    (∀ s frame, Publishes st c s frame →
      (∃ job ∈ (st.contexts c).enqueued, job.token = frame.pts ∧ job.surface = s) ∧
      ∀ job ∈ (st.contexts c).enqueued, job.token = frame.pts →
        job.surface = s ∧ job.fence = (st.surfaces s).fence) ∧
    (∀ s, (st'.surfaces s).output ≠ (st.surfaces s).output → ∃ frame, Publishes st c s frame) ∧
    ∀ s, st'.surfaces s ≠ st.surfaces s → ∃ job ∈ (st.contexts c).enqueued,
      (st.contexts c).worker.target = some (s, job.fence) ∧ job.surface = s ∧
        job.fence = (st.surfaces s).fence := by
  obtain ⟨numbered, routed⟩ := tokenInv_of_reachable reachable c
  have bound' : (st.contexts c).enqueued.length < 2 ^ 63 := by omega
  obtain ⟨ctx, t, hctx, -, -, surfaces⟩ := step_cases hstep
  have touch := (workerStep_move hctx).1.touch
  refine ⟨?_, ?_, ?_⟩
  · rintro s frame ⟨route, output, k, worker, rfl, fence⟩
    have known : HandKnown (st.contexts c).coding (st.contexts c).enqueued
      (st.contexts c).worker.hand := routed.hand
    rw [worker] at known
    obtain ⟨⟨issued, -⟩, pts, -⟩ := known
    rw [← pts coding, fence] at issued
    refine ⟨?_, ?_⟩
    · obtain ⟨job, mem, token, surface, -⟩ := issued
      exact ⟨job, mem, token, surface⟩
    · intro job mem token
      exact numbered.eq_of_issued bound' ⟨job, mem, token, rfl, rfl⟩ issued
  · intro s changed
    rw [surfaces] at changed
    rcases touch with rfl | ⟨r, fence, op, rfl, target, fenced, output⟩
    · exact absurd rfl changed
    · obtain ⟨rfl, current⟩ := touched_changed fenced fun same => changed (congrArg Surface.output same)
      rcases output with keeps | ⟨route, frame, bound, k, worker, surface, rfl⟩
      · rw [touched_self] at changed
        exact absurd (keeps _) changed
      · exact ⟨frame, route, bound, k, worker, surface, current.symm⟩
  · intro s changed
    rw [surfaces] at changed
    rcases touch with rfl | ⟨r, fence, op, rfl, target, fenced, -⟩
    · exact absurd rfl changed
    · obtain ⟨rfl, current⟩ := touched_changed fenced changed
      obtain ⟨job, mem, surface, rfl⟩ := routed.target target
      exact ⟨job, mem, target, surface, current.symm⟩

theorem tokenRouting_safe_picture :
    ∃ st st' frame, Publishes st 0 0 frame ∧ step st (0, .worker .publish) = some st' ∧
      ∃ job ∈ (st.contexts 0).enqueued, job.token = frame.pts ∧ job.surface = 0 := by
  obtain ⟨st, st', hrun, hstep, publishes, length, coding⟩ : ∃ st st',
      run step (State.init (fun _ => .avc) fun _ => 100)
        (runOf 0 (pictureCalls 0 (.avc true false false) ++ submitJob ++ [.worker (.next false)] ++
          receiveFrame ⟨1, 0, false, false, false⟩)) = some st ∧
      step st (0, .worker .publish) = some st' ∧ Publishes st 0 0 ⟨1, 0, false, false, false⟩ ∧
      (st.contexts 0).enqueued.length = 1 ∧ (st.contexts 0).coding.usesTokenRoutes = true :=
    ⟨_, _, rfl, rfl, ⟨_, _, _, rfl, rfl, rfl⟩, rfl, rfl⟩
  have bound : (st.contexts 0).enqueued.length < 2 ^ 63 - 1 := by omega
  refine ⟨st, st', _, publishes, hstep, ?_⟩
  exact ((tokenRouting_safe ⟨_, _, _, hrun⟩ coding bound hstep).1 0 _ publishes).1

end RockchipVaapi.Decode
