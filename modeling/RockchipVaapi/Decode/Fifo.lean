import RockchipVaapi.Decode.TokenRouting

/-!
# FIFO routing

A VP9 context pairs frames with routes by position alone. The pairing is right as long as the queued
routes are those of the frames that MPP owes, in this order, followed by the route of the packet
under submission. A stall empties the queue; frames that MPP delivers later are dropped as long as
the queue is empty, but take the route of another job once one is queued.
-/

namespace RockchipVaapi.Decode
open Transition

/-! ## The order of the jobs -/

/-- The packet that the worker is submitting. -/
def Hand.packet : Hand → Option (Job × Kind)
  | .waiting packet => packet
  | .assigning _ _ packet => packet
  | .completing _ _ packet => packet
  | _ => none

/-- The job in the hands of the worker whose packet MPP has not accepted yet. -/
def Hand.held : Hand → List Job
  | .submitting job => [job]
  | hand => (hand.packet.map Prod.fst).toList

/-- The jobs in front of MPP. -/
def Work.upcoming (w : Work) : List Job := w.hand.held ++ w.jobs

/-- The jobs between the calls and MPP's output, in the order of enqueueing. -/
def Work.order (w : Work) : List Nat := w.owed ++ w.upcoming.map Job.serial

theorem Work.order_sublist {w w' : Work} (owed : w'.owed.Sublist w.owed)
    (held : w'.hand.held.Sublist w.hand.held) (jobs : w'.jobs = w.jobs) :
    w'.order.Sublist w.order := by
  unfold Work.order Work.upcoming
  rw [jobs]
  exact owed.append ((held.append (List.Sublist.refl _)).map _)

/-- Acceptance moves a job from the hands of the worker to the frames that MPP owes. -/
theorem Work.order_accepted {w w' : Work} {job : Job} {kind : Kind}
    (hand : w.hand = .waiting (some (job, kind))) (owed : w'.owed = (w.accepted job kind).owed)
    (held : w'.hand.held = []) (jobs : w'.jobs = w.jobs) : w'.order.Sublist w.order := by
  have before : w.order = w.owed ++ [job.serial] ++ w.jobs.map Job.serial := by
    unfold Work.order Work.upcoming
    rw [hand, List.append_assoc]
    rfl
  have after : w'.order = w'.owed ++ w.jobs.map Job.serial := by
    unfold Work.order Work.upcoming
    rw [held, jobs]
    rfl
  rw [before, after, owed]
  refine List.Sublist.append ?_ (List.Sublist.refl _)
  cases kind with
  | hidden => exact List.sublist_append_left _ _
  | _ => exact List.Sublist.refl _

/-- No move of the worker changes the order of the jobs. -/
theorem WorkerMove.order {ctx : Context} {surfaces : Surfaces} {a : WorkerAction} {t : Touch}
    {w : Work} (move : WorkerMove ctx surfaces a t w) : w.order.Sublist ctx.work.order := by
  have refl : ∀ {α : Type} (l : List α), l.Sublist l := List.Sublist.refl
  cases move with
  | quiet => exact refl _
  | exit hand => exact Work.order_sublist (refl _) (List.nil_sublist _) rfl
  | fetch hand queue =>
    rename_i job jobs
    have same : ctx.work.order = ctx.owed ++ (job :: jobs).map Job.serial := by
      unfold Work.order Work.upcoming
      rw [hand, show ctx.work.jobs = _ from queue]
      rfl
    rw [same]
    exact refl _
  | finish hand why => exact Work.order_sublist (refl _) (List.nil_sublist _) rfl
  | pair hand coding found => exact Work.order_sublist (refl _) (by rw [hand]; exact refl _) rfl
  | route hand coding => exact Work.order_sublist (refl _) (by rw [hand]; exact refl _) rfl
  | hide hand coding => exact Work.order_sublist (refl _) (by rw [hand]; exact refl _) rfl
  | queue hand coding queues => exact Work.order_sublist (refl _) (by rw [hand]; exact refl _) rfl
  | refuse hand refused => exact Work.order_sublist (refl _) (List.nil_sublist _) rfl
  | accept hand kinds => exact Work.order_accepted hand rfl rfl rfl
  | replace hand => exact Work.order_accepted hand rfl rfl rfl
  | lose hand kinds => exact Work.order_accepted hand rfl rfl rfl
  | repeatHidden hand queues =>
    exact Work.order_sublist (refl _) (by rw [hand]; exact refl _) rfl
  | drop action shown hand none_left =>
    exact Work.order_sublist List.erase_sublist (refl _) rfl
  | arrive action shown hand taken =>
    refine Work.order_sublist List.erase_sublist (by rw [hand]; exact refl _) ?_
    exact takeRoute_jobs ctx _
  | stale hand fence => exact Work.order_sublist (refl _) (by rw [hand]; exact refl _) rfl
  | failAssign hand => exact Work.order_sublist (refl _) (by rw [hand]; exact refl _) rfl
  | publish worker =>
    rename_i route frame output k
    have hand : ctx.work.hand = .assigning route frame k.packet := congrArg Worker.hand worker
    exact Work.order_sublist (refl _) (by rw [hand]; exact refl _) rfl
  | complete hand => exact Work.order_sublist (refl _) (by rw [hand]; exact refl _) rfl
  | stall hand => exact Work.order_sublist (refl _) (List.nil_sublist _) rfl
  | failRoute hand => exact Work.order_sublist (refl _) (List.nil_sublist _) rfl
  | recover hand => exact Work.order_sublist (refl _) (List.nil_sublist _) rfl

/-! ## Routes in step with the frames -/

/-- The serial number of a packet that has a queued route. -/
def pending : Option (Job × Kind) → List Nat
  | some (job, .shown) => [job.serial]
  | some (job, .repeated) => [job.serial]
  | _ => []

/-- The queued routes are those of the frames that MPP owes and of the packet under submission; or
there are none, and MPP may owe frames whose routes a stall has failed. -/
def Aligned (w : Work) : Prop :=
  w.genericRoutes.map Route.serial = w.owed ++ pending w.hand.packet ∨
    w.genericRoutes = [] ∧ pending w.hand.packet = []

/-- The assumption on MPP: one frame for every packet that shows one, in the order in which the
packets were accepted. -/
def mppInOrder (ctx : Context) : Action → Bool
  | .worker (.getFrame (some frame) _) =>
    frame.infoChange || ctx.owed.head? == some frame.producer
  | _ => true

/-- A route is queued only while every frame that MPP owes has its route. -/
def noLateFrame (ctx : Context) : Action → Bool
  | .worker a => !queuesRoute ctx a || decide (ctx.owed.length ≤ ctx.genericRoutes.length)
  | _ => true

structure FifoInv (ctx : Context) : Prop where
  generic : ctx.coding.usesTokenRoutes = false
  sorted : ctx.work.order.Pairwise (· < ·)
  bounded : ∀ n ∈ ctx.work.order, n < ctx.enqueued.length
  kinds : ∀ job kind, ctx.work.hand.packet = some (job, kind) →
    kind = .hidden ∨ kind = .repeated ∨ kind = .shown
  aligned : Aligned ctx.work
  matched : ∀ route frame packet, ctx.work.hand = .assigning route frame packet →
    frame.producer = route.serial

/-- A step that leaves the routes and the frames alone and submits no other packet. -/
theorem Aligned.of_packet {w w' : Work} (h : Aligned w)
    (routes : w'.genericRoutes = w.genericRoutes) (owed : w'.owed = w.owed)
    (packet : pending w'.hand.packet = pending w.hand.packet) : Aligned w' := by
  unfold Aligned
  rw [routes, owed, packet]
  exact h

/-- The route of a packet is queued behind the routes of the frames that MPP owes. -/
theorem Aligned.queue {w w' : Work} {job : Job} (h : Aligned w) (idle : pending w.hand.packet = [])
    (room : w.owed.length ≤ w.genericRoutes.length)
    (routes : w'.genericRoutes = w.genericRoutes ++ [frameRouteCreate job])
    (owed : w'.owed = w.owed) (packet : pending w'.hand.packet = [job.serial]) : Aligned w' := by
  have serials : w.genericRoutes.map Route.serial = w.owed := by
    rcases h with serials | ⟨empty, -⟩
    · rw [serials, idle, List.append_nil]
    · rw [empty] at room ⊢
      exact (List.length_eq_zero_iff.mp (Nat.le_zero.mp room)).symm
  refine .inl ?_
  rw [routes, owed, packet, List.map_append, serials]
  rfl

/-- A packet with a queued route is accepted: MPP owes its frame. -/
theorem Aligned.accept {w w' : Work} {n : Nat} (h : Aligned w) (busy : pending w.hand.packet = [n])
    (routes : w'.genericRoutes = w.genericRoutes) (owed : w'.owed = w.owed ++ [n])
    (packet : pending w'.hand.packet = []) : Aligned w' := by
  rcases h with serials | ⟨-, idle⟩
  · refine .inl ?_
    rw [routes, serials, owed, busy, packet, List.append_nil]
  · rw [busy] at idle
    cases idle

theorem map_genericRouteRemove (routes : List Route) (n : Nat) :
    (genericRouteRemove routes n).map Route.serial = (routes.map Route.serial).erase n := by
  have same : (fun route : Route => route.serial == n) = (fun x => n == x) ∘ Route.serial :=
    funext fun route => BEq.comm
  rw [genericRouteRemove, List.erase_eq_eraseP, List.eraseP_map, same]

/-- A packet with a queued route is refused: its route goes, and no other. -/
theorem Aligned.refuse {w w' : Work} {n : Nat} (h : Aligned w) (busy : pending w.hand.packet = [n])
    (fresh : n ∉ w.owed) (routes : w'.genericRoutes = genericRouteRemove w.genericRoutes n)
    (owed : w'.owed = w.owed) (packet : pending w'.hand.packet = []) : Aligned w' := by
  rcases h with serials | ⟨-, idle⟩
  · refine .inl ?_
    rw [routes, map_genericRouteRemove, serials, busy, List.erase_append_right _ fresh,
      List.erase_cons_head, owed, packet]
  · rw [busy] at idle
    cases idle

/-- The first frame that MPP owes takes the first route: its own. -/
theorem Aligned.arrive {w w' : Work} {route : Route} {rest : List Route} {n : Nat} (h : Aligned w)
    (first : w.genericRoutes = route :: rest) (inOrder : w.owed.head? = some n)
    (routes : w'.genericRoutes = rest) (owed : w'.owed = w.owed.erase n)
    (packet : pending w'.hand.packet = pending w.hand.packet) : n = route.serial ∧ Aligned w' := by
  rcases h with serials | ⟨empty, -⟩
  · obtain ⟨later, split⟩ := List.head?_eq_some_iff.mp inOrder
    rw [first, split, List.map_cons, List.cons_append] at serials
    obtain ⟨same, serials⟩ := List.cons.inj serials
    refine ⟨same.symm, .inl ?_⟩
    rw [routes, owed, packet, split, List.erase_cons_head]
    exact serials
  · rw [first] at empty
    cases empty

section

variable {ctx : Context} {surfaces : Surfaces} {a : WorkerAction} {t : Touch} {w : Work}

/-- The packet in the hands of the worker is none of those that MPP has accepted. -/
theorem FifoInv.fresh (h : FifoInv ctx) {job : Job} {kind : Kind}
    (hand : ctx.work.hand = .waiting (some (job, kind))) : job.serial ∉ ctx.owed := by
  intro mem
  have sorted := h.sorted
  unfold Work.order Work.upcoming at sorted
  rw [hand] at sorted
  have before := (List.pairwise_append.mp sorted).2.2
  exact Nat.lt_irrefl _ (before job.serial mem job.serial List.mem_cons_self)

theorem takeRoute_generic (generic : ctx.coding.usesTokenRoutes = false) (frame : MppFrame) :
    takeRoute ctx frame =
      (ctx.genericRoutes.head?, { ctx with genericRoutes := ctx.genericRoutes.tail }) := by
  unfold takeRoute
  rw [if_neg (by rw [generic]; exact Bool.false_ne_true)]

/-- What the worker submits after a move: nothing, the packet of before, or one of the kinds of a
VP9 context. -/
theorem WorkerMove.kinds (h : FifoInv ctx) (move : WorkerMove ctx surfaces a t w) :
    ∀ job kind, w.hand.packet = some (job, kind) →
      kind = .hidden ∨ kind = .repeated ∨ kind = .shown := by
  have keep : ∀ {packet}, ctx.work.hand.packet = packet → w.hand.packet = packet →
      ∀ job kind, w.hand.packet = some (job, kind) →
        kind = .hidden ∨ kind = .repeated ∨ kind = .shown := by
    intro packet before after job kind same
    exact h.kinds job kind (before.trans (after.symm.trans same))
  have idle : w.hand.packet = none → ∀ job kind, w.hand.packet = some (job, kind) →
      kind = .hidden ∨ kind = .repeated ∨ kind = .shown := by
    intro none_left job kind same
    rw [none_left] at same
    cases same
  cases move with
  | quiet => exact h.kinds
  | pair hand coding found =>
    have token := h.generic
    rw [coding] at token
    cases token
  | route hand coding => rw [h.generic] at coding; cases coding
  | hide hand coding =>
    intro job kind same
    obtain ⟨-, rfl⟩ := Prod.mk.inj (Option.some.inj same)
    exact .inl rfl
  | queue hand coding queues =>
    intro job kind same
    obtain ⟨-, rfl⟩ := Prod.mk.inj (Option.some.inj same)
    exact .inr (.inr rfl)
  | repeatHidden hand queues =>
    intro job kind same
    obtain ⟨-, rfl⟩ := Prod.mk.inj (Option.some.inj same)
    exact .inr (.inl rfl)
  | drop action shown hand none_left => exact keep rfl rfl
  | arrive action shown hand taken => exact keep (congrArg Hand.packet hand) rfl
  | stale hand fence => exact keep (congrArg Hand.packet hand) rfl
  | failAssign hand => exact keep (congrArg Hand.packet hand) rfl
  | publish worker =>
    exact keep (congrArg (fun x : Worker => x.hand.packet) worker) rfl
  | complete hand => exact keep (congrArg Hand.packet hand) rfl
  | _ => exact idle rfl

/-- Under both conditions, a move keeps the routes in step, and the frame that it starts to bind is
that of its route. -/
theorem WorkerMove.aligned (h : FifoInv ctx) (inOrder : mppInOrder ctx (.worker a) = true)
    (inTime : noLateFrame ctx (.worker a) = true) (move : WorkerMove ctx surfaces a t w) :
    Aligned w ∧ ∀ route frame packet, w.hand = .assigning route frame packet →
      frame.producer = route.serial := by
  have aligned := h.aligned
  have inOrder' : ∀ {frame : MppFrame} {patience : Bool}, a = .getFrame (some frame) patience →
      frame.infoChange = false → ctx.owed.head? = some frame.producer := by
    intro frame patience action shown
    rw [action] at inOrder
    simpa only [mppInOrder, shown, Bool.false_or, beq_iff_eq] using inOrder
  have inTime' : queuesRoute ctx a = true → ctx.owed.length ≤ ctx.genericRoutes.length := by
    intro queues
    simpa only [noLateFrame, queues, Bool.not_true, Bool.false_or, decide_eq_true_eq] using inTime
  have idle : ∀ {x : Hand}, ctx.work.hand = x → pending x.packet = [] →
      pending ctx.work.hand.packet = [] := by
    intro x hand none_left
    rw [hand]
    exact none_left
  cases move with
  | quiet => exact ⟨aligned, h.matched⟩
  | exit hand => exact ⟨aligned.of_packet rfl rfl (idle hand rfl).symm, fun _ _ _ same => by cases same⟩
  | fetch hand queue =>
    exact ⟨aligned.of_packet rfl rfl (idle hand rfl).symm, fun _ _ _ same => by cases same⟩
  | finish hand why =>
    exact ⟨aligned.of_packet rfl rfl (idle hand rfl).symm, fun _ _ _ same => by cases same⟩
  | pair hand coding found =>
    exact ⟨aligned.of_packet rfl rfl (idle hand rfl).symm, fun _ _ _ same => by cases same⟩
  | route hand coding =>
    exact ⟨aligned.of_packet rfl rfl (idle hand rfl).symm, fun _ _ _ same => by cases same⟩
  | hide hand coding =>
    exact ⟨aligned.of_packet rfl rfl (idle hand rfl).symm, fun _ _ _ same => by cases same⟩
  | queue hand coding queues =>
    exact ⟨aligned.queue (idle hand rfl) (inTime' queues) rfl rfl rfl,
      fun _ _ _ same => by cases same⟩
  | refuse hand refused =>
    rename_i job kind
    refine ⟨?_, fun _ _ _ same => by cases same⟩
    have busy : pending ctx.work.hand.packet = pending (some (job, kind)) := by rw [hand]; rfl
    cases kind with
    | repeated => exact aligned.refuse busy (h.fresh hand) rfl rfl rfl
    | shown => exact aligned.refuse busy (h.fresh hand) rfl rfl rfl
    | _ => exact aligned.of_packet rfl rfl busy.symm
  | accept hand _ =>
    rename_i job kind _
    refine ⟨?_, fun _ _ _ same => by cases same⟩
    have busy : pending ctx.work.hand.packet = pending (some (job, kind)) := by rw [hand]; rfl
    rcases h.kinds job kind (congrArg Hand.packet hand) with rfl | rfl | rfl
    · exact aligned.of_packet rfl rfl busy.symm
    · exact aligned.accept busy rfl rfl rfl
    · exact aligned.accept busy rfl rfl rfl
  | replace hand =>
    rcases h.kinds _ _ (congrArg Hand.packet hand) with same | same | same <;> cases same
  | lose hand _ =>
    rename_i job kind kinds
    refine ⟨?_, fun _ _ _ same => by cases same⟩
    have busy : pending ctx.work.hand.packet = pending (some (job, kind)) := by rw [hand]; rfl
    rcases kinds with rfl | ⟨token, rfl⟩
    · exact aligned.of_packet rfl rfl busy.symm
    · rcases h.kinds _ _ (congrArg Hand.packet hand) with same | same | same <;> cases same
  | repeatHidden hand queues =>
    exact ⟨aligned.queue (idle hand rfl) (inTime' queues) rfl rfl rfl,
      fun _ _ _ same => by cases same⟩
  | drop action shown hand none_left =>
    rename_i frame patience packet
    refine ⟨.inr ?_, fun _ _ _ same => by rw [hand] at same; cases same⟩
    rw [takeRoute_generic h.generic] at none_left
    have empty : ctx.work.genericRoutes = [] := List.head?_eq_none_iff.mp none_left
    refine ⟨empty, ?_⟩
    rcases aligned with serials | ⟨-, nothing⟩
    · rw [empty] at serials
      exact (List.append_eq_nil_iff.mp serials.symm).2
    · exact nothing
  | arrive action shown hand taken =>
    rename_i frame patience packet route
    have first := taken
    rw [takeRoute_generic h.generic] at first
    obtain ⟨rest, routes⟩ := List.head?_eq_some_iff.mp first
    have rest' : (takeRoute ctx frame).2.genericRoutes = rest := by
      rw [takeRoute_generic h.generic, routes]
      rfl
    obtain ⟨same, aligned'⟩ := @Aligned.arrive _ { (takeRoute ctx frame).2.work with
        hand := .assigning route frame packet, owed := ctx.owed.erase frame.producer } _ _ _ aligned
      routes (inOrder' action shown) rest' rfl (by rw [hand]; rfl)
    refine ⟨aligned', ?_⟩
    intro r f p hands
    obtain ⟨rfl, rfl, -⟩ := Hand.assigning.inj hands
    exact same
  | stale hand fence =>
    exact ⟨aligned.of_packet rfl rfl (by rw [hand]; rfl), fun _ _ _ same => by cases same⟩
  | failAssign hand =>
    exact ⟨aligned.of_packet rfl rfl (by rw [hand]; rfl), fun _ _ _ same => by cases same⟩
  | publish worker =>
    rename_i route frame output k
    have hand : ctx.work.hand = .assigning route frame k.packet := congrArg Worker.hand worker
    exact ⟨aligned.of_packet rfl rfl (by rw [hand]; rfl), fun _ _ _ same => by cases same⟩
  | complete hand =>
    exact ⟨aligned.of_packet rfl rfl (by rw [hand]; rfl), fun _ _ _ same => by cases same⟩
  | stall hand => exact ⟨.inr ⟨rfl, rfl⟩, fun _ _ _ same => by cases same⟩
  | failRoute hand =>
    exact ⟨aligned.of_packet rfl rfl (idle hand rfl).symm, fun _ _ _ same => by cases same⟩
  | recover hand =>
    exact ⟨aligned.of_packet rfl rfl (idle hand rfl).symm, fun _ _ _ same => by cases same⟩

end

theorem FifoInv.enqueue {ctx : Context} (h : FifoInv ctx) (job : Job) :
    FifoInv (rkMppDecEnqueueJob ctx job) := by
  have order : (rkMppDecEnqueueJob ctx job).work.order =
      ctx.work.order ++ [ctx.enqueued.length] := by
    simp only [Work.order, Work.upcoming, Context.work, rkMppDecEnqueueJob, List.map_append,
      List.append_assoc]
    rfl
  have length : (rkMppDecEnqueueJob ctx job).enqueued.length = ctx.enqueued.length + 1 :=
    List.length_append
  refine ⟨h.generic, ?_, ?_, h.kinds, h.aligned, h.matched⟩
  · rw [order, List.pairwise_append]
    refine ⟨h.sorted, List.pairwise_singleton _ _, ?_⟩
    intro n mem m last
    rw [List.mem_singleton.mp last]
    exact h.bounded n mem
  · intro n mem
    rw [length]
    rw [order] at mem
    rcases List.mem_append.mp mem with mem | mem
    · exact Nat.lt_succ_of_lt (h.bounded n mem)
    · rw [List.mem_singleton.mp mem]
      exact Nat.lt_succ_self _

theorem fifoInv_step {c : ContextId} {ctx ctx' : Context} {surfaces : Surfaces} {a : Action}
    {t : Touch} (h : FifoInv ctx) (inOrder : mppInOrder ctx a = true)
    (inTime : noLateFrame ctx a = true) (hstep : ctxStep c ctx surfaces a = some (ctx', t)) :
    FifoInv ctx' := by
  cases ctxStep_cases hstep with
  | same same =>
    obtain ⟨generic, sorted, bounded, kinds, aligned, matched⟩ := h
    refine ⟨?_, ?_, ?_, ?_, ?_, ?_⟩
    · rw [same.coding]
      exact generic
    · rw [same.work]
      exact sorted
    · rw [same.work, same.enqueued]
      exact bounded
    · rw [same.work]
      exact kinds
    · rw [same.work]
      exact aligned
    · rw [same.work]
      exact matched
  | enqueue action call result =>
    rename_i i job
    subst result
    have idle : FifoInv { ctx with calls := ctx.calls.eraseIdx i } :=
      ⟨h.generic, h.sorted, h.bounded, h.kinds, h.aligned, h.matched⟩
    exact FifoInv.enqueue idle job
  | worker action move calls =>
    subst action
    obtain ⟨aligned, matched⟩ := move.aligned h inOrder inTime
    refine ⟨?_, h.sorted.sublist move.order, ?_, move.kinds h, aligned, matched⟩
    · rw [calls.coding]
      exact h.generic
    · intro n mem
      rw [calls.enqueued]
      exact h.bounded n (move.order.subset mem)
  | joined joined =>
    have hand : ctx'.work.hand = .exited := by
      rw [joined.work]
      exact congrArg Worker.hand joined.worker
    have order : ctx'.work.order.Sublist ctx.work.order := by
      have jobs : ctx'.work.jobs = [] := by rw [joined.work]
      have owed : ctx'.work.owed = ctx.work.owed := by rw [joined.work]
      unfold Work.order Work.upcoming
      rw [jobs, owed, hand]
      exact (List.Sublist.refl _).append (List.nil_sublist _)
    refine ⟨?_, h.sorted.sublist order, ?_, ?_, ?_, ?_⟩
    · rw [joined.coding]
      exact h.generic
    · intro n mem
      rw [joined.enqueued]
      exact h.bounded n (order.subset mem)
    · intro job kind packet
      rw [hand] at packet
      cases packet
    · refine .inr ⟨by rw [joined.work], ?_⟩
      rw [hand]
      rfl
    · intro route frame packet assigning
      rw [hand] at assigning
      cases assigning

theorem fifoInv_init (profileIdc : Nat) : FifoInv (Context.init .vp9 profileIdc) where
  generic := rfl
  sorted := List.Pairwise.nil
  bounded n mem := absurd mem List.not_mem_nil
  kinds job kind packet := by cases packet
  aligned := .inl rfl
  matched route frame packet hand := by cases hand

/-! ## The pairing over whole runs -/

/-- MPP delivers in order, and no route of `c` is queued while MPP owes a frame without one. -/
def FifoDiscipline (c : ContextId) (st : State) (act : ContextId × Action) : Bool :=
  act.1 != c || mppInOrder (st.contexts c) act.2 && noLateFrame (st.contexts c) act.2

/-- In a run in which MPP delivers in order and no route is queued while MPP owes a frame that has
lost its route: a frame that is bound comes from the packet of the job whose route it took, and a
frame whose route is gone takes no other. -/
theorem fifo_pairs_frames {coding : ContextId → Coding} {profileIdc : ContextId → Nat}
    {c : ContextId} (vp9 : coding c = .vp9) {acts : List (ContextId × Action)} {st : State}
    (hrun : run step (State.init coding profileIdc) acts = some st)
    (discipline : Throughout step (fun st act => FifoDiscipline c st act = true)
      (State.init coding profileIdc) acts) :
    (∀ route frame output k, (st.contexts c).worker = .publish route frame output k →
      frame.producer = route.serial ∧ ∃ job, (st.contexts c).enqueued[frame.producer]? = some job ∧
        job.surface = route.surface ∧ job.fence = route.fence) ∧
    ∀ frame, (st.contexts c).owed.head? = some frame.producer →
      (∀ route ∈ (st.contexts c).genericRoutes, route.serial ≠ frame.producer) →
      (takeRoute (st.contexts c) frame).1 = none := by
  have inv : FifoInv (st.contexts c) := by
    apply context_invariant_throughout (c := c)
      (Q := fun ctx a => mppInOrder ctx a = true ∧ noLateFrame ctx a = true) ?_ ?_ ?_ hrun
    · intro ctx surfaces a ctx' t h condition hstep
      exact fifoInv_step h condition.1 condition.2 hstep
    · rw [show (State.init coding profileIdc).contexts c = Context.init .vp9 (profileIdc c) by
        rw [← vp9]; rfl]
      exact fifoInv_init (profileIdc c)
    · refine discipline.imp ?_
      intro s act condition same
      simpa only [FifoDiscipline, same, bne_self_eq_false, Bool.false_or, Bool.and_eq_true]
        using condition
  have known := (tokenInv_of_reachable ⟨coding, profileIdc, acts, hrun⟩ c).routed.hand
  refine ⟨?_, ?_⟩
  · intro route frame output k worker
    have hand : (st.contexts c).work.hand = .assigning route frame k.packet :=
      congrArg Worker.hand worker
    have same := inv.matched route frame k.packet hand
    rw [hand] at known
    rw [same]
    exact ⟨rfl, known.1.serial⟩
  · intro frame first gone
    rw [takeRoute_generic inv.generic, List.head?_eq_none_iff]
    cases routes : (st.contexts c).genericRoutes with
    | nil => rfl
    | cons route rest =>
      have own := @Aligned.arrive _ { (st.contexts c).work with
        genericRoutes := rest, owed := (st.contexts c).owed.erase frame.producer } _ _ _ inv.aligned
        routes first rfl rfl rfl
      rw [routes] at gone
      exact absurd own.1.symm (gone route List.mem_cons_self)

/-- Two shown VP9 pictures; a frame of the first arrives after a stall has failed its route and the
route of the second is queued. -/
def lateFrameRun : List (ContextId × Action) :=
  runOf 0 (pictureCalls 0 (.vp9 true false false 8) ++ submitJob ++
    -- no output, until the stall timer expires
    [.worker (.next false), .worker (.getFrame none false), .worker (.next false),
      .worker (.getFrame none false), .worker .failRoute, .worker .failRoute] ++
    pictureCalls 1 (.vp9 true false false 8) ++ submitJob ++ [.worker (.next false)] ++
    receiveFrame ⟨1, 0, false, false, false⟩)

/-- MPP delivers in order in the run, but the late frame of the first picture, for surface 0, is
bound to surface 1. -/
theorem lateFrame_takes_next_route :
    Throughout step (fun st act => (act.1 != 0 || mppInOrder (st.contexts 0) act.2) = true)
      (State.init (fun _ => .vp9) fun _ => 0) lateFrameRun ∧
    ∃ st st', run step (State.init (fun _ => .vp9) fun _ => 0) lateFrameRun = some st ∧
      step st (0, .worker .publish) = some st' ∧ ∃ frame, Publishes st 0 1 frame ∧
        (st'.surfaces 1).output.frame = some frame ∧
        ∃ job, (st.contexts 0).enqueued[frame.producer]? = some job ∧ job.surface = 0 := by
  refine ⟨throughout_of_check rfl, ?_⟩
  exact ⟨_, _, rfl, rfl, _, ⟨_, _, _, rfl, rfl, rfl⟩, rfl, _, rfl, rfl⟩

theorem fifo_pairs_frames_picture : ∃ (st : State) (route : Route) (frame : MppFrame)
    (output : Output) (k : Resume), (st.contexts 0).worker = .publish route frame output k ∧ frame.producer = route.serial := by
  obtain ⟨st, hrun, publishes⟩ : ∃ st, run step (State.init (fun _ => .vp9) fun _ => 0)
      (runOf 0 (pictureCalls 0 (.vp9 true false false 8) ++ submitJob ++ [.worker (.next false)] ++
        receiveFrame ⟨1, 0, false, false, false⟩)) = some st ∧
      Publishes st 0 0 ⟨1, 0, false, false, false⟩ := ⟨_, rfl, _, _, _, rfl, rfl, rfl⟩
  obtain ⟨route, output, k, worker, -, -⟩ := publishes
  refine ⟨st, route, _, output, k, worker, ?_⟩
  have paired := fifo_pairs_frames (c := 0) rfl hrun (throughout_of_check rfl)
  exact (paired.1 route _ output k worker).1

end RockchipVaapi.Decode
