import RockchipVaapi.Driver.Calls

/-!
# The decode worker and the destroy callbacks

What the worker of a decoder does with objects in one turn of its loop, and what is released with
the last reference to an object. The worker has no reference to its context: the context lends it
what its fields refer to until it is joined.
-/

namespace RockchipVaapi.Driver
open References

attribute [local simp] unrefOpt wp_done wp_unref wp_unref_end wp_branch Token.Spent Layout.Alive
  Multiset.erase_cons_head Multiset.erase_cons_tail_of_mem

/-! ## Output -/

/-- `configure_external_group` (`mpp_dec.c:221-291`) -/
def configureExternalGroup (c : Obj) : Program Unit := do
  if ← branch then return
  let some pool ← new .pool | return
  if ← branch then
    unref pool
    return
  if !(← offer .contextPool c pool) then
    unref pool

/-- `h264_route_take`, `generic_route_take` (`mpp_dec.c:370-405`) -/
def routeTake (usesTokenRoutes : Bool) (c : Obj) : Program (Option Obj) :=
  pull (if usesTokenRoutes then .h264Routes else .genericRoutes) c

/-- `assign_mpp_frame` (`mpp_dec.c:426-701`): the surface takes over a reference to the pool. -/
def assignMppFrame (usesTokenRoutes : Bool) (c : Obj) : Program Unit := do
  if ← branch then
    configureExternalGroup c
    return
  let some route ← routeTake usesTokenRoutes c | return
  let some s ← peek .routeSurface route | unref route
  if ← branch then
    unref route
    return
  let retainedPool ← if ← branch then pure none else load .contextPool c
  if ← branch then
    unrefOpt retainedPool
    unref route
    return
  unrefOpt (← swap .surfacePool s retainedPool)
  unref route

/-- `drain_output_frame` (`mpp_dec.c:729-746`) -/
def drainOutputFrame (usesTokenRoutes : Bool) (c : Obj) : Program Bool := do
  if ← branch then return false
  assignMppFrame usesTokenRoutes c
  return true

/-- `put_packet_draining` (`mpp_dec.c:748-779`), with `tries` to go. -/
def putPacketDraining (usesTokenRoutes : Bool) (c : Obj) : Nat → Program Bool
  | 0 => return false
  | tries + 1 => do
    if ← branch then return false
    if ← branch then return true
    if !(← drainOutputFrame usesTokenRoutes c) then
      if ← branch then return false
    putPacketDraining usesTokenRoutes c tries

/-- `submit_decode_packet` (`mpp_dec.c:1169-1181`) -/
def submitDecodePacket (usesTokenRoutes : Bool) (c : Obj) : Program Bool := do
  if ← branch then return false
  putPacketDraining usesTokenRoutes c 500

/-- `drain_hevc_after_submit` (`mpp_dec.c:781-785`) -/
def drainHevcAfterSubmit (usesTokenRoutes : Bool) (c : Obj) : Program Unit := do
  if ← branch then
    let _ ← drainOutputFrame usesTokenRoutes c

/-! ## Jobs -/

/-- `frame_route_create` (`mpp_dec.c:328-342`) -/
def frameRouteCreate (job : Obj) : Program (Option Obj) := do
  let some route ← new .route | return none
  let some s ← peek .jobSurface job
    | unref route
      return none
  if ← ref s then
    set .routeSurface route s
    return some route
  unref route
  return none

/-- `worker_submit_job` for the codings whose output comes back by token (`mpp_dec.c:1193-1242`). -/
def submitTokenRouted (c job : Obj) : Program Unit := do
  let newRoute ← branch
  if newRoute then
    let some route ← frameRouteCreate job | return
    push .h264Routes c route
  if !(← submitDecodePacket true c) then
    unrefOpt (← routeTake true c)
    return
  if newRoute then
    drainHevcAfterSubmit true c
  else
    if ← branch then
      let some replacement ← frameRouteCreate job | return
      push .h264Routes c replacement
      drainHevcAfterSubmit true c

/-- A route is added before its packet is submitted, and taken back where that fails
(`mpp_dec.c:1270-1285`, `mpp_dec.c:1293-1303`). -/
def submitRouted (c route : Obj) : Program Unit := do
  push .genericRoutes c route
  if !(← submitDecodePacket false c) then
    let _ ← reclaim .genericRoutes c route
    unref route
    return
  drainHevcAfterSubmit false c

/-- `worker_submit_job` for VP9 (`mpp_dec.c:1244-1303`): the frame itself, or the hidden frame and
the packet that shows it. -/
def submitGeneric (c job : Obj) : Program Unit := do
  if ← branch then
    if !(← submitDecodePacket false c) then return
    if ← branch then return
    let some route ← frameRouteCreate job | return
    if ← branch then
      unref route
      return
    submitRouted c route
  else
    let some route ← frameRouteCreate job | return
    submitRouted c route

/-- `worker_submit_job` (`mpp_dec.c:1183-1304`) -/
def workerSubmitJob (usesTokenRoutes : Bool) (c job : Obj) : Program Unit := do
  if ← branch then return
  if usesTokenRoutes then
    submitTokenRouted c job
  else
    submitGeneric c job

/-! ## The loop -/

/-- The loop of `worker_signal_eos` (`mpp_dec.c:1326-1332`), with `tries` to go. -/
def signalEos (usesTokenRoutes : Bool) (c : Obj) : Nat → Program Unit
  | 0 => return
  | tries + 1 => do
    if ← branch then return
    if !(← drainOutputFrame usesTokenRoutes c) then
      if ← branch then return
    signalEos usesTokenRoutes c tries

/-- `fail_pending_routes` (`mpp_dec.c:1356-1383`) -/
def failPendingRoutes (c : Obj) : Program Unit := do
  unrefAll (← grab .h264Routes c)
  unrefAll (← grab .genericRoutes c)

/-- A turn without a job: the end of the stream is marked where the context is torn down, and output
is awaited (`mpp_dec.c:1440-1464`). -/
def idleTurn (usesTokenRoutes : Bool) (c : Obj) : Program Unit := do
  if ← branch then signalEos usesTokenRoutes c 50
  if !(← drainOutputFrame usesTokenRoutes c) then
    if ← branch then failPendingRoutes c

/-- One turn of the loop of `rk_mpp_dec_worker_main` (`mpp_dec.c:1385-1468`), which says whether
there is another. -/
def workerTurn (c : Obj) : Program Bool := do
  if ← branch then return false
  let usesTokenRoutes ← branch
  match ← pull .jobs c with
  | some job =>
    workerSubmitJob usesTokenRoutes c job
    unref job
  | none => idleTurn usesTokenRoutes c
  return true

/-! ## The destroy callbacks -/

/-- `context_destroy` behind `rk_mpp_dec_stop` (`context.c:17-42`). -/
def contextRelease (c : Obj) : Program Unit := do
  drain .contextPool c
  drain .targets c
  drain .renderSurface c
  perform (.free c)

/-- The destroy callbacks: `free` of a configuration, `context_destroy` with `rk_mpp_dec_stop`
(`context.c:17-42`, `mpp_dec.c:1511-1562`), `surface_destroy` (`surface.c:31-56`), `buffer_destroy`
and `image_destroy` (`buffer.c:19-48`), `decode_pool_destroy` (`mpp_dec.c:27-41`),
`rk_mpp_dec_job_destroy` (`mpp_dec.c:1158-1167`) and `frame_route_destroy`
(`mpp_dec.c:344-351`). -/
def destroy (o : Obj) : Program Unit :=
  match o.kind with
  | .config | .pool => perform (.free o)
  | .encoder => contextRelease o
  | .decoder => do
    perform (.join o)
    drain .jobs o
    drain .h264Routes o
    drain .genericRoutes o
    drain .renderSurface o
    contextRelease o
  | .surface => do
    drain .surfacePool o
    perform (.free o)
  | .buffer => do
    drain .derivedSurface o
    perform (.free o)
  | .image => do
    drain .imageBuffer o
    perform (.free o)
  | .job => do
    drain .jobSurface o
    perform (.free o)
  | .route => do
    drain .routeSurface o
    perform (.free o)

/-! ## What the worker keeps -/

section

variable {c : Obj} {h : Multiset Held} {usesTokenRoutes : Bool}

theorem wp_configureExternalGroup (kind : c.kind = .decoder) (loan : .right (.loan c) ∈ h)
    {Q : Unit → Multiset Held → Prop} (post : Q () h) :
    layout.wp 3 (configureExternalGroup c) Q h := by
  unfold configureExternalGroup
  rw [wp_branch]
  refine ⟨?_, Layout.wp_pure _ post⟩
  simp only [Bool.false_eq_true, if_false]
  rw [wp_new _ _ (by decide)]
  refine ⟨Layout.wp_pure _ post, fun pool pooled => ?_⟩
  have small : pool.kind.rank ≤ 3 := by rw [pooled]; decide
  simp only [blanks_plain (.inr (.inr (.inr pooled))), zero_add]
  rw [wp_branch]
  refine ⟨?_, ?_⟩
  · simp only [Bool.false_eq_true, if_false]
    rw [wp_offer (by rw [kind]; rfl) rfl]
    refine ⟨.inr (by simp [loan]), pooled, by simp, ?_, ?_⟩
    · simp only [Bool.not_false, if_true, wp_unref_end]
      refine ⟨small, by simp, Layout.wp_pure _ ?_⟩
      simpa using post
    · refine Layout.wp_pure _ ?_
      simpa using post
  · simp only [if_true, wp_unref]
    refine ⟨small, by simp, Layout.wp_pure _ ?_⟩
    simpa using post

theorem wp_routeTake (kind : c.kind = .decoder) (loan : .right (.loan c) ∈ h) {α : Type}
    {Q : α → Multiset Held → Prop} {k : Option Obj → Program α} (none : layout.wp 3 (k none) Q h)
    (some : ∀ route, route.kind = .route → layout.wp 3 (k (some route)) Q (.ref route ::ₘ h)) :
    layout.wp 3 (routeTake usesTokenRoutes c >>= k) Q h := by
  unfold routeTake
  cases usesTokenRoutes
  · rw [if_neg (by simp), wp_pull (by rw [kind]; rfl) (by decide) rfl]
    exact ⟨.inr loan, none, some⟩
  · rw [if_pos rfl, wp_pull (by rw [kind]; rfl) (by decide) rfl]
    exact ⟨.inr loan, none, some⟩

theorem wp_assignMppFrame (kind : c.kind = .decoder) (loan : .right (.loan c) ∈ h)
    {Q : Unit → Multiset Held → Prop} (post : Q () h) :
    layout.wp 3 (assignMppFrame usesTokenRoutes c) Q h := by
  unfold assignMppFrame
  rw [wp_branch]
  refine ⟨?_, Layout.wp_bind (wp_configureExternalGroup kind loan (Layout.wp_pure _ post))⟩
  simp only [Bool.false_eq_true, if_false]
  refine wp_routeTake kind loan (Layout.wp_pure _ post) fun route routed => ?_
  have small : route.kind.rank ≤ 3 := by rw [routed]; decide
  have done : layout.wp 3 (unref route) Q (.ref route ::ₘ h) := by
    rw [wp_unref_end]
    refine ⟨small, by simp, Layout.wp_pure _ ?_⟩
    simpa using post
  refine wp_peek rfl _ (.inl (by simp)) done fun s surface => ?_
  have known : Token.Spent (.right (.points (.field .routeSurface route) s) : Held) := trivial
  simp only
  rw [wp_branch]
  refine ⟨?_, wp_spent known done⟩
  simp only [Bool.false_eq_true, if_false]
  -- the rest, with a reference to the pool or without one
  have rest (pool : Option Obj) (pooled : ∀ p ∈ pool, p.kind = .pool) : layout.wp 3 (do
      if ← branch then
        unrefOpt pool
        unref route
        return
      unrefOpt (← swap .surfacePool s pool)
      unref route) Q ((pool.elim 0 fun p => {.ref p}) +
        .right (.points (.field .routeSurface route) s) ::ₘ .ref route ::ₘ h) := by
    have canceled := wp_spent known done
    have surfacePool : Field.of .surfacePool s.kind = true := by rw [surface]; rfl
    have reaches (h' : Multiset Held) (le : .right (.points (.field .routeSurface route) s) ::ₘ
        .ref route ::ₘ h ≤ h') : layout.Alive h' s :=
      .inr ⟨.field .routeSurface route, route, Multiset.mem_of_le le (by simp), rfl,
        Multiset.mem_of_le le (by simp)⟩
    have last : layout.wp 3 (unref route) (fun _ => layout.wp 3 (pure ()) Q) _ :=
      Layout.wp_mono (fun _ _ post => Layout.wp_pure _ post) canceled
    have old (y : Obj) (kind : y.kind = .pool) : layout.wp 3 (unref y >>= fun _ => unref route) Q
        (.ref y ::ₘ .right (.points (.field .routeSurface route) s) ::ₘ .ref route ::ₘ h) := by
      rw [wp_unref]
      refine ⟨by rw [kind]; decide, by simp, ?_⟩
      rw [Multiset.erase_cons_head]
      exact canceled
    rw [wp_branch]
    cases pool with
    | none =>
      simp only [Option.elim_none, zero_add]
      refine ⟨?_, Layout.wp_bind (Layout.wp_pure _ (Layout.wp_bind last))⟩
      simp only [Bool.false_eq_true, if_false]
      rw [wp_swap_none surfacePool (by decide) rfl]
      exact ⟨.inl (reaches _ le_rfl), canceled, old⟩
    | some p =>
      have kind := pooled p rfl
      simp only [Option.elim_some, Multiset.singleton_add]
      refine ⟨?_, ?_⟩
      · simp only [Bool.false_eq_true, if_false]
        rw [wp_swap_some surfacePool (by decide) rfl]
        refine ⟨.inl (reaches _ (Multiset.le_cons_self _ _)), kind, by simp, ?_, ?_⟩
        · rw [Multiset.erase_cons_head]
          exact canceled
        · rw [Multiset.erase_cons_head]
          exact old
      · simp only [if_true, unrefOpt, wp_unref]
        refine ⟨by rw [kind]; decide, by simp, ?_⟩
        rw [Multiset.erase_cons_head, ← wp_unref]
        exact Layout.wp_bind last
  rw [wp_branch]
  refine ⟨?_, by simpa using rest none (by simp)⟩
  simp only [Bool.false_eq_true, if_false]
  refine wp_load (by decide) rfl _ (.inr (by simp [loan])) ?_ fun pool pooled => ?_
  · simpa using rest none (by simp)
  · have holds := rest (some pool) (by rintro p ⟨⟩; exact pooled)
    rwa [Option.elim_some, Multiset.singleton_add] at holds

theorem wp_drainOutputFrame (kind : c.kind = .decoder) (loan : .right (.loan c) ∈ h)
    {Q : Bool → Multiset Held → Prop} (post : ∀ b, Q b h) :
    layout.wp 3 (drainOutputFrame usesTokenRoutes c) Q h := by
  unfold drainOutputFrame
  rw [wp_branch]
  exact ⟨Layout.wp_bind (wp_assignMppFrame kind loan (Layout.wp_pure _ (post _))),
    Layout.wp_pure _ (post _)⟩

theorem wp_putPacketDraining (kind : c.kind = .decoder) (loan : .right (.loan c) ∈ h) (tries : Nat)
    {Q : Bool → Multiset Held → Prop} (post : ∀ b, Q b h) :
    layout.wp 3 (putPacketDraining usesTokenRoutes c tries) Q h := by
  induction tries with
  | zero => exact Layout.wp_pure _ (post _)
  | succ tries ih =>
    unfold putPacketDraining
    simp only [wp_branch, Bool.false_eq_true, if_false, if_true]
    refine ⟨⟨Layout.wp_bind (wp_drainOutputFrame kind loan fun drained => ?_), ?_⟩, ?_⟩
    · cases drained
      · simp only [Bool.not_false, if_true, wp_branch]
        exact ⟨ih, Layout.wp_pure _ (post _)⟩
      · exact ih
    · exact Layout.wp_pure _ (post _)
    · exact Layout.wp_pure _ (post _)

theorem wp_submitDecodePacket (kind : c.kind = .decoder) (loan : .right (.loan c) ∈ h)
    {Q : Bool → Multiset Held → Prop} (post : ∀ b, Q b h) :
    layout.wp 3 (submitDecodePacket usesTokenRoutes c) Q h := by
  unfold submitDecodePacket
  rw [wp_branch]
  exact ⟨wp_putPacketDraining kind loan 500 post, Layout.wp_pure _ (post _)⟩

theorem wp_drainHevcAfterSubmit (kind : c.kind = .decoder) (loan : .right (.loan c) ∈ h)
    {Q : Unit → Multiset Held → Prop} (post : Q () h) :
    layout.wp 3 (drainHevcAfterSubmit usesTokenRoutes c) Q h := by
  unfold drainHevcAfterSubmit
  rw [wp_branch]
  exact ⟨Layout.wp_pure _ post,
    Layout.wp_bind (wp_drainOutputFrame kind loan fun _ => Layout.wp_pure _ post)⟩

/-- A route has a reference of its own to the surface of its job. -/
theorem wp_frameRouteCreate {job : Obj} (held : .ref job ∈ h) {α : Type}
    {Q : α → Multiset Held → Prop} {k : Option Obj → Program α} (none : layout.wp 3 (k none) Q h)
    (some : ∀ route, route.kind = .route → layout.wp 3 (k (some route)) Q (.ref route ::ₘ h)) :
    layout.wp 3 (frameRouteCreate job >>= k) Q h := by
  refine Layout.wp_bind ?_
  have nothing : layout.wp 3 (pure Option.none) (fun a => layout.wp 3 (k a) Q) h :=
    Layout.wp_pure _ none
  unfold frameRouteCreate
  rw [wp_new _ _ (by decide)]
  refine ⟨nothing, fun route kind => ?_⟩
  have small : route.kind.rank ≤ 3 := by rw [kind]; decide
  simp only [blanks_once (o := route) (f := .routeSurface) (by simp [kind]), Multiset.singleton_add]
  refine wp_peek rfl _ (.inl (by simp [held])) ?_ fun s surface => ?_
  · simp only [wp_unref]
    refine ⟨small, by simp, ?_⟩
    rw [Multiset.erase_cons_head]
    exact wp_spent (by trivial) nothing
  · have alive : layout.Alive (.right (.points (.field .jobSurface job) s) ::ₘ .ref route ::ₘ
        .right (.blank (.field .routeSurface route)) ::ₘ h) s :=
      .inr ⟨.field .jobSurface job, job, by simp, rfl, by simp [held]⟩
    simp only
    rw [wp_ref]
    refine ⟨alive, by rw [surface]; decide, ?_, ?_⟩
    · simp only [Bool.false_eq_true, if_false, wp_unref]
      refine ⟨small, by simp, ?_⟩
      simp only [Multiset.erase_cons_head, Multiset.erase_cons_tail_of_mem, Multiset.mem_cons,
        true_or]
      exact wp_spent (by trivial) (wp_spent (by trivial) nothing)
    · simp only [if_true]
      refine wp_set (by rw [kind]; rfl) _ (.inl (by simp)) surface (by simp) (by simp) ?_
      simp
      exact wp_spent (by trivial) (wp_spent (by trivial) (Layout.wp_pure _ (some route kind)))

/-- A route goes into a list, and what comes next finds the hands as before. -/
theorem wp_addRoute {f : Field} (of : f.of .decoder = true) (queue : f.shape = .queue)
    (refersTo : f.refersTo = .route) (kind : c.kind = .decoder) (loan : .right (.loan c) ∈ h)
    {route : Obj} (routed : route.kind = .route) {k : Unit → Program Unit}
    {Q : Unit → Multiset Held → Prop} (next : layout.wp 3 (k ()) Q h) :
    layout.wp 3 (push f c route >>= k) Q (.ref route ::ₘ h) := by
  rw [wp_push (by rw [kind, of]) queue, refersTo]
  refine ⟨.inr (by simp [loan]), routed, by simp, ?_⟩
  rwa [Multiset.erase_cons_head]

theorem wp_submitTokenRouted (kind : c.kind = .decoder) (loan : .right (.loan c) ∈ h) {job : Obj}
    (held : .ref job ∈ h) {Q : Unit → Multiset Held → Prop} (post : Q () h) :
    layout.wp 3 (submitTokenRouted c job) Q h := by
  have done : layout.wp 3 (pure ()) Q h := Layout.wp_pure _ post
  have drained : layout.wp 3 (drainHevcAfterSubmit true c) Q h :=
    wp_drainHevcAfterSubmit kind loan post
  -- where the packet is refused, a route of its token goes
  have refused : layout.wp 3 (do
      unrefOpt (← routeTake true c)
      return) Q h := by
    refine wp_routeTake kind loan done fun route routed => ?_
    simp only [unrefOpt, wp_unref]
    refine ⟨by rw [routed]; decide, by simp, ?_⟩
    rwa [Multiset.erase_cons_head]
  unfold submitTokenRouted
  rw [wp_branch]
  refine ⟨?_, ?_⟩
  · simp only [Bool.false_eq_true, if_false]
    refine Layout.wp_bind (wp_submitDecodePacket kind loan fun accepted => ?_)
    cases accepted
    · exact refused
    · simp only [Bool.not_true, Bool.false_eq_true, if_false, wp_branch]
      refine ⟨done, ?_⟩
      simp only [if_true]
      refine wp_frameRouteCreate held done fun route routed => ?_
      exact wp_addRoute rfl rfl rfl kind loan routed drained
  · simp only [if_true]
    refine wp_frameRouteCreate held done fun route routed => ?_
    refine wp_addRoute rfl rfl rfl kind loan routed ?_
    refine Layout.wp_bind (wp_submitDecodePacket kind loan fun accepted => ?_)
    cases accepted
    · exact refused
    · exact drained

theorem wp_submitRouted (kind : c.kind = .decoder) (loan : .right (.loan c) ∈ h) {route : Obj}
    (routed : route.kind = .route) {Q : Unit → Multiset Held → Prop} (post : Q () h) :
    layout.wp 3 (submitRouted c route) Q (.ref route ::ₘ h) := by
  unfold submitRouted
  refine wp_addRoute rfl rfl rfl kind loan routed ?_
  refine Layout.wp_bind (wp_submitDecodePacket kind loan fun accepted => ?_)
  cases accepted
  · simp only [Bool.not_false, if_true]
    rw [wp_reclaim (by rw [kind]; rfl) (by decide) rfl]
    refine ⟨.inr loan, fun _ => ?_⟩
    simp only [wp_unref]
    refine ⟨by rw [routed]; decide, by simp, Layout.wp_pure _ ?_⟩
    rwa [Multiset.erase_cons_head]
  · exact wp_drainHevcAfterSubmit kind loan post

theorem wp_submitGeneric (kind : c.kind = .decoder) (loan : .right (.loan c) ∈ h) {job : Obj}
    (held : .ref job ∈ h) {Q : Unit → Multiset Held → Prop} (post : Q () h) :
    layout.wp 3 (submitGeneric c job) Q h := by
  have done : layout.wp 3 (pure ()) Q h := Layout.wp_pure _ post
  unfold submitGeneric
  rw [wp_branch]
  refine ⟨?_, ?_⟩
  · simp only [Bool.false_eq_true, if_false]
    exact wp_frameRouteCreate held done fun route routed => wp_submitRouted kind loan routed post
  · simp only [if_true]
    refine Layout.wp_bind (wp_submitDecodePacket kind loan fun accepted => ?_)
    cases accepted
    · exact done
    · simp only [Bool.not_true, Bool.false_eq_true, if_false, wp_branch]
      refine ⟨wp_frameRouteCreate held done fun route routed => ?_, done⟩
      rw [wp_branch]
      refine ⟨wp_submitRouted kind loan routed post, ?_⟩
      simp only [if_true, wp_unref]
      refine ⟨by rw [routed]; decide, by simp, ?_⟩
      rwa [Multiset.erase_cons_head]

theorem wp_workerSubmitJob (kind : c.kind = .decoder) (loan : .right (.loan c) ∈ h) {job : Obj}
    (held : .ref job ∈ h) {Q : Unit → Multiset Held → Prop} (post : Q () h) :
    layout.wp 3 (workerSubmitJob usesTokenRoutes c job) Q h := by
  unfold workerSubmitJob
  rw [wp_branch]
  refine ⟨?_, Layout.wp_pure _ post⟩
  cases usesTokenRoutes
  · exact wp_submitGeneric kind loan held post
  · exact wp_submitTokenRouted kind loan held post

theorem wp_signalEos (kind : c.kind = .decoder) (loan : .right (.loan c) ∈ h) (tries : Nat)
    {Q : Unit → Multiset Held → Prop} (post : Q () h) :
    layout.wp 3 (signalEos usesTokenRoutes c tries) Q h := by
  induction tries with
  | zero => exact Layout.wp_pure _ post
  | succ tries ih =>
    unfold signalEos
    rw [wp_branch]
    refine ⟨Layout.wp_bind (wp_drainOutputFrame kind loan fun drained => ?_), Layout.wp_pure _ post⟩
    cases drained
    · simp only [Bool.not_false, if_true, wp_branch]
      exact ⟨ih, Layout.wp_pure _ post⟩
    · exact ih

theorem wp_failPendingRoutes (kind : c.kind = .decoder) (loan : .right (.loan c) ∈ h)
    {Q : Unit → Multiset Held → Prop} (post : Q () h) :
    layout.wp 3 (failPendingRoutes c) Q h := by
  have small {xs : List Obj} (routes : ∀ x ∈ xs, x.kind = .route) :
      ∀ x ∈ xs, layout.rank x ≤ 3 := by
    intro x mem
    rw [layout_rank, routes x mem]
    decide
  unfold failPendingRoutes
  rw [wp_grab (by rw [kind]; rfl) (by decide) rfl]
  refine ⟨.inr loan, fun xs routes => Layout.wp_bind (Layout.wp_unrefAll (small routes) ?_)⟩
  rw [wp_grab (by rw [kind]; rfl) (by decide) rfl]
  exact ⟨.inr loan, fun ys routes => Layout.wp_unrefAll (small routes) post⟩

theorem wp_idleTurn (kind : c.kind = .decoder) (loan : .right (.loan c) ∈ h)
    {Q : Unit → Multiset Held → Prop} (post : Q () h) :
    layout.wp 3 (idleTurn usesTokenRoutes c) Q h := by
  have rest : layout.wp 3 (do
      if !(← drainOutputFrame usesTokenRoutes c) then
        if ← branch then failPendingRoutes c) Q h := by
    refine Layout.wp_bind (wp_drainOutputFrame kind loan fun drained => ?_)
    cases drained
    · simp only [Bool.not_false, if_true, wp_branch]
      exact ⟨Layout.wp_pure _ post, wp_failPendingRoutes kind loan post⟩
    · exact Layout.wp_pure _ post
  unfold idleTurn
  rw [wp_branch]
  exact ⟨rest, Layout.wp_bind (wp_signalEos kind loan 50 rest)⟩

/-- A turn of the loop leaves its thread what it had before. -/
theorem wp_workerTurn (kind : c.kind = .decoder) :
    layout.wp 3 (workerTurn c) (fun _ h => h = {.right (.loan c)}) {.right (.loan c)} := by
  have loan : .right (.loan c) ∈ ({.right (.loan c)} : Multiset Held) :=
    Multiset.mem_singleton_self _
  unfold workerTurn
  rw [wp_branch]
  refine ⟨?_, Layout.wp_pure _ rfl⟩
  simp only [Bool.false_eq_true, if_false]
  have turn (usesTokenRoutes : Bool) : layout.wp 3 (do
      match ← pull .jobs c with
      | some job =>
        workerSubmitJob usesTokenRoutes c job
        unref job
      | none => idleTurn usesTokenRoutes c
      return true) (fun _ h => h = {.right (.loan c)}) {.right (.loan c)} := by
    rw [wp_pull (by rw [kind]; rfl) (by decide) rfl]
    refine ⟨.inr loan, Layout.wp_bind (wp_idleTurn kind loan (Layout.wp_pure _ rfl)), ?_⟩
    intro job jobKind
    refine Layout.wp_bind (wp_workerSubmitJob kind (by simp) (by simp) ?_)
    rw [wp_unref]
    exact ⟨by rw [jobKind]; decide, by simp, by simp⟩
  rw [wp_branch]
  exact ⟨turn false, turn true⟩

end

/-! ## What the destroy callbacks leave -/

section

variable {n : Nat} {α : Type} {Q : α → Multiset Held → Prop} {h : Multiset Held} {o : Obj}
  {f : Field}

theorem wp_drain (rank : f.refersTo.rank < n)
    (last : .right (layout.last o) ∈ h) {k : Unit → Program α}
    (later : layout.wp n (k ()) Q (.right (.clear (.field f o)) ::ₘ h)) :
    layout.wp n (drain f o >>= k) Q h := by
  refine Layout.wp_bind ?_
  unfold drain
  rw [wp_take _ rfl]
  have small (x : Obj) (fits : layout.fits (.field f o) x = true) : x.kind.rank < n := by
    simp only [layout_fits_field, Bool.and_eq_true, beq_iff_eq] at fits
    rw [fits.2]
    exact rank
  refine ⟨⟨rfl, small⟩, last, fun os expects => ?_⟩
  have same : layout.gives (.drain (.field f o)) os + h.erase (.right (layout.last o)) =
      refs os + .right (.clear (.field f o)) ::ₘ h := by
    conv_rhs => rw [← Multiset.cons_erase last]
    simp [Layout.gives, Multiset.cons_swap]
  rw [same]
  exact Layout.wp_unrefAll (fun x mem => (small x (expects x mem)).le) later

theorem wp_freeObject (last : .right (layout.last o) ∈ h)
    (clear : ∀ f, f.of o.kind = true → .right (.clear (.field f o)) ∈ h)
    (rest : ∀ x ∈ h.erase (.right (layout.last o)), x.Spent) :
    layout.wp n (perform (.free o)) (fun _ h => h = 0) h := by
  refine ⟨fun p mem => ?_, _, ((Multiset.cons_erase last).symm.trans
    (Multiset.singleton_add _ _).symm), fun _ _ => ?_⟩
  · obtain ⟨f, among, rfl⟩ := List.mem_map.mp mem
    exact clear f (List.mem_filter.mp among).2
  · exact ⟨0, _, by rw [zero_add], by simpa [Layout.gives] using rest, rfl⟩

theorem last_decoder (kind : o.kind = .decoder) : layout.last o = .sole o := by
  simp [Layout.last, kind]

theorem last_of_ne (kind : o.kind ≠ .decoder) : layout.last o = .dying o := by
  simp [Layout.last, kind]

/-- An object with one field. -/
theorem wp_destroyOne (only : ∀ g : Field, g.of o.kind = true → g = f) (kind : o.kind ≠ .decoder)
    (rank : f.refersTo.rank < o.kind.rank) :
    layout.wp o.kind.rank (drain f o >>= fun _ => perform (.free o)) (fun _ h => h = 0)
      {.right (.dying o)} := by
  have last := last_of_ne kind
  refine wp_drain rank (by simp [last]) (wp_freeObject (by simp [last]) (fun g of => ?_) ?_)
  · simp [only g of]
  · simp [last]

theorem wp_contextRelease {h : Multiset Held} (last : .right (layout.last o) ∈ h)
    (clear : ∀ f, f.of o.kind = true → f.of .encoder = false → .right (.clear (.field f o)) ∈ h)
    (rest : ∀ x ∈ h.erase (.right (layout.last o)), x.Spent) :
    layout.wp 3 (contextRelease o) (fun _ h => h = 0) h := by
  unfold contextRelease
  refine wp_drain (by decide) last ?_
  refine wp_drain (by decide) (by simp [last]) ?_
  refine wp_drain (by decide) (by simp [last]) ?_
  refine wp_freeObject (by simp [last]) (fun f of => ?_) ?_
  · by_cases own : f.of .encoder = true
    · cases f <;> simp [Field.of] at own ⊢
    · simp [clear f of (by simpa using own)]
  · simp [last]
    exact rest

/-- Everything an object refers to is released, and nothing else. -/
theorem wp_destroy (o : Obj) :
    layout.wp o.kind.rank (destroy o) (fun _ h => h = 0) {.right (.dying o)} := by
  have none (kind : ∀ f : Field, f.of o.kind = false) (other : o.kind ≠ .decoder) :
      layout.wp o.kind.rank (perform (.free o)) (fun _ h => h = 0) {.right (.dying o)} := by
    refine wp_freeObject (by simp [last_of_ne other]) (fun f of => ?_) (by simp [last_of_ne other])
    simp [kind f] at of
  obtain ⟨kind, name⟩ := o
  have one (f : Field) (only : ∀ g : Field, g.of kind = true → g = f) (other : kind ≠ .decoder)
      (rank : f.refersTo.rank < kind.rank) :=
    wp_destroyOne (o := ⟨kind, name⟩) only other rank
  cases kind with
  | config => exact none (fun f => by cases f <;> rfl) (by simp)
  | pool => exact none (fun f => by cases f <;> rfl) (by simp)
  | surface => exact one .surfacePool (fun g => by cases g <;> simp [Field.of]) (by simp) (by decide)
  | buffer => exact one .derivedSurface (fun g => by cases g <;> simp [Field.of]) (by simp) (by decide)
  | image => exact one .imageBuffer (fun g => by cases g <;> simp [Field.of]) (by simp) (by decide)
  | job => exact one .jobSurface (fun g => by cases g <;> simp [Field.of]) (by simp) (by decide)
  | route => exact one .routeSurface (fun g => by cases g <;> simp [Field.of]) (by simp) (by decide)
  | encoder =>
    refine wp_contextRelease (by simp [Layout.last]) (fun f of other => ?_) (by simp [Layout.last])
    exact absurd (of.symm.trans other) (by simp)
  | decoder =>
    have last := last_decoder (o := ⟨.decoder, name⟩) rfl
    refine ⟨rfl, 0, by simp [Layout.takes], fun _ _ => ?_⟩
    change layout.wp 3 _ _ _
    refine wp_drain (by decide) (by simp [Layout.gives, last]) ?_
    refine wp_drain (by decide) (by simp [Layout.gives, last]) ?_
    refine wp_drain (by decide) (by simp [Layout.gives, last]) ?_
    refine wp_drain (by decide) (by simp [Layout.gives, last]) ?_
    refine wp_contextRelease (by simp [Layout.gives, last]) (fun f of other => ?_) ?_
    · cases f <;> simp [Field.of] at of other ⊢
    · simp [Layout.gives, last]

end

end RockchipVaapi.Driver
