import RockchipVaapi.Hevc.ParameterSets
import RockchipVaapi.Misc.Transition

/-!
# The decode system

The application calls `rk_BeginPicture` and `rk_EndPicture`, the decode worker and
`rk_mpp_dec_stop` as a transition system. One action is one section that a lock protects, or one
call into MPP, together with the work on data that only its thread touches. Surfaces are shared
by all contexts; everything else belongs to one context. MPP and the outcome of allocations and
conversions are inputs of the actions.

Fields marked as history record what happened and are read by no action.
-/

namespace RockchipVaapi.Decode
open Hevc

abbrev SurfaceId := Nat
abbrev ContextId := Nat

/-! ## Surfaces -/

/-- The part of an `MppFrame` that routing looks at. `producer` is history: the serial number of
the job whose packet the picture comes from. -/
structure MppFrame where
  pts : Nat
  producer : Nat
  infoChange : Bool
  eos : Bool
  broken : Bool
  deriving DecidableEq, Repr

/-- What `assign_mpp_frame` binds to a surface. -/
structure Output where
  frame : Option MppFrame
  backingBuf : Option Nat
  decodePool : Option Nat
  deriving DecidableEq, Repr

/-- `RKSurface`, as far as decoding uses it. `begins` is history: how often the fence was
advanced. -/
structure Surface where
  output : Output
  decoded : Bool
  decodeFailed : Bool
  h264FieldPending : Bool
  stableExport : Bool
  ctxId : Option ContextId
  fence : Nat
  begins : Nat
  deriving DecidableEq, Repr

/-- A new surface. -/
def Surface.init : Surface := ⟨⟨none, none, none⟩, false, false, false, false, none, 0, 0⟩

/-- `s->fence++; if (s->fence == 0) s->fence++;` on a `uint64_t`. -/
def nextFence (fence : Nat) : Nat :=
  let fence := (fence + 1) % 2 ^ 64
  if fence = 0 then 1 else fence

/-- The sections under `surface->lock`. -/
inductive SurfaceOp
  | begin (c : ContextId) (avc : Bool)
  | mark (fence : Nat) (field : Bool)
  | complete (fence : Nat) (success : Bool)
  | fail (fence : Nat)
  | publish (fence : Nat) (output : Output)
  | exportStable
  deriving DecidableEq, Repr

/-- Whether `rk_BeginPicture` continues a field pair (`context.c:339-341`). -/
def Surface.continuation (s : Surface) (c : ContextId) (avc : Bool) : Bool :=
  avc && s.h264FieldPending && s.ctxId == some c && !s.decoded && !s.decodeFailed && s.fence != 0

def SurfaceOp.apply : SurfaceOp → Surface → Surface
  -- `rk_BeginPicture` (`context.c:338-365`)
  | .begin c avc, s =>
    if s.continuation c avc then { s with decoded := false, decodeFailed := false, ctxId := some c }
    else
      { s with
        output := ⟨none, none, none⟩, h264FieldPending := false, fence := nextFence s.fence
        decoded := false, decodeFailed := false, ctxId := some c, begins := s.begins + 1 }
  -- `rk_EndPicture` (`context.c:531-535`)
  | .mark fence field, s => if s.fence = fence then { s with h264FieldPending := field } else s
  -- `complete_surface_ref` (`mpp_dec.c:311-326`)
  | .complete fence success, s =>
    if s.fence = fence then
      { s with decoded := success, decodeFailed := !success, h264FieldPending := false }
    else s
  -- `rk_mpp_dec_fail_surface` (`mpp_dec.c:1499-1509`)
  | .fail fence, s => if s.fence = fence ∧ s.decoded = false then { s with decodeFailed := true } else s
  -- the last section of `assign_mpp_frame` (`mpp_dec.c:617-650`)
  | .publish fence output, s =>
    if s.fence = fence then
      { s with output := output, decoded := true, decodeFailed := false, h264FieldPending := false }
    else s
  -- `rk_ExportSurfaceHandle` (`export.c:127-141`)
  | .exportStable, s =>
    if s.decoded = false ∧ s.output.frame = none ∧ s.output.backingBuf = none then
      { s with stableExport := true }
    else s

/-! ## Contexts -/

/-- `MppCodingType`, as far as the decode path tells codings apart. -/
inductive Coding
  | avc
  | hevc
  | vp9
  deriving DecidableEq, Repr

/-- `codec_uses_token_routes` (`mpp_dec.c:148-152`). -/
def Coding.usesTokenRoutes : Coding → Bool
  | .avc => true
  | .hevc => true
  | .vp9 => false

/-- The HEVC picture parameters of a picture. -/
structure HevcPicture where
  pp : VAPictureParameterBufferHEVC
  iq : Option VAIQMatrixBufferHEVC

/-- `RKDecodeJob`. `sequenceHeaders` are the VPS and SPS at the front of the packet, which the job
also carries to the cache. `serial` (the position in the order of enqueueing), `picture` (the HEVC
picture parameters the packet was built from) and `cacheSeen` (the cache the build compared with)
are history. -/
structure Job where
  surface : SurfaceId
  fence : Nat
  token : Nat
  empty : Bool
  h264Field : Bool
  hidden : Bool
  repeatSlot : Nat
  sequenceHeaders : Option (List UInt8)
  serial : Nat
  picture : Option HevcPicture
  cacheSeen : Option (List UInt8)

/-- `RKFrameRoute`. `serial` stands for the identity of the record: it is that of the job the
record was made for. -/
structure Route where
  surface : SurfaceId
  fence : Nat
  token : Nat
  serial : Nat
  deriving DecidableEq, Repr

/-- `frame_route_create` (`mpp_dec.c:328-342`), where it succeeds. -/
def frameRouteCreate (job : Job) : Route := ⟨job.surface, job.fence, job.token, job.serial⟩

/-- `h264_route_find_surface` (`mpp_dec.c:359-368`). -/
def h264RouteFindSurface (routes : List Route) (surface : SurfaceId) (fence : Nat) :
    Option Route :=
  routes.find? fun route => route.surface == surface && route.fence == fence

/-- `h264_route_take` (`mpp_dec.c:370-383`): the first route with the token, and the others. -/
def h264RouteTake (token : Nat) : List Route → Option Route × List Route
  | [] => (none, [])
  | route :: routes =>
    if route.token = token then (some route, routes)
    else ((h264RouteTake token routes).1, route :: (h264RouteTake token routes).2)

/-- `generic_route_remove` (`mpp_dec.c:407-422`). -/
def genericRouteRemove (routes : List Route) (serial : Nat) : List Route :=
  routes.eraseP fun route => route.serial == serial

/-- A VA call in progress: what it still has to do. -/
inductive Call
  /-- `rk_BeginPicture` has acquired the context and the surface. -/
  | begin (surface : SurfaceId)
  /-- `rk_EndPicture` has acquired the context. -/
  | build
  /-- `rk_mpp_dec_fail_surface`, on the picture that `rk_BeginPicture` replaced or that
  `rk_EndPicture` could not build. -/
  | failSurface (surface : SurfaceId) (fence : Nat)
  /-- `rk_EndPicture` has to enqueue its job. -/
  | enqueue (job : Job)
  /-- `rk_EndPicture` has to reject its job. -/
  | reject (job : Job)

/-- What the worker is submitting. -/
inductive Kind
  /-- A packet with a new token route. -/
  | fresh
  /-- A field that shares the token of the route of the field before it. -/
  | paired (token : Nat)
  /-- A hidden VP9 picture. -/
  | hidden
  /-- The packet that shows a hidden VP9 picture. -/
  | repeated
  /-- A shown VP9 picture. -/
  | shown
  deriving DecidableEq, Repr

/-- `submit_decode_packet` in progress, with the counters of `put_packet_draining`. -/
structure Submission where
  job : Job
  kind : Kind
  tries : Nat
  starved : Nat

/-- Where `drain_output_frame` returns to. -/
inductive Resume
  | mainLoop (draining : Bool)
  | afterSubmit
  | put (sub : Submission)
  | eos (tries : Nat)

/-- Where the worker stands. -/
inductive Worker
  | mainLoop
  | submit (job : Job)
  | put (sub : Submission)
  | eos (tries : Nat)
  | drain (k : Resume)
  | check (route : Route) (frame : MppFrame) (k : Resume)
  | convert (route : Route) (frame : MppFrame) (k : Resume)
  | copy (route : Route) (frame : MppFrame) (converted : Option Nat) (k : Resume)
  | retain (route : Route) (frame : MppFrame) (converted : Option Nat) (copied : Bool) (k : Resume)
  | publish (route : Route) (frame : MppFrame) (output : Output) (k : Resume)
  /-- `complete_surface_ref`, at the end of a submission or of `assign_mpp_frame`. -/
  | complete (surface : SurfaceId) (fence : Nat) (success : Bool) (k : Option Resume)
  | failing (routes : List Route)
  | exited

/-- Where `rk_mpp_dec_stop` stands. -/
inductive Stop
  | notCalled
  | joining
  | failing (pending : List (SurfaceId × Nat))
  | returned

/-- `RKContext` with its worker and the calls in progress. `endPicture` is the `rk_EndPicture` call
that holds the picture lock, with the result of its build. `issued`, `enqueued`, `owed` (the jobs
whose packets MPP has accepted and whose picture it has yet to show) and `mppSequence` (the last
VPS and SPS among the accepted packets) are history. -/
structure Context where
  coding : Coding
  profileIdc : Nat
  destroyed : Bool
  calls : List Call
  endPicture : Option (Option Job)
  render : Option (SurfaceId × Nat)
  jobs : List Job
  nextToken : Nat
  workerDrain : Bool
  workerStop : Bool
  hevcSequenceHeaders : Option (List UInt8)
  worker : Worker
  h264Routes : List Route
  genericRoutes : List Route
  outstanding : Nat
  sawEos : Bool
  signalledEos : Bool
  stalledSince : Bool
  stop : Stop
  issued : List (SurfaceId × Nat × Nat)
  enqueued : List Job
  owed : List Nat
  mppSequence : Option (List UInt8)

/-- A context after `rk_CreateContext`. -/
def Context.init (coding : Coding) (profileIdc : Nat) : Context where
  coding := coding
  profileIdc := profileIdc
  destroyed := false
  calls := []
  endPicture := none
  render := none
  jobs := []
  nextToken := 0
  workerDrain := false
  workerStop := false
  hevcSequenceHeaders := none
  worker := .mainLoop
  h264Routes := []
  genericRoutes := []
  outstanding := 0
  sawEos := false
  signalledEos := false
  stalledSince := false
  stop := .notCalled
  issued := []
  enqueued := []
  owed := []
  mppSequence := none

abbrev Surfaces := SurfaceId → Surface

/-- The surface section of an action, if it has one. -/
abbrev Touch := Option (SurfaceId × SurfaceOp)

/-! ## The application -/

/-- What the pending buffers make of a build, by coding; `ok` is false where one of its other
steps fails. -/
inductive BuildInput
  | avc (ok empty field : Bool)
  | hevc (ok : Bool) (picture : HevcPicture)
  | vp9 (ok empty hidden : Bool) (repeatSlot : Nat)

/-- `decode_job_create` (`mpp_dec.c:787-805`), where it succeeds. -/
def decodeJobCreate (surface : SurfaceId) (fence : Nat) (empty : Bool) : Job where
  surface := surface
  fence := fence
  token := 0
  empty := empty
  h264Field := false
  hidden := false
  repeatSlot := 8
  sequenceHeaders := none
  serial := 0
  picture := none
  cacheSeen := none

/-- The part of `build_hevc_job` that decides over the sequence headers
(`mpp_dec.c:984-1003`, `mpp_dec.c:1080-1089`). -/
def buildHevcJob (ctx : Context) (surface : SurfaceId) (fence : Nat) (picture : HevcPicture) :
    Option Job := do
  let sequence ← rkHevcWriteSequenceParameterSets 4096 picture.pp picture.iq ctx.profileIdc
  let changed := ctx.hevcSequenceHeaders ≠ some sequence
  return { decodeJobCreate surface fence false with
    sequenceHeaders := if changed then some sequence else none
    picture := some picture
    cacheSeen := ctx.hevcSequenceHeaders }

/-- `rk_mpp_dec_build_job` (`mpp_dec.c:1564-1572`). -/
def rkMppDecBuildJob (ctx : Context) (surface : SurfaceId) (fence : Nat) (input : BuildInput) :
    Option Job :=
  match ctx.coding, input with
  | .avc, .avc true empty field =>
    some { decodeJobCreate surface fence empty with h264Field := field }
  | .hevc, .hevc true picture => buildHevcJob ctx surface fence picture
  | .vp9, .vp9 true empty hidden repeatSlot =>
    let isHidden := !empty && hidden
    some { decodeJobCreate surface fence empty with
      hidden := isHidden, repeatSlot := if isHidden then repeatSlot else 8 }
  | _, _ => none

/-- `next_token` of `rk_mpp_dec_enqueue_job` on a `uint64_t`. -/
def nextToken (token : Nat) : Nat :=
  let token := (token + 1) % 2 ^ 64
  if token = 0 ∨ 2 ^ 63 - 1 < token then 1 else token

/-- `rk_mpp_dec_enqueue_job` (`mpp_dec.c:1470-1497`), where the worker is not stopped. -/
def rkMppDecEnqueueJob (ctx : Context) (job : Job) : Context :=
  let queued := { job with token := nextToken ctx.nextToken, serial := ctx.enqueued.length }
  { ctx with
    hevcSequenceHeaders := job.sequenceHeaders.or ctx.hevcSequenceHeaders
    nextToken := nextToken ctx.nextToken
    jobs := ctx.jobs ++ [queued]
    enqueued := ctx.enqueued ++ [queued] }

inductive AppAction
  | callBegin (surface : SurfaceId)
  | callEnd
  | destroy
  | begin (i : Nat)
  | build (i : Nat) (input : BuildInput)
  | release
  | failSurface (i : Nat)
  | enqueue (i : Nat)
  | reject (i : Nat)

/-- `rk_BeginPicture` under the picture lock (`context.c:335-372`). -/
def beginSection (c : ContextId) (ctx : Context) (surfaces : Surfaces) (i : Nat)
    (surface : SurfaceId) : Context × Touch :=
  let op := SurfaceOp.begin c (ctx.coding == .avc)
  let begun := op.apply (surfaces surface)
  ({ ctx with
      calls := match ctx.render with
        | none => ctx.calls.eraseIdx i
        | some (previous, fence) => ctx.calls.set i (.failSurface previous fence)
      render := some (surface, begun.fence)
      issued := (surface, begun.begins, begun.fence) :: ctx.issued },
    some (surface, op))

/-- `rk_EndPicture` under the picture lock, up to the result of the build
(`context.c:520-527`). -/
def buildSection (ctx : Context) (i : Nat) (input : BuildInput) : Context :=
  match ctx.render with
  | none => { ctx with calls := ctx.calls.eraseIdx i }
  | some (surface, fence) =>
    { ctx with
      calls := ctx.calls.eraseIdx i
      endPicture := some (rkMppDecBuildJob ctx surface fence input) }

/-- The end of the section of `rk_EndPicture` under the picture lock (`context.c:528-544`). -/
def releaseSection (ctx : Context) (surface : SurfaceId) (fence : Nat) : Option Job → Context × Touch
  | some job =>
    ({ ctx with calls := ctx.calls ++ [.enqueue job], render := none, endPicture := none },
      some (surface, .mark fence job.h264Field))
  | none =>
    ({ ctx with calls := ctx.calls ++ [.failSurface surface fence], render := none
                endPicture := none }, none)

def appStep (c : ContextId) (ctx : Context) (surfaces : Surfaces) :
    AppAction → Option (Context × Touch)
  -- `context_acquire` finds the context as long as it is in the heap
  | .callBegin surface =>
    if ctx.destroyed then none
    else some ({ ctx with calls := ctx.calls ++ [.begin surface] }, none)
  | .callEnd =>
    if ctx.destroyed then none else some ({ ctx with calls := ctx.calls ++ [.build] }, none)
  -- `rk_DestroyContext` (`context.c:267-277`)
  | .destroy => if ctx.destroyed then none else some ({ ctx with destroyed := true }, none)
  | .begin i =>
    match ctx.calls[i]?, ctx.endPicture with
    | some (.begin surface), none => some (beginSection c ctx surfaces i surface)
    | _, _ => none
  | .build i input =>
    match ctx.calls[i]?, ctx.endPicture with
    | some .build, none => some (buildSection ctx i input, none)
    | _, _ => none
  | .release =>
    match ctx.render, ctx.endPicture with
    | some (surface, fence), some job => some (releaseSection ctx surface fence job)
    | _, _ => none
  | .failSurface i =>
    match ctx.calls[i]? with
    | some (.failSurface surface fence) =>
      some ({ ctx with calls := ctx.calls.eraseIdx i }, some (surface, .fail fence))
    | _ => none
  | .enqueue i =>
    match ctx.calls[i]? with
    | some (.enqueue job) =>
      if ctx.workerStop then some ({ ctx with calls := ctx.calls.set i (.reject job) }, none)
      else some (rkMppDecEnqueueJob { ctx with calls := ctx.calls.eraseIdx i } job, none)
    | _ => none
  -- `rk_mpp_dec_reject_job` (`mpp_dec.c:1574-1580`)
  | .reject i =>
    match ctx.calls[i]? with
    | some (.reject job) =>
      some ({ ctx with calls := ctx.calls.eraseIdx i }, some (job.surface, .complete job.fence false))
    | _ => none

/-! ## The worker -/

/-- How a call of `decode_put_packet` ends, or why it is not made: there is no packet, or the worker
has to stop. In `accepted`, `made` says whether the route (and the repeat packet) that follows can
be made. -/
inductive PutOutcome
  | unmade
  | stopping
  | busy
  | accepted (made : Bool)
  deriving DecidableEq, Repr

/-- What `assign_mpp_frame` makes of a frame before it copies: nothing usable, or the frame with
the buffer of a 10 bit conversion. -/
inductive Conversion
  | unusable
  | usable (converted : Option Nat)
  deriving DecidableEq, Repr

inductive WorkerAction
  /-- The loop head of `rk_mpp_dec_worker_main`; `expired` is the drain deadline. -/
  | next (expired : Bool)
  /-- `worker_submit_job` up to the first packet; `made` says whether a route can be made. -/
  | submit (made : Bool)
  | put (outcome : PutOutcome)
  /-- A turn of the loop of `worker_signal_eos`. -/
  | putEos (accepted : Bool)
  /-- `decode_get_frame`; without a frame, `patience` says whether the deadline that matters there
  is still ahead (or the pool can be grown). -/
  | getFrame (frame : Option MppFrame) (patience : Bool)
  | check
  | convert (conversion : Conversion)
  | copy (fits : Bool)
  /-- The references: none where one of them cannot be taken. -/
  | retain (refs : Option (Option Nat × Option Nat))
  | publish
  | complete
  | failRoute
  deriving DecidableEq, Repr

/-- `drain_output_frame` returns true; `consumed` says whether a route was used up. -/
def resumeTrue (ctx : Context) (consumed : Bool) (k : Resume) : Context :=
  let ctx := { ctx with outstanding := if consumed then ctx.outstanding - 1 else ctx.outstanding }
  match k with
  | .mainLoop _ => { ctx with worker := .mainLoop, stalledSince := false }
  | .afterSubmit => { ctx with worker := .mainLoop, stalledSince := false }
  | .put sub => { ctx with worker := .put { sub with tries := sub.tries + 1, starved := 0 } }
  | .eos tries => { ctx with worker := .eos (tries + 1) }

/-- The end of `worker_submit_job`. -/
def submitted (ctx : Context) : Context := { ctx with worker := .mainLoop, stalledSince := false }

/-- `drain_hevc_after_submit` (`mpp_dec.c:781-785`) at the end of a submission. -/
def drainHevcAfterSubmit (ctx : Context) : Context :=
  if ctx.coding = .hevc ∧ 0 < ctx.outstanding then { ctx with worker := .drain .afterSubmit }
  else submitted ctx

/-- The ends of `worker_submit_job` that complete the surface. -/
def completeJob (ctx : Context) (job : Job) (success : Bool) : Context :=
  { ctx with worker := .complete job.surface job.fence success none }

/-- The packet of a submission is not accepted (`mpp_dec.c:1212-1220`, `1251-1255`,
`1279-1285`, `1295-1301`). -/
def putFailed (ctx : Context) (sub : Submission) : Context :=
  match sub.kind with
  | .fresh =>
    let taken := h264RouteTake sub.job.token ctx.h264Routes
    completeJob { ctx with h264Routes := taken.2 } sub.job false
  | .paired token =>
    let taken := h264RouteTake token ctx.h264Routes
    completeJob { ctx with
      h264Routes := taken.2
      outstanding := if taken.1.isSome then ctx.outstanding - 1 else ctx.outstanding } sub.job false
  | .hidden => completeJob ctx sub.job false
  | .repeated | .shown =>
    completeJob { ctx with
      genericRoutes := genericRouteRemove ctx.genericRoutes sub.job.serial } sub.job false

/-- `drain_output_frame` returns false. -/
def resumeFalse (ctx : Context) (patience : Bool) : Resume → Context
  -- the stall timer of `rk_mpp_dec_worker_main` (`mpp_dec.c:1449-1463`)
  | .mainLoop draining =>
    if ctx.outstanding = 0 ∨ draining = true then { ctx with worker := .mainLoop }
    else if ctx.stalledSince = false then { ctx with worker := .mainLoop, stalledSince := true }
    else if patience then { ctx with worker := .mainLoop }
    else
      -- `fail_pending_routes` (`mpp_dec.c:1356-1383`)
      { ctx with
        worker := .failing (ctx.h264Routes ++ ctx.genericRoutes), h264Routes := []
        genericRoutes := [], outstanding := 0, stalledSince := false }
  | .afterSubmit => submitted ctx
  -- `put_packet_draining` (`mpp_dec.c:766-779`)
  | .put sub =>
    if sub.starved + 1 < 25 then
      { ctx with worker := .put { sub with tries := sub.tries + 1, starved := sub.starved + 1 } }
    else if patience then
      { ctx with worker := .put { sub with tries := sub.tries + 1, starved := 0 } }
    else putFailed ctx sub
  -- `worker_signal_eos` (`mpp_dec.c:1327-1333`)
  | .eos tries =>
    if patience then { ctx with worker := .eos (tries + 1) }
    else { ctx with worker := .drain (.mainLoop true) }

/-- `worker_submit_job` up to the first packet (`mpp_dec.c:1183-1208`, `1247-1250`,
`1287-1293`). -/
def workerSubmitJob (ctx : Context) (job : Job) (made : Bool) : Context :=
  if job.empty then completeJob ctx job true
  else if ctx.coding.usesTokenRoutes then
    let paired := ctx.coding == .avc && job.h264Field
    match if paired then h264RouteFindSurface ctx.h264Routes job.surface job.fence else none with
    | some route => { ctx with worker := .put ⟨job, .paired route.token, 0, 0⟩ }
    | none =>
      if made then
        { ctx with
          h264Routes := frameRouteCreate job :: ctx.h264Routes, worker := .put ⟨job, .fresh, 0, 0⟩ }
      else completeJob ctx job false
  else if job.hidden then { ctx with worker := .put ⟨job, .hidden, 0, 0⟩ }
  else if made then
    { ctx with
      genericRoutes := ctx.genericRoutes ++ [frameRouteCreate job], worker := .put ⟨job, .shown, 0, 0⟩ }
  else completeJob ctx job false

/-- MPP takes a packet: what it holds afterwards. -/
def accept (ctx : Context) (sub : Submission) : Context :=
  { ctx with
    mppSequence := sub.job.sequenceHeaders.or ctx.mppSequence
    owed := match sub.kind with
      | .hidden => ctx.owed
      | _ => ctx.owed ++ [sub.job.serial] }

/-- `worker_submit_job` behind an accepted packet (`mpp_dec.c:1221-1243`, `1256-1286`,
`1302-1304`). -/
def packetAccepted (ctx : Context) (sub : Submission) (made : Bool) : Context :=
  let ctx := accept ctx sub
  match sub.kind with
  | .fresh => drainHevcAfterSubmit { ctx with outstanding := ctx.outstanding + 1 }
  | .paired token =>
    match h264RouteFindSurface ctx.h264Routes sub.job.surface sub.job.fence with
    | some _ => submitted ctx
    | none =>
      if made then
        drainHevcAfterSubmit { ctx with
          h264Routes := { frameRouteCreate sub.job with token := token } :: ctx.h264Routes
          outstanding := ctx.outstanding + 1 }
      else completeJob ctx sub.job false
  | .hidden =>
    if 8 ≤ sub.job.repeatSlot then completeJob ctx sub.job true
    else if made then
      { ctx with
        genericRoutes := ctx.genericRoutes ++ [frameRouteCreate sub.job]
        worker := .put ⟨sub.job, .repeated, 0, 0⟩ }
    else completeJob ctx sub.job false
  | .repeated | .shown => drainHevcAfterSubmit { ctx with outstanding := ctx.outstanding + 1 }

/-- The loop head of `rk_mpp_dec_worker_main` (`mpp_dec.c:1392-1441`); blocked in the wait it has
no step. -/
def nextJob (ctx : Context) (expired : Bool) : Option Context :=
  if ctx.workerStop then some { ctx with worker := .exited }
  else match ctx.jobs with
    | [] =>
      if ctx.workerDrain then
        if expired ∨ ctx.sawEos = true ∨ ctx.outstanding = 0 then some { ctx with worker := .exited }
        else if ctx.signalledEos then some { ctx with worker := .drain (.mainLoop true) }
        else some { ctx with worker := .eos 0, signalledEos := true }
      else if ctx.outstanding = 0 then none
      else some { ctx with worker := .drain (.mainLoop false) }
    | job :: jobs =>
      if ctx.workerDrain = true ∧ (expired ∨ ctx.sawEos = true) then
        some { ctx with worker := .exited }
      else some { ctx with jobs := jobs, worker := .submit job }

/-- The route of an output frame (`mpp_dec.c:441-468`). -/
def takeRoute (ctx : Context) (frame : MppFrame) : Option Route × Context :=
  if ctx.coding.usesTokenRoutes then
    ((h264RouteTake frame.pts ctx.h264Routes).1,
      { ctx with h264Routes := (h264RouteTake frame.pts ctx.h264Routes).2 })
  else (ctx.genericRoutes.head?, { ctx with genericRoutes := ctx.genericRoutes.tail })

/-- `drain_output_frame` with a frame, up to the first section of `assign_mpp_frame`. -/
def frameArrived (ctx : Context) (frame : MppFrame) (k : Resume) : Context :=
  let ctx := { ctx with sawEos := ctx.sawEos || frame.eos }
  if frame.infoChange then resumeTrue ctx false k
  else
    let ctx := { ctx with owed := ctx.owed.erase frame.producer }
    match takeRoute ctx frame with
    | (none, ctx) => resumeTrue ctx false k
    | (some route, ctx) => { ctx with worker := .check route frame k }

/-- What is bound to the surface (`mpp_dec.c:549-614`). -/
def boundOutput (frame : MppFrame) (converted : Option Nat) (copied : Bool)
    (backing pool : Option Nat) : Output :=
  if copied then ⟨none, none, none⟩
  else match converted with
    | some buffer => ⟨none, some buffer, pool⟩
    | none => ⟨some frame, backing, pool⟩

/-- `complete_surface_ref(s, route->fence, false)` at the end of `assign_mpp_frame`. -/
def failAssign (ctx : Context) (route : Route) (k : Resume) : Context :=
  { ctx with worker := .complete route.surface route.fence false (some k) }

def workerStep (ctx : Context) (surfaces : Surfaces) : WorkerAction → Option (Context × Touch)
  | .next expired =>
    match ctx.worker with
    | .mainLoop => (nextJob ctx expired).map fun ctx => (ctx, none)
    | _ => none
  | .submit made =>
    match ctx.worker with
    | .submit job => some (workerSubmitJob ctx job made, none)
    | _ => none
  | .put outcome =>
    match ctx.worker with
    | .put sub =>
      if 500 ≤ sub.tries then some (putFailed ctx sub, none)
      else match outcome with
        -- `mpp_packet_init` in `submit_decode_packet` (`mpp_dec.c:1173-1175`)
        | .unmade => if sub.tries = 0 then some (putFailed ctx sub, none) else none
        | .stopping =>
          if ctx.workerStop || ctx.workerDrain then some (putFailed ctx sub, none) else none
        | .busy => some ({ ctx with worker := .drain (.put sub) }, none)
        | .accepted made => some (packetAccepted ctx sub made, none)
    | _ => none
  | .putEos accepted =>
    match ctx.worker with
    | .eos tries =>
      if 50 ≤ tries ∨ accepted then some ({ ctx with worker := .drain (.mainLoop true) }, none)
      else some ({ ctx with worker := .drain (.eos tries) }, none)
    | _ => none
  | .getFrame frame patience =>
    match ctx.worker with
    | .drain k =>
      match frame with
      | some frame => some (frameArrived ctx frame k, none)
      | none => some (resumeFalse ctx patience k, none)
    | _ => none
  -- the first section of `assign_mpp_frame` (`mpp_dec.c:472-497`)
  | .check =>
    match ctx.worker with
    | .check route frame k =>
      if (surfaces route.surface).fence ≠ route.fence then some (resumeTrue ctx true k, none)
      else if frame.broken then some (failAssign ctx route k, none)
      else some ({ ctx with worker := .convert route frame k }, none)
    | _ => none
  | .convert conversion =>
    match ctx.worker with
    | .convert route frame k =>
      match conversion with
      | .unusable => some (failAssign ctx route k, none)
      | .usable converted => some ({ ctx with worker := .copy route frame converted k }, none)
    | _ => none
  -- `rk_surface_copy_to_stable_export` (`surface.c:430-492`)
  | .copy fits =>
    match ctx.worker with
    | .copy route frame converted k =>
      if (surfaces route.surface).stableExport = false then
        some ({ ctx with worker := .retain route frame converted false k }, none)
      else if fits = false ∨ (surfaces route.surface).fence ≠ route.fence then
        some (failAssign ctx route k, none)
      else some ({ ctx with worker := .retain route frame converted true k }, none)
    | _ => none
  | .retain refs =>
    match ctx.worker with
    | .retain route frame converted copied k =>
      match refs with
      | some (backing, pool) =>
        some ({ ctx with
          worker := .publish route frame (boundOutput frame converted copied backing pool) k }, none)
      | none =>
        if copied then none else some (failAssign ctx route k, none)
    | _ => none
  -- the last section of `assign_mpp_frame` (`mpp_dec.c:616-668`)
  | .publish =>
    match ctx.worker with
    | .publish route _ output k =>
      some (resumeTrue ctx true k, some (route.surface, .publish route.fence output))
    | _ => none
  | .complete =>
    match ctx.worker with
    | .complete surface fence success k =>
      some (match k with
        | some k => resumeTrue ctx true k
        | none => submitted ctx, some (surface, .complete fence success))
    | _ => none
  | .failRoute =>
    match ctx.worker with
    | .failing [] => some ({ ctx with worker := .mainLoop }, none)
    | .failing (route :: routes) =>
      some ({ ctx with worker := .failing routes }, some (route.surface, .fail route.fence))
    | _ => none

/-! ## Teardown -/

inductive StopAction
  | drain
  | join
  | failNext
  | failRender
  deriving DecidableEq, Repr

/-- `rk_mpp_dec_stop` (`mpp_dec.c:1511-1562`). `context_destroy` calls it when the last reference
to the context is gone: it is out of the heap, and no call is in progress. -/
def stopStep (ctx : Context) : StopAction → Option (Context × Touch)
  | .drain =>
    match ctx.stop with
    | .notCalled =>
      if ctx.destroyed ∧ ctx.calls.isEmpty ∧ ctx.endPicture.isNone then
        some ({ ctx with workerDrain := true, stop := .joining }, none)
      else none
    | _ => none
  | .join =>
    match ctx.stop, ctx.worker with
    | .joining, .exited =>
      some ({ ctx with
        workerStop := true, jobs := [], h264Routes := [], genericRoutes := [], outstanding := 0
        stop := .failing (ctx.jobs.map (fun job => (job.surface, job.fence)) ++
          (ctx.h264Routes ++ ctx.genericRoutes).map (fun route => (route.surface, route.fence))) },
        none)
    | _, _ => none
  | .failNext =>
    match ctx.stop with
    | .failing ((surface, fence) :: pending) =>
      some ({ ctx with stop := .failing pending }, some (surface, .fail fence))
    | _ => none
  | .failRender =>
    match ctx.stop with
    | .failing [] =>
      some ({ ctx with render := none, stop := .returned },
        ctx.render.map fun target => (target.1, .fail target.2))
    | _ => none

/-! ## The system -/

inductive Action
  | app (a : AppAction)
  | worker (a : WorkerAction)
  | stop (a : StopAction)
  | exportSurface (surface : SurfaceId)

structure State where
  contexts : ContextId → Context
  surfaces : Surfaces

/-- The context and the surface section of an action. -/
def ctxStep (c : ContextId) (ctx : Context) (surfaces : Surfaces) : Action → Option (Context × Touch)
  | .app a => appStep c ctx surfaces a
  | .worker a => workerStep ctx surfaces a
  | .stop a => stopStep ctx a
  | .exportSurface surface => some (ctx, some (surface, .exportStable))

/-- A section changes one surface. -/
def touched (surfaces : Surfaces) : Touch → Surfaces
  | none => surfaces
  | some (surface, op) => Function.update surfaces surface (op.apply (surfaces surface))

def step (st : State) (act : ContextId × Action) : Option State :=
  (ctxStep act.1 (st.contexts act.1) st.surfaces act.2).map fun next =>
    { contexts := Function.update st.contexts act.1 next.1, surfaces := touched st.surfaces next.2 }

/-- The state before any call: every context has just been created. -/
def State.init (coding : ContextId → Coding) (profileIdc : ContextId → Nat) : State where
  contexts c := Context.init (coding c) (profileIdc c)
  surfaces _ := Surface.init

/-- The states a run of the system can reach. -/
def Reachable (st : State) : Prop :=
  ∃ coding profileIdc acts, Transition.run step (State.init coding profileIdc) acts = some st

end RockchipVaapi.Decode
