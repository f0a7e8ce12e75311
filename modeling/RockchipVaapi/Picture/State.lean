import RockchipVaapi.Decode.System
import RockchipVaapi.Hevc.Job
import RockchipVaapi.Vp9.Job

/-!
# Building a picture

`rk_BeginPicture`, `rk_RenderPicture` and `rk_EndPicture` on the part of a decode context that
the access unit is built from: the pending buffer ids, the snapshots of the parameter buffers
and the flags that say which of them are valid. What a buffer id resolves to is an input of each
call, as are the outcomes of the requests for memory; surfaces and fences are the subject of
`Decode.System`.
-/

namespace RockchipVaapi.Picture
open H264 Hevc
open Decode (Coding)

/-- `VABufferID`. -/
abbrev BufferId := Nat

/-- What `buffer_acquire` finds under the ids. -/
abbrev Buffers := BufferId → Option VABuffer

/-- The profiles of decode contexts. -/
inductive DecodeProfile
  | h264 (profile : H264.VAProfile)
  | hevcMain
  | hevcMain10
  | vp9Profile0
  | vp9Profile2
  deriving DecidableEq, Repr

/-- `profile_to_coding` (`context.c:44-59`). -/
def DecodeProfile.coding : DecodeProfile → Coding
  | .h264 _ => .avc
  | .hevcMain => .hevc
  | .hevcMain10 => .hevc
  | .vp9Profile0 => .vp9
  | .vp9Profile2 => .vp9

/-- `profile_idc` of `build_hevc_job` and `vp9_profile` of `build_generic_job`. -/
def DecodeProfile.idc : DecodeProfile → Nat
  | .h264 profile => h264ProfileIdc profile
  | .hevcMain => 1
  | .hevcMain10 => 2
  | .vp9Profile0 => 0
  | .vp9Profile2 => 2

/-- The target of a picture: the render surface with the fence `rk_BeginPicture` took for it. -/
structure RenderTarget where
  surface : Nat
  fence : UInt64
  issued : fence ≠ 0

/-- The fields of `RKContext` that building a picture uses. `render_target`, `render_surface` and
`render_fence` are set and cleared together. -/
structure PictureState where
  render : Option RenderTarget
  pending : List BufferId
  lastPp : VAPictureParameterBufferH264
  lastIq : VAIQMatrixBufferH264
  hasIq : Bool
  spsSent : Bool
  lastHevcPp : VAPictureParameterBufferHEVC
  lastHevcIq : VAIQMatrixBufferHEVC
  hasHevcPp : Bool
  hasHevcIq : Bool
  hevcSequenceHeaders : Option (List UInt8)

/-! ## Begin and render -/

/-- The part of `rk_BeginPicture` under `picture_lock` (`context.c:358-365`). -/
def rkBeginPicture (target : RenderTarget) (c : PictureState) : PictureState :=
  { c with
    render := some target, pending := []
    hasIq := false, hasHevcPp := false, hasHevcIq := false }

/-- `PENDING_LIMIT`. -/
def pendingLimit : Nat := 2 ^ 20

/-- The snapshot of one rendered buffer (`context.c:452-483`). -/
def snapshot (coding : Coding) (c : PictureState) : Option VABuffer → PictureState
  | some (.pictureParameter h264 hevc) =>
    match coding, h264, hevc with
    | .avc, some pp, _ => { c with lastPp := pp }
    | .hevc, _, some pp => { c with lastHevcPp := pp, hasHevcPp := true }
    | _, _, _ => c
  | some (.iqMatrix h264 hevc) =>
    match coding, h264, hevc with
    | .avc, some iq, _ => { c with lastIq := iq, hasIq := true }
    | .hevc, _, some iq => { c with lastHevcIq := iq, hasHevcIq := true }
    | _, _, _ => c
  | _ => c

/-- One call of `rk_RenderPicture`: the ids, what they resolve to, and whether `realloc` grants
the room for them. -/
structure RenderCall where
  ids : List BufferId
  buffers : Buffers
  granted : Bool

/-- The contents a call finds, in the order of its ids. -/
def RenderCall.contents (call : RenderCall) : List (Option VABuffer) := call.ids.map call.buffers

/-- `rk_RenderPicture` on a decode context (`context.c:440-489`). It returns an error, and changes
nothing, where `reserve_pending` does. -/
def rkRenderPicture (coding : Coding) (call : RenderCall) (c : PictureState) : PictureState :=
  if pendingLimit < c.pending.length + call.ids.length ∨ !call.granted then c
  else
    { call.contents.foldl (snapshot coding) c with pending := c.pending ++ call.ids }

/-- A sequence of calls of `rk_RenderPicture`. -/
def renderAll (coding : Coding) (calls : List RenderCall) (c : PictureState) : PictureState :=
  calls.foldl (fun c call => rkRenderPicture coding call c) c

/-! ## End -/

/-- What the pending ids resolve to. -/
def PictureState.resolved (c : PictureState) (buffers : Buffers) : List (Option VABuffer) :=
  c.pending.map buffers

/-- The call of `build_h264_job`, in the terms of its own module. -/
def PictureState.h264Call (c : PictureState) (buffers : Buffers) (memory : BuildMemory)
    (target : RenderTarget) : EndPictureCall where
  render := some (target.surface, target.fence)
  lastPp := c.lastPp
  lastIq := c.lastIq
  hasIq := c.hasIq
  pending := (c.resolved buffers).map (·.map VABuffer.h264)
  alloc := memory.alloc
  jobCreated := memory.jobCreated
  workerStop := false

/-- An H.264 job as an `RKDecodeJob`. -/
def ofH264Job (job : H264Job) : DecodeJob where
  data := job.data
  surface := job.surface
  fence := job.fence
  h264Field := job.h264Field
  hidden := false
  repeatSlot := 8
  hevcSequenceHeaders := none

/-- What `build_hevc_job` reads of the context. -/
def PictureState.hevcState (c : PictureState) : HevcState where
  pp := if c.hasHevcPp then some c.lastHevcPp else none
  iq := if c.hasHevcIq then some c.lastHevcIq else none
  sequenceHeaders := c.hevcSequenceHeaders

/-- `rk_mpp_dec_build_job` (`mpp_dec.c:1564-1572`): its result, and `sps_sent` afterwards. -/
def rkMppDecBuildJob (profile : DecodeProfile) (buffers : Buffers) (memory : BuildMemory)
    (target : RenderTarget) (c : PictureState) : Except VAError DecodeJob × Bool :=
  match profile with
  | .h264 vaProfile =>
    let (job, spsSent) := buildH264Job vaProfile c.spsSent (c.h264Call buffers memory target)
      (target.surface, target.fence)
    (job.map ofH264Job, spsSent)
  | .hevcMain | .hevcMain10 =>
    (buildHevcJob profile.idc c.hevcState memory (c.resolved buffers)
      (target.surface, target.fence), c.spsSent)
  | .vp9Profile0 | .vp9Profile2 =>
    (Vp9.buildGenericJob profile.idc memory (c.resolved buffers) (target.surface, target.fence),
      c.spsSent)

/-- What a call of `rk_EndPicture` finds: the buffers under the ids, the outcomes of the requests
for memory, and whether the worker was stopped. -/
structure EndCall where
  buffers : Buffers
  memory : BuildMemory
  workerStop : Bool

/-- What `rk_EndPicture` returns, and the job it built, be it queued or rejected. -/
structure EndResult where
  status : Option VAError
  job : Option DecodeJob
  deriving DecidableEq, Repr

/-- The status, and the packet of the job. -/
def EndResult.packet (result : EndResult) : Option VAError × Option (List UInt8) :=
  (result.status, result.job.map DecodeJob.data)

/-- `rk_EndPicture` on a decode context (`context.c:519-559`) with `rk_mpp_dec_enqueue_job`, which
moves the sequence headers of the job into the cache. -/
def rkEndPicture (profile : DecodeProfile) (call : EndCall) (c : PictureState) :
    PictureState × EndResult :=
  match c.render with
  | none => (c, ⟨some .operationFailed, none⟩)
  | some target =>
    let (built, spsSent) := rkMppDecBuildJob profile call.buffers call.memory target c
    let c := { c with pending := [], render := none, spsSent := spsSent }
    match built with
    | .error e => (c, ⟨some e, none⟩)
    | .ok job =>
      if call.workerStop then (c, ⟨some .operationFailed, some job⟩)
      else
        ({ c with hevcSequenceHeaders := job.hevcSequenceHeaders.orElse fun _ =>
            c.hevcSequenceHeaders }, ⟨none, some job⟩)

/-! ## Runs -/

/-- A picture parameter buffer of zeros. -/
def zeroPp : VAPictureParameterBufferH264 where
  pictureWidthInMbsMinus1 := 0
  pictureHeightInMbsMinus1 := 0
  bitDepthLumaMinus8 := 0
  bitDepthChromaMinus8 := 0
  numRefFrames := 0
  chromaFormatIdc := 0
  residualColourTransformFlag := false
  gapsInFrameNumValueAllowedFlag := false
  frameMbsOnlyFlag := false
  mbAdaptiveFrameFieldFlag := false
  direct8x8InferenceFlag := false
  minLumaBiPredSize8x8 := false
  log2MaxFrameNumMinus4 := 0
  picOrderCntType := 0
  log2MaxPicOrderCntLsbMinus4 := 0
  deltaPicOrderAlwaysZeroFlag := false
  picInitQpMinus26 := 0
  picInitQsMinus26 := 0
  chromaQpIndexOffset := 0
  secondChromaQpIndexOffset := 0
  entropyCodingModeFlag := false
  weightedPredFlag := false
  weightedBipredIdc := 0
  transform8x8ModeFlag := false
  fieldPicFlag := false
  constrainedIntraPredFlag := false
  picOrderPresentFlag := false
  deblockingFilterControlPresentFlag := false
  redundantPicCntPresentFlag := false

/-- An HEVC picture parameter buffer of zeros. -/
def zeroHevcPp : VAPictureParameterBufferHEVC where
  currPic := ⟨0, 0, 0⟩
  referenceFrames := fun _ => ⟨0, 0, 0⟩
  picWidthInLumaSamples := 0
  picHeightInLumaSamples := 0
  chromaFormatIdc := 0
  separateColourPlaneFlag := false
  pcmEnabledFlag := false
  scalingListEnabledFlag := false
  transformSkipEnabledFlag := false
  ampEnabledFlag := false
  strongIntraSmoothingEnabledFlag := false
  signDataHidingEnabledFlag := false
  constrainedIntraPredFlag := false
  cuQpDeltaEnabledFlag := false
  weightedPredFlag := false
  weightedBipredFlag := false
  transquantBypassEnabledFlag := false
  tilesEnabledFlag := false
  entropyCodingSyncEnabledFlag := false
  ppsLoopFilterAcrossSlicesEnabledFlag := false
  loopFilterAcrossTilesEnabledFlag := false
  pcmLoopFilterDisabledFlag := false
  noPicReorderingFlag := false
  spsMaxDecPicBufferingMinus1 := 0
  bitDepthLumaMinus8 := 0
  bitDepthChromaMinus8 := 0
  pcmSampleBitDepthLumaMinus1 := 0
  pcmSampleBitDepthChromaMinus1 := 0
  log2MinLumaCodingBlockSizeMinus3 := 0
  log2DiffMaxMinLumaCodingBlockSize := 0
  log2MinTransformBlockSizeMinus2 := 0
  log2DiffMaxMinTransformBlockSize := 0
  log2MinPcmLumaCodingBlockSizeMinus3 := 0
  log2DiffMaxMinPcmLumaCodingBlockSize := 0
  maxTransformHierarchyDepthIntra := 0
  maxTransformHierarchyDepthInter := 0
  initQpMinus26 := 0
  diffCuQpDeltaDepth := 0
  ppsCbQpOffset := 0
  ppsCrQpOffset := 0
  log2ParallelMergeLevelMinus2 := 0
  numTileColumnsMinus1 := 0
  numTileRowsMinus1 := 0
  columnWidthMinus1 := fun _ => 0
  rowHeightMinus1 := fun _ => 0
  listsModificationPresentFlag := false
  longTermRefPicsPresentFlag := false
  spsTemporalMvpEnabledFlag := false
  cabacInitPresentFlag := false
  outputFlagPresentFlag := false
  dependentSliceSegmentsEnabledFlag := false
  ppsSliceChromaQpOffsetsPresentFlag := false
  sampleAdaptiveOffsetEnabledFlag := false
  deblockingFilterOverrideEnabledFlag := false
  ppsDisableDeblockingFilterFlag := false
  sliceSegmentHeaderExtensionPresentFlag := false
  log2MaxPicOrderCntLsbMinus4 := 0
  numShortTermRefPicSets := 0
  numLongTermRefPicSps := 0
  numRefIdxL0DefaultActiveMinus1 := 0
  numRefIdxL1DefaultActiveMinus1 := 0
  ppsBetaOffsetDiv2 := 0
  ppsTcOffsetDiv2 := 0
  numExtraSliceHeaderBits := 0
  stRpsBits := 0

/-- A context after `rk_CreateContext`: `calloc` and `sps_sent = false`. -/
def PictureState.created : PictureState where
  render := none
  pending := []
  lastPp := zeroPp
  lastIq := ⟨fun _ _ => 0, fun _ _ => 0⟩
  hasIq := false
  spsSent := false
  lastHevcPp := zeroHevcPp
  lastHevcIq := ⟨fun _ _ => 0, fun _ _ => 0, fun _ _ => 0, fun _ _ => 0, fun _ => 0, fun _ => 0⟩
  hasHevcPp := false
  hasHevcIq := false
  hevcSequenceHeaders := none

/-- A call of the application on the context. -/
inductive PictureCall
  | begin (target : RenderTarget)
  | render (call : RenderCall)
  | finish (call : EndCall)

/-- The context after a call. -/
def performCall (profile : DecodeProfile) (c : PictureState) : PictureCall → PictureState
  | .begin target => rkBeginPicture target c
  | .render call => rkRenderPicture profile.coding call c
  | .finish call => (rkEndPicture profile call c).1

/-- The context after a sequence of calls. -/
def performCalls (profile : DecodeProfile) (c : PictureState) (calls : List PictureCall) :
    PictureState :=
  calls.foldl (performCall profile) c

/-! ## What a picture renders -/

/-- `reserve_pending` lets a call through. -/
def RenderCall.Taken (pending : List BufferId) (call : RenderCall) : Prop :=
  pending.length + call.ids.length ≤ pendingLimit ∧ call.granted = true

instance (pending : List BufferId) (call : RenderCall) : Decidable (call.Taken pending) :=
  inferInstanceAs (Decidable (_ ∧ _))

/-- The ids that are pending after a sequence of calls, and the contents the calls found. -/
def takenBy : List BufferId → List RenderCall → List BufferId × List (Option VABuffer)
  | pending, [] => (pending, [])
  | pending, call :: calls =>
    if call.Taken pending then
      let (ids, contents) := takenBy (pending ++ call.ids) calls
      (ids, call.contents ++ contents)
    else takenBy pending calls

/-- The order in which the pending ids and a snapshot are written does not matter. -/
theorem snapshot_pending_comm (coding : Coding) (c : PictureState) (buffer : Option VABuffer)
    (ids : List BufferId) :
    snapshot coding { c with pending := ids } buffer =
      { snapshot coding c buffer with pending := ids } := by
  unfold snapshot
  split
  · split <;> rfl
  · split <;> rfl
  · rfl

theorem snapshots_pending_comm (coding : Coding) (buffers : List (Option VABuffer)) :
    ∀ (c : PictureState) (ids : List BufferId),
      buffers.foldl (snapshot coding) { c with pending := ids } =
        { buffers.foldl (snapshot coding) c with pending := ids } := by
  induction buffers with
  | nil => intro c ids; rfl
  | cons buffer buffers ih =>
    intro c ids
    rw [List.foldl_cons, List.foldl_cons, snapshot_pending_comm, ih]

theorem snapshot_render (coding : Coding) (c : PictureState) (buffer : Option VABuffer) :
    (snapshot coding c buffer).render = c.render := by
  unfold snapshot
  split
  · split <;> rfl
  · split <;> rfl
  · rfl

theorem snapshots_render (coding : Coding) (buffers : List (Option VABuffer)) (c : PictureState) :
    (buffers.foldl (snapshot coding) c).render = c.render := by
  induction buffers generalizing c with
  | nil => rfl
  | cons buffer buffers ih => rw [List.foldl_cons, ih, snapshot_render]

/-- The calls of a picture together: the snapshots of all contents they found. -/
theorem renderAll_eq (coding : Coding) :
    ∀ (calls : List RenderCall) (c : PictureState),
      renderAll coding calls c =
        { (takenBy c.pending calls).2.foldl (snapshot coding) c with
          pending := (takenBy c.pending calls).1 } := by
  intro calls
  induction calls with
  | nil => intro c; rfl
  | cons call calls ih =>
    intro c
    have step : renderAll coding (call :: calls) c =
        renderAll coding calls (rkRenderPicture coding call c) := rfl
    rw [step]
    by_cases taken : call.Taken c.pending
    · have rendered : rkRenderPicture coding call c =
          { call.contents.foldl (snapshot coding) c with pending := c.pending ++ call.ids } := by
        obtain ⟨room, granted⟩ := taken
        unfold rkRenderPicture
        rw [if_neg (by simp [granted]; omega)]
      rw [rendered, ih, takenBy, if_pos taken, snapshots_pending_comm]
      simp [List.foldl_append]
    · have refused : rkRenderPicture coding call c = c := by
        unfold rkRenderPicture
        rw [if_pos]
        by_contra both
        simp only [not_or, not_lt, Bool.not_eq_true, Bool.not_eq_false'] at both
        exact taken ⟨both.1, by simpa using both.2⟩
      rw [refused, ih, takenBy, if_neg taken]

/-- What `rk_EndPicture` returns for an open picture, from the packet that was built. -/
theorem rkEndPicture_packet (profile : DecodeProfile) (call : EndCall) {c : PictureState}
    {target : RenderTarget} (render : c.render = some target) :
    (rkEndPicture profile call c).2.packet =
      match (rkMppDecBuildJob profile call.buffers call.memory target c).1.map DecodeJob.data with
      | .error e => (some e, none)
      | .ok data => (if call.workerStop then some .operationFailed else none, some data) := by
  unfold rkEndPicture
  rw [render]
  dsimp only
  cases (rkMppDecBuildJob profile call.buffers call.memory target c).1 with
  | error e => rfl
  | ok job =>
    by_cases stop : call.workerStop = true
    · simp [stop, EndResult.packet, Except.map]
    · simp [stop, EndResult.packet, Except.map]

/-! ## Builds that agree -/

theorem ofH264Job_data (built : Except VAError H264Job) :
    (built.map ofH264Job).map DecodeJob.data = built.map H264Job.data := by
  cases built <;> rfl

/-- `build_h264_job` makes the same packet, or fails alike, for calls that agree on what it takes
from the context and from the pending buffers. -/
theorem buildH264Job_data_congr {profile : H264.VAProfile} (call call' : EndPictureCall)
    (pp : call.lastPp = call'.lastPp) (matrix : ppsMatrix profile call = ppsMatrix profile call')
    (idr : isIdr call.pending = isIdr call'.pending)
    (counts : firstSliceCounts call.pending = firstSliceCounts call'.pending)
    (slices : ∀ packet, H264.appendSlices call'.alloc call.pending packet =
      H264.appendSlices call'.alloc call'.pending packet)
    (alloc : call.alloc = call'.alloc) (created : call.jobCreated = call'.jobCreated)
    (spsSent : Bool) (target target' : Nat × UInt64) :
    (buildH264Job profile spsSent call target).1.map H264Job.data =
      (buildH264Job profile spsSent call' target').1.map H264Job.data := by
  have sps : appendSps profile spsSent call = appendSps profile spsSent call' := by
    unfold appendSps
    rw [pp, idr, alloc]
  have pps : ∀ packet, appendPps profile call packet = appendPps profile call' packet := by
    intro packet
    unfold appendPps
    rw [pp, matrix, counts, alloc]
  unfold buildH264Job
  rw [sps, created, alloc]
  obtain ⟨packet, sent⟩ := appendSps profile spsSent call'
  dsimp only [bind, Except.bind]
  cases packet with
  | error e => simp only [Except.map]
  | ok packet =>
    simp only [pps]
    cases appendPps profile call' packet with
    | error e => simp only [Except.map]
    | ok packet =>
      simp only [slices]
      cases H264.appendSlices call'.alloc call'.pending packet with
      | error e => simp only [Except.map]
      | ok packet =>
        by_cases created : call'.jobCreated = true <;>
          simp [created, Except.map, pure, Except.pure]

/-- `build_hevc_job` for states that agree on the parameters and on whether the sequence headers
are the cached ones, and for pending buffers with the same slices. -/
theorem buildHevcJob_data_congr {profileIdc : Nat} {c c' : HevcState} (pp : c.pp = c'.pp)
    (iq : c.iq = c'.iq)
    (sent : ∀ pp headers, c'.pp = some pp →
      rkHevcWriteSequenceParameterSets 4096 pp c'.iq profileIdc = some headers →
        (c.sequenceHeaders = some headers ↔ c'.sequenceHeaders = some headers))
    (memory : BuildMemory) {pending pending' : List (Option VABuffer)}
    (info : firstSliceInfo pending = firstSliceInfo pending')
    (slices : ∀ pp packet, c'.pp = some pp → Hevc.appendSlices memory pp pending none 0 packet =
      Hevc.appendSlices memory pp pending' none 0 packet) (target target' : Nat × UInt64) :
    (Hevc.buildHevcJob profileIdc c memory pending target).map DecodeJob.data =
      (Hevc.buildHevcJob profileIdc c' memory pending' target').map DecodeJob.data := by
  unfold Hevc.buildHevcJob
  rw [pp, info]
  cases hasPp : c'.pp with
  | none => rfl
  | some pp =>
    cases firstSliceInfo pending' with
    | none => rfl
    | some info =>
      have headers : pictureHeaders profileIdc c pp info.ppsId =
          pictureHeaders profileIdc c' pp info.ppsId := by
        unfold pictureHeaders
        rw [iq]
        cases written : rkHevcWriteSequenceParameterSets 4096 pp c'.iq profileIdc with
        | none => rfl
        | some sequence => simp only [sent pp sequence hasPp written]
      dsimp only
      rw [headers]
      split
      · rfl
      · cases pictureHeaders profileIdc c' pp info.ppsId with
        | error e => rfl
        | ok sets =>
          simp only [bind, Except.bind]
          cases packetAppend memory.alloc .empty sets.2 with
          | error e => rfl
          | ok packet =>
            simp only [slices pp packet hasPp]
            cases Hevc.appendSlices memory pp pending' none 0 packet with
            | error e => rfl
            | ok slices =>
              dsimp only
              split
              · rfl
              · by_cases created : memory.jobCreated = true
                · simp only [decodeJobCreate, created, if_true]
                  split <;> rfl
                · simp [decodeJobCreate, created]

/-- `build_generic_job` reads nothing but the slices. -/
theorem buildGenericJob_data_congr (profile : Nat) (memory : BuildMemory)
    {pending pending' : List (Option VABuffer)}
    (slices : Vp9.appendSlices memory.alloc pending .empty =
      Vp9.appendSlices memory.alloc pending' .empty) (target target' : Nat × UInt64) :
    (Vp9.buildGenericJob profile memory pending target).map DecodeJob.data =
      (Vp9.buildGenericJob profile memory pending' target').map DecodeJob.data := by
  unfold Vp9.buildGenericJob
  rw [slices]
  cases Vp9.appendSlices memory.alloc pending' .empty with
  | error e => rfl
  | ok packet =>
    simp only [bind, Except.bind]
    cases Vp9.packetInfo profile packet.data with
    | error e => rfl
    | ok info =>
      by_cases created : memory.jobCreated = true <;>
        simp [decodeJobCreate, created, Except.map, pure, Except.pure]

end RockchipVaapi.Picture
