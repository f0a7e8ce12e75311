import RockchipVaapi.Surface.ImageRoundTrip

/-!
# The repacked export

`rk_ExportSurfaceHandle` keeps a repacked picture and the fence it was made for. Over the steps of
a surface this module puts the bytes of its buffers, and follows what an export of a repacked
picture shows.
-/

namespace RockchipVaapi.Surface

open Memory Transition

/-! ## Pictures in memory -/

/-- Two memories show the same NV12 picture of a size, each in a layout of its own. -/
structure SameVisible (width height : Nat) (a : Bytes) (aStride aRows : Nat) (b : Bytes)
    (bStride bRows : Nat) : Prop where
  luma : ∀ x < width, ∀ y < height, a (y * aStride + x) = b (y * bStride + x)
  chroma : ∀ x < width, ∀ y < height / 2,
    a (aStride * aRows + y * aStride + x) = b (bStride * bRows + y * bStride + x)

/-- What `rk_repack_nv12` leaves in the destination when it reports success. The RGA that copies is
not part of the driver; it is relied on for the visible rectangle. -/
structure RepackNv12 where
  copy : (width height sourceStride sourceRows stride rows : Nat) → Bytes → Bytes → Bytes
  visible : ∀ {width height sourceStride sourceRows stride rows : Nat} (src dst : Bytes),
    width ≤ sourceStride → height ≤ sourceRows → width ≤ stride → height ≤ rows →
    SameVisible width height (copy width height sourceStride sourceRows stride rows src dst) stride
      rows src sourceStride sourceRows

/-- A copy of the visible rows. -/
def repackRows (width height sourceStride sourceRows stride rows : Nat) (src dst : Bytes) : Bytes :=
  forLoop (copyRow (stride * rows) stride src (sourceStride * sourceRows) sourceStride width)
    (height / 2) (forLoop (copyRow 0 stride src 0 sourceStride width) height dst)

theorem repackRows_visible {width height sourceStride sourceRows stride rows : Nat}
    (src dst : Bytes) (wide : width ≤ stride) (tall : height ≤ rows) :
    SameVisible width height (repackRows width height sourceStride sourceRows stride rows src dst)
      stride rows src sourceStride sourceRows := by
  constructor
  · intro x inside y small
    have luma := copyRow_apply 0 0 sourceStride src dst wide small inside
    rw [Nat.zero_add, Nat.zero_add] at luma
    unfold repackRows
    rw [forLoop_outside (fun k _ => copyRow_sets (stride * rows) stride src _ sourceStride width k)]
    · exact luma
    · -- the chroma begins below the last row of luma
      rintro k - ⟨from_here, -⟩
      have last : y * stride + stride ≤ rows * stride := by
        rw [← Nat.succ_mul]
        exact Nat.mul_le_mul_right stride (by omega)
      rw [Nat.mul_comm stride rows] at from_here
      omega
  · intro x inside y small
    exact copyRow_apply _ _ sourceStride src _ wide small inside

/-- The copy that only writes the visible rows. -/
def rowsRepack : RepackNv12 := ⟨repackRows, fun src dst _ _ wide tall =>
  repackRows_visible src dst wide tall⟩

/-! ## The steps with the bytes they write -/

/-- A surface with the bytes of its buffers, and those of the picture that a call of
`assign_mpp_frame` is about to publish, by the fence of the route. -/
structure CacheState where
  base : SurfaceState
  memory : PictureMemory
  outputs : Nat → Bytes

/-- A step of a surface, with the bytes that MPP, the RGA or the allocator leave in the buffer that
it writes, or a call of `rk_PutImage`. -/
inductive CacheAction
  | surface (a : SurfaceAction) (bytes : Bytes)
  | putImage (access : CpuAccess) (image : RKImage) (source target : Rect) (src : Bytes)

/-- The frame comes to be copied into permanent storage, whether the copy succeeds or not. -/
def writesPriv (d : Delivery) (env : AssignEnv) (fence : Nat) (g : FrameGeometry)
    (s : RKSurface) : Bool :=
  (checkFrame d env g).any fun output =>
    rkSurfaceCopyToStableExport s output.outputBuffer g.frameW.toNat g.frameH.toNat
      output.hstride.toNat output.vstride.toNat output.converted10bit fence true ==
      .copied s.hstride s.vstride

/-- `aligned_hstride` of an export (`export.c:150-152`). -/
def alignedHstride (hstride : Int) : Int :=
  toInt ((hstride + drmLinearNv12PitchAlignment - 1) / drmLinearNv12PitchAlignment *
    drmLinearNv12PitchAlignment)

/-- `allocation_valid` of an export, before a replacement is made (`export.c:157-160`). -/
def exportReused (s : RKSurface) (hstride vstride : Int) (size : Nat) : Bool :=
  s.exportBuf.any fun buffer =>
    decide (s.exportHstride = hstride ∧ s.exportVstride = vstride ∧ size ≤ buffer.size)

/-- The bytes of `export_buf` behind the second section of an export: what was there, or in a new
buffer or after a copy that failed whatever is left there, or a copy. -/
def exportedBytes (repack : RepackNv12) (s : RKSurface) (env : ExportEnv) (m : PictureMemory)
    (bytes : Bytes) : Bytes :=
  let hstride := s.exportedHstride
  let vstride := s.exportedVstride
  let aligned := alignedHstride hstride
  if !s.needsRepack || decide (aligned < s.width) || decide (vstride < s.height) then m.exported
  else
    match rkNv12LayoutSize aligned.toNat vstride.toNat with
    | none => m.exported
    | some size =>
      match exportAllocation s env.alloc aligned vstride size with
      | none => m.exported
      | some (s', buffer) =>
        let held := if exportReused s aligned vstride size then m.exported else bytes
        if s'.exportFence = s'.fence then held
        else if rkRepackNv12 s.activeBuffer (some buffer) s.width.toNat s.height.toNat
            hstride.toNat vstride.toNat aligned.toNat vstride.toNat env.repacks then
          repack.copy s.width.toNat s.height.toNat hstride.toNat vstride.toNat aligned.toNat
            vstride.toNat (s.activeBytes m) held
        else bytes

/-- The bytes behind a step of the surface. -/
def CacheState.memoryAfter (repack : RepackNv12) (st : CacheState) (bytes : Bytes) :
    SurfaceAction → PictureMemory
  | .prepare fence env =>
    match st.base.calls fence with
    | some (.measured d g) =>
      if writesPriv d env fence g st.base.surface then { st.memory with priv := bytes }
      else st.memory
    | _ => st.memory
  | .finish fence =>
    match st.base.calls fence with
    | some (.prepared _ _ _) =>
      if st.base.surface.fence = fence then { st.memory with bound := st.outputs fence }
      else st.memory
    | _ => st.memory
  | .exportBuffer _ env _ =>
    { st.memory with exported := exportedBytes repack st.base.surface env st.memory bytes }
  | _ => st.memory

/-- The pictures to be published behind a step of the surface. -/
def CacheState.outputsAfter (st : CacheState) (bytes : Bytes) : SurfaceAction → Nat → Bytes
  | .prepare fence _ => setAt st.outputs fence bytes
  | _ => st.outputs

def cacheStep (repack : RepackNv12) (st : CacheState) : CacheAction → Option CacheState
  | .surface a bytes =>
    (surfaceStep st.base a).map fun base =>
      ⟨base, st.memoryAfter repack bytes a, st.outputsAfter bytes a⟩
  | .putImage access image source target src =>
    some { st with memory :=
      { st.memory with
        priv := (rkPutImage access st.base.surface image source target src st.memory.priv).2 } }

/-- The cache is that of the fence. -/
def CacheState.cached (st : CacheState) (fence : Nat) : Bool :=
  st.base.surface.exportBuf.isSome && st.base.surface.exportFence == fence

/-- What leaves a picture alone that was exported under the current fence: no image is put into the
placeholder while it is shown, no frame is copied there or published, and the fence of a picture
that begins is another one. -/
def keepsCache (st : CacheState) : CacheAction → Bool
  | .putImage access image source target _ =>
    !st.cached st.base.surface.fence || st.base.surface.holdsPicture ||
      (putTarget access st.base.surface image source target).isNone
  | .surface (.begin ctxId avc) _ =>
    st.base.surface.continuation ctxId avc || !st.cached (nextFence st.base.surface.fence)
  | .surface (.prepare fence env) _ =>
    match st.base.calls fence with
    | some (.measured d g) =>
      !st.cached st.base.surface.fence || st.base.surface.holdsPicture ||
        !writesPriv d env fence g st.base.surface
    | _ => true
  | .surface (.finish fence) _ =>
    match st.base.calls fence with
    | some (.prepared _ _ _) => st.base.surface.fence != fence || !st.cached fence
    | _ => true
  | _ => true

/-! ## The invariant -/

/-- `export_buf` shows the picture that the surface is bound to. -/
def ShowsBound (s : RKSurface) (m : PictureMemory) : Prop :=
  SameVisible s.width.toNat s.height.toNat m.exported s.exportHstride.toNat s.exportVstride.toNat
    (s.activeBytes m) s.exportedHstride.toNat s.exportedVstride.toNat

structure CacheInv (st : CacheState) : Prop where
  calls : st.base.calls 0 = none
  issued : st.base.surface.decoded = true → st.base.surface.fence ≠ 0
  fresh : st.cached st.base.surface.fence = true → st.base.surface.fence ≠ 0 →
    ShowsBound st.base.surface st.memory

/-- A step that leaves the cache, what is shown and its layout as they are. -/
structure SameShown (st st' : CacheState) : Prop where
  width : st'.base.surface.width = st.base.surface.width
  height : st'.base.surface.height = st.base.surface.height
  hstride : st'.base.surface.hstride = st.base.surface.hstride
  vstride : st'.base.surface.vstride = st.base.surface.vstride
  fence : st'.base.surface.fence = st.base.surface.fence
  exportBuf : st'.base.surface.exportBuf = st.base.surface.exportBuf
  exportFence : st'.base.surface.exportFence = st.base.surface.exportFence
  exportHstride : st'.base.surface.exportHstride = st.base.surface.exportHstride
  exportVstride : st'.base.surface.exportVstride = st.base.surface.exportVstride
  exported : st'.memory.exported = st.memory.exported
  bytes : st'.base.surface.activeBytes st'.memory = st.base.surface.activeBytes st.memory

/-- A surface with other flags and another owner. -/
def RKSurface.flagged (s : RKSurface) (decoded decodeFailed h264FieldPending stableExport : Bool)
    (ctxId : Nat) : RKSurface :=
  { s with
    decoded := decoded, decodeFailed := decodeFailed, h264FieldPending := h264FieldPending
    stableExport := stableExport, ctxId := ctxId }

section

variable {st st' : CacheState}

theorem SameShown.of_flagged {decoded decodeFailed pending stable : Bool} {ctxId : Nat}
    (surface : st'.base.surface =
      st.base.surface.flagged decoded decodeFailed pending stable ctxId)
    (memory : st'.memory = st.memory) : SameShown st st' := by
  obtain ⟨⟨surface', calls, exports, established, pixels, lastOutput⟩, memory', outputs⟩ := st'
  dsimp only at surface memory
  subst surface memory
  exact ⟨rfl, rfl, rfl, rfl, rfl, rfl, rfl, rfl, rfl, rfl, rfl⟩

theorem CacheInv.shown (h : CacheInv st) (same : SameShown st st')
    (calls : st'.base.calls 0 = none)
    (issued : st'.base.surface.decoded = true → st'.base.surface.fence ≠ 0) : CacheInv st' where
  calls := calls
  issued := issued
  fresh := by
    intro cached positive
    rw [CacheState.cached, same.exportBuf, same.exportFence, same.fence] at cached
    rw [same.fence] at positive
    have shown := h.fresh cached positive
    unfold ShowsBound RKSurface.exportedHstride RKSurface.exportedVstride at shown ⊢
    rw [same.width, same.height, same.hstride, same.vstride, same.exportHstride,
      same.exportVstride, same.exported, same.bytes]
    exact shown

/-- Where the current fence is not that of the cache, nothing is claimed of it. -/
theorem CacheInv.uncached (calls : st.base.calls 0 = none)
    (issued : st.base.surface.decoded = true → st.base.surface.fence ≠ 0)
    (uncached : st.cached st.base.surface.fence = false) : CacheInv st where
  calls := calls
  issued := issued
  fresh := fun cached => absurd (uncached.symm.trans cached) Bool.false_ne_true

/-! ## The export -/

variable {s s' : RKSurface} {env : ExportEnv}

theorem exportAllocation_cases {hstride vstride : Int} {size : Nat} {buffer : MppBuffer}
    (h : exportAllocation s env.alloc hstride vstride size = some (s', buffer)) :
    s' = s ∧ s.exportBuf = some buffer ∧ s.exportHstride = hstride ∧ s.exportVstride = vstride ∧
        exportReused s hstride vstride size = true ∨
      s'.decoding = s.decoding ∧ s'.exportBuf = some buffer ∧ s'.exportHstride = hstride ∧
        s'.exportVstride = vstride ∧ s'.exportFence = 0 := by
  obtain ⟨decoding, -, held, pitch, rows, room, rfl | fence⟩ := exportAllocation_some h
  · refine .inl ⟨rfl, held, pitch, rows, ?_⟩
    rw [exportReused, held]
    exact decide_eq_true ⟨pitch, rows, room⟩
  · exact .inr ⟨decoding, held, pitch, rows, fence⟩

/-- A copy that succeeds shows the visible picture of its source. -/
theorem RepackNv12.shows (repack : RepackNv12) {source destination : Option MppBuffer}
    {width height sourceStride sourceRows stride rows : Nat} {done : Bool} (src dst : Bytes)
    (copied : rkRepackNv12 source destination width height sourceStride sourceRows stride rows done =
      true) :
    SameVisible width height (repack.copy width height sourceStride sourceRows stride rows src dst)
      stride rows src sourceStride sourceRows := by
  obtain ⟨wide, tall, -⟩ := rkRepackNv12_true copied
  have layout : (repackLayout false source destination width height sourceStride sourceRows stride
      rows).isSome := by
    unfold rkRepackNv12 at copied
    split at copied
    · cases copied
    · rename_i layout found
      rw [found]
      rfl
  have enough : width ≤ sourceStride ∧ height ≤ sourceRows := by
    unfold repackLayout at layout
    split at layout
    · split at layout
      · cases layout
      · rename_i valid
        simp only [not_or, Nat.not_lt] at valid
        exact ⟨valid.2.2.2.2.1, valid.2.2.2.2.2.1⟩
    · cases layout
  exact repack.visible src dst enough.1 enough.2 wide tall

/-- A decoded surface is no placeholder. -/
theorem markStable_decoded (decoded : s.decoded = true) : markStable s = s := by
  unfold markStable RKSurface.isPlaceholder
  rw [decoded]
  rfl

theorem exportSection_unpacked (env : ExportEnv) (unpacked : s.needsRepack = false) :
    (exportSection s env).1 = s ∨ (exportSection s env).1 = markStable s := by
  unfold exportSection
  split
  · exact .inl rfl
  · dsimp only
    rw [unpacked, if_neg Bool.false_ne_true]
    exact .inr rfl

/-- What only exports write does not count for the picture that is bound. -/
theorem shown_congr {m : PictureMemory} (same : s'.decoding = s.decoding)
    (visible : SameVisible s.width.toNat s.height.toNat m.exported s'.exportHstride.toNat
      s'.exportVstride.toNat (s.activeBytes m) s.exportedHstride.toNat s.exportedVstride.toNat) :
    ShowsBound s' m := by
  have width : s'.width = s.width := (congrArg RKSurface.width same :)
  have height : s'.height = s.height := (congrArg RKSurface.height same :)
  have hstride : s'.exportedHstride = s.exportedHstride :=
    (congrArg RKSurface.exportedHstride same :)
  have vstride : s'.exportedVstride = s.exportedVstride :=
    (congrArg RKSurface.exportedVstride same :)
  have bytes : s'.activeBytes m = s.activeBytes m :=
    (congrArg (fun s => RKSurface.activeBytes s m) same :)
  unfold ShowsBound
  rw [width, height, hstride, vstride, bytes]
  exact visible

/-- The ways through the repacking, with the surface, the result and the bytes of `export_buf` that
each of them leaves. -/
inductive RepackMove (repack : RepackNv12) (s : RKSurface) (env : ExportEnv) (m : PictureMemory)
    (bytes : Bytes) : RKSurface × Except VAStatus (MppBuffer × Int) → Bytes → Prop
  | refused {status : VAStatus} : RepackMove repack s env m bytes (s, .error status) m.exported
  | held {s' : RKSurface} {buffer : MppBuffer} {size : Nat}
      (allocated : exportAllocation s env.alloc (alignedHstride s.exportedHstride)
        s.exportedVstride size = some (s', buffer))
      (current : s'.exportFence = s'.fence) :
    RepackMove repack s env m bytes
      ({ s' with exportFence := s'.fence }, .ok (buffer, alignedHstride s.exportedHstride))
      (if exportReused s (alignedHstride s.exportedHstride) s.exportedVstride size then m.exported
        else bytes)
  | failed {s' : RKSurface} {buffer : MppBuffer} {size : Nat} {status : VAStatus}
      (allocated : exportAllocation s env.alloc (alignedHstride s.exportedHstride)
        s.exportedVstride size = some (s', buffer))
      (old : s'.exportFence ≠ s'.fence) :
    RepackMove repack s env m bytes (s', .error status) bytes
  | copied {s' : RKSurface} {buffer : MppBuffer} {size : Nat} {held : Bytes}
      (allocated : exportAllocation s env.alloc (alignedHstride s.exportedHstride)
        s.exportedVstride size = some (s', buffer))
      (copied : rkRepackNv12 s.activeBuffer (some buffer) s.width.toNat s.height.toNat
        s.exportedHstride.toNat s.exportedVstride.toNat (alignedHstride s.exportedHstride).toNat
        s.exportedVstride.toNat env.repacks = true) :
    RepackMove repack s env m bytes
      ({ s' with exportFence := s'.fence }, .ok (buffer, alignedHstride s.exportedHstride))
      (repack.copy s.width.toNat s.height.toNat s.exportedHstride.toNat s.exportedVstride.toNat
        (alignedHstride s.exportedHstride).toNat s.exportedVstride.toNat (s.activeBytes m) held)

theorem repackForExport_move (repack : RepackNv12) (env : ExportEnv) (m : PictureMemory) (bytes : Bytes)
    (packs : s.needsRepack = true) :
    RepackMove repack s env m bytes (repackForExport s env s.exportedHstride s.exportedVstride)
      (exportedBytes repack s env m bytes) := by
  have aligned : toInt ((s.exportedHstride + drmLinearNv12PitchAlignment - 1) /
      drmLinearNv12PitchAlignment * drmLinearNv12PitchAlignment) =
        alignedHstride s.exportedHstride := rfl
  unfold repackForExport exportedBytes
  rw [packs]
  simp only [aligned, Bool.not_true, Bool.false_or, Bool.or_eq_true, decide_eq_true_eq]
  by_cases fits : s.width ≤ alignedHstride s.exportedHstride ∧ s.height ≤ s.exportedVstride
  · rw [if_pos fits, if_neg (by omega)]
    cases rkNv12LayoutSize (alignedHstride s.exportedHstride).toNat s.exportedVstride.toNat with
    | none => exact .refused
    | some size =>
      dsimp only
      cases allocated : exportAllocation s env.alloc (alignedHstride s.exportedHstride)
          s.exportedVstride size with
      | none => exact .refused
      | some result =>
        obtain ⟨s', buffer⟩ := result
        dsimp only
        by_cases current : s'.exportFence = s'.fence
        · rw [if_neg (by simp [current]), if_pos current]
          exact .held allocated current
        · rw [if_neg current]
          cases done : rkRepackNv12 s.activeBuffer (some buffer) s.width.toNat s.height.toNat
              s.exportedHstride.toNat s.exportedVstride.toNat
              (alignedHstride s.exportedHstride).toNat s.exportedVstride.toNat env.repacks with
          | false =>
            rw [if_pos ⟨current, rfl⟩, if_neg Bool.false_ne_true]
            exact .failed allocated current
          | true =>
            rw [if_neg (by simp), if_pos rfl]
            exact .copied allocated done
  · rw [if_neg fits, if_pos (by omega)]
    exact .refused

/-- What the repacking leaves: a cache that is current shows the picture that is bound, and an export
that succeeds has made it current. -/
theorem RepackMove.shows {repack : RepackNv12} {m : PictureMemory} {bytes exported : Bytes}
    {r : RKSurface × Except VAStatus (MppBuffer × Int)}
    (move : RepackMove repack s env m bytes r exported) (issued : s.fence ≠ 0)
    (fresh : s.exportBuf.isSome = true → s.exportFence = s.fence → ShowsBound s m) :
    (r.1.exportBuf.isSome = true → r.1.exportFence = r.1.fence →
        ShowsBound r.1 { m with exported := exported }) ∧
      ∀ buffer hstride, r.2 = .ok (buffer, hstride) →
        r.1.exportBuf = some buffer ∧ r.1.exportFence = r.1.fence := by
  cases move with
  | refused => exact ⟨fresh, fun buffer hstride ok => by cases ok⟩
  | failed _ old => exact ⟨fun _ current => absurd current old, fun buffer hstride ok => by cases ok⟩
  | held allocated current =>
    rcases exportAllocation_cases allocated with
      ⟨rfl, present, -, -, reused⟩ | ⟨same, -, -, -, none_yet⟩
    · rw [if_pos reused]
      have shown := fresh (by rw [present]; rfl) current
      refine ⟨fun _ _ => shown, fun buffer hstride ok => ?_⟩
      obtain ⟨rfl, rfl⟩ := Prod.mk.inj (Except.ok.inj ok)
      exact ⟨present, rfl⟩
    · -- a new buffer has fence 0, which no decoded picture has
      have fence := (congrArg RKSurface.fence same :)
      exact absurd (fence.symm.trans (current.symm.trans none_yet)) issued
  | @copied s' buffer size held allocated done =>
    have facts : s'.decoding = s.decoding ∧ s'.exportBuf = some buffer ∧
        s'.exportHstride = alignedHstride s.exportedHstride ∧
        s'.exportVstride = s.exportedVstride := by
      rcases exportAllocation_cases allocated with
        ⟨rfl, present, hstride, vstride, -⟩ | ⟨same, present, hstride, vstride, -⟩
      · exact ⟨rfl, present, hstride, vstride⟩
      · exact ⟨same, present, hstride, vstride⟩
    obtain ⟨same, present, hstride, vstride⟩ := facts
    refine ⟨fun _ _ => shown_congr same ?_, fun buffer hstride ok => ?_⟩
    · dsimp only
      rw [hstride, vstride]
      exact repack.shows _ _ done
    · obtain ⟨rfl, rfl⟩ := Prod.mk.inj (Except.ok.inj ok)
      exact ⟨present, rfl⟩

theorem needsRepack_facts (packs : s.needsRepack = true) :
    s.decoded = true ∧ s.imported = none := by
  simp only [RKSurface.needsRepack, Bool.and_eq_true, Option.isNone_iff_eq_none] at packs
  exact ⟨packs.1.1.1, packs.1.1.2⟩

/-- The second section of an export that repacks. -/
theorem exportSection_packed (env : ExportEnv) (packs : s.needsRepack = true) :
    (exportSection s env).1 = (repackForExport s env s.exportedHstride s.exportedVstride).1 ∧
      ∀ e, (exportSection s env).2 = .ok e → ∃ buffer hstride,
        (repackForExport s env s.exportedHstride s.exportedVstride).2 = .ok (buffer, hstride) ∧
          e = .single (exportLocals s (some buffer) hstride) := by
  obtain ⟨decoded, own⟩ := needsRepack_facts packs
  unfold exportSection
  rw [own, markStable_decoded decoded, packs]
  simp only [Option.filter_none, if_true]
  generalize repackForExport s env s.exportedHstride s.exportedVstride = r
  obtain ⟨s', status | ⟨buffer, hstride⟩⟩ := r
  · exact ⟨rfl, fun e ok => by cases ok⟩
  · exact ⟨rfl, fun e ok => ⟨buffer, hstride, rfl, (Except.ok.inj ok).symm⟩⟩

theorem exportedBytes_unpacked {repack : RepackNv12} {m : PictureMemory} {bytes : Bytes}
    (unpacked : s.needsRepack = false) : exportedBytes repack s env m bytes = m.exported := by
  unfold exportedBytes
  rw [unpacked]
  rfl

/-! ## The steps -/

theorem cacheInv_export (h : CacheInv st) (repack : RepackNv12) (thread : Nat) (composed : Bool)
    (bytes : Bytes) :
    CacheInv ⟨st.base.exportBuffer thread env composed,
      { st.memory with exported := exportedBytes repack st.base.surface env st.memory bytes },
      st.outputs⟩ := by
  obtain ⟨same, -⟩ := exportSection_decoding st.base.surface env
  have decoded := (congrArg RKSurface.decoded same :)
  have fence := (congrArg RKSurface.fence same :)
  have issued : (exportSection st.base.surface env).1.decoded = true →
      (exportSection st.base.surface env).1.fence ≠ 0 := by
    intro shown
    exact fun zero => h.issued (decoded.symm.trans shown) (fence.symm.trans zero)
  cases packs : st.base.surface.needsRepack with
  | false =>
    rw [exportedBytes_unpacked packs]
    obtain ⟨stable, marked⟩ : ∃ stable, (exportSection st.base.surface env).1 =
        st.base.surface.flagged st.base.surface.decoded st.base.surface.decodeFailed
          st.base.surface.h264FieldPending stable st.base.surface.ctxId := by
      rcases exportSection_unpacked env packs with eq | eq
      · exact ⟨st.base.surface.stableExport, eq⟩
      · refine ⟨(markStable st.base.surface).stableExport, eq.trans ?_⟩
        unfold markStable
        split <;> rfl
    exact h.shown (.of_flagged marked rfl) h.calls issued
  | true =>
    obtain ⟨shown, -⟩ := needsRepack_facts packs
    obtain ⟨surface, -⟩ := exportSection_packed env packs
    have move := repackForExport_move repack env st.memory bytes packs
    obtain ⟨fresh, -⟩ := move.shows (h.issued shown) fun present current => by
      refine h.fresh ?_ (h.issued shown)
      rw [CacheState.cached, present, current]
      simp
    constructor
    case calls => exact h.calls
    case issued => exact issued
    case fresh =>
      intro cached _
      have surface' : (st.base.exportBuffer thread env composed).surface =
          (repackForExport st.base.surface env st.base.surface.exportedHstride
            st.base.surface.exportedVstride).1 := surface
      rw [CacheState.cached, Bool.and_eq_true, beq_iff_eq] at cached
      dsimp only at cached ⊢
      rw [surface'] at cached ⊢
      exact fresh cached.1 cached.2

/-- No call has the fence of a surface that was never begun. -/
theorem surfaceStep_calls {base base' : SurfaceState} {a : SurfaceAction} (free : base.calls 0 = none)
    (hstep : surfaceStep base a = some base') : base'.calls 0 = none := by
  have set {fence : Nat} {call : Option AssignCall} (issued : fence ≠ 0) :
      setAt base.calls fence call 0 = none := (setAt_ne _ _ (Ne.symm issued)).trans free
  have move := surfaceStep_move hstep
  cases a with
  | begin | markField | complete | fail | exportCheck | exportSync | exportBuffer =>
    cases move <;> first | exact free | simp_all
  | arrive fence d =>
    simp only [surfaceStep] at hstep
    split at hstep
    · cases hstep
    · rename_i valid
      rw [not_or] at valid
      cases move with
      | settle kind => simp at kind
      | idle => exact free
      | measure => exact set valid.1
      | giveUp _ kind =>
        obtain ⟨d', same⟩ | ⟨env, same⟩ | ⟨same, -⟩ := kind
        · obtain ⟨rfl, -⟩ := SurfaceAction.arrive.inj same
          exact set valid.1
        · cases same
        · cases same
  | prepare fence env =>
    have issued : fence ≠ 0 := by
      rintro rfl
      rw [surfaceStep, free] at hstep
      cases hstep
    cases move with
    | settle kind => simp at kind
    | idle => exact free
    | prepare => exact set issued
    | giveUp _ kind =>
      obtain ⟨d', same⟩ | ⟨env, same⟩ | ⟨same, -⟩ := kind
      · cases same
      · obtain ⟨rfl, -⟩ := SurfaceAction.prepare.inj same
        exact set issued
      · cases same
  | finish fence =>
    have issued : fence ≠ 0 := by
      rintro rfl
      rw [surfaceStep, free] at hstep
      cases hstep
    cases move with
    | settle kind => simp at kind
    | idle => exact free
    | failed => exact set issued
    | publish => exact set issued
    | giveUp _ kind =>
      obtain ⟨d', same⟩ | ⟨env, same⟩ | ⟨same, -⟩ := kind
      · cases same
      · cases same
      · obtain rfl := SurfaceAction.finish.inj same
        exact set issued

/-- An image or a frame that is written to the placeholder is not shown, where a picture is held. -/
theorem activeBytes_priv {m : PictureMemory} (priv : Bytes) (held : s.holdsPicture = true) :
    s.activeBytes { m with priv := priv } = s.activeBytes m := by
  unfold RKSurface.activeBytes
  rw [held]
  cases s.imported <;> rfl

theorem cacheInv_putImage (h : CacheInv st) {access : CpuAccess} {image : RKImage}
    {source target : Rect} {src : Bytes}
    (ok : keepsCache st (.putImage access image source target src) = true) :
    CacheInv { st with memory :=
      { st.memory with
        priv := (rkPutImage access st.base.surface image source target src st.memory.priv).2 } } := by
  simp only [keepsCache, Bool.or_eq_true, Bool.not_eq_true', Option.isNone_iff_eq_none] at ok
  obtain (uncached | held) | refused := ok
  · exact .uncached h.calls h.issued uncached
  · refine h.shown ?_ h.calls h.issued
    exact ⟨rfl, rfl, rfl, rfl, rfl, rfl, rfl, rfl, rfl, rfl, activeBytes_priv _ held⟩
  · have same : (rkPutImage access st.base.surface image source target src st.memory.priv).2 =
        st.memory.priv := by rw [rkPutImage, refused]
    rw [same]
    exact h

/-- A call that measures a frame, or gives it up, writes at most the placeholder. -/
theorem prepare_kept (repack : RepackNv12) (h : CacheInv st) {fence : Nat} {env : AssignEnv}
    {bytes : Bytes} {base : SurfaceState}
    (ok : keepsCache st (.surface (.prepare fence env) bytes) = true)
    (surface : base.surface = st.base.surface) (calls : base.calls 0 = none) :
    CacheInv ⟨base, st.memoryAfter repack bytes (.prepare fence env),
      st.outputsAfter bytes (.prepare fence env)⟩ := by
  have issued : base.surface.decoded = true → base.surface.fence ≠ 0 := by
    rw [surface]
    exact h.issued
  have flagged : base.surface = st.base.surface.flagged st.base.surface.decoded
      st.base.surface.decodeFailed st.base.surface.h264FieldPending st.base.surface.stableExport
      st.base.surface.ctxId := surface
  simp only [keepsCache] at ok
  simp only [CacheState.memoryAfter]
  split at ok
  · rename_i d g call
    split
    · rename_i writes
      simp only [writes, Bool.not_true, Bool.or_false, Bool.or_eq_true, Bool.not_eq_true'] at ok
      rcases ok with uncached | held
      · refine .uncached calls issued ?_
        rw [CacheState.cached, surface]
        exact uncached
      · have written : SameShown st ⟨base, { st.memory with priv := bytes },
            st.outputsAfter bytes (.prepare fence env)⟩ := by
          have same : SameShown st ⟨base, st.memory, st.outputsAfter bytes (.prepare fence env)⟩ :=
            .of_flagged flagged rfl
          refine { same with exported := rfl, bytes := ?_ }
          rw [surface]
          exact activeBytes_priv _ held
        exact h.shown written calls issued
    · exact h.shown (.of_flagged flagged rfl) calls issued
  · exact h.shown (.of_flagged flagged rfl) calls issued

theorem cacheInv_begin (h : CacheInv st) {ctxId : Nat} {avc : Bool} {bytes : Bytes}
    (ok : keepsCache st (.surface (.begin ctxId avc) bytes) = true) :
    CacheInv ⟨{ st.base with surface := beginPicture st.base.surface ctxId avc }, st.memory,
      st.outputs⟩ := by
  simp only [keepsCache] at ok
  unfold beginPicture
  split
  · have continued : { st.base.surface with decoded := false, decodeFailed := false, ctxId := ctxId } =
        st.base.surface.flagged false false st.base.surface.h264FieldPending
          st.base.surface.stableExport ctxId := rfl
    exact h.shown (.of_flagged continued rfl) h.calls fun shown => by cases shown
  · rename_i fresh
    rw [eq_false_of_ne_true fresh, Bool.false_or, Bool.not_eq_true'] at ok
    exact .uncached h.calls (fun shown => by cases shown) ok

/-- Every step that keeps the cache keeps the invariant. -/
theorem cacheInv_step (repack : RepackNv12) (h : CacheInv st) {a : CacheAction}
    (ok : keepsCache st a = true) (hstep : cacheStep repack st a = some st') : CacheInv st' := by
  cases a with
  | putImage access image source target src =>
    obtain rfl := Option.some.inj hstep
    exact cacheInv_putImage h ok
  | surface a bytes =>
    obtain ⟨base, hbase, rfl⟩ := Option.map_eq_some_iff.mp hstep
    have calls := surfaceStep_calls h.calls hbase
    have move := surfaceStep_move hbase
    cases move with
    | begin own issued => exact cacheInv_begin h ok
    | settle kind shown =>
      have issued := fun decoded => (shown decoded).elim h.issued id
      obtain ⟨fence, field, rfl⟩ | ⟨fence, success, rfl⟩ | ⟨fence, rfl⟩ := kind
      all_goals exact h.shown (.of_flagged rfl rfl) calls issued
    | idle kind =>
      obtain ⟨fence, d, rfl⟩ | ⟨thread, rfl⟩ | ⟨thread, rfl⟩ := kind
      all_goals exact h.shown (.of_flagged rfl rfl) calls h.issued
    | measure current issued => exact h.shown (.of_flagged rfl rfl) calls h.issued
    | giveUp call_none kind kept =>
      obtain ⟨d, rfl⟩ | ⟨env, rfl⟩ | ⟨rfl, stale⟩ := kind
      · exact h.shown (.of_flagged rfl rfl) calls h.issued
      · exact prepare_kept repack h ok rfl calls
      · refine h.shown (.of_flagged rfl ?_) calls h.issued
        simp only [CacheState.memoryAfter, if_neg stale]
        split <;> rfl
    | prepare call prepared => exact prepare_kept repack h ok rfl calls
    | @failed fence call =>
      obtain ⟨decoded, failed, pending, settled, shown⟩ :=
        completeSurfaceRef_settle st.base.surface fence false
      have issued : (completeSurfaceRef st.base.surface fence false).decoded = true →
          (completeSurfaceRef st.base.surface fence false).fence ≠ 0 := by
        rw [settled]
        exact fun now => h.issued ((shown now).resolve_right (by simp))
      refine h.shown (.of_flagged settled ?_) calls issued
      simp only [CacheState.memoryAfter, call]
    | @publish fence frame output permanent call current =>
      have uncached : st.cached fence = false := by
        simpa [keepsCache, call, current] using ok
      have issued : fence ≠ 0 := by
        rintro rfl
        rw [h.calls] at call
        cases call
      refine .uncached calls (fun _ => ?_) ?_
      · exact fun zero => issued (current.symm.trans zero)
      · show st.cached st.base.surface.fence = false
        rw [current]
        exact uncached
    | exported => exact cacheInv_export h repack _ _ bytes

/-- An export that repacks and succeeds returns `export_buf`, which shows the bound picture. -/
theorem exportBuffer_shows (repack : RepackNv12) (h : CacheInv st) {thread : Nat} {composed : Bool}
    {bytes : Bytes} {d : VADRMPRIMESurfaceDescriptor} (packs : st.base.surface.needsRepack = true)
    (result : exportResult st.base.surface env composed = .ok d)
    (hstep : cacheStep repack st (.surface (.exportBuffer thread env composed) bytes) = some st') :
    ∃ buffer, st'.base.surface.exportBuf = some buffer ∧
      d.objects = [⟨buffer.fd, buffer.size, true⟩] ∧ ShowsBound st'.base.surface st'.memory := by
  obtain ⟨base, hbase, rfl⟩ := Option.map_eq_some_iff.mp hstep
  simp only [surfaceStep] at hbase
  split at hbase
  · obtain rfl := Option.some.inj hbase
    obtain ⟨decoded, -⟩ := needsRepack_facts packs
    obtain ⟨surface, located⟩ := exportSection_packed env packs
    have move := repackForExport_move repack env st.memory bytes packs
    obtain ⟨fresh, made⟩ := move.shows (h.issued decoded) fun present current => by
      refine h.fresh ?_ (h.issued decoded)
      rw [CacheState.cached, present, current]
      simp
    unfold exportResult at result
    cases section_eq : (exportSection st.base.surface env).2 with
    | error status =>
      rw [section_eq] at result
      cases result
    | ok e =>
      rw [section_eq] at result
      obtain ⟨buffer, hstride, ok, rfl⟩ := located e section_eq
      obtain ⟨present, current⟩ := made buffer hstride ok
      have kept : (st.base.exportBuffer thread env composed).surface =
          (repackForExport st.base.surface env st.base.surface.exportedHstride
            st.base.surface.exportedVstride).1 := surface
      refine ⟨buffer, ?_, ?_, ?_⟩
      · rw [kept]
        exact present
      · simp only [Except.bind, describe] at result
        split at result
        · cases result
        · split at result
          · cases result
          · rw [← Except.ok.inj result, singleDescriptor]
            dsimp only
            split <;> rfl
      · rw [kept]
        exact fresh (by rw [present]; rfl) current
  · cases hbase

end

/-! ## Whole runs -/

def CacheState.init (s : RKSurface) (m : PictureMemory) (outputs : Nat → Bytes) : CacheState :=
  ⟨.init s, m, outputs⟩

section

variable {createEnv : CreateEnv} {width height : Int} {fourcc : Fourcc}
  {descriptor : Option VADRMPRIMESurfaceDescriptor} {encoderInput : Bool} {s : RKSurface}

/-- From the creation of a surface on, in every run that leaves a picture alone once it was exported
under its fence: an export that repacks returns `export_buf`, and `export_buf` shows the picture
that the surface is bound to. -/
theorem repackedExport_fresh (repack : RepackNv12) {as : List CacheAction} {st st' : CacheState}
    {thread : Nat} {env : ExportEnv} {composed : Bool} {bytes : Bytes}
    {d : VADRMPRIMESurfaceDescriptor} (m : PictureMemory) (outputs : Nat → Bytes)
    (created : createSurface createEnv width height fourcc descriptor encoderInput = some s)
    (hrun : run (cacheStep repack) (.init s m outputs) as = some st)
    (meets : Throughout (cacheStep repack) (fun st a => keepsCache st a = true)
      (.init s m outputs) as)
    (hstep : cacheStep repack st (.surface (.exportBuffer thread env composed) bytes) = some st')
    (result : exportResult st.base.surface env composed = .ok d)
    (packs : st.base.surface.needsRepack = true) :
    ∃ buffer, st'.base.surface.exportBuf = some buffer ∧
      d.objects = [⟨buffer.fd, buffer.size, true⟩] ∧ ShowsBound st'.base.surface st'.memory := by
  obtain ⟨-, none_yet, undecoded⟩ := createSurface_fresh created
  have start : CacheInv (.init s m outputs) := by
    refine .uncached rfl (fun decoded => ?_) ?_
    · exact absurd (undecoded.symm.trans decoded) Bool.false_ne_true
    · show (s.exportBuf.isSome && _) = false
      rw [none_yet]
      rfl
  have inv : CacheInv st :=
    run_invariant (fun _ _ _ inv ok step => cacheInv_step repack inv ok step) as _ _ start meets hrun
  exact exportBuffer_shows repack inv packs result hstep

end

/-! ## Two pictures under one fence -/

/-- A frame of 16x16, whose pitch has to be repacked. -/
def narrowDelivery : Delivery where
  frame :=
    { errinfo := 0, discard := 0, buffer := some ⟨1, 11, 0, 384⟩, width := 16, height := 16
      horStride := 16, verStride := 16, horStridePixel := 16, fbcHdrStride := 0, offsetX := 0
      offsetY := 0, fmt := ⟨.yuv420sp, false⟩ }
  pool := none
  committed := fun external => by cases external

def narrowSurface : Option RKSurface := createSurface plainCreate 16 16 .nv12 none false

/-- Memory of which nothing was written yet. -/
def blankMemory : PictureMemory := ⟨fun _ => 0, fun _ => 0, fun _ => 0, fun _ => 0⟩

/-- A frame with these bytes is bound under a fence. -/
def showFrame (fence : Nat) (bytes : Bytes) : List CacheAction :=
  [.surface (.arrive fence narrowDelivery) bytes, .surface (.prepare fence plainEnv) bytes,
    .surface (.finish fence) bytes]

def exportOnce (bytes : Bytes) : List CacheAction :=
  [.surface (.exportCheck 0) bytes, .surface (.exportBuffer 0 availableExport false) bytes]

/-- Both fields of a picture give a frame. The picture is exported between them. -/
def fieldRun : List CacheAction :=
  [.surface (.begin 1 true) fun _ => 0, .surface (.markField 1 true) fun _ => 0,
    .surface (.begin 1 true) fun _ => 0] ++
  showFrame 1 (fun _ => 1) ++ exportOnce (fun _ => 0) ++ showFrame 1 (fun _ => 2) ++
  [.surface (.exportCheck 0) fun _ => 0]

/-- A picture without a frame of its own is exported, and then an image is put into its surface. -/
def putRun (image : RKImage) : List CacheAction :=
  [.surface (.begin 1 false) fun _ => 0] ++ showFrame 1 (fun _ => 1) ++
  [.surface (.begin 1 false) fun _ => 0, .surface (.complete 2 true) fun _ => 0] ++
  exportOnce (fun _ => 0) ++
  [.putImage ⟨true, true, true⟩ image ⟨0, 0, 16, 16⟩ ⟨0, 0, 16, 16⟩ fun _ => 7,
    .surface (.exportCheck 0) fun _ => 0]

/-- One picture, exported twice. -/
def steadyRun : List CacheAction :=
  [.surface (.begin 1 false) fun _ => 0] ++ showFrame 1 (fun _ => 1) ++ exportOnce (fun _ => 0) ++
  [.surface (.exportCheck 0) fun _ => 0]

theorem repackedExport_fresh_steady :
    ∃ s st st', narrowSurface = some s ∧
      run (cacheStep rowsRepack) (.init s blankMemory fun _ _ => 0) steadyRun = some st ∧
      cacheStep rowsRepack st (.surface (.exportBuffer 0 availableExport false) fun _ => 0) =
        some st' ∧
      ShowsBound st'.base.surface st'.memory := by
  obtain ⟨s, st, st', d, created, hrun, keeps, hstep, result, packs⟩ : ∃ s st st' d,
      narrowSurface = some s ∧
      run (cacheStep rowsRepack) (.init s blankMemory fun _ _ => 0) steadyRun = some st ∧
      check (cacheStep rowsRepack) keepsCache (.init s blankMemory fun _ _ => 0) steadyRun = true ∧
      cacheStep rowsRepack st (.surface (.exportBuffer 0 availableExport false) fun _ => 0) =
        some st' ∧
      exportResult st.base.surface availableExport false = .ok d ∧
      st.base.surface.needsRepack = true :=
    ⟨_, _, _, _, rfl, rfl, rfl, rfl, rfl, rfl⟩
  obtain ⟨buffer, -, -, shown⟩ := repackedExport_fresh rowsRepack blankMemory (fun _ _ => 0) created
    hrun (throughout_of_check keeps) hstep result packs
  exact ⟨s, st, st', created, hrun, hstep, shown⟩

/-- An export of other bytes than those that are bound does not show them. -/
theorem not_shown {s : RKSurface} {m : PictureMemory} (src old : Bytes)
    (exported : m.exported = repackRows 16 16 16 16 64 16 src old) (width : s.width = 16)
    (height : s.height = 16) (other : s.activeBytes m 0 ≠ src 0) : ¬ShowsBound s m := by
  intro shown
  have visible : SameVisible 16 16 (repackRows 16 16 16 16 64 16 src old) 64 16 src 16 16 :=
    repackRows_visible src old (by decide) (by decide)
  have copied := visible.luma 0 (by decide) 0 (by decide)
  have same := shown.luma 0 (by rw [width]; decide) 0 (by rw [height]; decide)
  rw [exported] at same
  simp only [Nat.zero_mul, Nat.add_zero] at copied same
  exact other (same.symm.trans copied)

/-- The second frame of a field pair, or an image that is put into the surface, is not what the next
export shows. -/
theorem repackedExport_stale :
    ∃ s image, narrowSurface = some s ∧ rkCreateImage true .nv12 16 16 = some image ∧
      ∀ as ∈ [fieldRun, putRun image], ∃ st st' d,
        run (cacheStep rowsRepack) (.init s blankMemory fun _ _ => 0) as = some st ∧
        cacheStep rowsRepack st (.surface (.exportBuffer 0 availableExport false) fun _ => 0) =
          some st' ∧
        exportResult st.base.surface availableExport false = .ok d ∧
        st.base.surface.needsRepack = true ∧ ¬ShowsBound st'.base.surface st'.memory := by
  obtain ⟨s, image, created, imageMade, wide, fields, put⟩ : ∃ s image,
      narrowSurface = some s ∧ rkCreateImage true .nv12 16 16 = some image ∧
      lumaBytes s image = 16 ∧
      (∃ st st' d, run (cacheStep rowsRepack) (.init s blankMemory fun _ _ => 0) fieldRun = some st ∧
        cacheStep rowsRepack st (.surface (.exportBuffer 0 availableExport false) fun _ => 0) =
          some st' ∧
        exportResult st.base.surface availableExport false = .ok d ∧
        st.base.surface.needsRepack = true ∧ st'.base.surface.width = 16 ∧
        st'.base.surface.height = 16 ∧
        st'.memory.exported = repackRows 16 16 16 16 64 16 (fun _ => 1) (fun _ => 0) ∧
        st'.base.surface.activeBytes st'.memory = fun _ => 2) ∧
      ∃ st st' d,
        run (cacheStep rowsRepack) (.init s blankMemory fun _ _ => 0) (putRun image) = some st ∧
        cacheStep rowsRepack st (.surface (.exportBuffer 0 availableExport false) fun _ => 0) =
          some st' ∧
        exportResult st.base.surface availableExport false = .ok d ∧
        st.base.surface.needsRepack = true ∧ st'.base.surface.width = 16 ∧
        st'.base.surface.height = 16 ∧ lumaBytes st'.base.surface image = 16 ∧
        st'.base.surface.vstride.toNat = 16 ∧
        st'.memory.exported = repackRows 16 16 16 16 64 16 (fun _ => 0) (fun _ => 0) ∧
        st'.base.surface.activeBytes st'.memory =
          putRows st'.base.surface image (fun _ => 7) (fun _ => 0) 16 384 :=
    ⟨_, _, rfl, rfl, rfl, ⟨_, _, _, rfl, rfl, rfl, rfl, rfl, rfl, rfl, rfl⟩,
      _, _, _, rfl, rfl, rfl, rfl, rfl, rfl, rfl, rfl, rfl, rfl⟩
  refine ⟨s, image, created, imageMade, ?_⟩
  intro as mem
  rw [List.mem_cons, List.mem_singleton] at mem
  rcases mem with rfl | rfl
  · obtain ⟨st, st', d, hrun, hstep, result, packs, width, height, exported, bound⟩ := fields
    refine ⟨st, st', d, hrun, hstep, result, packs, not_shown _ _ exported width height ?_⟩
    rw [bound]
    decide
  · obtain ⟨st, st', d, hrun, hstep, result, packs, width, height, lumaWidth, vstride, exported,
      bound⟩ := put
    refine ⟨st, st', d, hrun, hstep, result, packs, not_shown _ _ exported width height ?_⟩
    have rows : st'.base.surface.height.toNat = 16 := by
      rw [height]
      rfl
    have luma : putRows st'.base.surface image (fun _ => 7) (fun _ => 0) 16 384 (0 * 16 + 0) = 7 :=
      putRows_luma (by omega) (by omega) (by omega) (by omega)
    rw [bound]
    rw [Nat.zero_mul] at luma
    rw [luma]
    decide

end RockchipVaapi.Surface
