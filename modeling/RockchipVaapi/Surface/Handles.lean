import Mathlib.Data.List.Basic
import RockchipVaapi.Surface.System

/-!
# The handles of a frame

Who has to release what `assign_mpp_frame` gets hold of: the frame, the buffer of a converted
picture, the references of a pool and of its buffers. The call is written here with its local
variables, as each exit leaves them, and with the calls of MPP that take and release references.
-/

namespace RockchipVaapi.Surface

/-- A frame that MPP handed over, by the handle that `mpp_frame_deinit` gets. -/
structure FrameHandle where
  handle : Nat
  frame : MppFrame
  deriving DecidableEq, Repr

/-- A reference that has to be given back: a frame with `mpp_frame_deinit`, one of the references of
a buffer with `mpp_buffer_put`, and of a pool with `rk_object_unref`. -/
inductive Ref
  | frame (f : FrameHandle)
  | buffer (b : MppBuffer)
  | pool (id : Nat)
  deriving DecidableEq, Repr

def frameRefs (frame : Option FrameHandle) : List Ref := (frame.map Ref.frame).toList
def bufferRefs (buffer : Option MppBuffer) : List Ref := (buffer.map Ref.buffer).toList
def poolRefs (pool : Option Nat) : List Ref := (pool.map Ref.pool).toList

@[simp] theorem frameRefs_none : frameRefs none = [] := rfl
@[simp] theorem bufferRefs_none : bufferRefs none = [] := rfl
@[simp] theorem poolRefs_none : poolRefs none = [] := rfl

/-- A surface with the handle of its frame. -/
structure HeldSurface where
  surface : RKSurface
  frame : Option FrameHandle
  same : surface.frame = frame.map FrameHandle.frame

namespace HeldSurface

/-- What a surface has to release. -/
def refs (s : HeldSurface) : List Ref :=
  frameRefs s.frame ++ bufferRefs s.surface.backingBuf ++ poolRefs s.surface.decodePool

/-- `complete_surface_ref`. -/
def complete (s : HeldSurface) (fence : Nat) (success : Bool) : HeldSurface where
  surface := completeSurfaceRef s.surface fence success
  frame := s.frame
  same := by
    obtain ⟨decoded, failed, pending, eq, -⟩ := completeSurfaceRef_settle s.surface fence success
    rw [eq]
    exact s.same

/-- The publishing section of `assign_mpp_frame`. -/
def bind (s : HeldSurface) (output : FrameOutput) (storedFrame : Option FrameHandle)
    (stored : output.storedFrame = storedFrame.map FrameHandle.frame) : HeldSurface where
  surface := publish s.surface output
  frame := storedFrame
  same := stored

/-- `rk_BeginPicture`, with what it releases. -/
def beginPicture (s : HeldSurface) (ctxId : Nat) (avc : Bool) : HeldSurface where
  surface := Surface.beginPicture s.surface ctxId avc
  frame := if s.surface.continuation ctxId avc then s.frame else none
  same := by
    unfold Surface.beginPicture
    split
    · exact s.same
    · rfl

end HeldSurface

/-! ## The call -/

/-- The local variables of `assign_mpp_frame`, with the references that the call took and released
so far. -/
structure AssignLocals where
  frame : Option FrameHandle
  storedFrame : Option FrameHandle
  outputBuffer : Option MppBuffer
  backing : Option MppBuffer
  retainedPool : Option Nat
  outputHstride : Int
  outputVstride : Int
  usable : Bool
  converted10bit : Bool
  stableExportCopy : Bool
  stableExportCopyFailed : Bool
  taken : List Ref
  released : List Ref

/-- `rk_convert_nv15_to_p010` on a frame of a pool. -/
def convertFrameOf (frame : MppFrame) (env : AssignEnv) (g : FrameGeometry) : Option MppBuffer :=
  rkConvertNv15ToP010 env.alloc frame.buffer g.frameW.toNat g.frameH.toNat g.srcHs.toNat
    g.srcHsPixels.toNat g.srcVs.toNat (toUint32 frame.offsetX) (toUint32 frame.offsetY)
    frame.fmt.afbcNv15 env.converts

/-- The buffer that `rk_convert_nv15_to_p010` gets for the picture (`convert.c:338-342`). -/
def conversionBuffer (frame : MppFrame) (env : AssignEnv) (g : FrameGeometry) : Option MppBuffer :=
  (nv15ToP010Layout frame.buffer g.frameW.toNat g.frameH.toNat g.srcHs.toNat g.srcHsPixels.toNat
    g.srcVs.toNat (toUint32 frame.offsetX) (toUint32 frame.offsetY) frame.fmt.afbcNv15).bind
      fun layout => env.alloc.get layout.2

namespace AssignLocals

/-- `mpp_frame_deinit(&frame)`: the variable is cleared, and nothing happens if it was. -/
def frameDeinit (l : AssignLocals) : AssignLocals :=
  match l.frame with
  | none => l
  | some f => { l with frame := none, released := l.released ++ [.frame f] }

/-- `if (backing) mpp_buffer_put(backing); backing = NULL;`. -/
def putBacking (l : AssignLocals) : AssignLocals :=
  { l with backing := none, released := l.released ++ bufferRefs l.backing }

/-- `if (retained_pool) rk_object_unref(&retained_pool->base);`. -/
def unrefPool (l : AssignLocals) : AssignLocals :=
  { l with retainedPool := none, released := l.released ++ poolRefs l.retainedPool }

/-- The variables after the checks of the layout (`mpp_dec.c:540-552`). -/
def start (f : FrameHandle) (pool : Option RKDecodePool) (g : FrameGeometry) : AssignLocals where
  frame := some f
  storedFrame := some f
  outputBuffer := f.frame.buffer
  backing := none
  retainedPool := none
  outputHstride := g.srcHs
  outputVstride := g.srcVs
  usable := (linearLayoutValid f.frame g || afbcLayoutValid f.frame g) &&
    pool.all fun pool => (externalBufferMatchesPool pool f.frame.buffer).isSome
  converted10bit := false
  stableExportCopy := false
  stableExportCopyFailed := false
  taken := []
  released := []

/-- The conversion of a 10-bit picture (`mpp_dec.c:554-571`). A buffer whose conversion fails is
put before `rk_convert_nv15_to_p010` returns. -/
def convert (l : AssignLocals) (frame : MppFrame) (pool : Option RKDecodePool) (env : AssignEnv)
    (g : FrameGeometry) : AssignLocals :=
  if l.usable && frame.fmt.nv15 then
    if pool.isNone then { l with usable := false }
    else
      match convertFrameOf frame env g with
      | none =>
        { l with
          usable := false
          taken := l.taken ++ bufferRefs (conversionBuffer frame env g)
          released := l.released ++ bufferRefs (conversionBuffer frame env g) }
      | some converted =>
        { l with
          converted10bit := true, backing := some converted, outputBuffer := some converted
          storedFrame := none, outputHstride := g.srcHsPixels
          taken := l.taken ++ bufferRefs (conversionBuffer frame env g) }
  else l

/-- The copy into permanent storage (`mpp_dec.c:573-598`). -/
def copy (l : AssignLocals) (s : RKSurface) (env : AssignEnv) (fence : Nat) (g : FrameGeometry) :
    AssignLocals :=
  if l.usable then
    match rkSurfaceCopyToStableExport s l.outputBuffer g.frameW.toNat g.frameH.toNat
      l.outputHstride.toNat l.outputVstride.toNat l.converted10bit fence env.repacks with
    | .failed => { l.putBacking with usable := false, stableExportCopyFailed := true }
    | .notStable => l
    | .copied stride verticalStride =>
      let l := { l.putBacking with stableExportCopy := true }
      let l := if l.storedFrame.isSome then { l.frameDeinit with storedFrame := none } else l
      { l with outputHstride := stride, outputVstride := verticalStride }
  else l

/-- The reference of the buffer that the frame is in (`mpp_dec.c:600-605`). -/
def retainBuffer (l : AssignLocals) (frame : MppFrame) (pool : Option RKDecodePool)
    (env : AssignEnv) : AssignLocals :=
  match pool with
  | none => l
  | some pool =>
    if l.usable && !l.stableExportCopy && !l.converted10bit then
      let l := { l with backing := externalBufferMatchesPool pool frame.buffer }
      if l.backing.isSome && !env.incRefs then { l with usable := false }
      else { l with taken := l.taken ++ bufferRefs l.backing }
    else l

/-- The reference of the pool (`mpp_dec.c:606-615`). -/
def retainPool (l : AssignLocals) (pool : Option RKDecodePool) (env : AssignEnv) : AssignLocals :=
  if l.usable && !l.stableExportCopy then
    match pool with
    | none => l
    | some pool =>
      if env.poolRefs then
        { l with retainedPool := some pool.id, taken := l.taken ++ [.pool pool.id] }
      else { l.putBacking with usable := false }
  else l

/-- What the call publishes. -/
def output (l : AssignLocals) (frame : MppFrame) : FrameOutput where
  storedFrame := l.storedFrame.map FrameHandle.frame
  outputBuffer := l.outputBuffer
  backing := l.backing
  retainedPool := l.retainedPool
  fmt := frame.fmt
  width := frame.width
  height := frame.height
  hstride := l.outputHstride
  vstride := l.outputVstride
  converted10bit := l.converted10bit
  stableExportCopy := l.stableExportCopy

end AssignLocals

/-- The surfaces after a call, with what the call took and released. -/
structure Handled where
  surfaces : Nat → HeldSurface
  taken : List Ref
  released : List Ref

/-- The last section and the exits behind it (`mpp_dec.c:617-700`). -/
def AssignLocals.leave (l : AssignLocals) (frame : MppFrame) (target fence : Nat)
    (surfaces : Nat → HeldSurface) : Handled :=
  if l.usable then
    if (surfaces target).surface.fence ≠ fence then
      let l := l.putBacking.unrefPool.frameDeinit
      ⟨surfaces, l.taken, l.released⟩
    else
      let old := surfaces target
      let surfaces := setAt surfaces target (old.bind (l.output frame) l.storedFrame rfl)
      let l := { l with released := l.released ++ frameRefs old.frame }
      let l := if l.converted10bit then l.frameDeinit else l
      ⟨surfaces, l.taken, l.released ++ bufferRefs old.surface.backingBuf ++
        poolRefs old.surface.decodePool⟩
  else
    let l := l.frameDeinit
    ⟨setAt surfaces target ((surfaces target).complete fence false), l.taken, l.released⟩

/-- What `assign_mpp_frame` uses of an `RKFrameRoute`: its surface and its fence. -/
structure HandleRoute where
  target : Nat
  fence : Nat
  deriving DecidableEq, Repr

/-- The variables before the last section, where the first one found the surface as `s₁` and the
second one as `s₂`. -/
def assignLocals (f : FrameHandle) (pool : Option RKDecodePool) (env : AssignEnv) (fence : Nat)
    (s₁ s₂ : RKSurface) : AssignLocals :=
  let g := frameGeometry f.frame s₁.width s₁.height
  (((AssignLocals.start f pool g).convert f.frame pool env g).copy s₂ env fence g).retainBuffer
    f.frame pool env |>.retainPool pool env

/-- `assign_mpp_frame` (`mpp_dec.c:426-701`). `route` is what `h264_route_take` or
`generic_route_take` found. -/
def assignMppFrameHandles (infoChange : Bool) (f : FrameHandle) (pool : Option RKDecodePool)
    (env : AssignEnv) (route : Option HandleRoute) (s₁ s₂ : RKSurface)
    (surfaces : Nat → HeldSurface) : Handled :=
  if infoChange then ⟨surfaces, [], [.frame f]⟩
  else
    match route with
    | none => ⟨surfaces, [], [.frame f]⟩
    | some route =>
      if s₁.fence ≠ route.fence then ⟨surfaces, [], [.frame f]⟩
      else if f.frame.errinfo ≠ 0 ∨ f.frame.discard ≠ 0 then
        ⟨setAt surfaces route.target ((surfaces route.target).complete route.fence false), [],
          [.frame f]⟩
      else
        (assignLocals f pool env route.fence s₁ s₂).leave f.frame route.target route.fence surfaces

/-- `rk_BeginPicture` of a decoder context (`context.c:342-373`), which releases what was bound to
the surface unless it continues a field pair. -/
def rkBeginPictureHandles (target ctxId : Nat) (avc : Bool) (surfaces : Nat → HeldSurface) :
    Handled :=
  let s := surfaces target
  let continuation := s.surface.continuation ctxId avc
  let oldFrame := if continuation then none else s.frame
  let oldBacking := if continuation then none else s.surface.backingBuf
  let oldPool := if continuation then none else s.surface.decodePool
  ⟨setAt surfaces target (s.beginPicture ctxId avc), [],
    frameRefs oldFrame ++ bufferRefs oldBacking ++ poolRefs oldPool⟩

/-! ## What the variables own -/

theorem noFrame_append {refs : List Ref} {buffer : Option MppBuffer}
    (noFrame : ∀ other, Ref.frame other ∉ refs) (other : FrameHandle) :
    Ref.frame other ∉ refs ++ bufferRefs buffer := by
  simp [noFrame other, bufferRefs]

namespace AssignLocals

variable {l : AssignLocals} {f : FrameHandle} {pool : Option RKDecodePool} {env : AssignEnv}
  {g : FrameGeometry} {fence : Nat} {s : RKSurface}

theorem frameDeinit_eq (l : AssignLocals) :
    l.frameDeinit = { l with frame := none, released := l.released ++ frameRefs l.frame } := by
  obtain ⟨frame, _, _, _, _, _, _, _, _, _, _, _, _⟩ := l
  cases frame with
  | none => simp [frameDeinit, frameRefs]
  | some f => rfl

/-- The references that are still to be released or stored. After a failure there is nothing but
the frame: `backing` may name a buffer of which no reference was taken. -/
def held (l : AssignLocals) : List Ref :=
  frameRefs l.frame ++ if l.usable then bufferRefs l.backing ++ poolRefs l.retainedPool else []

/-- All that was taken is released or still held. A frame that is not converted is the one that will
be stored. -/
structure Tracked (f : FrameHandle) (l : AssignLocals) : Prop where
  accounted : ∀ ref, (l.held ++ l.released).count ref = (Ref.frame f :: l.taken).count ref
  stored : l.usable = true → l.storedFrame = if l.converted10bit then none else l.frame
  noFrame : ∀ other, Ref.frame other ∉ l.taken

/-- Before the references of the pool are taken, there is no buffer but a converted one. -/
structure Unretained (l : AssignLocals) : Prop where
  backing : l.converted10bit = false → l.backing = none
  pool : l.retainedPool = none

theorem tracked_start : Tracked f (start f pool g) ∧ Unretained (start f pool g) := by
  refine ⟨⟨?_, fun _ => rfl, fun _ => List.not_mem_nil⟩, fun _ => rfl, rfl⟩
  intro ref
  simp [held, start, frameRefs, bufferRefs, poolRefs]

theorem convertFrameOf_some {frame : MppFrame} {converted : MppBuffer}
    (h : convertFrameOf frame env g = some converted) :
    conversionBuffer frame env g = some converted := by
  unfold convertFrameOf rkConvertNv15ToP010 at h
  unfold conversionBuffer
  split at h
  · cases h
  · rename_i layout
    rw [layout]
    split at h
    · cases h
    · rename_i got
      split at h
      · cases h
      · exact got.trans h

theorem tracked_convert (h : Tracked f l) (early : Unretained l) (frame : MppFrame)
    (fresh : l.converted10bit = false) :
    Tracked f (l.convert frame pool env g) ∧ Unretained (l.convert frame pool env g) := by
  have backing := early.backing fresh
  have noPool := early.pool
  have accounted := h.accounted
  have noFrame := h.noFrame
  unfold held at accounted
  rw [backing, noPool] at accounted
  unfold convert
  split
  · rename_i converts
    rw [Bool.and_eq_true] at converts
    split
    · refine ⟨⟨?_, fun usable => absurd usable Bool.false_ne_true, noFrame⟩, early.backing, early.pool⟩
      intro ref
      have := accounted ref
      simp [held, bufferRefs, poolRefs] at this ⊢
      omega
    · split
      · refine ⟨⟨?_, fun usable => absurd usable Bool.false_ne_true, noFrame_append noFrame⟩, early.backing, early.pool⟩
        intro ref
        have := accounted ref
        simp [held, bufferRefs, poolRefs, List.count_cons] at this ⊢
        omega
      · rename_i converted done
        refine ⟨⟨?_, fun _ => rfl, noFrame_append noFrame⟩, fun not => absurd not.symm Bool.false_ne_true, early.pool⟩
        intro ref
        have := accounted ref
        rw [convertFrameOf_some done]
        simp [held, bufferRefs, poolRefs, noPool, converts.1, List.count_cons] at this ⊢
        omega
  · exact ⟨h, early⟩

theorem tracked_copy (h : Tracked f l) (early : Unretained l) :
    Tracked f (l.copy s env fence g) ∧ Unretained (l.copy s env fence g) := by
  have noPool := early.pool
  have accounted := h.accounted
  have noFrame := h.noFrame
  unfold held at accounted
  rw [noPool] at accounted
  unfold copy
  split
  · rename_i usable
    have stored := h.stored usable
    split
    · refine ⟨⟨?_, fun usable => absurd usable Bool.false_ne_true, noFrame⟩, fun _ => rfl, noPool⟩
      intro ref
      have := accounted ref
      simp [held, putBacking, poolRefs, usable] at this ⊢
      omega
    · exact ⟨h, early⟩
    · dsimp only
      rw [frameDeinit_eq]
      cases converted : l.converted10bit with
      | true =>
        -- the frame stays with the variable until the picture is published
        rw [converted, if_pos rfl] at stored
        simp only [putBacking, stored, Option.isSome_none, if_neg Bool.false_ne_true]
        refine ⟨⟨?_, fun _ => by simp only [converted, if_true], noFrame⟩, fun _ => rfl, noPool⟩
        intro ref
        have := accounted ref
        simp [held, noPool, poolRefs, bufferRefs, usable] at this ⊢
        omega
      | false =>
        rw [converted, if_neg Bool.false_ne_true] at stored
        cases frame : l.frame with
        | none =>
          rw [frame] at stored
          simp only [putBacking, stored, Option.isSome_none, if_neg Bool.false_ne_true]
          refine ⟨⟨?_, fun _ => by simp only [frame, ite_self], noFrame⟩, fun _ => rfl, noPool⟩
          intro ref
          have := accounted ref
          simp [held, noPool, poolRefs, bufferRefs, usable] at this ⊢
          omega
        | some own =>
          rw [frame] at stored
          simp only [putBacking, stored, Option.isSome_some, if_true]
          refine ⟨⟨?_, fun _ => (ite_self _).symm, noFrame⟩, fun _ => rfl, noPool⟩
          intro ref
          have := accounted ref
          simp [held, noPool, poolRefs, bufferRefs, frameRefs, usable, frame, List.count_cons] at this ⊢
          omega
  · exact ⟨h, early⟩

theorem tracked_retainBuffer (h : Tracked f l) (early : Unretained l) (frame : MppFrame) :
    Tracked f (l.retainBuffer frame pool env) ∧ (l.retainBuffer frame pool env).retainedPool = none := by
  have noPool := early.pool
  have accounted := h.accounted
  have noFrame := h.noFrame
  unfold held at accounted
  unfold retainBuffer
  split
  · exact ⟨h, noPool⟩
  · split
    · rename_i plain
      simp only [Bool.and_eq_true, Bool.not_eq_true'] at plain
      obtain ⟨⟨usable, -⟩, converted⟩ := plain
      rw [early.backing converted, noPool] at accounted
      dsimp only
      split
      · -- no reference was taken of the buffer that `backing` names
        refine ⟨⟨?_, fun usable => absurd usable Bool.false_ne_true, noFrame⟩, noPool⟩
        intro ref
        have := accounted ref
        simp [held, bufferRefs, poolRefs, usable] at this ⊢
        omega
      · refine ⟨⟨?_, fun _ => h.stored usable, noFrame_append noFrame⟩, noPool⟩
        intro ref
        have := accounted ref
        simp [held, bufferRefs, poolRefs, usable, noPool, List.count_cons] at this ⊢
        omega
    · exact ⟨h, noPool⟩

theorem tracked_retainPool (h : Tracked f l) (noPool : l.retainedPool = none) :
    Tracked f (l.retainPool pool env) := by
  have accounted := h.accounted
  have noFrame := h.noFrame
  unfold held at accounted
  rw [noPool] at accounted
  unfold retainPool
  split
  · rename_i wanted
    rw [Bool.and_eq_true] at wanted
    obtain ⟨usable, -⟩ := wanted
    split
    · exact h
    · split
      · refine ⟨?_, fun _ => h.stored usable, fun other => by simp [noFrame other]⟩
        intro ref
        have := accounted ref
        simp [held, poolRefs, usable, List.count_cons] at this ⊢
        omega
      · refine ⟨?_, fun usable => absurd usable Bool.false_ne_true, noFrame⟩
        intro ref
        have := accounted ref
        simp [held, putBacking, poolRefs, usable] at this ⊢
        omega
  · exact h

end AssignLocals

theorem assignLocals_tracked (f : FrameHandle) (pool : Option RKDecodePool) (env : AssignEnv)
    (fence : Nat) (s₁ s₂ : RKSurface) : (assignLocals f pool env fence s₁ s₂).Tracked f := by
  have start : (AssignLocals.start f pool (frameGeometry f.frame s₁.width s₁.height)).Tracked f ∧
      (AssignLocals.start f pool (frameGeometry f.frame s₁.width s₁.height)).Unretained :=
    AssignLocals.tracked_start
  obtain ⟨started, early⟩ := start
  obtain ⟨converted, early⟩ := AssignLocals.tracked_convert started early f.frame rfl
  obtain ⟨copied, early⟩ := AssignLocals.tracked_copy converted early
  obtain ⟨retained, noPool⟩ := AssignLocals.tracked_retainBuffer copied early f.frame
  exact AssignLocals.tracked_retainPool retained noPool

/-! ## The same pictures -/

/-- The variables that decide what is published, as `prepare` computes it. -/
def AssignLocals.toOutput (l : AssignLocals) (frame : MppFrame) : Option FrameOutput :=
  if l.usable then some (l.output frame) else none

section

variable {f : FrameHandle} {d : Delivery} {env : AssignEnv} {g : FrameGeometry}

theorem convert_toOutput (same : d.frame = f.frame) :
    checkFrame d env g =
      ((AssignLocals.start f d.pool g).convert f.frame d.pool env g).toOutput f.frame := by
  have matched : d.matches =
      d.pool.all fun pool => (externalBufferMatchesPool pool f.frame.buffer).isSome := by
    unfold Delivery.matches
    rw [same]
    cases d.pool <;> rfl
  unfold checkFrame AssignLocals.convert AssignLocals.toOutput
  rw [matched, same]
  cases usable : (linearLayoutValid f.frame g || afbcLayoutValid f.frame g) &&
    d.pool.all fun pool => (externalBufferMatchesPool pool f.frame.buffer).isSome with
  | false => simp [AssignLocals.start, usable]
  | true =>
    simp only [AssignLocals.start, usable, if_true, Bool.true_and]
    split
    · have sameConvert : convertFrame d env g =
          if d.pool.isNone then none else convertFrameOf f.frame env g := by
        unfold convertFrame convertFrameOf
        rw [same]
      rw [sameConvert]
      split
      · rfl
      · cases convertFrameOf f.frame env g <;> rfl
    · simp only [if_true]
      rfl

theorem copy_toOutput (l : AssignLocals) (s : RKSurface) (fence : Nat) (frame : MppFrame) :
    (l.toOutput frame).bind (copySection s env fence g) =
      (l.copy s env fence g).toOutput frame := by
  unfold AssignLocals.copy
  cases usable : l.usable with
  | false =>
    simp only [AssignLocals.toOutput, usable, if_neg Bool.false_ne_true]
    rfl
  | true =>
    simp only [AssignLocals.toOutput, usable, if_true, Option.bind_some]
    unfold copySection
    simp only [AssignLocals.output]
    cases rkSurfaceCopyToStableExport s l.outputBuffer g.frameW.toNat g.frameH.toNat
      l.outputHstride.toNat l.outputVstride.toNat l.converted10bit fence env.repacks with
    | failed => rfl
    | notStable => simp only [usable, if_true]
    | copied stride verticalStride =>
      cases stored : l.storedFrame with
      | none =>
        simp [AssignLocals.putBacking, stored, usable]
      | some own =>
        simp [AssignLocals.putBacking, AssignLocals.frameDeinit_eq, stored, usable]

theorem retain_toOutput {l : AssignLocals} (same : d.frame = f.frame)
    (matched : l.usable = true → ∀ pool, d.pool = some pool →
      (externalBufferMatchesPool pool f.frame.buffer).isSome = true) :
    (l.toOutput f.frame).bind (retain d env) =
      ((l.retainBuffer f.frame d.pool env).retainPool d.pool env).toOutput f.frame := by
  cases usable : l.usable with
  | false =>
    have unusable (pool : Option RKDecodePool) : (l.retainBuffer f.frame pool env).retainPool pool env = l := by
      cases pool <;> simp [AssignLocals.retainBuffer, AssignLocals.retainPool, usable]
    rw [unusable]
    simp [AssignLocals.toOutput, usable]
  | true =>
    have matched := matched usable
    unfold retain
    cases pool_eq : d.pool with
    | none => simp [AssignLocals.retainBuffer, AssignLocals.retainPool, AssignLocals.toOutput, usable]
    | some pool =>
      obtain ⟨backing, found⟩ := Option.isSome_iff_exists.mp (matched pool pool_eq)
      cases stable : l.stableExportCopy with
      | true =>
        simp [AssignLocals.retainBuffer, AssignLocals.retainPool, AssignLocals.toOutput,
          AssignLocals.output, usable, stable]
      | false =>
        rw [same]
        cases converted : l.converted10bit <;> cases incRefs : env.incRefs <;>
          cases poolRefs : env.poolRefs <;>
          simp [AssignLocals.retainBuffer, AssignLocals.retainPool, AssignLocals.toOutput,
            AssignLocals.output, usable, stable, converted, incRefs, poolRefs, found]

theorem usable_convert {l : AssignLocals} {frame : MppFrame} {pool : Option RKDecodePool}
    (h : (l.convert frame pool env g).usable = true) : l.usable = true := by
  unfold AssignLocals.convert at h
  split at h
  · split at h
    · cases h
    · split at h
      · cases h
      · exact h
  · exact h

theorem usable_copy {l : AssignLocals} {s : RKSurface} {fence : Nat}
    (h : (l.copy s env fence g).usable = true) : l.usable = true := by
  unfold AssignLocals.copy at h
  split at h
  · assumption
  · exact h

/-- The variables come to what `prepare` computes. -/
theorem assignLocals_toOutput (same : d.frame = f.frame) (env : AssignEnv) (fence : Nat)
    (s₁ s₂ : RKSurface) :
    prepare d env fence (frameGeometry d.frame s₁.width s₁.height) s₂ =
      (assignLocals f d.pool env fence s₁ s₂).toOutput f.frame := by
  unfold prepare assignLocals
  rw [convert_toOutput same, same, ← Option.bind_assoc, copy_toOutput]
  refine retain_toOutput same fun usable pool found => ?_
  have started := usable_convert (usable_copy usable)
  simp only [AssignLocals.start, Bool.and_eq_true, found, Option.all_some] at started
  exact started.2

theorem leave_surface (l : AssignLocals) (frame : MppFrame) (target fence : Nat)
    (surfaces : Nat → HeldSurface) :
    ((l.leave frame target fence surfaces).surfaces target).surface =
      match l.toOutput frame with
      | none => completeSurfaceRef (surfaces target).surface fence false
      | some output =>
        if (surfaces target).surface.fence ≠ fence then (surfaces target).surface
        else publish (surfaces target).surface output := by
  unfold AssignLocals.leave AssignLocals.toOutput
  split
  · split <;> simp [*, HeldSurface.bind]
  · simp [HeldSurface.complete]

/-- The surface is left as `assignMppFrame` leaves it. -/
theorem assignMppFrameHandles_surface (same : d.frame = f.frame) (env : AssignEnv)
    (route : HandleRoute) (s₁ s₂ : RKSurface) (surfaces : Nat → HeldSurface) :
    ((assignMppFrameHandles false f d.pool env (some route) s₁ s₂ surfaces).surfaces
        route.target).surface =
      (assignMppFrame route.fence d env s₁ s₂ (surfaces route.target).surface).2 := by
  unfold assignMppFrameHandles assignMppFrame
  rw [if_neg Bool.false_ne_true, same]
  dsimp only
  split
  · rfl
  · split
    · simp [HeldSurface.complete]
    · have prepared := assignLocals_toOutput same env route.fence s₁ s₂
      rw [same] at prepared
      rw [leave_surface, ← prepared]
      cases prepare d env route.fence (frameGeometry f.frame s₁.width s₁.height) s₂ with
      | none => rfl
      | some output =>
        dsimp only
        split <;> rfl

end

/-! ## What a call leaves -/

/-- What a call for a surface got hold of was released once, or the surface keeps it and what that
surface had before was released once. -/
inductive Accounted (surfaces : Nat → HeldSurface) (route : Option Nat) (incoming : List Ref)
    (r : Handled) : Prop
  | dropped (same : ∀ id, (r.surfaces id).refs = (surfaces id).refs)
      (once : r.released.Perm (incoming ++ r.taken))
  | replaced (target : Nat) (routed : route = some target)
      (others : ∀ id, id ≠ target → r.surfaces id = surfaces id)
      (spare : List Ref) (kept : ((r.surfaces target).refs ++ spare).Perm (incoming ++ r.taken))
      (once : r.released.Perm ((surfaces target).refs ++ spare))

theorem setAt_complete_refs (surfaces : Nat → HeldSurface) (target fence id : Nat)
    (success : Bool) :
    (setAt surfaces target ((surfaces target).complete fence success) id).refs =
      (surfaces id).refs := by
  by_cases here : id = target
  · rw [here, setAt_self]
    obtain ⟨decoded, failed, pending, eq, -⟩ :=
      completeSurfaceRef_settle (surfaces target).surface fence success
    simp only [HeldSurface.refs, HeldSurface.complete, eq]
    rfl
  · rw [setAt_ne _ _ here]

theorem leave_accounted {l : AssignLocals} {f : FrameHandle} (h : l.Tracked f) (frame : MppFrame)
    (target fence : Nat) (surfaces : Nat → HeldSurface) :
    Accounted surfaces (some target) [.frame f] (l.leave frame target fence surfaces) := by
  have accounted := h.accounted
  unfold AssignLocals.leave
  split
  · rename_i usable
    have stored := h.stored usable
    unfold AssignLocals.held at accounted
    rw [if_pos usable] at accounted
    split
    · refine .dropped (fun _ => rfl) (List.perm_iff_count.mpr fun ref => ?_)
      have := accounted ref
      rw [AssignLocals.frameDeinit_eq]
      simp [AssignLocals.unrefPool, AssignLocals.putBacking] at this ⊢
      omega
    · cases converted : l.converted10bit with
      | true =>
        rw [converted, if_pos rfl] at stored
        refine .replaced target rfl (fun id ne => setAt_ne _ _ ne) (frameRefs l.frame ++ l.released)
          (List.perm_iff_count.mpr fun ref => ?_) (List.perm_iff_count.mpr fun ref => ?_)
        · have := accounted ref
          simp [HeldSurface.refs, HeldSurface.bind, publish, AssignLocals.output, stored,
            AssignLocals.frameDeinit_eq] at this ⊢
          omega
        · simp [AssignLocals.frameDeinit_eq, HeldSurface.refs]
          omega
      | false =>
        rw [converted, if_neg Bool.false_ne_true] at stored
        refine .replaced target rfl (fun id ne => setAt_ne _ _ ne) l.released
          (List.perm_iff_count.mpr fun ref => ?_) (List.perm_iff_count.mpr fun ref => ?_)
        · have := accounted ref
          simp [HeldSurface.refs, HeldSurface.bind, publish, AssignLocals.output, stored] at this ⊢
          omega
        · simp [HeldSurface.refs]
          omega
  · rename_i failed
    refine .dropped (fun id => setAt_complete_refs surfaces target fence id false)
      (List.perm_iff_count.mpr fun ref => ?_)
    have := accounted ref
    rw [AssignLocals.frameDeinit_eq]
    simp [AssignLocals.held, failed] at this ⊢
    omega

theorem leave_taken (l : AssignLocals) (frame : MppFrame) (target fence : Nat)
    (surfaces : Nat → HeldSurface) : (l.leave frame target fence surfaces).taken = l.taken := by
  unfold AssignLocals.leave
  simp only [AssignLocals.frameDeinit_eq]
  split
  · split
    · rfl
    · dsimp only
      split <;> rfl
  · rfl

section

variable {surfaces : Nat → HeldSurface} {f : FrameHandle}

theorem assignHandles_accounted (infoChange : Bool) (f : FrameHandle)
    (pool : Option RKDecodePool) (env : AssignEnv) (route : Option HandleRoute)
    (s₁ s₂ : RKSurface) (surfaces : Nat → HeldSurface) :
    Accounted surfaces (route.map HandleRoute.target) [.frame f]
        (assignMppFrameHandles infoChange f pool env route s₁ s₂ surfaces) ∧
      ∀ other, Ref.frame other ∉
        (assignMppFrameHandles infoChange f pool env route s₁ s₂ surfaces).taken := by
  have deinited : Accounted surfaces (route.map HandleRoute.target) [.frame f]
      ⟨surfaces, [], [.frame f]⟩ :=
    .dropped (fun _ => rfl) (List.Perm.refl _)
  have nothing (other : FrameHandle) : Ref.frame other ∉ ([] : List Ref) := List.not_mem_nil
  unfold assignMppFrameHandles
  split
  · exact ⟨deinited, nothing⟩
  · split
    · exact ⟨deinited, nothing⟩
    · rename_i route
      split
      · exact ⟨deinited, nothing⟩
      · split
        · refine ⟨.dropped (fun id => ?_) (List.Perm.refl _), nothing⟩
          exact setAt_complete_refs surfaces route.target route.fence id false
        · have tracked := assignLocals_tracked f pool env route.fence s₁ s₂
          refine ⟨leave_accounted tracked f.frame route.target route.fence surfaces, ?_⟩
          rw [leave_taken]
          exact tracked.noFrame

theorem beginHandles_accounted (target ctxId : Nat) (avc : Bool)
    (surfaces : Nat → HeldSurface) :
    Accounted surfaces (some target) [] (rkBeginPictureHandles target ctxId avc surfaces) := by
  unfold rkBeginPictureHandles
  dsimp only
  cases continues : (surfaces target).surface.continuation ctxId avc with
  | true =>
    refine .dropped (fun id => ?_) (List.Perm.refl _)
    by_cases here : id = target
    · simp only [here, setAt_self]
      simp only [HeldSurface.refs, HeldSurface.beginPicture, Surface.beginPicture, continues, if_true]
    · dsimp only
      rw [setAt_ne _ _ here]
  | false =>
    refine .replaced target rfl (fun id ne => setAt_ne _ _ ne) [] ?_ ?_
    · simp only [setAt_self, HeldSurface.refs, HeldSurface.beginPicture, Surface.beginPicture,
        continues, if_neg Bool.false_ne_true]
      exact List.Perm.refl _
    · rw [List.append_nil]
      exact List.Perm.refl _

/-- A frame is deinitialised once, or one surface has it. -/
def FrameOnce (f : FrameHandle) (r : Handled) : Prop :=
  r.released.count (.frame f) = 1 ∧ (∀ id, (r.surfaces id).frame ≠ some f) ∨
    r.released.count (.frame f) = 0 ∧ ∃! id, (r.surfaces id).frame = some f

theorem refs_count_frame (s : HeldSurface) (f : FrameHandle) :
    s.refs.count (.frame f) = if s.frame = some f then 1 else 0 := by
  have buffers : (bufferRefs s.surface.backingBuf).count (.frame f) = 0 :=
    List.count_eq_zero.mpr (by simp [bufferRefs])
  have pools : (poolRefs s.surface.decodePool).count (.frame f) = 0 :=
    List.count_eq_zero.mpr (by simp [poolRefs])
  rw [HeldSurface.refs, List.count_append, List.count_append, buffers, pools]
  cases s.frame with
  | none => rfl
  | some other => simp [frameRefs, List.count_singleton]

theorem Accounted.frameOnce {route : Option Nat} {r : Handled}
    (h : Accounted surfaces route [.frame f] r)
    (noFrame : Ref.frame f ∉ r.taken) (fresh : ∀ id, (surfaces id).frame ≠ some f) :
    FrameOnce f r := by
  have incoming : ([Ref.frame f] ++ r.taken).count (.frame f) = 1 := by
    rw [List.count_append, List.count_eq_zero.mpr noFrame]
    simp
  have unheld (id : Nat) : (surfaces id).refs.count (.frame f) = 0 := by
    rw [refs_count_frame, if_neg (fresh id)]
  cases h with
  | dropped same once =>
    refine .inl ⟨(once.count_eq _).trans incoming, fun id holds => ?_⟩
    have := refs_count_frame (r.surfaces id) f
    rw [same, unheld, if_pos holds] at this
    exact absurd this Nat.zero_ne_one
  | replaced target _ others spare kept once =>
    have kept := (kept.count_eq (.frame f)).trans incoming
    have once := once.count_eq (.frame f)
    rw [List.count_append, refs_count_frame] at kept
    rw [List.count_append, unheld] at once
    by_cases holds : (r.surfaces target).frame = some f
    · rw [if_pos holds] at kept
      refine .inr ⟨by omega, target, holds, fun id holds' => ?_⟩
      by_contra ne
      exact fresh id (others id ne ▸ holds')
    · rw [if_neg holds] at kept
      refine .inl ⟨by omega, fun id holds' => ?_⟩
      by_cases here : id = target
      · exact holds (here ▸ holds')
      · rw [others id here] at holds'
        exact fresh id holds'

/-- `assign_mpp_frame` and `rk_BeginPicture` release or store whatever they have a handle of exactly
once, and so a frame that MPP hands over. -/
theorem handles_accounted (surfaces : Nat → HeldSurface) :
    (∀ infoChange f pool env route s₁ s₂,
      let r := assignMppFrameHandles infoChange f pool env route s₁ s₂ surfaces
      Accounted surfaces (route.map HandleRoute.target) [.frame f] r ∧
        ((∀ id, (surfaces id).frame ≠ some f) → FrameOnce f r)) ∧
      ∀ target ctxId avc,
        Accounted surfaces (some target) [] (rkBeginPictureHandles target ctxId avc surfaces) := by
  refine ⟨fun infoChange f pool env route s₁ s₂ => ?_, fun target ctxId avc =>
    beginHandles_accounted target ctxId avc surfaces⟩
  obtain ⟨accounted, noFrame⟩ :=
    assignHandles_accounted infoChange f pool env route s₁ s₂ surfaces
  exact ⟨accounted, accounted.frameOnce (noFrame f)⟩

end

/-- A 10-bit picture that is converted. -/
def convertedFrame : FrameHandle :=
  ⟨3, { errinfo := 0, discard := 0, buffer := some ⟨1, 11, 0, 4000000⟩, width := 1920, height := 1080
        horStride := 2400, verStride := 1088, horStridePixel := 1920, fbcHdrStride := 0, offsetX := 0
        offsetY := 0, fmt := ⟨.yuv420sp10bit, false⟩ }⟩

theorem handles_accounted_converted :
    ∃ s, createdSurface = some s ∧ ∃ none_yet : s.frame = none,
      FrameOnce convertedFrame (assignMppFrameHandles false convertedFrame
        (some ⟨7, [⟨1, 11, 0, 4000000⟩]⟩) ⟨ampleMemory, true, true, true, true⟩
        (some ⟨5, s.fence⟩) s s fun _ => ⟨s, none, none_yet⟩) := by
  obtain ⟨s, created, none_yet⟩ : ∃ s, createdSurface = some s ∧ s.frame = none := ⟨_, rfl, rfl⟩
  refine ⟨s, created, none_yet, ?_⟩
  have once := ((handles_accounted fun _ => ⟨s, none, none_yet⟩).1 false convertedFrame
    (some ⟨7, [⟨1, 11, 0, 4000000⟩]⟩) ⟨ampleMemory, true, true, true, true⟩ (some ⟨5, s.fence⟩)
    s s).2
  exact once fun id => by simp

/-! ## Runs -/

open Transition

/-- A call about the handles of some surfaces. What the first two sections of `assign_mpp_frame`
find may be older than what its last one does. -/
inductive HandleAction
  | assign (infoChange : Bool) (f : FrameHandle) (pool : Option RKDecodePool) (env : AssignEnv)
      (route : Option HandleRoute) (s₁ s₂ : RKSurface)
  | begin (target ctxId : Nat) (avc : Bool)

namespace HandleAction

def route : HandleAction → Option Nat
  | assign _ _ _ _ route _ _ => route.map HandleRoute.target
  | begin target _ _ => some target

def incoming : HandleAction → List Ref
  | assign _ f _ _ _ _ _ => [.frame f]
  | begin _ _ _ => []

def apply (surfaces : Nat → HeldSurface) : HandleAction → Handled
  | assign infoChange f pool env route s₁ s₂ =>
    assignMppFrameHandles infoChange f pool env route s₁ s₂ surfaces
  | begin target ctxId avc => rkBeginPictureHandles target ctxId avc surfaces

theorem apply_accounted (a : HandleAction) (surfaces : Nat → HeldSurface) :
    Accounted surfaces a.route a.incoming (a.apply surfaces) := by
  cases a with
  | assign infoChange f pool env route s₁ s₂ =>
    exact (assignHandles_accounted infoChange f pool env route s₁ s₂ surfaces).1
  | begin target ctxId avc => exact beginHandles_accounted target ctxId avc surfaces

end HandleAction

/-- The surfaces with all that was got and released so far. -/
structure HandleState where
  surfaces : Nat → HeldSurface
  got : List Ref
  released : List Ref

/-- A call for one of the surfaces `ids`. -/
def handleStep (ids : List Nat) (st : HandleState) (a : HandleAction) : Option HandleState :=
  if a.route.all (· ∈ ids) then
    let r := a.apply st.surfaces
    some ⟨r.surfaces, st.got ++ (a.incoming ++ r.taken), st.released ++ r.released⟩
  else none

/-- All references that the surfaces have. -/
def heldBy (ids : List Nat) (surfaces : Nat → HeldSurface) : List Ref :=
  ids.flatMap fun id => (surfaces id).refs

/-- What was got is released or held. -/
def HandlesBalanced (ids : List Nat) (st : HandleState) : Prop :=
  (heldBy ids st.surfaces ++ st.released).Perm st.got

theorem heldBy_congr {ids : List Nat} {surfaces surfaces' : Nat → HeldSurface}
    (same : ∀ id ∈ ids, (surfaces' id).refs = (surfaces id).refs) :
    heldBy ids surfaces' = heldBy ids surfaces :=
  List.flatMap_congr same

/-- One surface has other references than before. -/
theorem heldBy_replaced {ids : List Nat} {surfaces surfaces' : Nat → HeldSurface} {target : Nat}
    (others : ∀ id, id ≠ target → surfaces' id = surfaces id) (distinct : ids.Nodup)
    (mem : target ∈ ids) :
    (heldBy ids surfaces' ++ (surfaces target).refs).Perm
      (heldBy ids surfaces ++ (surfaces' target).refs) := by
  induction ids with
  | nil => cases mem
  | cons id ids ih =>
    obtain ⟨new, distinct⟩ := List.nodup_cons.mp distinct
    by_cases here : id = target
    · subst here
      have rest : heldBy ids surfaces' = heldBy ids surfaces :=
        heldBy_congr fun other mem => by
          rw [others other fun same => new (same ▸ mem)]
      refine List.perm_iff_count.mpr fun ref => ?_
      show ((surfaces' id).refs ++ heldBy ids surfaces' ++ (surfaces id).refs).count ref =
        ((surfaces id).refs ++ heldBy ids surfaces ++ (surfaces' id).refs).count ref
      rw [rest]
      simp only [List.count_append]
      omega
    · have ih := ih distinct ((List.mem_cons.mp mem).resolve_left (Ne.symm here))
      show ((surfaces' id).refs ++ heldBy ids surfaces' ++ (surfaces target).refs).Perm
        ((surfaces id).refs ++ heldBy ids surfaces ++ (surfaces' target).refs)
      rw [others id here, List.append_assoc, List.append_assoc]
      exact ih.append_left _

theorem handlesBalanced_step {ids : List Nat} (distinct : ids.Nodup) {st st' : HandleState}
    {a : HandleAction} (h : HandlesBalanced ids st) (hstep : handleStep ids st a = some st') :
    HandlesBalanced ids st' := by
  unfold handleStep at hstep
  split at hstep
  · rename_i known
    obtain rfl := Option.some.inj hstep
    unfold HandlesBalanced at h ⊢
    refine List.perm_iff_count.mpr fun ref => ?_
    have before := h.count_eq ref
    simp only [List.count_append] at before ⊢
    cases a.apply_accounted st.surfaces with
    | dropped same once =>
      have once := once.count_eq ref
      rw [List.count_append] at once
      rw [heldBy_congr fun id _ => same id]
      omega
    | replaced target routed others spare kept once =>
      have mem : target ∈ ids := by simpa [routed] using known
      have moved := (heldBy_replaced others distinct mem).count_eq ref
      have kept := kept.count_eq ref
      have once := once.count_eq ref
      simp only [List.count_append] at moved kept once
      omega
  · cases hstep

/-- In every run over surfaces that have nothing yet, whatever was got is released once or held by
one surface. -/
theorem handlesBalanced_run {ids : List Nat} (distinct : ids.Nodup)
    {surfaces : Nat → HeldSurface} (empty : ∀ id ∈ ids, (surfaces id).refs = [])
    {as : List HandleAction} {st : HandleState}
    (hrun : run (handleStep ids) ⟨surfaces, [], []⟩ as = some st) : HandlesBalanced ids st := by
  have start : HandlesBalanced ids ⟨surfaces, [], []⟩ := by
    unfold HandlesBalanced heldBy
    rw [List.flatMap_eq_nil_iff.mpr empty]
    exact List.Perm.refl _
  exact run_invariant' (fun _ _ _ h step => handlesBalanced_step distinct h step) start hrun

end RockchipVaapi.Surface
