import RockchipVaapi.Surface.Export

/-!
# Binding frames to surfaces

`assign_mpp_frame` takes the surface's lock three times for one frame: to compare the fence and
read the size, to copy the picture into permanent storage, and to publish it. In between it
checks the layout that MPP reports and converts 10-bit pictures.
-/

namespace RockchipVaapi.Surface

/-- The committed buffers of an `RKDecodePool`. -/
structure RKDecodePool where
  id : Nat
  buffers : List MppBuffer
  deriving DecidableEq, Repr

/-- A frame that MPP delivers, and the pool of the context. MPP decodes into the buffers of the
pool as `commit_pool_buffer` committed them (`mpp_dec.c:174-195`), so what it reports of such a
buffer is what the pool has. -/
structure Delivery where
  frame : MppFrame
  pool : Option RKDecodePool
  committed : ∀ {p : RKDecodePool} {backing buffer : MppBuffer}, pool = some p →
    backing ∈ p.buffers → frame.buffer = some buffer → buffer.fd = backing.fd →
    buffer.size = backing.size

/-- What `assign_mpp_frame` asks of MPP, the RGA and the object counters. -/
structure AssignEnv where
  alloc : Allocator
  converts : Bool
  repacks : Bool
  incRefs : Bool
  poolRefs : Bool

/-! ## The layout of a frame -/

/-- The metadata of a frame, with its defaults (`mpp_dec.c:508-522`). -/
structure FrameGeometry where
  frameW : Int
  frameH : Int
  srcHs : Int
  srcVs : Int
  srcHsPixels : Int
  srcSize : Nat
  deriving DecidableEq, Repr

def frameGeometry (frame : MppFrame) (surfaceWidth surfaceHeight : Int) : FrameGeometry :=
  let frameW := if 0 < frame.width then frame.width else surfaceWidth
  let frameH := if 0 < frame.height then frame.height else surfaceHeight
  let srcHs := if 0 < frame.horStride then frame.horStride else frameW
  let pixels := if frame.fmt.afbcNv15 && decide (0 < frame.fbcHdrStride) then frame.fbcHdrStride
    else frame.horStridePixel
  { frameW := frameW
    frameH := frameH
    srcHs := srcHs
    srcVs := if 0 < frame.verStride then frame.verStride else frameH
    srcHsPixels :=
      if frame.fmt.linearNv15 && decide (0 < srcHs) && srcHs % 5 == 0 then srcHs / 5 * 4 else pixels
    srcSize := (frame.buffer.map MppBuffer.size).getD 0 }

/-- The linear layout of a frame fits its buffer (`mpp_dec.c:524-527`). -/
def linearLayoutFits (g : FrameGeometry) : Bool :=
  decide (0 < g.srcHs) && decide (g.frameH ≤ g.srcVs) &&
    (rkNv12LayoutSize g.srcHs.toNat g.srcVs.toNat).any fun layoutSize => layoutSize ≤ g.srcSize

/-- What linear NV15 has to meet as well (`mpp_dec.c:528-531`). -/
def nv15StrideValid (frame : MppFrame) (g : FrameGeometry) : Bool :=
  decide (g.frameW ≤ g.srcHsPixels) && g.srcHsPixels % 64 == 0 &&
    (decide (frame.horStridePixel ≤ 0) || frame.horStridePixel == g.srcHsPixels)

def linearLayoutValid (frame : MppFrame) (g : FrameGeometry) : Bool :=
  (frame.fmt.linearNv12 || frame.fmt.linearNv15) && linearLayoutFits g &&
    (!frame.fmt.linearNv15 || nv15StrideValid frame g)

/-- `afbc_layout_valid` (`mpp_dec.c:532-536`). -/
def afbcLayoutValid (frame : MppFrame) (g : FrameGeometry) : Bool :=
  frame.fmt.afbcNv15 && decide (g.frameW ≤ g.srcHsPixels) && g.srcHsPixels % 64 == 0 &&
    decide (g.frameH ≤ g.srcVs) && g.srcVs % 16 == 0 && decide (0 ≤ frame.offsetX) &&
    decide (0 ≤ frame.offsetY) && decide (frame.offsetX ≤ g.srcHsPixels) &&
    decide (g.frameW ≤ g.srcHsPixels - frame.offsetX) && decide (frame.offsetY ≤ g.srcVs) &&
    decide (g.frameH ≤ g.srcVs - frame.offsetY) && decide (0 < g.srcSize)

/-- `external_buffer_matches_pool` (`mpp_dec.c:293-310`): the buffer of the pool that a frame is
in. -/
def externalBufferMatchesPool (pool : RKDecodePool) (buffer : Option MppBuffer) :
    Option MppBuffer :=
  match buffer with
  | none => none
  | some buffer =>
    if buffer.index < 0 then none
    else
      match pool.buffers[buffer.index.toNat]? with
      | none => none
      | some backing => if 0 ≤ backing.fd ∧ buffer.fd = backing.fd then some backing else none

/-- The pool has the buffer of the frame, if there is a pool. -/
def Delivery.matches (d : Delivery) : Bool :=
  match d.pool with
  | none => true
  | some pool => (externalBufferMatchesPool pool d.frame.buffer).isSome

/-- `rk_convert_nv15_to_p010` on a frame (`mpp_dec.c:554-571`). A frame that comes so far has
positive sizes and strides, but the offsets of a linear one can be negative. -/
def convertFrame (d : Delivery) (env : AssignEnv) (g : FrameGeometry) : Option MppBuffer :=
  if d.pool.isNone then none
  else
    rkConvertNv15ToP010 env.alloc d.frame.buffer g.frameW.toNat g.frameH.toNat
      g.srcHs.toNat g.srcHsPixels.toNat g.srcVs.toNat (toUint32 d.frame.offsetX)
      (toUint32 d.frame.offsetY) d.frame.fmt.afbcNv15 env.converts

/-- The checks and the conversion between the first two sections (`mpp_dec.c:524-571`). -/
def checkFrame (d : Delivery) (env : AssignEnv) (g : FrameGeometry) : Option FrameOutput :=
  let output : FrameOutput :=
    { storedFrame := some d.frame, outputBuffer := d.frame.buffer, backing := none
      retainedPool := none, fmt := d.frame.fmt, width := d.frame.width, height := d.frame.height
      hstride := g.srcHs, vstride := g.srcVs, converted10bit := false, stableExportCopy := false }
  if (linearLayoutValid d.frame g || afbcLayoutValid d.frame g) && d.matches then
    if d.frame.fmt.nv15 then
      (convertFrame d env g).map fun converted =>
        { output with
          storedFrame := none, outputBuffer := some converted, backing := some converted
          hstride := g.srcHsPixels, converted10bit := true }
    else some output
  else none

/-! ## The copy into permanent storage -/

/-- What `rk_surface_copy_to_stable_export` answers. -/
inductive CopyResult
  | failed
  | notStable
  | copied (stride verticalStride : Int)
  deriving DecidableEq, Repr

/-- `rk_surface_copy_to_stable_export` (`surface.c:430-492`). -/
def rkSurfaceCopyToStableExport (s : RKSurface) (source : Option MppBuffer)
    (width height sourceStride sourceVerticalStride : Nat) (is10bit : Bool) (expectedFence : Nat)
    (repacks : Bool) : CopyResult :=
  if s.stableExport = false then .notStable
  else if source.isNone ∨ width ≠ s.width.toNat ∨ height ≠ s.height.toNat ∨
      s.hstride ≤ 0 ∨ s.vstride ≤ 0 ∨ s.fence ≠ expectedFence then .failed
  else if rkRepack is10bit source (some s.privBuf) width height sourceStride sourceVerticalStride
      s.hstride.toNat s.vstride.toNat repacks then .copied s.hstride s.vstride
  else .failed

/-- The second section, and what becomes of the output (`mpp_dec.c:573-598`). -/
def copySection (s : RKSurface) (env : AssignEnv) (fence : Nat) (g : FrameGeometry)
    (output : FrameOutput) : Option FrameOutput :=
  match rkSurfaceCopyToStableExport s output.outputBuffer g.frameW.toNat g.frameH.toNat
    output.hstride.toNat output.vstride.toNat output.converted10bit fence env.repacks with
  | .failed => none
  | .notStable => some output
  | .copied stride verticalStride =>
    some { output with
      storedFrame := none, backing := none, hstride := stride, vstride := verticalStride
      stableExportCopy := true }

/-- The references that an output keeps (`mpp_dec.c:600-615`). -/
def retain (d : Delivery) (env : AssignEnv) (output : FrameOutput) : Option FrameOutput :=
  match d.pool with
  | none => some output
  | some pool =>
    if output.stableExportCopy then some output
    else if (!output.converted10bit && !env.incRefs) || !env.poolRefs then none
    else
      some { output with
        backing :=
          if output.converted10bit then output.backing
          else externalBufferMatchesPool pool d.frame.buffer
        retainedPool := some pool.id }

/-- What is to be published of a frame, as the second section finds the surface. -/
def prepare (d : Delivery) (env : AssignEnv) (fence : Nat) (g : FrameGeometry) (s : RKSurface) :
    Option FrameOutput :=
  (checkFrame d env g).bind fun output =>
    (copySection s env fence g output).bind fun output => retain d env output

/-! ## The call -/

inductive Outcome
  /-- The fence of the route was not current when the frame came. -/
  | stale
  /-- MPP reported an error. -/
  | errored
  /-- The layout, the copy or a reference failed. -/
  | refused
  /-- The fence was not current any more. -/
  | canceled
  | published (output : FrameOutput)
  deriving DecidableEq, Repr

/-- `assign_mpp_frame` of a frame that has a route (`mpp_dec.c:472-700`), with the surface as each
section finds it, and as the last section leaves it. -/
def assignMppFrame (fence : Nat) (d : Delivery) (env : AssignEnv) (s₁ s₂ s₃ : RKSurface) :
    Outcome × RKSurface :=
  if s₁.fence ≠ fence then (.stale, s₃)
  else if d.frame.errinfo ≠ 0 ∨ d.frame.discard ≠ 0 then
    (.errored, completeSurfaceRef s₃ fence false)
  else
    match prepare d env fence (frameGeometry d.frame s₁.width s₁.height) s₂ with
    | none => (.refused, completeSurfaceRef s₃ fence false)
    | some output =>
      if s₃.fence ≠ fence then (.canceled, s₃) else (.published output, publish s₃ output)

end RockchipVaapi.Surface
