import RockchipVaapi.Surface.Layout

/-!
# Surfaces

The part of `RKSurface` that holds pictures, with the sections under its lock that
`rk_BeginPicture`, `rk_EndPicture` and the decode worker run. What MPP, the RGA and the kernel
answer are inputs.
-/

namespace RockchipVaapi.Surface

/-- `INT_MAX`. -/
def intMax : Nat := 2 ^ 31 - 1

/-- The conversion of a number to `int`. -/
def toInt (x : Int) : Int := Int.bmod x (2 ^ 32)

/-- The conversion of a number to `uint32_t`. -/
def toUint32 (x : Int) : Nat := (x % 2 ^ 32).toNat

/-! ## Buffers and frames -/

/-- What the driver reads of an `MppBuffer`. `handle` tells buffers apart. -/
structure MppBuffer where
  handle : Nat
  fd : Int
  index : Int
  size : Nat
  deriving DecidableEq, Repr

/-- `mpp_buffer_get`: a buffer of at least the size that is asked for, or an error. -/
structure Allocator where
  get : Nat → Option MppBuffer
  size_le : ∀ {size : Nat} {buffer : MppBuffer}, get size = some buffer → size ≤ buffer.size

/-- What `MPP_FRAME_FMT_MASK` leaves of a format, as far as the driver tells formats apart. -/
inductive PixelFormat
  | yuv420sp
  | yuv420sp10bit
  | other
  deriving DecidableEq, Repr

structure MppFrameFormat where
  base : PixelFormat
  afbc : Bool
  deriving DecidableEq, Repr

namespace MppFrameFormat

def nv12 (fmt : MppFrameFormat) : Bool := fmt.base == .yuv420sp
def nv15 (fmt : MppFrameFormat) : Bool := fmt.base == .yuv420sp10bit
def linearNv12 (fmt : MppFrameFormat) : Bool := fmt.nv12 && !fmt.afbc
def linearNv15 (fmt : MppFrameFormat) : Bool := fmt.nv15 && !fmt.afbc
def afbcNv15 (fmt : MppFrameFormat) : Bool := fmt.nv15 && fmt.afbc

/-- `MPP_FRAME_FMT_IS_YUV_10BIT`, of the formats that a surface can have. -/
def is10bit (fmt : MppFrameFormat) : Bool := fmt.nv15

end MppFrameFormat

/-- What `assign_mpp_frame` reads of an `MppFrame`, with the `RK_U32` fields as the `int` that they
are cast to. -/
structure MppFrame where
  errinfo : Nat
  discard : Nat
  buffer : Option MppBuffer
  width : Int
  height : Int
  horStride : Int
  verStride : Int
  horStridePixel : Int
  fbcHdrStride : Int
  offsetX : Int
  offsetY : Int
  fmt : MppFrameFormat
  deriving DecidableEq, Repr

/-! ## The surface -/

/-- The `VA_FOURCC` of a surface. -/
inductive Fourcc
  | nv12
  | p010
  | i420
  | yv12
  | rgba
  | rgbx
  | bgra
  | bgrx
  deriving DecidableEq, Repr

inductive DrmFormat
  | nv12
  | p010
  | r8
  | gr88
  | r16
  | gr1616
  | abgr8888
  | xbgr8888
  | argb8888
  | xrgb8888
  deriving DecidableEq, Repr

/-- What `import_surface_descriptor` leaves on a surface. -/
structure Imported where
  buf : MppBuffer
  fd : Int
  size : Nat
  pitch : Nat
  chromaFd : Int
  chromaSize : Nat
  chromaPitch : Nat
  drmFormat : DrmFormat
  rgb : Bool
  multiplane : Bool
  deriving DecidableEq, Repr

/-- `RKSurface`. `imported` stands for the fields that an import sets, of which `import_buf` is
always one. A surface without `priv_buf` is never handed out, and its size is always positive. -/
structure RKSurface where
  width : Int
  height : Int
  width_pos : 0 < width
  height_pos : 0 < height
  frame : Option MppFrame
  backingBuf : Option MppBuffer
  decodePool : Option Nat
  hstride : Int
  vstride : Int
  privBuf : MppBuffer
  stableExport : Bool
  exportBuf : Option MppBuffer
  exportFence : Nat
  exportHstride : Int
  exportVstride : Int
  imported : Option Imported
  encoderInput : Bool
  fmt : MppFrameFormat
  fourcc : Fourcc
  decoded : Bool
  decodeFailed : Bool
  h264FieldPending : Bool
  ctxId : Nat
  fence : Nat
  deriving DecidableEq, Repr

/-- The buffer of the picture that was bound last. -/
def RKSurface.boundBuffer (s : RKSurface) : Option MppBuffer :=
  match s.backingBuf, s.frame with
  | some backing, _ => some backing
  | none, some frame => frame.buffer
  | none, none => none

/-- The surface has a picture of its own. -/
def RKSurface.holdsPicture (s : RKSurface) : Bool := s.backingBuf.isSome || s.frame.isSome

def RKSurface.is10bit (s : RKSurface) : Bool := s.fmt.is10bit

/-! ## The sections of decoding -/

/-- `s->fence++; if (s->fence == 0) s->fence++;` on a `uint64_t`. -/
def nextFence (fence : Nat) : Nat :=
  let fence := (fence + 1) % 2 ^ 64
  if fence = 0 then 1 else fence

/-- Whether `rk_BeginPicture` continues a field pair (`context.c:339-341`). -/
def RKSurface.continuation (s : RKSurface) (ctxId : Nat) (avc : Bool) : Bool :=
  avc && s.h264FieldPending && s.ctxId == ctxId && !s.decoded && !s.decodeFailed && s.fence != 0

/-- `rk_BeginPicture` of a decoder context (`context.c:338-365`). -/
def beginPicture (s : RKSurface) (ctxId : Nat) (avc : Bool) : RKSurface :=
  if s.continuation ctxId avc then
    { s with decoded := false, decodeFailed := false, ctxId := ctxId }
  else
    { s with
      frame := none, backingBuf := none, decodePool := none, h264FieldPending := false
      fence := nextFence s.fence, decoded := false, decodeFailed := false, ctxId := ctxId }

/-- `rk_EndPicture` (`context.c:531-535`). -/
def markField (s : RKSurface) (fence : Nat) (field : Bool) : RKSurface :=
  if s.fence = fence then { s with h264FieldPending := field } else s

/-- `complete_surface_ref` (`mpp_dec.c:312-326`). -/
def completeSurfaceRef (s : RKSurface) (fence : Nat) (success : Bool) : RKSurface :=
  if s.fence = fence then
    { s with decoded := success, decodeFailed := !success, h264FieldPending := false }
  else s

/-- `rk_mpp_dec_fail_surface` (`mpp_dec.c:1499-1509`). -/
def rkMppDecFailSurface (s : RKSurface) (fence : Nat) : RKSurface :=
  if s.fence = fence ∧ s.decoded = false then { s with decodeFailed := true } else s

/-- A surface with another verdict. -/
def RKSurface.settle (s : RKSurface) (decoded decodeFailed h264FieldPending : Bool) : RKSurface :=
  { s with decoded := decoded, decodeFailed := decodeFailed, h264FieldPending := h264FieldPending }

theorem markField_settle (s : RKSurface) (fence : Nat) (field : Bool) :
    ∃ pending, markField s fence field = s.settle s.decoded s.decodeFailed pending := by
  unfold markField
  split
  · exact ⟨field, rfl⟩
  · exact ⟨s.h264FieldPending, rfl⟩

theorem completeSurfaceRef_settle (s : RKSurface) (fence : Nat) (success : Bool) :
    ∃ decoded failed pending, completeSurfaceRef s fence success = s.settle decoded failed pending ∧
      (decoded = true → s.decoded = true ∨ s.fence = fence ∧ success = true) := by
  unfold completeSurfaceRef
  split
  · rename_i current
    exact ⟨success, !success, false, rfl, fun h => .inr ⟨current, h⟩⟩
  · exact ⟨s.decoded, s.decodeFailed, s.h264FieldPending, rfl, .inl⟩

theorem rkMppDecFailSurface_settle (s : RKSurface) (fence : Nat) :
    ∃ failed, rkMppDecFailSurface s fence = s.settle s.decoded failed s.h264FieldPending := by
  unfold rkMppDecFailSurface
  split
  · exact ⟨true, rfl⟩
  · exact ⟨s.decodeFailed, rfl⟩

theorem beginPicture_cases (s : RKSurface) (ctxId : Nat) (avc : Bool) :
    beginPicture s ctxId avc =
        { s with decoded := false, decodeFailed := false, ctxId := ctxId } ∧
        s.continuation ctxId avc = true ∨
      beginPicture s ctxId avc =
        { s with
          frame := none, backingBuf := none, decodePool := none, h264FieldPending := false
          fence := nextFence s.fence, decoded := false, decodeFailed := false, ctxId := ctxId } := by
  unfold beginPicture
  split
  · rename_i continues
    exact .inl ⟨rfl, continues⟩
  · exact .inr rfl

/-- What `assign_mpp_frame` has found out about a frame before it publishes it. -/
structure FrameOutput where
  storedFrame : Option MppFrame
  outputBuffer : Option MppBuffer
  backing : Option MppBuffer
  retainedPool : Option Nat
  fmt : MppFrameFormat
  width : Int
  height : Int
  hstride : Int
  vstride : Int
  converted10bit : Bool
  stableExportCopy : Bool
  deriving DecidableEq, Repr

/-- The last section of `assign_mpp_frame` (`mpp_dec.c:617-650`), where the fence is still the
route's. -/
def publish (s : RKSurface) (output : FrameOutput) : RKSurface :=
  { s with
    frame := output.storedFrame
    backingBuf := output.backing
    decodePool := output.retainedPool
    fmt := output.fmt
    width := if 0 < output.width then output.width else s.width
    height := if 0 < output.height then output.height else s.height
    width_pos := by split <;> [assumption; exact s.width_pos]
    height_pos := by split <;> [assumption; exact s.height_pos]
    hstride := if 0 < output.hstride then output.hstride else s.hstride
    vstride := if 0 < output.vstride then output.vstride else s.vstride
    decoded := true
    decodeFailed := false
    h264FieldPending := false }

end RockchipVaapi.Surface
