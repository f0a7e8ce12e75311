import RockchipVaapi.Misc.Memory
import RockchipVaapi.Surface.Create

/-!
# Images

`rk_CreateImage` lays out an image in memory of its own; `rk_PutImage` and `rk_GetImage` copy a
whole picture between an image and the buffer of a surface. The surface is always NV12 or P010, so
a planar image is woven on its way in and parted on its way out.
-/

namespace RockchipVaapi.Surface

open Memory

/-- The bytes of a buffer. -/
abbrev Bytes := Nat → UInt8

/-- `USHRT_MAX`. -/
def ushrtMax : Int := 65535

/-- `RKImage`, with the capacity of its buffer. -/
structure RKImage where
  fourcc : Fourcc
  width : Nat
  height : Nat
  numPlanes : Nat
  pitches : List Nat
  offsets : List Nat
  capacity : Nat
  deriving DecidableEq, Repr

namespace RKImage

def pitch (image : RKImage) (plane : Nat) : Nat := image.pitches.getD plane 0

def offset (image : RKImage) (plane : Nat) : Nat := image.offsets.getD plane 0

end RKImage

/-- `planar`. -/
def Fourcc.planar : Fourcc → Bool
  | .i420 | .yv12 => true
  | _ => false

/-- The plane of U of a planar image. -/
def Fourcc.uPlane (fourcc : Fourcc) : Nat := if fourcc = .i420 then 1 else 2

/-- The plane of V of a planar image. -/
def Fourcc.vPlane (fourcc : Fourcc) : Nat := if fourcc = .i420 then 2 else 1

/-- `bytes_per_sample` of `rk_CreateImage` (`buffer.c:444-457`). -/
def bytesPerSample (fourcc : Fourcc) (width height : Nat) : Option Nat :=
  match fourcc with
  | .nv12 => some 1
  | .p010 => some 2
  | .i420 | .yv12 => if width % 2 = 1 ∨ height % 2 = 1 then none else some 1
  | .rgba | .rgbx | .bgra | .bgrx => none

/-- `allocation_size` (`buffer.c:465-478`). -/
def imageAllocation (planar : Bool) (imagePitch chromaPitch height : Nat) : Option Nat :=
  if planar then
    let lumaSize := imagePitch * height
    let chromaSize := chromaPitch * (height / 2)
    if (sizeMax - lumaSize) / 2 < chromaSize then none else some (lumaSize + 2 * chromaSize)
  else rkNv12LayoutSize imagePitch height

/-- `rk_CreateImage` (`buffer.c:436-540`). `allocates` says whether the image and its buffer can be
created. -/
def rkCreateImage (allocates : Bool) (fourcc : Fourcc) (width height : Int) : Option RKImage :=
  if width ≤ 0 ∨ height ≤ 0 ∨ ushrtMax < width ∨ ushrtMax < height then none
  else
    match bytesPerSample fourcc width.toNat height.toNat with
    | none => none
    | some bytesPerSample =>
      let alignedWidth := roundUp 16 width.toNat
      if uint32Max / bytesPerSample < alignedWidth then none
      else
        let imagePitch := alignedWidth * bytesPerSample
        let chromaPitch := if fourcc.planar then alignedWidth / 2 else imagePitch
        match imageAllocation fourcc.planar imagePitch chromaPitch height.toNat with
        | none => none
        | some allocationSize =>
          if uint32Max < allocationSize ∨ allocates = false then none
          else
            let second := imagePitch * height.toNat % (uint32Max + 1)
            let third := (second + chromaPitch * (height.toNat / 2)) % (uint32Max + 1)
            some
              { fourcc := fourcc, width := width.toNat, height := height.toNat
                numPlanes := if fourcc.planar then 3 else 2
                pitches := [imagePitch, chromaPitch, if fourcc.planar then chromaPitch else 0]
                offsets := [0, second, if fourcc.planar then third else 0]
                capacity := allocationSize }

/-- `image_plane_fits` (`buffer.c:738-750`, `surface.c:710-722`), of the image's own buffer. -/
def imagePlaneFits (image : RKImage) (plane rowBytes rows : Nat) : Bool :=
  if image.numPlanes ≤ plane ∨ image.pitch plane < rowBytes ∨
      image.capacity < image.offset plane then false
  else if rows = 0 then true
  else
    let lastRow := (rows - 1) * image.pitch plane
    decide (lastRow ≤ image.capacity - image.offset plane) &&
      decide (rowBytes ≤ image.capacity - image.offset plane - lastRow)

/-- The layout of an image holds a picture (`buffer.c:786-796`, `surface.c:772-781`). -/
def imageLayoutValid (image : RKImage) (width height rowBytes : Nat) : Bool :=
  let planar := image.fourcc.planar
  imagePlaneFits image 0 (if planar then width else rowBytes) height &&
    imagePlaneFits image 1 (if planar then width / 2 else rowBytes) (height / 2) &&
    (!planar || imagePlaneFits image 2 (width / 2) (height / 2))

/-- A rectangle of an image or a surface. -/
structure Rect where
  x : Int
  y : Int
  width : Nat
  height : Nat
  deriving DecidableEq, Repr

/-- Whether the CPU gets at a buffer: `mpp_buffer_get_ptr` and the two calls of
`dmabuf_cpu_sync`. -/
structure CpuAccess where
  mapped : Bool
  starts : Bool
  ends : Bool
  deriving DecidableEq, Repr

/-- The memory of a surface: that of its import, of the picture that is bound, of the placeholder,
and of the repacked export. -/
structure PictureMemory where
  imported : Bytes
  bound : Bytes
  priv : Bytes
  exported : Bytes

/-- The bytes of `active_buffer`. -/
def RKSurface.activeBytes (s : RKSurface) (m : PictureMemory) : Bytes :=
  match s.imported with
  | some _ => m.imported
  | none => if s.holdsPicture then m.bound else m.priv

/-! ## Upload -/

/-- `full_frame` of `rk_PutImage` (`buffer.c:774-779`). -/
def putsFullFrame (s : RKSurface) (image : RKImage) (source target : Rect) : Bool :=
  source.x == 0 && source.y == 0 && target.x == 0 && target.y == 0 &&
    source.width == image.width && source.height == image.height &&
    target.width == toUint32 s.width && target.height == toUint32 s.height &&
    source.width == target.width && source.height == target.height

/-- The bytes of a row of luma on the surface. -/
def RKSurface.rowBytes (s : RKSurface) : Nat := s.width.toNat * sampleBytes s.is10bit

/-- The bytes of a row of luma that are copied. -/
def lumaBytes (s : RKSurface) (image : RKImage) : Nat :=
  if image.fourcc.planar then s.width.toNat else s.rowBytes

/-- The rows of an image that are written to the placeholder (`buffer.c:831-859`). -/
def putRows (s : RKSurface) (image : RKImage) (src priv : Bytes) (pitch size : Nat) : Bytes :=
  let uv := pitch * s.vstride.toNat
  let luma := forLoop (copyRow 0 pitch src (image.offset 0) (image.pitch 0) (lumaBytes s image))
    s.height.toNat (memset priv 0 size)
  if image.fourcc.planar then
    let u := image.fourcc.uPlane
    let v := image.fourcc.vPlane
    forLoop (fun row => weaveRow (uv + row * pitch) src (image.offset u + row * image.pitch u)
      (image.offset v + row * image.pitch v) (s.width.toNat / 2)) (s.height.toNat / 2) luma
  else
    forLoop (copyRow uv pitch src (image.offset 1) (image.pitch 1) s.rowBytes) (s.height.toNat / 2)
      luma

/-- The pitch of the placeholder and the bytes that are written, where all checks pass and the CPU
gets at it (`buffer.c:774-829`). -/
def putTarget (access : CpuAccess) (s : RKSurface) (image : RKImage) (source target : Rect) :
    Option (Nat × Nat) :=
  if s.imported.isSome ∨ putsFullFrame s image source target = false ∨ image.fourcc ≠ s.fourcc ∨
      (image.fourcc.planar = true ∧ s.is10bit = true) ∨
      imageLayoutValid image s.width.toNat s.height.toNat s.rowBytes = false then none
  else
    let pitch := s.hstride.toNat * sampleBytes s.is10bit
    match rkNv12LayoutSize pitch s.vstride.toNat with
    | none => none
    | some size =>
      if pitch < s.rowBytes ∨ s.privBuf.size < size ∨ image.capacity < image.offset 0 ∨
          s.privBuf.fd < 0 ∨ access.mapped = false ∨ access.starts = false then none
      else some (pitch, size)

/-- `rk_PutImage` on a surface and an image that exist (`buffer.c:774-870`): the status, and the
bytes of the placeholder. -/
def rkPutImage (access : CpuAccess) (s : RKSurface) (image : RKImage) (source target : Rect)
    (src priv : Bytes) : Except VAStatus Unit × Bytes :=
  match putTarget access s image source target with
  | none => (.error .operationFailed, priv)
  | some (pitch, size) =>
    (if access.ends then .ok () else .error .operationFailed, putRows s image src priv pitch size)

/-! ## Readback -/

/-- `source_buffer` of `rk_GetImage` (`surface.c:747-751`). -/
def RKSurface.readBuffer (s : RKSurface) : Option MppBuffer :=
  match s.imported with
  | some imported => some (if imported.multiplane then s.privBuf else imported.buf)
  | none => s.activeBuffer

/-- Its bytes. -/
def RKSurface.readBytes (s : RKSurface) (m : PictureMemory) : Bytes :=
  if s.imported.any Imported.multiplane then m.priv else s.activeBytes m

/-- `full_frame` of `rk_GetImage` (`surface.c:752-754`). -/
def getsFullFrame (s : RKSurface) (image : RKImage) (source : Rect) : Bool :=
  source.x == 0 && source.y == 0 && source.width == toUint32 s.width &&
    source.height == toUint32 s.height && decide (source.width ≤ image.width) &&
    decide (source.height ≤ image.height)

/-- The rows of a surface that are read into an image (`surface.c:811-837`). -/
def getRows (s : RKSurface) (image : RKImage) (src dst : Bytes) (pitch : Nat) : Bytes :=
  let uv := pitch * s.exportedVstride.toNat
  let luma := forLoop (copyRow (image.offset 0) (image.pitch 0) src 0 pitch (lumaBytes s image))
    s.height.toNat (memset dst 0 image.capacity)
  if image.fourcc.planar then
    let u := image.fourcc.uPlane
    let v := image.fourcc.vPlane
    forLoop (fun row => partRow (image.offset u + row * image.pitch u)
      (image.offset v + row * image.pitch v) src (uv + row * pitch) (s.width.toNat / 2))
      (s.height.toNat / 2) luma
  else
    forLoop (copyRow (image.offset 1) (image.pitch 1) src uv pitch s.rowBytes) (s.height.toNat / 2)
      luma

/-- `rk_GetImage` on a surface and an image that exist (`surface.c:744-844`): the status, and the
bytes of the image. `normalizes` is what `rk_surface_normalize_multiplane_import` returns. -/
def rkGetImage (access : CpuAccess) (normalizes : Bool) (s : RKSurface) (image : RKImage)
    (source : Rect) (m : PictureMemory) (dst : Bytes) : Except VAStatus Unit × Bytes :=
  match s.readBuffer with
  | none => (.error .operationFailed, dst)
  | some buffer =>
    if (s.imported.any Imported.multiplane = true ∧ normalizes = false) ∨
        getsFullFrame s image source = false then (.error .operationFailed, dst)
    else
      let pitch := s.exportedHstride.toNat * sampleBytes s.is10bit
      match rkNv12LayoutSize pitch s.exportedVstride.toNat with
      | none => (.error .operationFailed, dst)
      | some size =>
        if s.imported.any Imported.rgb = true ∨ image.fourcc ≠ s.fourcc ∨
            (image.fourcc.planar = true ∧ s.is10bit = true) ∨ pitch < s.rowBytes ∨
            buffer.size < size ∨
            imageLayoutValid image s.width.toNat s.height.toNat s.rowBytes = false ∨
            buffer.fd < 0 ∨ access.starts = false ∨ access.mapped = false then
          (.error .operationFailed, dst)
        else
          (if access.ends then .ok () else .error .operationFailed,
            getRows s image (s.readBytes m) dst pitch)

end RockchipVaapi.Surface
