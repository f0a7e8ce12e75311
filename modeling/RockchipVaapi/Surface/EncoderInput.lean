import RockchipVaapi.Surface.Shared

/-!
# The input of the encoder

`rk_mpp_enc_encode` hands one buffer to MPP: the imported one where the picture lies in it as NV12,
and the placeholder otherwise, into which an import in two objects is copied and RGB is converted.
The frame carries the strides of the surface, whichever buffer it gets.
-/

namespace RockchipVaapi.Surface

/-! ## Conversion of RGB -/

/-- `RK_FORMAT_...`. -/
inductive RgaFormat
  | rgba8888
  | rgbx8888
  | bgra8888
  | bgrx8888
  | yCbCr420Sp
  deriving DecidableEq, Repr

/-- `rgb_rga_format` (`convert.c:34-48`). Without the RGA there are no formats. -/
def rgbRgaFormat (rga : Bool) (fourcc : Fourcc) : Option RgaFormat :=
  if rga then
    match fourcc with
    | .rgba => some .rgba8888
    | .rgbx => some .rgbx8888
    | .bgra => some .bgra8888
    | .bgrx => some .bgrx8888
    | _ => none
  else none

/-- The arguments of `wrapbuffer_fd_t`. -/
structure RgaImage where
  fd : Int
  width : Nat
  height : Nat
  wstride : Nat
  hstride : Nat
  format : RgaFormat
  deriving DecidableEq, Repr

/-- The arguments of `improcess`. -/
structure RgaJob where
  source : RgaImage
  destination : RgaImage
  sourceRect : Rect
  destinationRect : Rect
  deriving DecidableEq, Repr

/-- `rk_convert_rgb_to_nv12` (`convert.c:50-127`) up to `improcess`. -/
def rkConvertRgbToNv12 (rga : Bool) (sourceFd : Int) (sourceSize : Nat) (sourceFourcc : Fourcc)
    (sourcePitch width height : Nat) (destination : Option MppBuffer)
    (destinationStride destinationVerticalStride : Nat) : Option RgaJob :=
  let sourceLayoutSize :=
    if height ≠ 0 ∧ sizeMax / height < sourcePitch then sizeMax else sourcePitch * height
  match rgbRgaFormat rga sourceFourcc, destination,
    rkNv12LayoutSize destinationStride destinationVerticalStride with
  | some sourceFormat, some destination, some destinationLayoutSize =>
    if sourceFd < 0 ∨ width = 0 ∨ height = 0 ∨ width % 2 = 1 ∨ height % 2 = 1 ∨
        sourcePitch % 4 ≠ 0 ∨ sourcePitch / 4 < width ∨ sourceSize < sourceLayoutSize ∨
        destinationStride < width ∨ destinationVerticalStride < height ∨
        destination.size < destinationLayoutSize then none
    else if destination.fd < 0 ∨ intMax < sourceSize ∨ intMax < destinationLayoutSize ∨
        intMax < sourcePitch / 4 ∨ intMax < width ∨ intMax < height ∨
        intMax < destinationStride ∨ intMax < destinationVerticalStride then none
    else
      some ⟨⟨sourceFd, width, height, sourcePitch / 4, height, sourceFormat⟩,
        ⟨destination.fd, width, height, destinationStride, destinationVerticalStride,
          .yCbCr420Sp⟩, .whole width height, .whole width height⟩
  | _, _, _ => none

/-! ## The frame -/

/-- What the input gets of the CPU and of the RGA. `improcess` answers with the bytes of the
destination. -/
structure InputEnv where
  normalize : NormalizeAccess
  rga : Bool
  improcess : RgaJob → Bytes → Bytes → Option Bytes

/-- The fields of the frame that MPP gets, and what is in its buffer. -/
structure InputFrame where
  buffer : MppBuffer
  width : Nat
  height : Nat
  horStride : Nat
  verStride : Nat
  bytes : Bytes

/-- A frame in a buffer, with the size and the strides of the surface (`mpp_enc.c:538-544`). -/
def RKSurface.inputFrame (s : RKSurface) (buffer : MppBuffer) (bytes : Bytes) : InputFrame :=
  ⟨buffer, toUint32 s.width, toUint32 s.height, toUint32 s.hstride, toUint32 s.vstride, bytes⟩

/-- The input of `rk_mpp_enc_encode` (`mpp_enc.c:514-544`). `uv` is the memory of the second object
of an import. -/
def encoderInput (env : InputEnv) (s : RKSurface) (m : PictureMemory) (uv : Bytes) :
    Option InputFrame :=
  let normalized :=
    if s.imported.any Imported.multiplane then
      rkSurfaceNormalizeMultiplaneImport env.normalize s m.imported uv m.priv
    else (true, m.priv)
  if normalized.1 = false ∨ s.is10bit = true then none
  else
    match s.imported with
    | none => some (s.inputFrame s.privBuf normalized.2)
    | some imported =>
      if imported.contiguous then some (s.inputFrame imported.buf m.imported)
      else if imported.rgb then
        (rkConvertRgbToNv12 env.rga imported.buf.fd imported.size s.fourcc imported.pitch
          (toUint32 s.width) (toUint32 s.height) (some s.privBuf) (toUint32 s.hstride)
          (toUint32 s.vstride)).bind fun job =>
            (env.improcess job m.imported normalized.2).map (s.inputFrame s.privBuf)
      else some (s.inputFrame s.privBuf normalized.2)

namespace InputFrame

/-- The rows of the picture lie in the buffer, one behind the other, and those of the chroma behind
those of the luma. -/
structure Holds (f : InputFrame) (width height : Nat) : Prop where
  size : f.width = width ∧ f.height = height
  wide : width ≤ f.horStride
  tall : height ≤ f.verStride
  room : f.horStride * (f.verStride + height / 2) ≤ f.buffer.size

def luma (f : InputFrame) (row column : Nat) : UInt8 := f.bytes (row * f.horStride + column)

def chroma (f : InputFrame) (row column : Nat) : UInt8 :=
  f.bytes (f.horStride * f.verStride + row * f.horStride + column)

end InputFrame

/-! ## What a surface shows -/

/-- A sample of the luma, where the application or the driver has put it. -/
def RKSurface.luma (s : RKSurface) (m : PictureMemory) (row column : Nat) : UInt8 :=
  match s.imported with
  | none => m.priv (row * s.hstride.toNat + column)
  | some imported => m.imported (row * imported.pitch + column)

def RKSurface.chroma (s : RKSurface) (m : PictureMemory) (uv : Bytes) (row column : Nat) : UInt8 :=
  match s.imported with
  | none => m.priv (s.hstride.toNat * s.vstride.toNat + row * s.hstride.toNat + column)
  | some imported =>
    if imported.multiplane then uv (row * imported.chromaPitch + column)
    else m.imported (imported.pitch * s.height.toNat + row * imported.pitch + column)

end RockchipVaapi.Surface
