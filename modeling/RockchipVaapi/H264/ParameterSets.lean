import RockchipVaapi.Bs.Nal

/-!
# H.264 parameter sets from VA-API buffers

The model of `h264.c`: the level derivation, the SPS emitter and the PPS emitter, statement
by statement, over the fields of `VAPictureParameterBufferH264` and `VAIQMatrixBufferH264`
that they read.
-/

namespace RockchipVaapi.H264
open Bitstream

/-- The fields of `VAPictureParameterBufferH264` the driver reads, with the widths the VA
headers give them. `seq_fields` and `pic_fields` are flattened. -/
structure VAPictureParameterBufferH264 where
  pictureWidthInMbsMinus1 : UInt16
  pictureHeightInMbsMinus1 : UInt16
  bitDepthLumaMinus8 : UInt8
  bitDepthChromaMinus8 : UInt8
  numRefFrames : UInt8
  chromaFormatIdc : Fin 4
  residualColourTransformFlag : Bool
  gapsInFrameNumValueAllowedFlag : Bool
  frameMbsOnlyFlag : Bool
  mbAdaptiveFrameFieldFlag : Bool
  direct8x8InferenceFlag : Bool
  minLumaBiPredSize8x8 : Bool
  log2MaxFrameNumMinus4 : Fin 16
  picOrderCntType : Fin 4
  log2MaxPicOrderCntLsbMinus4 : Fin 16
  deltaPicOrderAlwaysZeroFlag : Bool
  picInitQpMinus26 : Int8
  picInitQsMinus26 : Int8
  chromaQpIndexOffset : Int8
  secondChromaQpIndexOffset : Int8
  entropyCodingModeFlag : Bool
  weightedPredFlag : Bool
  weightedBipredIdc : Fin 4
  transform8x8ModeFlag : Bool
  fieldPicFlag : Bool
  constrainedIntraPredFlag : Bool
  picOrderPresentFlag : Bool
  deblockingFilterControlPresentFlag : Bool
  redundantPicCntPresentFlag : Bool
  deriving DecidableEq, Repr

/-- `VAIQMatrixBufferH264`. -/
structure VAIQMatrixBufferH264 where
  scalingList4x4 : Fin 6 → Fin 16 → UInt8
  scalingList8x8 : Fin 2 → Fin 64 → UInt8

/-- `H264LevelLimit` (`h264.c:26-30`). -/
structure H264LevelLimit where
  levelIdc : Nat
  maxFs : Nat
  maxDpbMbs : Nat
  deriving DecidableEq, Repr

/-- `h264_level_limits` (`h264.c:36-49`). -/
def h264LevelLimits : List H264LevelLimit :=
  [⟨10, 99, 396⟩, ⟨11, 396, 900⟩, ⟨12, 396, 2376⟩, ⟨21, 792, 4752⟩, ⟨22, 1620, 8100⟩,
    ⟨31, 3600, 18000⟩, ⟨32, 5120, 20480⟩, ⟨40, 8192, 32768⟩, ⟨42, 8704, 34816⟩,
    ⟨50, 22080, 110400⟩, ⟨51, 36864, 184320⟩, ⟨60, 139264, 696320⟩]

/-- The tests of one turn of the loop of `h264_derive_level_idc`. No product reaches `2^64`. -/
def h264LevelFits (pp : VAPictureParameterBufferH264) (limit : H264LevelLimit) : Bool :=
  let widthMbs := pp.pictureWidthInMbsMinus1.toNat + 1
  let heightMbs := pp.pictureHeightInMbsMinus1.toNat + 1
  let frameMbs := widthMbs * heightMbs
  let dpbMbs := frameMbs * pp.numRefFrames.toNat
  !(pp.minLumaBiPredSize8x8 && decide (limit.levelIdc < 31)) &&
    !(decide (limit.maxFs < frameMbs) || decide (8 * limit.maxFs < widthMbs * widthMbs) ||
      decide (8 * limit.maxFs < heightMbs * heightMbs) || decide (limit.maxDpbMbs < dpbMbs))

/-- `h264_derive_level_idc` (`h264.c:51-80`) of a buffer that is there. -/
def h264DeriveLevelIdc (pp : VAPictureParameterBufferH264) : Nat :=
  match h264LevelLimits.find? (h264LevelFits pp) with
  | some limit => limit.levelIdc
  | none => 62

/-- The profiles with chroma format and bit depth fields, as `h264_write_sps` lists them. -/
def h264HighProfile (profileIdc : Nat) : Bool :=
  profileIdc == 100 || profileIdc == 110 || profileIdc == 122 || profileIdc == 244 ||
    profileIdc == 44 || profileIdc == 83 || profileIdc == 86 || profileIdc == 118 ||
    profileIdc == 128

/-- `pic_height_in_map_units_minus1` as `h264_write_sps` computes it (`h264.c:153-154`). -/
def phUnits (pp : VAPictureParameterBufferH264) : Nat :=
  if pp.frameMbsOnlyFlag then pp.pictureHeightInMbsMinus1.toNat
  else ((pp.pictureHeightInMbsMinus1.toNat + 1) / 2 + (2 ^ 32 - 1)) % 2 ^ 32

/-- The statements of `h264_write_sps` up to `bs_rbsp_trailing` (`h264.c:108-166`). -/
def h264SpsRbsp (pp : VAPictureParameterBufferH264) (profileIdc : Nat) : BsM Unit := do
  bsWrite 0x67 8
  bsWrite profileIdc 8
  bsWriteFlag (profileIdc == 66)
  bsWriteFlag (profileIdc == 66 || profileIdc == 77)
  bsWrite 0 1
  bsWrite 0 5
  bsWrite (h264DeriveLevelIdc pp) 8
  bsWriteUe 0
  bsIf (h264HighProfile profileIdc) do
    bsWriteUe pp.chromaFormatIdc.val
    bsIf (pp.chromaFormatIdc == 3) (bsWriteFlag pp.residualColourTransformFlag)
    bsWriteUe pp.bitDepthLumaMinus8.toNat
    bsWriteUe pp.bitDepthChromaMinus8.toNat
    bsWrite 0 1
    bsWrite 0 1
  bsWriteUe pp.log2MaxFrameNumMinus4.val
  bsWriteUe pp.picOrderCntType.val
  bsIf (pp.picOrderCntType == 0) (bsWriteUe pp.log2MaxPicOrderCntLsbMinus4.val)
  bsIf (pp.picOrderCntType == 1) do
    bsWriteFlag pp.deltaPicOrderAlwaysZeroFlag
    bsWriteSe 0
    bsWriteSe 0
    bsWriteUe 0
  bsWriteUe pp.numRefFrames.toNat
  bsWriteFlag pp.gapsInFrameNumValueAllowedFlag
  bsWriteUe pp.pictureWidthInMbsMinus1.toNat
  bsWriteUe (phUnits pp)
  bsWriteFlag pp.frameMbsOnlyFlag
  bsIf (!pp.frameMbsOnlyFlag) (bsWriteFlag pp.mbAdaptiveFrameFieldFlag)
  bsWriteFlag pp.direct8x8InferenceFlag
  bsWrite 0 1
  bsWrite 0 1

/-- The end both emitters share: the size test, the start code and `emulation_prevent`
(`h264.c:170-177`, `h264.c:280-287`). -/
def h264FinishNal (bufSize : Nat) (raw : List UInt8) : Option (List UInt8) :=
  if bufSize < 4 + raw.length * 2 then none
  else
    let escaped := emulationPrevent raw (bufSize - 4)
    if escaped = [] then none else some (0 :: 0 :: 0 :: 1 :: escaped)

/-- `h264_write_sps` (`h264.c:100-178`): the bytes written, or `none` for `-1`. -/
def h264WriteSps (bufSize : Nat) (pp : VAPictureParameterBufferH264) (profileIdc : Nat) :
    Option (List UInt8) := do
  let (_, bs) ← (do h264SpsRbsp pp profileIdc; bsRbspTrailing : BsM Unit) (BSWriter.init 512)
  h264FinishNal bufSize bs.output

/-- `scan4x4` (`h264.c:212-215`). -/
def scan4x4 : List (Fin 16) := [0, 1, 4, 8, 5, 2, 3, 6, 9, 12, 13, 10, 7, 11, 14, 15]

/-- `scan8x8` (`h264.c:216-225`). -/
def scan8x8 : List (Fin 64) :=
  [0, 1, 8, 16, 9, 2, 3, 10, 17, 24, 32, 25, 18, 11, 4, 5, 12, 19, 26, 33, 40, 48, 41, 34,
    27, 20, 13, 6, 7, 14, 21, 28, 35, 42, 49, 56, 57, 50, 43, 36, 29, 22, 15, 23, 30, 37, 44,
    51, 58, 59, 52, 45, 38, 31, 39, 46, 53, 60, 61, 54, 47, 55, 62, 63]

/-- The difference `write_scaling_list` codes, brought into the range of a signed byte. -/
def scalingDelta (next last : Int) : Int :=
  let delta := next - last
  if 127 < delta then delta - 256 else if delta < -128 then delta + 256 else delta

/-- `write_scaling_list` (`h264.c:180-204`) from `last_scale` on. -/
def writeScalingList {n : Nat} (list : Fin n → UInt8) : List (Fin n) → Nat → BsM Unit
  | [], _ => pure ()
  | pos :: scan, lastScale => do
    bsIf ((list pos).toNat == 0) bsFail
    bsWriteSe (scalingDelta (list pos).toNat lastScale)
    writeScalingList list scan (list pos).toNat

/-- One of the loops over the scaling lists of `h264_write_pps` (`h264.c:260-265`,
`h264.c:267-272`): every list is present and explicit. -/
def writeScalingLists {n : Nat} (scan : List (Fin n)) : List (Fin n → UInt8) → BsM Unit
  | [] => pure ()
  | list :: lists => do
    bsWrite 1 1
    writeScalingList list scan 8
    writeScalingLists scan lists

/-- The scaling matrix section of `h264_write_pps` (`h264.c:259-274`). -/
def h264ScalingMatrices (iq : Option VAIQMatrixBufferH264) (transform8x8 : Bool) : BsM Unit :=
  match iq with
  | none => pure ()
  | some iq => do
    writeScalingLists scan4x4 (List.ofFn iq.scalingList4x4)
    bsIf transform8x8 (writeScalingLists scan8x8 (List.ofFn iq.scalingList8x8))

/-- The condition under which `h264_write_pps` emits the extension (`h264.c:255-256`). -/
def h264PpsExtension (pp : VAPictureParameterBufferH264) (iq : Option VAIQMatrixBufferH264) :
    Bool :=
  iq.isSome || pp.transform8x8ModeFlag ||
    pp.secondChromaQpIndexOffset != pp.chromaQpIndexOffset

/-- The statements of `h264_write_pps` up to `bs_rbsp_trailing` (`h264.c:230-276`). -/
def h264PpsRbsp (pp : VAPictureParameterBufferH264) (iq : Option VAIQMatrixBufferH264)
    (l0 l1 : Int) : BsM Unit := do
  bsWrite 0x68 8
  bsWriteUe 0
  bsWriteUe 0
  bsWriteFlag pp.entropyCodingModeFlag
  bsWriteFlag pp.picOrderPresentFlag
  bsWriteUe 0
  bsWriteUe (if l0 < 0 then 0 else l0.toNat)
  bsWriteUe (if l1 < 0 then 0 else l1.toNat)
  bsWriteFlag pp.weightedPredFlag
  bsWrite pp.weightedBipredIdc.val 2
  bsWriteSe pp.picInitQpMinus26.toInt
  bsWriteSe pp.picInitQsMinus26.toInt
  bsWriteSe pp.chromaQpIndexOffset.toInt
  bsWriteFlag pp.deblockingFilterControlPresentFlag
  bsWriteFlag pp.constrainedIntraPredFlag
  bsWriteFlag pp.redundantPicCntPresentFlag
  bsIf (h264PpsExtension pp iq) do
    bsWriteFlag pp.transform8x8ModeFlag
    bsWriteFlag iq.isSome
    h264ScalingMatrices iq pp.transform8x8ModeFlag
    bsWriteSe pp.secondChromaQpIndexOffset.toInt

/-- `h264_write_pps` (`h264.c:206-288`): the bytes written, or `none` for `-1`. -/
def h264WritePps (bufSize : Nat) (pp : VAPictureParameterBufferH264)
    (iq : Option VAIQMatrixBufferH264) (l0 l1 : Int) : Option (List UInt8) := do
  let (_, bs) ← (do h264PpsRbsp pp iq l0 l1; bsRbspTrailing : BsM Unit) (BSWriter.init 1024)
  h264FinishNal bufSize bs.output

end RockchipVaapi.H264
