import RockchipVaapi.Bs.Nal

/-!
# H.264 parameter set syntax

The sequence and picture parameter set syntax of H.264 7.3.2.1.1 and 7.3.2.2 as readers, with
the inferred values of absent elements (7.4.2). A stream that carries VUI parameters or slice
groups is outside the readers and gives `none`; everything else is read as the tables say.
-/

namespace RockchipVaapi.H264
open Bitstream

/-- Give up on syntax that is not modelled. -/
def readUnless (present : Bool) : Reader Unit := fun bits => if present then none else some ((), bits)

/-- `scaling_list()` (7.3.2.1.1.1): `size` entries after `last`, with `next` the running scale. -/
def readScalingList : Nat → Int → Int → Reader (List Int)
  | 0, _, _ => pure []
  | size + 1, last, next => do
    let next ← readIf (next != 0)
      (do let delta ← readSe; return (last + delta + 256) % 256) 0
    let value := if next = 0 then last else next
    let rest ← readScalingList size value next
    return value :: rest

/-- One scaling list with its present flag; `none` where the flag is zero. -/
def readPresentList (size : Nat) : Reader (Option (List Int)) := do
  let present ← readFlag
  readIf present (do let list ← readScalingList size 8 8; return some list) none

/-- A scaling matrix: six 4x4 lists and `count8x8` 8x8 lists. -/
def readScalingMatrix (count8x8 : Nat) : Reader (List (Option (List Int))) := do
  let lists4x4 ← readMany (readPresentList 16) 6
  let lists8x8 ← readMany (readPresentList 64) count8x8
  return lists4x4 ++ lists8x8

/-- The elements of an SPS that only the High profiles carry. -/
structure ChromaInfo where
  chromaFormatIdc : Nat
  separateColourPlaneFlag : Bool
  bitDepthLumaMinus8 : Nat
  bitDepthChromaMinus8 : Nat
  qpprimeYZeroTransformBypassFlag : Bool
  scalingMatrix : Option (List (Option (List Int)))
  deriving DecidableEq, Repr

/-- `seq_parameter_set_data()` as far as the readers go. -/
structure Sps where
  profileIdc : Nat
  constraintSet0Flag : Bool
  constraintSet1Flag : Bool
  constraintSet2Flag : Bool
  constraintSet3To5AndReserved : Nat
  levelIdc : Nat
  seqParameterSetId : Nat
  chroma : ChromaInfo
  log2MaxFrameNumMinus4 : Nat
  picOrderCntType : Nat
  log2MaxPicOrderCntLsbMinus4 : Nat
  picOrderCntCycle : Option (Bool × Int × Int × List Int)
  maxNumRefFrames : Nat
  gapsInFrameNumValueAllowedFlag : Bool
  picWidthInMbsMinus1 : Nat
  picHeightInMapUnitsMinus1 : Nat
  frameMbsOnlyFlag : Bool
  mbAdaptiveFrameFieldFlag : Bool
  direct8x8InferenceFlag : Bool
  frameCropping : Option (Nat × Nat × Nat × Nat)
  deriving DecidableEq, Repr

/-- `FrameHeightInMbs` (7-18). -/
def Sps.frameHeightInMbs (sps : Sps) : Nat :=
  (2 - sps.frameMbsOnlyFlag.toNat) * (sps.picHeightInMapUnitsMinus1 + 1)

/-- The profiles whose SPS carries chroma format and bit depths. -/
def hasChromaFormat (profileIdc : Nat) : Bool :=
  [100, 110, 122, 244, 44, 83, 86, 118, 128, 138, 139, 134, 135].contains profileIdc

/-- The chroma format, bit depths and scaling matrix of the High profiles. -/
def readChromaInfo : Reader ChromaInfo := do
  let chromaFormatIdc ← readUe
  let separateColourPlaneFlag ← readIf (chromaFormatIdc == 3) readFlag false
  let bitDepthLumaMinus8 ← readUe
  let bitDepthChromaMinus8 ← readUe
  let qpprimeYZeroTransformBypassFlag ← readFlag
  let matrixPresent ← readFlag
  let scalingMatrix ← readIf matrixPresent
    (do let m ← readScalingMatrix (if chromaFormatIdc == 3 then 6 else 2); return some m) none
  return { chromaFormatIdc, separateColourPlaneFlag, bitDepthLumaMinus8, bitDepthChromaMinus8,
           qpprimeYZeroTransformBypassFlag, scalingMatrix }

/-- The values inferred for the other profiles: 4:2:0 with eight bits (7.4.2.1.1). -/
def inferredChromaInfo : ChromaInfo :=
  { chromaFormatIdc := 1, separateColourPlaneFlag := false, bitDepthLumaMinus8 := 0,
    bitDepthChromaMinus8 := 0, qpprimeYZeroTransformBypassFlag := false, scalingMatrix := none }

/-- The elements of `pic_order_cnt_type` 1. -/
def readPicOrderCntCycle : Reader (Option (Bool × Int × Int × List Int)) := do
  let alwaysZero ← readFlag
  let nonRef ← readSe
  let topToBottom ← readSe
  let count ← readUe
  let offsets ← readMany readSe count
  return some (alwaysZero, nonRef, topToBottom, offsets)

/-- The four cropping offsets. -/
def readCropping : Reader (Option (Nat × Nat × Nat × Nat)) := do
  let left ← readUe
  let right ← readUe
  let top ← readUe
  let bottom ← readUe
  return some (left, right, top, bottom)

/-- `seq_parameter_set_rbsp()` (7.3.2.1.1) up to its trailing bits. -/
def readSps : Reader Sps := do
  let profileIdc ← readU 8
  let constraintSet0Flag ← readFlag
  let constraintSet1Flag ← readFlag
  let constraintSet2Flag ← readFlag
  let constraintSet3To5AndReserved ← readU 5
  let levelIdc ← readU 8
  let seqParameterSetId ← readUe
  let chroma ← readIf (hasChromaFormat profileIdc) readChromaInfo inferredChromaInfo
  let log2MaxFrameNumMinus4 ← readUe
  let picOrderCntType ← readUe
  let log2MaxPicOrderCntLsbMinus4 ← readIf (picOrderCntType == 0) readUe 0
  let picOrderCntCycle ← readIf (picOrderCntType == 1) readPicOrderCntCycle none
  let maxNumRefFrames ← readUe
  let gapsInFrameNumValueAllowedFlag ← readFlag
  let picWidthInMbsMinus1 ← readUe
  let picHeightInMapUnitsMinus1 ← readUe
  let frameMbsOnlyFlag ← readFlag
  let mbAdaptiveFrameFieldFlag ← readIf (!frameMbsOnlyFlag) readFlag false
  let direct8x8InferenceFlag ← readFlag
  let croppingFlag ← readFlag
  let frameCropping ← readIf croppingFlag readCropping none
  let vuiPresent ← readFlag
  readUnless vuiPresent
  return { profileIdc, constraintSet0Flag, constraintSet1Flag, constraintSet2Flag,
           constraintSet3To5AndReserved, levelIdc, seqParameterSetId, chroma,
           log2MaxFrameNumMinus4, picOrderCntType, log2MaxPicOrderCntLsbMinus4,
           picOrderCntCycle, maxNumRefFrames, gapsInFrameNumValueAllowedFlag,
           picWidthInMbsMinus1, picHeightInMapUnitsMinus1, frameMbsOnlyFlag,
           mbAdaptiveFrameFieldFlag, direct8x8InferenceFlag, frameCropping }

/-- What follows `more_rbsp_data()` in a PPS. -/
structure PpsExtension where
  transform8x8ModeFlag : Bool
  scalingMatrix : Option (List (Option (List Int)))
  secondChromaQpIndexOffset : Int
  deriving DecidableEq, Repr

/-- `pic_parameter_set_rbsp()` with a single slice group. -/
structure Pps where
  picParameterSetId : Nat
  seqParameterSetId : Nat
  entropyCodingModeFlag : Bool
  bottomFieldPicOrderInFramePresentFlag : Bool
  numRefIdxL0DefaultActiveMinus1 : Nat
  numRefIdxL1DefaultActiveMinus1 : Nat
  weightedPredFlag : Bool
  weightedBipredIdc : Nat
  picInitQpMinus26 : Int
  picInitQsMinus26 : Int
  chromaQpIndexOffset : Int
  deblockingFilterControlPresentFlag : Bool
  constrainedIntraPredFlag : Bool
  redundantPicCntPresentFlag : Bool
  extension : PpsExtension
  deriving DecidableEq, Repr

/-- The extension read when there is more data. -/
def readPpsExtension (chromaFormatIdc : Nat) : Reader PpsExtension := do
  let transform8x8ModeFlag ← readFlag
  let matrixPresent ← readFlag
  let count8x8 := if transform8x8ModeFlag then (if chromaFormatIdc == 3 then 6 else 2) else 0
  let scalingMatrix ← readIf matrixPresent
    (do let m ← readScalingMatrix count8x8; return some m) none
  let secondChromaQpIndexOffset ← readSe
  return { transform8x8ModeFlag, scalingMatrix, secondChromaQpIndexOffset }

/-- The values inferred when the extension is absent (7.4.2.2). -/
def inferredExtension (chromaQpIndexOffset : Int) : PpsExtension :=
  { transform8x8ModeFlag := false, scalingMatrix := none,
    secondChromaQpIndexOffset := chromaQpIndexOffset }

/-- The extension or its inferred values, by `more_rbsp_data()`. -/
def readOptionalExtension (chromaFormatIdc : Nat) (chromaQpIndexOffset : Int) :
    Reader PpsExtension := fun bits =>
  if moreRbspData bits then readPpsExtension chromaFormatIdc bits
  else some (inferredExtension chromaQpIndexOffset, bits)

/-- `pic_parameter_set_rbsp()` (7.3.2.2) up to its trailing bits, under the
`chroma_format_idc` of the active SPS. -/
def readPps (chromaFormatIdc : Nat) : Reader Pps := do
  let picParameterSetId ← readUe
  let seqParameterSetId ← readUe
  let entropyCodingModeFlag ← readFlag
  let bottomFieldPicOrderInFramePresentFlag ← readFlag
  let numSliceGroupsMinus1 ← readUe
  readUnless (numSliceGroupsMinus1 != 0)
  let numRefIdxL0DefaultActiveMinus1 ← readUe
  let numRefIdxL1DefaultActiveMinus1 ← readUe
  let weightedPredFlag ← readFlag
  let weightedBipredIdc ← readU 2
  let picInitQpMinus26 ← readSe
  let picInitQsMinus26 ← readSe
  let chromaQpIndexOffset ← readSe
  let deblockingFilterControlPresentFlag ← readFlag
  let constrainedIntraPredFlag ← readFlag
  let redundantPicCntPresentFlag ← readFlag
  let extension ← readOptionalExtension chromaFormatIdc chromaQpIndexOffset
  return { picParameterSetId, seqParameterSetId, entropyCodingModeFlag,
           bottomFieldPicOrderInFramePresentFlag, numRefIdxL0DefaultActiveMinus1,
           numRefIdxL1DefaultActiveMinus1, weightedPredFlag, weightedBipredIdc,
           picInitQpMinus26, picInitQsMinus26, chromaQpIndexOffset,
           deblockingFilterControlPresentFlag, constrainedIntraPredFlag,
           redundantPicCntPresentFlag, extension }

/-- `nal_unit_type` of a NAL unit header byte. -/
def nalUnitType (header : UInt8) : Nat := header.toNat % 32

/-- A NAL unit of type 7 read as a sequence parameter set. -/
def parseSpsNal : List UInt8 → Option Sps
  | [] => none
  | header :: payload => if nalUnitType header = 7 then readRbsp readSps payload else none

/-- A NAL unit of type 8 read as a picture parameter set. -/
def parsePpsNal (chromaFormatIdc : Nat) : List UInt8 → Option Pps
  | [] => none
  | header :: payload =>
    if nalUnitType header = 8 then readRbsp (readPps chromaFormatIdc) payload else none

/-- The rows of `pic_parameter_set_rbsp()` up to the two default reference counts. -/
def readPpsRefDefaults : Reader (Nat × Nat) := do
  let _picParameterSetId ← readUe
  let _seqParameterSetId ← readUe
  let _entropyCodingModeFlag ← readFlag
  let _bottomFieldPicOrderInFramePresentFlag ← readFlag
  let numSliceGroupsMinus1 ← readUe
  readUnless (numSliceGroupsMinus1 != 0)
  let numRefIdxL0DefaultActiveMinus1 ← readUe
  let numRefIdxL1DefaultActiveMinus1 ← readUe
  return (numRefIdxL0DefaultActiveMinus1, numRefIdxL1DefaultActiveMinus1)

/-- `num_ref_idx_l0_default_active_minus1` and `num_ref_idx_l1_default_active_minus1` of a
NAL unit of type 8. -/
def ppsRefDefaults : List UInt8 → Option (Nat × Nat)
  | [] => none
  | header :: payload =>
    if nalUnitType header = 8 then
      (readPpsRefDefaults (bytesBits (unescape payload))).map Prod.fst
    else none

end RockchipVaapi.H264
