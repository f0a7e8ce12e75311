import RockchipVaapi.Bs.Nal

/-!
# HEVC parameter set syntax

The video, sequence and picture parameter set syntax of H.265 7.3.2 as readers, with the
inferred values of absent elements. Sub-layers, layer sets, hypothetical reference decoder
parameters, short-term sets of the SPS, VUI parameters and extensions are outside the readers
and give `none`; everything else is read as the tables say.
-/

namespace RockchipVaapi.Hevc
open Bitstream

/-- Give up on syntax that is not modelled. -/
def readAbsent (present : Bool) : Reader Unit := fun bits => if present then none else some ((), bits)

/-- `profile_tier_level( 1, 0 )` (7.3.3). -/
structure ProfileTierLevel where
  profileSpace : Nat
  tierFlag : Bool
  profileIdc : Nat
  compatibilityFlags : List Bool
  progressiveSourceFlag : Bool
  interlacedSourceFlag : Bool
  nonPackedConstraintFlag : Bool
  frameOnlyConstraintFlag : Bool
  constraintBits : Nat
  inbldFlag : Bool
  levelIdc : Nat
  deriving DecidableEq, Repr

def readProfileTierLevel : Reader ProfileTierLevel := do
  let profileSpace ← readU 2
  let tierFlag ← readFlag
  let profileIdc ← readU 5
  let compatibilityFlags ← readMany readFlag 32
  let progressiveSourceFlag ← readFlag
  let interlacedSourceFlag ← readFlag
  let nonPackedConstraintFlag ← readFlag
  let frameOnlyConstraintFlag ← readFlag
  let constraintBits ← readU 43
  let inbldFlag ← readFlag
  let levelIdc ← readU 8
  return { profileSpace, tierFlag, profileIdc, compatibilityFlags, progressiveSourceFlag,
           interlacedSourceFlag, nonPackedConstraintFlag, frameOnlyConstraintFlag,
           constraintBits, inbldFlag, levelIdc }

/-- The buffering information of the only sub-layer. -/
structure OrderingInfo where
  maxDecPicBufferingMinus1 : Nat
  maxNumReorderPics : Nat
  maxLatencyIncreasePlus1 : Nat
  deriving DecidableEq, Repr

def readOrderingInfo : Reader OrderingInfo := do
  let maxDecPicBufferingMinus1 ← readUe
  let maxNumReorderPics ← readUe
  let maxLatencyIncreasePlus1 ← readUe
  return { maxDecPicBufferingMinus1, maxNumReorderPics, maxLatencyIncreasePlus1 }

/-- `video_parameter_set_rbsp()` with a single layer and sub-layer. -/
structure Vps where
  videoParameterSetId : Nat
  baseLayerInternalFlag : Bool
  baseLayerAvailableFlag : Bool
  maxLayersMinus1 : Nat
  temporalIdNestingFlag : Bool
  reserved0xffff : Nat
  profileTierLevel : ProfileTierLevel
  subLayerOrderingInfoPresentFlag : Bool
  ordering : OrderingInfo
  maxLayerId : Nat
  deriving DecidableEq, Repr

/-- `video_parameter_set_rbsp()` (7.3.2.1) up to its trailing bits. -/
def readVps : Reader Vps := do
  let videoParameterSetId ← readU 4
  let baseLayerInternalFlag ← readFlag
  let baseLayerAvailableFlag ← readFlag
  let maxLayersMinus1 ← readU 6
  let maxSubLayersMinus1 ← readU 3
  readAbsent (maxSubLayersMinus1 != 0)
  let temporalIdNestingFlag ← readFlag
  let reserved0xffff ← readU 16
  let profileTierLevel ← readProfileTierLevel
  let subLayerOrderingInfoPresentFlag ← readFlag
  let ordering ← readOrderingInfo
  let maxLayerId ← readU 6
  let numLayerSetsMinus1 ← readUe
  readAbsent (numLayerSetsMinus1 != 0)
  let timingInfoPresentFlag ← readFlag
  readAbsent timingInfoPresentFlag
  let extensionFlag ← readFlag
  readAbsent extensionFlag
  return { videoParameterSetId, baseLayerInternalFlag, baseLayerAvailableFlag, maxLayersMinus1,
           temporalIdNestingFlag, reserved0xffff, profileTierLevel,
           subLayerOrderingInfoPresentFlag, ordering, maxLayerId }

/-- One matrix of `scaling_list_data()`: predicted from another one, or coded. -/
inductive ScalingListSyntax
  | predicted (matrixIdDelta : Nat)
  | coded (dcCoefMinus8 : Int) (deltaCoefs : List Int)
  deriving DecidableEq, Repr

def readScalingMatrix (sizeId : Nat) : Reader ScalingListSyntax := do
  let predModeFlag ← readFlag
  if predModeFlag then do
    let dcCoefMinus8 ← readIf (decide (1 < sizeId)) readSe 0
    let deltaCoefs ← readMany readSe (min 64 (2 ^ (4 + 2 * sizeId)))
    return .coded dcCoefMinus8 deltaCoefs
  else do
    let matrixIdDelta ← readUe
    return .predicted matrixIdDelta

/-- `scaling_list_data()` (7.3.4). -/
def readScalingListData : Reader (List ScalingListSyntax) := do
  let size0 ← readMany (readScalingMatrix 0) 6
  let size1 ← readMany (readScalingMatrix 1) 6
  let size2 ← readMany (readScalingMatrix 2) 6
  let size3 ← readMany (readScalingMatrix 3) 2
  return size0 ++ size1 ++ size2 ++ size3

/-- The PCM elements of an SPS. -/
structure PcmInfo where
  sampleBitDepthLumaMinus1 : Nat
  sampleBitDepthChromaMinus1 : Nat
  log2MinLumaCodingBlockSizeMinus3 : Nat
  log2DiffMaxMinLumaCodingBlockSize : Nat
  loopFilterDisabledFlag : Bool
  deriving DecidableEq, Repr

def readPcmInfo : Reader PcmInfo := do
  let sampleBitDepthLumaMinus1 ← readU 4
  let sampleBitDepthChromaMinus1 ← readU 4
  let log2MinLumaCodingBlockSizeMinus3 ← readUe
  let log2DiffMaxMinLumaCodingBlockSize ← readUe
  let loopFilterDisabledFlag ← readFlag
  return { sampleBitDepthLumaMinus1, sampleBitDepthChromaMinus1,
           log2MinLumaCodingBlockSizeMinus3, log2DiffMaxMinLumaCodingBlockSize,
           loopFilterDisabledFlag }

/-- `seq_parameter_set_rbsp()` with a single sub-layer. -/
structure Sps where
  videoParameterSetId : Nat
  temporalIdNestingFlag : Bool
  profileTierLevel : ProfileTierLevel
  seqParameterSetId : Nat
  chromaFormatIdc : Nat
  separateColourPlaneFlag : Bool
  picWidthInLumaSamples : Nat
  picHeightInLumaSamples : Nat
  conformanceWindow : Option (Nat × Nat × Nat × Nat)
  bitDepthLumaMinus8 : Nat
  bitDepthChromaMinus8 : Nat
  log2MaxPicOrderCntLsbMinus4 : Nat
  ordering : OrderingInfo
  log2MinLumaCodingBlockSizeMinus3 : Nat
  log2DiffMaxMinLumaCodingBlockSize : Nat
  log2MinLumaTransformBlockSizeMinus2 : Nat
  log2DiffMaxMinLumaTransformBlockSize : Nat
  maxTransformHierarchyDepthInter : Nat
  maxTransformHierarchyDepthIntra : Nat
  scalingListEnabledFlag : Bool
  scalingListData : Option (List ScalingListSyntax)
  ampEnabledFlag : Bool
  sampleAdaptiveOffsetEnabledFlag : Bool
  pcm : Option PcmInfo
  numShortTermRefPicSets : Nat
  longTermRefPicsPresentFlag : Bool
  numLongTermRefPicsSps : Nat
  ltRefPicsSps : List (Nat × Bool)
  temporalMvpEnabledFlag : Bool
  strongIntraSmoothingEnabledFlag : Bool
  deriving DecidableEq, Repr

/-- The four offsets of the conformance window. -/
def readConformanceWindow : Reader (Option (Nat × Nat × Nat × Nat)) := do
  let left ← readUe
  let right ← readUe
  let top ← readUe
  let bottom ← readUe
  return some (left, right, top, bottom)

/-- The scaling list section of an SPS whose flag is set. -/
def readSpsScalingList : Reader (Option (List ScalingListSyntax)) := do
  let dataPresentFlag ← readFlag
  readIf dataPresentFlag (do let data ← readScalingListData; return some data) none

/-- The long-term pictures of an SPS whose flag is set. -/
def readLongTermSps (pocLsbBits : Nat) : Reader (List (Nat × Bool)) := do
  let count ← readUe
  readMany (do let lsb ← readU pocLsbBits; let used ← readFlag; return (lsb, used)) count

/-- `seq_parameter_set_rbsp()` (7.3.2.2) up to its trailing bits. -/
def readSps : Reader Sps := do
  let videoParameterSetId ← readU 4
  let maxSubLayersMinus1 ← readU 3
  readAbsent (maxSubLayersMinus1 != 0)
  let temporalIdNestingFlag ← readFlag
  let profileTierLevel ← readProfileTierLevel
  let seqParameterSetId ← readUe
  let chromaFormatIdc ← readUe
  let separateColourPlaneFlag ← readIf (chromaFormatIdc == 3) readFlag false
  let picWidthInLumaSamples ← readUe
  let picHeightInLumaSamples ← readUe
  let conformanceWindowFlag ← readFlag
  let conformanceWindow ← readIf conformanceWindowFlag readConformanceWindow none
  let bitDepthLumaMinus8 ← readUe
  let bitDepthChromaMinus8 ← readUe
  let log2MaxPicOrderCntLsbMinus4 ← readUe
  let _subLayerOrderingInfoPresentFlag ← readFlag
  let ordering ← readOrderingInfo
  let log2MinLumaCodingBlockSizeMinus3 ← readUe
  let log2DiffMaxMinLumaCodingBlockSize ← readUe
  let log2MinLumaTransformBlockSizeMinus2 ← readUe
  let log2DiffMaxMinLumaTransformBlockSize ← readUe
  let maxTransformHierarchyDepthInter ← readUe
  let maxTransformHierarchyDepthIntra ← readUe
  let scalingListEnabledFlag ← readFlag
  let scalingListData ← readIf scalingListEnabledFlag readSpsScalingList none
  let ampEnabledFlag ← readFlag
  let sampleAdaptiveOffsetEnabledFlag ← readFlag
  let pcmEnabledFlag ← readFlag
  let pcm ← readIf pcmEnabledFlag (do let info ← readPcmInfo; return some info) none
  let numShortTermRefPicSets ← readUe
  readAbsent (numShortTermRefPicSets != 0)
  let longTermRefPicsPresentFlag ← readFlag
  let ltRefPicsSps ← readIf longTermRefPicsPresentFlag
    (readLongTermSps (log2MaxPicOrderCntLsbMinus4 + 4)) []
  let temporalMvpEnabledFlag ← readFlag
  let strongIntraSmoothingEnabledFlag ← readFlag
  let vuiParametersPresentFlag ← readFlag
  readAbsent vuiParametersPresentFlag
  let extensionPresentFlag ← readFlag
  readAbsent extensionPresentFlag
  return { videoParameterSetId, temporalIdNestingFlag, profileTierLevel, seqParameterSetId,
           chromaFormatIdc, separateColourPlaneFlag, picWidthInLumaSamples,
           picHeightInLumaSamples, conformanceWindow, bitDepthLumaMinus8, bitDepthChromaMinus8,
           log2MaxPicOrderCntLsbMinus4, ordering, log2MinLumaCodingBlockSizeMinus3,
           log2DiffMaxMinLumaCodingBlockSize, log2MinLumaTransformBlockSizeMinus2,
           log2DiffMaxMinLumaTransformBlockSize, maxTransformHierarchyDepthInter,
           maxTransformHierarchyDepthIntra, scalingListEnabledFlag, scalingListData,
           ampEnabledFlag, sampleAdaptiveOffsetEnabledFlag, pcm, numShortTermRefPicSets,
           longTermRefPicsPresentFlag, numLongTermRefPicsSps := ltRefPicsSps.length, ltRefPicsSps,
           temporalMvpEnabledFlag, strongIntraSmoothingEnabledFlag }

/-- The tile elements of a PPS. -/
structure TileInfo where
  numTileColumnsMinus1 : Nat
  numTileRowsMinus1 : Nat
  /-- The explicit widths and heights, where the spacing is not uniform. -/
  spacing : Option (List Nat × List Nat)
  loopFilterAcrossTilesEnabledFlag : Bool
  deriving DecidableEq, Repr

/-- The explicit tile sizes. -/
def readTileSizes (columnsMinus1 rowsMinus1 : Nat) : Reader (Option (List Nat × List Nat)) := do
  let widths ← readMany readUe columnsMinus1
  let heights ← readMany readUe rowsMinus1
  return some (widths, heights)

def readTileInfo : Reader (Option TileInfo) := do
  let numTileColumnsMinus1 ← readUe
  let numTileRowsMinus1 ← readUe
  let uniformSpacingFlag ← readFlag
  let spacing ← readIf (!uniformSpacingFlag)
    (readTileSizes numTileColumnsMinus1 numTileRowsMinus1) none
  let loopFilterAcrossTilesEnabledFlag ← readFlag
  return some { numTileColumnsMinus1, numTileRowsMinus1, spacing,
                loopFilterAcrossTilesEnabledFlag }

/-- The deblocking control of a PPS. -/
structure DeblockingInfo where
  overrideEnabledFlag : Bool
  disabledFlag : Bool
  betaOffsetDiv2 : Int
  tcOffsetDiv2 : Int
  deriving DecidableEq, Repr

/-- The two offsets. -/
def readDeblockingOffsets : Reader (Int × Int) := do
  let beta ← readSe
  let tc ← readSe
  return (beta, tc)

def readDeblockingInfo : Reader DeblockingInfo := do
  let overrideEnabledFlag ← readFlag
  let disabledFlag ← readFlag
  let offsets ← readIf (!disabledFlag) readDeblockingOffsets (0, 0)
  return { overrideEnabledFlag, disabledFlag, betaOffsetDiv2 := offsets.1
           tcOffsetDiv2 := offsets.2 }

/-- The values inferred without deblocking control (7.4.3.3.1). -/
def inferredDeblocking : DeblockingInfo := ⟨false, false, 0, 0⟩

/-- `pic_parameter_set_rbsp()`. -/
structure Pps where
  picParameterSetId : Nat
  seqParameterSetId : Nat
  dependentSliceSegmentsEnabledFlag : Bool
  outputFlagPresentFlag : Bool
  numExtraSliceHeaderBits : Nat
  signDataHidingEnabledFlag : Bool
  cabacInitPresentFlag : Bool
  numRefIdxL0DefaultActiveMinus1 : Nat
  numRefIdxL1DefaultActiveMinus1 : Nat
  initQpMinus26 : Int
  constrainedIntraPredFlag : Bool
  transformSkipEnabledFlag : Bool
  cuQpDeltaEnabledFlag : Bool
  diffCuQpDeltaDepth : Nat
  cbQpOffset : Int
  crQpOffset : Int
  sliceChromaQpOffsetsPresentFlag : Bool
  weightedPredFlag : Bool
  weightedBipredFlag : Bool
  transquantBypassEnabledFlag : Bool
  entropyCodingSyncEnabledFlag : Bool
  tiles : Option TileInfo
  loopFilterAcrossSlicesEnabledFlag : Bool
  deblocking : DeblockingInfo
  scalingListData : Option (List ScalingListSyntax)
  listsModificationPresentFlag : Bool
  log2ParallelMergeLevelMinus2 : Nat
  sliceSegmentHeaderExtensionPresentFlag : Bool
  deriving DecidableEq, Repr

/-- `pic_parameter_set_rbsp()` (7.3.2.3) up to its trailing bits. -/
def readPps : Reader Pps := do
  let picParameterSetId ← readUe
  let seqParameterSetId ← readUe
  let dependentSliceSegmentsEnabledFlag ← readFlag
  let outputFlagPresentFlag ← readFlag
  let numExtraSliceHeaderBits ← readU 3
  let signDataHidingEnabledFlag ← readFlag
  let cabacInitPresentFlag ← readFlag
  let numRefIdxL0DefaultActiveMinus1 ← readUe
  let numRefIdxL1DefaultActiveMinus1 ← readUe
  let initQpMinus26 ← readSe
  let constrainedIntraPredFlag ← readFlag
  let transformSkipEnabledFlag ← readFlag
  let cuQpDeltaEnabledFlag ← readFlag
  let diffCuQpDeltaDepth ← readIf cuQpDeltaEnabledFlag readUe 0
  let cbQpOffset ← readSe
  let crQpOffset ← readSe
  let sliceChromaQpOffsetsPresentFlag ← readFlag
  let weightedPredFlag ← readFlag
  let weightedBipredFlag ← readFlag
  let transquantBypassEnabledFlag ← readFlag
  let tilesEnabledFlag ← readFlag
  let entropyCodingSyncEnabledFlag ← readFlag
  let tiles ← readIf tilesEnabledFlag readTileInfo none
  let loopFilterAcrossSlicesEnabledFlag ← readFlag
  let deblockingControlPresentFlag ← readFlag
  let deblocking ← readIf deblockingControlPresentFlag readDeblockingInfo inferredDeblocking
  let scalingListDataPresentFlag ← readFlag
  let scalingListData ← readIf scalingListDataPresentFlag
    (do let data ← readScalingListData; return some data) none
  let listsModificationPresentFlag ← readFlag
  let log2ParallelMergeLevelMinus2 ← readUe
  let sliceSegmentHeaderExtensionPresentFlag ← readFlag
  let extensionPresentFlag ← readFlag
  readAbsent extensionPresentFlag
  return { picParameterSetId, seqParameterSetId, dependentSliceSegmentsEnabledFlag,
           outputFlagPresentFlag, numExtraSliceHeaderBits, signDataHidingEnabledFlag,
           cabacInitPresentFlag, numRefIdxL0DefaultActiveMinus1, numRefIdxL1DefaultActiveMinus1,
           initQpMinus26, constrainedIntraPredFlag, transformSkipEnabledFlag,
           cuQpDeltaEnabledFlag, diffCuQpDeltaDepth, cbQpOffset, crQpOffset,
           sliceChromaQpOffsetsPresentFlag, weightedPredFlag, weightedBipredFlag,
           transquantBypassEnabledFlag, entropyCodingSyncEnabledFlag, tiles,
           loopFilterAcrossSlicesEnabledFlag, deblocking, scalingListData,
           listsModificationPresentFlag, log2ParallelMergeLevelMinus2,
           sliceSegmentHeaderExtensionPresentFlag }

/-- The elements of `nal_unit_header()`. -/
structure NalHeader where
  nalUnitType : Nat
  layerId : Nat
  temporalIdPlus1 : Nat
  deriving DecidableEq, Repr

/-- `nal_unit_header()` (7.3.1.2) and the payload behind it. -/
def parseNalHeader : List UInt8 → Option (NalHeader × List UInt8)
  | first :: second :: payload =>
    if first.toNat / 128 = 0 then
      some (⟨first.toNat / 2 % 64, first.toNat % 2 * 32 + second.toNat / 8, second.toNat % 8⟩, payload)
    else none
  | _ => none

/-- A NAL unit of type `nalType` read with `p` up to its trailing bits. -/
def parseNal {α : Type} (nalType : Nat) (p : Reader α) (nal : List UInt8) : Option α :=
  match parseNalHeader nal with
  | some (header, payload) => if header.nalUnitType = nalType then readRbsp p payload else none
  | none => none

end RockchipVaapi.Hevc
