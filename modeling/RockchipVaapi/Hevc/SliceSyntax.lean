import Mathlib.Data.Nat.Log
import RockchipVaapi.Hevc.Syntax

/-!
# HEVC slice segment header syntax

`slice_segment_header()` of H.265 7.3.6.1 as a reader, for an independent slice segment of a
picture that is not an IDR picture. The header depends on the active parameter sets through
`SliceFacts` only. How `st_ref_pic_set()` is read is a parameter: under an SPS with short-term
sets it may be predicted from them, under an SPS without any it cannot.
-/

namespace RockchipVaapi.Hevc
open Bitstream

/-- What the slice segment header syntax takes from the active SPS and PPS. -/
structure SliceFacts where
  chromaFormatIdc : Nat
  separateColourPlaneFlag : Bool
  picSizeInCtbs : Nat
  pocLsbBits : Nat
  numShortTermRefPicSets : Nat
  longTermRefPicsPresentFlag : Bool
  numLongTermRefPicsSps : Nat
  temporalMvpEnabledFlag : Bool
  sampleAdaptiveOffsetEnabledFlag : Bool
  dependentSliceSegmentsEnabledFlag : Bool
  outputFlagPresentFlag : Bool
  numExtraSliceHeaderBits : Nat
  cabacInitPresentFlag : Bool
  numRefIdxL0DefaultActiveMinus1 : Nat
  numRefIdxL1DefaultActiveMinus1 : Nat
  sliceChromaQpOffsetsPresentFlag : Bool
  weightedPredFlag : Bool
  weightedBipredFlag : Bool
  entryPointsPresent : Bool
  loopFilterAcrossSlicesEnabledFlag : Bool
  deblockingOverrideEnabledFlag : Bool
  deblockingDisabledFlag : Bool
  listsModificationPresentFlag : Bool
  headerExtensionPresentFlag : Bool
  deriving DecidableEq, Repr

/-- `PicSizeInCtbsY` (7-10 to 7-19). -/
def picSizeInCtbs (width height log2MinCbMinus3 log2DiffCb : Nat) : Nat :=
  let size := 2 ^ (log2MinCbMinus3 + 3 + log2DiffCb)
  ((width + size - 1) / size) * ((height + size - 1) / size)

/-- The facts of a pair of parameter sets. -/
def SliceFacts.ofParameterSets (sps : Sps) (pps : Pps) : SliceFacts where
  chromaFormatIdc := sps.chromaFormatIdc
  separateColourPlaneFlag := sps.separateColourPlaneFlag
  picSizeInCtbs := Hevc.picSizeInCtbs sps.picWidthInLumaSamples sps.picHeightInLumaSamples
    sps.log2MinLumaCodingBlockSizeMinus3 sps.log2DiffMaxMinLumaCodingBlockSize
  pocLsbBits := sps.log2MaxPicOrderCntLsbMinus4 + 4
  numShortTermRefPicSets := sps.numShortTermRefPicSets
  longTermRefPicsPresentFlag := sps.longTermRefPicsPresentFlag
  numLongTermRefPicsSps := sps.numLongTermRefPicsSps
  temporalMvpEnabledFlag := sps.temporalMvpEnabledFlag
  sampleAdaptiveOffsetEnabledFlag := sps.sampleAdaptiveOffsetEnabledFlag
  dependentSliceSegmentsEnabledFlag := pps.dependentSliceSegmentsEnabledFlag
  outputFlagPresentFlag := pps.outputFlagPresentFlag
  numExtraSliceHeaderBits := pps.numExtraSliceHeaderBits
  cabacInitPresentFlag := pps.cabacInitPresentFlag
  numRefIdxL0DefaultActiveMinus1 := pps.numRefIdxL0DefaultActiveMinus1
  numRefIdxL1DefaultActiveMinus1 := pps.numRefIdxL1DefaultActiveMinus1
  sliceChromaQpOffsetsPresentFlag := pps.sliceChromaQpOffsetsPresentFlag
  weightedPredFlag := pps.weightedPredFlag
  weightedBipredFlag := pps.weightedBipredFlag
  entryPointsPresent := pps.tiles.isSome || pps.entropyCodingSyncEnabledFlag
  loopFilterAcrossSlicesEnabledFlag := pps.loopFilterAcrossSlicesEnabledFlag
  deblockingOverrideEnabledFlag := pps.deblocking.overrideEnabledFlag
  deblockingDisabledFlag := pps.deblocking.disabledFlag
  listsModificationPresentFlag := pps.listsModificationPresentFlag
  headerExtensionPresentFlag := pps.sliceSegmentHeaderExtensionPresentFlag

/-- `ChromaArrayType`. -/
def SliceFacts.chromaArrayType (facts : SliceFacts) : Nat :=
  if facts.separateColourPlaneFlag then 0 else facts.chromaFormatIdc

/-! ## Up to the reference picture set -/

/-- The elements that every slice segment has. -/
structure SegmentStart where
  firstSliceSegmentInPicFlag : Bool
  noOutputOfPriorPicsFlag : Bool
  slicePicParameterSetId : Nat
  sliceSegmentAddress : Nat
  deriving DecidableEq, Repr

def readSegmentStart (facts : SliceFacts) (nalUnitType : Nat) : Reader SegmentStart := do
  let firstSliceSegmentInPicFlag ← readFlag
  let noOutputOfPriorPicsFlag ←
    readIf (decide (16 ≤ nalUnitType) && decide (nalUnitType ≤ 23)) readFlag false
  let slicePicParameterSetId ← readUe
  let dependentSliceSegmentFlag ←
    readIf (!firstSliceSegmentInPicFlag && facts.dependentSliceSegmentsEnabledFlag) readFlag false
  let sliceSegmentAddress ←
    readIf (!firstSliceSegmentInPicFlag) (readU (Nat.clog 2 facts.picSizeInCtbs)) 0
  readAbsent dependentSliceSegmentFlag
  return { firstSliceSegmentInPicFlag, noOutputOfPriorPicsFlag, slicePicParameterSetId,
           sliceSegmentAddress }

/-- The elements of an independent slice segment up to `slice_pic_order_cnt_lsb`. -/
structure SliceStart where
  sliceReservedFlags : List Bool
  sliceType : Nat
  picOutputFlag : Bool
  colourPlaneId : Nat
  slicePicOrderCntLsb : Nat
  deriving DecidableEq, Repr

def readSliceStart (facts : SliceFacts) : Reader SliceStart := do
  let sliceReservedFlags ← readMany readFlag facts.numExtraSliceHeaderBits
  let sliceType ← readUe
  let picOutputFlag ← readIf facts.outputFlagPresentFlag readFlag true
  let colourPlaneId ← readIf facts.separateColourPlaneFlag (readU 2) 0
  let slicePicOrderCntLsb ← readU facts.pocLsbBits
  return { sliceReservedFlags, sliceType, picOutputFlag, colourPlaneId, slicePicOrderCntLsb }

/-! ## The reference picture set -/

/-- The short-term reference picture set of a slice: coded in the header, or one of the SPS. -/
inductive ShortTermRps (σ : Type) where
  | coded (set : σ)
  | fromSps (idx : Nat)
  deriving DecidableEq, Repr

def readShortTermRps {σ : Type} (facts : SliceFacts) (stRefPicSet : Reader σ) :
    Reader (ShortTermRps σ) := do
  let shortTermRefPicSetSpsFlag ← readFlag
  if shortTermRefPicSetSpsFlag then
    let idx ← readU (Nat.clog 2 facts.numShortTermRefPicSets)
    return .fromSps idx
  else
    let set ← stRefPicSet
    return .coded set

/-- `st_ref_pic_set( 0 )` (7.3.7): the elements `delta_poc_s0_minus1`, `used_by_curr_pic_s0_flag`
and their counterparts for the pictures that follow. -/
structure StRefPicSet where
  negativePics : List (Nat × Bool)
  positivePics : List (Nat × Bool)
  deriving DecidableEq, Repr

def readStRefPic : Reader (Nat × Bool) := do
  let deltaPocMinus1 ← readUe
  let usedByCurrPicFlag ← readFlag
  return (deltaPocMinus1, usedByCurrPicFlag)

def readStRefPicSet : Reader StRefPicSet := do
  let numNegativePics ← readUe
  let numPositivePics ← readUe
  let negativePics ← readMany readStRefPic numNegativePics
  let positivePics ← readMany readStRefPic numPositivePics
  return { negativePics, positivePics }

/-- The distances to the current picture: each element counts from the one before it. -/
def distances : Nat → List (Nat × Bool) → List (Nat × Bool)
  | _, [] => []
  | previous, (minus1, used) :: pics =>
    (previous + minus1 + 1, used) :: distances (previous + minus1 + 1) pics

/-- `DeltaPocS0` with `UsedByCurrPicS0` (7-65, 7-67). -/
def StRefPicSet.deltaPocS0 (set : StRefPicSet) : List (Int × Bool) :=
  (distances 0 set.negativePics).map fun pic => (-(pic.1 : Int), pic.2)

/-- `DeltaPocS1` with `UsedByCurrPicS1` (7-66, 7-68). -/
def StRefPicSet.deltaPocS1 (set : StRefPicSet) : List (Int × Bool) :=
  (distances 0 set.positivePics).map fun pic => ((pic.1 : Int), pic.2)

/-- A long-term picture that the header takes from the SPS. -/
structure LongTermSpsPic where
  ltIdxSps : Nat
  deltaPocMsbCycleLt : Option Nat
  deriving DecidableEq, Repr

/-- A long-term picture that the header codes itself. -/
structure LongTermPic where
  pocLsbLt : Nat
  usedByCurrPicLtFlag : Bool
  deltaPocMsbCycleLt : Option Nat
  deriving DecidableEq, Repr

/-- The long-term part; `num_long_term_sps` and `num_long_term_pics` are the lengths. -/
structure LongTermRps where
  spsPics : List LongTermSpsPic
  pics : List LongTermPic
  deriving DecidableEq, Repr

def readDeltaPocMsbCycleLt : Reader (Option Nat) := do
  let deltaPocMsbPresentFlag ← readFlag
  readIf deltaPocMsbPresentFlag (do let cycle ← readUe; return some cycle) none

def readLongTermSpsPic (facts : SliceFacts) : Reader LongTermSpsPic := do
  let ltIdxSps ← readU (Nat.clog 2 facts.numLongTermRefPicsSps)
  let deltaPocMsbCycleLt ← readDeltaPocMsbCycleLt
  return { ltIdxSps, deltaPocMsbCycleLt }

def readLongTermPic (facts : SliceFacts) : Reader LongTermPic := do
  let pocLsbLt ← readU facts.pocLsbBits
  let usedByCurrPicLtFlag ← readFlag
  let deltaPocMsbCycleLt ← readDeltaPocMsbCycleLt
  return { pocLsbLt, usedByCurrPicLtFlag, deltaPocMsbCycleLt }

/-- `num_long_term_sps`. -/
def readNumLongTermSps (facts : SliceFacts) : Reader Nat :=
  readIf (decide (0 < facts.numLongTermRefPicsSps)) readUe 0

/-- What follows `num_long_term_sps`. -/
def readLongTermPics (facts : SliceFacts) (numLongTermSps : Nat) : Reader LongTermRps := do
  let numLongTermPics ← readUe
  let spsPics ← readMany (readLongTermSpsPic facts) numLongTermSps
  let pics ← readMany (readLongTermPic facts) numLongTermPics
  return { spsPics, pics }

def readLongTermRps (facts : SliceFacts) : Reader LongTermRps :=
  readIf facts.longTermRefPicsPresentFlag
    (do let numLongTermSps ← readNumLongTermSps facts; readLongTermPics facts numLongTermSps)
    ⟨[], []⟩

/-! ## Behind the reference picture set -/

/-- One list of `ref_pic_lists_modification()` (7.3.6.2), with entries of `bits` bits. -/
def readListEntries (bits numRefIdxActiveMinus1 : Nat) : Reader (Option (List Nat)) := do
  let modificationFlag ← readFlag
  readIf modificationFlag
    (do let entries ← readMany (readU bits) (numRefIdxActiveMinus1 + 1); return some entries) none

/-- The weights of a reference picture: for luma, and for both chroma components. -/
structure PredWeight where
  luma : Option (Int × Int)
  chroma : Option (List (Int × Int))
  deriving DecidableEq, Repr

/-- A delta weight and an offset. -/
def readWeight : Reader (Int × Int) := do
  let deltaWeight ← readSe
  let offset ← readSe
  return (deltaWeight, offset)

def readPredWeight (flags : Bool × Bool) : Reader PredWeight := do
  let luma ← readIf flags.1 (do let weight ← readWeight; return some weight) none
  let chroma ← readIf flags.2 (do let weights ← readMany readWeight 2; return some weights) none
  return { luma, chroma }

/-- The weights of one reference picture list with `n` pictures. -/
def readPredWeights (chroma : Bool) (n : Nat) : Reader (List PredWeight) := do
  let lumaFlags ← readMany readFlag n
  let chromaFlags ← readIf chroma (readMany readFlag n) (List.replicate n false)
  readEach readPredWeight (lumaFlags.zip chromaFlags)

/-- `pred_weight_table()` (7.3.6.3). -/
structure PredWeightTable where
  lumaLog2WeightDenom : Nat
  deltaChromaLog2WeightDenom : Int
  l0 : List PredWeight
  l1 : List PredWeight
  deriving DecidableEq, Repr

def readPredWeightTable (chroma bSlice : Bool) (n0 n1 : Nat) : Reader PredWeightTable := do
  let lumaLog2WeightDenom ← readUe
  let deltaChromaLog2WeightDenom ← readIf chroma readSe 0
  let l0 ← readPredWeights chroma n0
  let l1 ← readIf bSlice (readPredWeights chroma n1) []
  return { lumaLog2WeightDenom, deltaChromaLog2WeightDenom, l0, l1 }

/-- The elements of P and B slices. -/
structure InterElements where
  numRefIdxL0ActiveMinus1 : Nat
  numRefIdxL1ActiveMinus1 : Nat
  listEntryL0 : Option (List Nat)
  listEntryL1 : Option (List Nat)
  mvdL1ZeroFlag : Bool
  cabacInitFlag : Bool
  collocatedFromL0Flag : Bool
  collocatedRefIdx : Nat
  predWeightTable : Option PredWeightTable
  fiveMinusMaxNumMergeCand : Nat
  deriving DecidableEq, Repr

def readInterElements (facts : SliceFacts) (bSlice temporalMvp : Bool) (numPicTotalCurr : Nat) :
    Reader InterElements := do
  let overrideFlag ← readFlag
  let numRefIdxL0ActiveMinus1 ←
    readIf overrideFlag readUe facts.numRefIdxL0DefaultActiveMinus1
  let numRefIdxL1ActiveMinus1 ←
    readIf (overrideFlag && bSlice) readUe facts.numRefIdxL1DefaultActiveMinus1
  let modification := facts.listsModificationPresentFlag && decide (1 < numPicTotalCurr)
  let entryBits := Nat.clog 2 numPicTotalCurr
  let listEntryL0 ← readIf modification (readListEntries entryBits numRefIdxL0ActiveMinus1) none
  let listEntryL1 ←
    readIf (modification && bSlice) (readListEntries entryBits numRefIdxL1ActiveMinus1) none
  let mvdL1ZeroFlag ← readIf bSlice readFlag false
  let cabacInitFlag ← readIf facts.cabacInitPresentFlag readFlag false
  let collocatedFromL0Flag ← readIf (temporalMvp && bSlice) readFlag true
  let collocatedRefIdx ← readIf
    (temporalMvp && (collocatedFromL0Flag && decide (0 < numRefIdxL0ActiveMinus1) ||
      !collocatedFromL0Flag && decide (0 < numRefIdxL1ActiveMinus1))) readUe 0
  let predWeightTable ← readIf
    (if bSlice then facts.weightedBipredFlag else facts.weightedPredFlag)
    (do
      let table ← readPredWeightTable (facts.chromaArrayType != 0) bSlice
        (numRefIdxL0ActiveMinus1 + 1) (numRefIdxL1ActiveMinus1 + 1)
      return some table) none
  let fiveMinusMaxNumMergeCand ← readUe
  return { numRefIdxL0ActiveMinus1, numRefIdxL1ActiveMinus1, listEntryL0, listEntryL1,
           mvdL1ZeroFlag, cabacInitFlag, collocatedFromL0Flag, collocatedRefIdx, predWeightTable,
           fiveMinusMaxNumMergeCand }

/-- The entry points of tiles and wavefronts: `entry_point_offset_minus1`. -/
def readEntryPoints : Reader (List Nat) := do
  let numEntryPointOffsets ← readUe
  readIf (decide (0 < numEntryPointOffsets))
    (do let offsetLenMinus1 ← readUe; readMany (readU (offsetLenMinus1 + 1)) numEntryPointOffsets)
    []

/-- `slice_segment_header_extension_data_byte`. -/
def readHeaderExtension : Reader (List Nat) := do
  let length ← readUe
  readMany (readU 8) length

/-- The elements behind the reference picture set. -/
structure SliceTail where
  sliceTemporalMvpEnabledFlag : Bool
  sliceSaoLumaFlag : Bool
  sliceSaoChromaFlag : Bool
  inter : Option InterElements
  sliceQpDelta : Int
  sliceCbQpOffset : Int
  sliceCrQpOffset : Int
  deblockingFilterOverrideFlag : Bool
  sliceDeblockingFilterDisabledFlag : Bool
  deblockingOffsets : Option (Int × Int)
  sliceLoopFilterAcrossSlicesEnabledFlag : Bool
  entryPointOffsets : List Nat
  headerExtension : List Nat
  deriving DecidableEq, Repr

/-- A slice type is 0 for B, 1 for P and 2 for I. -/
def readSliceTail (facts : SliceFacts) (sliceType numPicTotalCurr : Nat) : Reader SliceTail := do
  let sliceTemporalMvpEnabledFlag ← readIf facts.temporalMvpEnabledFlag readFlag false
  let sliceSaoLumaFlag ← readIf facts.sampleAdaptiveOffsetEnabledFlag readFlag false
  let sliceSaoChromaFlag ← readIf
    (facts.sampleAdaptiveOffsetEnabledFlag && facts.chromaArrayType != 0) readFlag false
  let inter ← readIf (sliceType == 0 || sliceType == 1)
    (do
      let inter ← readInterElements facts (sliceType == 0) sliceTemporalMvpEnabledFlag
        numPicTotalCurr
      return some inter) none
  let sliceQpDelta ← readSe
  let sliceCbQpOffset ← readIf facts.sliceChromaQpOffsetsPresentFlag readSe 0
  let sliceCrQpOffset ← readIf facts.sliceChromaQpOffsetsPresentFlag readSe 0
  let deblockingFilterOverrideFlag ← readIf facts.deblockingOverrideEnabledFlag readFlag false
  let sliceDeblockingFilterDisabledFlag ←
    readIf deblockingFilterOverrideFlag readFlag facts.deblockingDisabledFlag
  let deblockingOffsets ← readIf
    (deblockingFilterOverrideFlag && !sliceDeblockingFilterDisabledFlag)
    (do let offsets ← readDeblockingOffsets; return some offsets) none
  let sliceLoopFilterAcrossSlicesEnabledFlag ← readIf
    (facts.loopFilterAcrossSlicesEnabledFlag &&
      (sliceSaoLumaFlag || sliceSaoChromaFlag || !sliceDeblockingFilterDisabledFlag))
    readFlag facts.loopFilterAcrossSlicesEnabledFlag
  let entryPointOffsets ← readIf facts.entryPointsPresent readEntryPoints []
  let headerExtension ← readIf facts.headerExtensionPresentFlag readHeaderExtension []
  return { sliceTemporalMvpEnabledFlag, sliceSaoLumaFlag, sliceSaoChromaFlag, inter, sliceQpDelta,
           sliceCbQpOffset, sliceCrQpOffset, deblockingFilterOverrideFlag,
           sliceDeblockingFilterDisabledFlag, deblockingOffsets,
           sliceLoopFilterAcrossSlicesEnabledFlag, entryPointOffsets, headerExtension }

/-! ## The whole header -/

/-- `slice_segment_header()`. -/
structure SliceSegmentHeader (σ : Type) where
  segment : SegmentStart
  start : SliceStart
  shortTerm : ShortTermRps σ
  longTerm : LongTermRps
  tail : SliceTail
  deriving DecidableEq, Repr

/-- How a slice counts the pictures it may refer to, `NumPicTotalCurr`. -/
abbrev PicCount (σ : Type) := ShortTermRps σ → LongTermRps → Nat

def readSliceSegmentHeader {σ : Type} (facts : SliceFacts) (stRefPicSet : Reader σ)
    (numPicTotalCurr : PicCount σ) (nalUnitType : Nat) : Reader (SliceSegmentHeader σ) := do
  let segment ← readSegmentStart facts nalUnitType
  let start ← readSliceStart facts
  let shortTerm ← readShortTermRps facts stRefPicSet
  let longTerm ← readLongTermRps facts
  let tail ← readSliceTail facts start.sliceType (numPicTotalCurr shortTerm longTerm)
  return { segment, start, shortTerm, longTerm, tail }

/-- `slice_segment_layer_rbsp()` (7.3.2.9): the header, `byte_alignment()` and the bytes of the
slice segment data with its trailing bits. -/
def sliceSegmentLayer {σ : Type} (facts : SliceFacts) (stRefPicSet : Reader σ)
    (numPicTotalCurr : PicCount σ) (nalUnitType : Nat) (rbsp : List UInt8) :
    Option (SliceSegmentHeader σ × List UInt8) :=
  match readSliceSegmentHeader facts stRefPicSet numPicTotalCurr nalUnitType (bytesBits rbsp) with
  | none => none
  | some (header, rest) =>
    let position := (bytesBits rbsp).length - rest.length
    let alignment := trailingBits position
    if alignment.isPrefixOf rest then
      some (header, rbsp.drop ((position + alignment.length) / 8))
    else none

/-- `NumPicTotalCurr` (7-55) of a slice that codes its own set and takes no long-term picture
from the SPS. -/
def numPicTotalCurr : PicCount StRefPicSet
  | .fromSps _, _ => 0
  | .coded set, longTerm =>
    set.negativePics.countP (·.2) + set.positivePics.countP (·.2) +
      longTerm.pics.countP (·.usedByCurrPicLtFlag)

/-! ## Locality

What each reader returns is decided by the bits it takes, so the elements keep their values when
the bits behind them change.
-/

end RockchipVaapi.Hevc
