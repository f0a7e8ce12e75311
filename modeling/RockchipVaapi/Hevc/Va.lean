import Mathlib.Data.UInt

/-!
# VA-API structures for HEVC

The fields of the VA-API decode structures that `hevc.c` reads, with the widths the VA headers
give them. The bit fields of `pic_fields` and `slice_parsing_fields` are flattened.
-/

namespace RockchipVaapi.Hevc

/-- `VAPictureHEVC`. -/
structure VAPictureHEVC where
  pictureId : UInt32
  picOrderCnt : Int32
  flags : UInt32
  deriving DecidableEq, Repr

/-- `VA_INVALID_SURFACE`. -/
def vaInvalidSurface : UInt32 := 0xffffffff
/-- `VA_PICTURE_HEVC_INVALID`. -/
def vaPictureInvalid : UInt32 := 0x01
/-- `VA_PICTURE_HEVC_FIELD_PIC`. -/
def vaPictureFieldPic : UInt32 := 0x02
/-- `VA_PICTURE_HEVC_LONG_TERM_REFERENCE`. -/
def vaPictureLongTermReference : UInt32 := 0x08
/-- `VA_PICTURE_HEVC_RPS_ST_CURR_BEFORE`. -/
def vaPictureRpsStCurrBefore : UInt32 := 0x10
/-- `VA_PICTURE_HEVC_RPS_ST_CURR_AFTER`. -/
def vaPictureRpsStCurrAfter : UInt32 := 0x20
/-- `VA_PICTURE_HEVC_RPS_LT_CURR`. -/
def vaPictureRpsLtCurr : UInt32 := 0x40

/-- `VAPictureParameterBufferHEVC`. -/
structure VAPictureParameterBufferHEVC where
  currPic : VAPictureHEVC
  referenceFrames : Fin 15 → VAPictureHEVC
  picWidthInLumaSamples : UInt16
  picHeightInLumaSamples : UInt16
  chromaFormatIdc : Fin 4
  separateColourPlaneFlag : Bool
  pcmEnabledFlag : Bool
  scalingListEnabledFlag : Bool
  transformSkipEnabledFlag : Bool
  ampEnabledFlag : Bool
  strongIntraSmoothingEnabledFlag : Bool
  signDataHidingEnabledFlag : Bool
  constrainedIntraPredFlag : Bool
  cuQpDeltaEnabledFlag : Bool
  weightedPredFlag : Bool
  weightedBipredFlag : Bool
  transquantBypassEnabledFlag : Bool
  tilesEnabledFlag : Bool
  entropyCodingSyncEnabledFlag : Bool
  ppsLoopFilterAcrossSlicesEnabledFlag : Bool
  loopFilterAcrossTilesEnabledFlag : Bool
  pcmLoopFilterDisabledFlag : Bool
  noPicReorderingFlag : Bool
  spsMaxDecPicBufferingMinus1 : UInt8
  bitDepthLumaMinus8 : UInt8
  bitDepthChromaMinus8 : UInt8
  pcmSampleBitDepthLumaMinus1 : UInt8
  pcmSampleBitDepthChromaMinus1 : UInt8
  log2MinLumaCodingBlockSizeMinus3 : UInt8
  log2DiffMaxMinLumaCodingBlockSize : UInt8
  log2MinTransformBlockSizeMinus2 : UInt8
  log2DiffMaxMinTransformBlockSize : UInt8
  log2MinPcmLumaCodingBlockSizeMinus3 : UInt8
  log2DiffMaxMinPcmLumaCodingBlockSize : UInt8
  maxTransformHierarchyDepthIntra : UInt8
  maxTransformHierarchyDepthInter : UInt8
  initQpMinus26 : Int8
  diffCuQpDeltaDepth : UInt8
  ppsCbQpOffset : Int8
  ppsCrQpOffset : Int8
  log2ParallelMergeLevelMinus2 : UInt8
  numTileColumnsMinus1 : UInt8
  numTileRowsMinus1 : UInt8
  columnWidthMinus1 : Fin 19 → UInt16
  rowHeightMinus1 : Fin 21 → UInt16
  listsModificationPresentFlag : Bool
  longTermRefPicsPresentFlag : Bool
  spsTemporalMvpEnabledFlag : Bool
  cabacInitPresentFlag : Bool
  outputFlagPresentFlag : Bool
  dependentSliceSegmentsEnabledFlag : Bool
  ppsSliceChromaQpOffsetsPresentFlag : Bool
  sampleAdaptiveOffsetEnabledFlag : Bool
  deblockingFilterOverrideEnabledFlag : Bool
  ppsDisableDeblockingFilterFlag : Bool
  sliceSegmentHeaderExtensionPresentFlag : Bool
  log2MaxPicOrderCntLsbMinus4 : UInt8
  numShortTermRefPicSets : UInt8
  numLongTermRefPicSps : UInt8
  numRefIdxL0DefaultActiveMinus1 : UInt8
  numRefIdxL1DefaultActiveMinus1 : UInt8
  ppsBetaOffsetDiv2 : Int8
  ppsTcOffsetDiv2 : Int8
  numExtraSliceHeaderBits : UInt8
  stRpsBits : UInt32

/-- `VAIQMatrixBufferHEVC`. -/
structure VAIQMatrixBufferHEVC where
  scalingList4x4 : Fin 6 → Fin 16 → UInt8
  scalingList8x8 : Fin 6 → Fin 64 → UInt8
  scalingList16x16 : Fin 6 → Fin 64 → UInt8
  scalingList32x32 : Fin 2 → Fin 64 → UInt8
  scalingListDc16x16 : Fin 6 → UInt8
  scalingListDc32x32 : Fin 2 → UInt8

/-- The field of `VASliceParameterBufferHEVC` that `hevc.c` reads. -/
structure VASliceParameterBufferHEVC where
  sliceDataByteOffset : UInt32
  deriving DecidableEq, Repr

/-- `valid_picture` (`hevc.c:276-280`). -/
def validPicture (picture : VAPictureHEVC) : Bool :=
  picture.pictureId != vaInvalidSurface && (picture.flags &&& vaPictureInvalid == 0)

/-- `CtbLog2SizeY` as `validate_slice_syntax_bounds` computes it. -/
def ctbLog2 (pp : VAPictureParameterBufferHEVC) : Nat :=
  pp.log2MinLumaCodingBlockSizeMinus3.toNat + 3 + pp.log2DiffMaxMinLumaCodingBlockSize.toNat

/-- `hevc_ctb_size` (`hevc.c:352-360`), for the shift amounts that
`validate_slice_syntax_bounds` lets through. -/
def hevcCtbSize (pp : VAPictureParameterBufferHEVC) : Nat := 2 ^ ctbLog2 pp

/-- The picture width in coding tree blocks. -/
def widthCtbs (pp : VAPictureParameterBufferHEVC) : Nat :=
  (pp.picWidthInLumaSamples.toNat + hevcCtbSize pp - 1) / hevcCtbSize pp

/-- The picture height in coding tree blocks. -/
def heightCtbs (pp : VAPictureParameterBufferHEVC) : Nat :=
  (pp.picHeightInLumaSamples.toNat + hevcCtbSize pp - 1) / hevcCtbSize pp

/-- `validate_slice_syntax_bounds` (`hevc.c:392-407`). -/
def validateSliceSyntaxBounds (pp : VAPictureParameterBufferHEVC) : Bool :=
  !(!validPicture pp.currPic || pp.picWidthInLumaSamples == 0 || pp.picHeightInLumaSamples == 0 ||
    decide (3 < pp.log2MinLumaCodingBlockSizeMinus3.toNat) ||
    decide (3 < pp.log2DiffMaxMinLumaCodingBlockSize.toNat) ||
    decide (12 < pp.log2MaxPicOrderCntLsbMinus4.toNat) ||
    decide (64 < pp.numShortTermRefPicSets.toNat) ||
    decide (32 < pp.numLongTermRefPicSps.toNat) ||
    decide (7 < pp.numExtraSliceHeaderBits.toNat)) &&
  decide (ctbLog2 pp ≤ 6)

/-- The bounds the reconstruction paths rely on. -/
structure SliceSyntaxBounds (pp : VAPictureParameterBufferHEVC) : Prop where
  pocLsb : pp.log2MaxPicOrderCntLsbMinus4.toNat ≤ 12
  shortTermSets : pp.numShortTermRefPicSets.toNat ≤ 64
  longTermSps : pp.numLongTermRefPicSps.toNat ≤ 32
  extraBits : pp.numExtraSliceHeaderBits.toNat ≤ 7
  ctb : ctbLog2 pp ≤ 6

theorem sliceSyntaxBounds_of_validate {pp : VAPictureParameterBufferHEVC}
    (h : validateSliceSyntaxBounds pp = true) : SliceSyntaxBounds pp := by
  simp only [validateSliceSyntaxBounds, Bool.and_eq_true, Bool.not_eq_true', Bool.or_eq_false_iff,
    decide_eq_false_iff_not, decide_eq_true_eq] at h
  obtain ⟨⟨⟨⟨⟨-, poc⟩, sets⟩, lt⟩, extra⟩, ctb⟩ := h
  exact ⟨by omega, by omega, by omega, by omega, ctb⟩

end RockchipVaapi.Hevc
