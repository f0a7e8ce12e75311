import RockchipVaapi.Bs.Nal
import RockchipVaapi.Hevc.Rps

/-!
# HEVC parameter sets from VA-API buffers

The model of the parameter set half of `hevc.c`: the validation of the picture parameters and
the emitters of the VPS, the SPS and the PPS, statement by statement.
-/

namespace RockchipVaapi.Hevc
open Bitstream

/-- `finish_nal` (`hevc.c:212-225`). -/
def finishNal (bufSize : Nat) (raw : List UInt8) : Option (List UInt8) :=
  if bufSize < 4 then none
  else
    let escaped := emulationPrevent raw (bufSize - 4)
    if escaped = [] ∨ 2 ^ 31 - 1 - 4 < escaped.length then none
    else some (0 :: 0 :: 0 :: 1 :: escaped)

/-- `write_nal_header` (`hevc.c:227-233`). -/
def writeNalHeader (nalType : Nat) : BsM Unit := do
  bsWrite 0 1
  bsWrite nalType 6
  bsWrite 0 6
  bsWrite 1 3

/-- `derive_level_idc` (`hevc.c:235-249`). -/
def deriveLevelIdc (pp : VAPictureParameterBufferHEVC) : Nat :=
  let samples := pp.picWidthInLumaSamples.toNat * pp.picHeightInLumaSamples.toNat
  if samples ≤ 36864 then 30
  else if samples ≤ 122880 then 60
  else if samples ≤ 245760 then 63
  else if samples ≤ 552960 then 90
  else if samples ≤ 983040 then 93
  else if samples ≤ 2228224 then 123
  else if samples ≤ 8912896 then 156
  else 186

/-- `field_pic` of the VPS and SPS emitters. -/
def fieldPic (pp : VAPictureParameterBufferHEVC) : Bool :=
  pp.currPic.flags &&& vaPictureFieldPic != 0

/-- `reorder` of the VPS and SPS emitters. -/
def reorder (pp : VAPictureParameterBufferHEVC) : Nat :=
  if pp.noPicReorderingFlag then 0 else pp.spsMaxDecPicBufferingMinus1.toNat

/-- `write_profile_tier_level` (`hevc.c:251-274`). -/
def writeProfileTierLevel (profileIdc levelIdc : Nat) (field : Bool) : BsM Unit := do
  bsWrite 0 2
  bsWrite 0 1
  bsWrite profileIdc 5
  bsEach (fun i => bsWriteFlag (i == profileIdc)) (List.range 32)
  bsWriteFlag !field
  bsWriteFlag field
  bsWrite 1 1
  bsWriteFlag !field
  bsIf (profileIdc == 2) do
    bsWrite 0 7
    bsWrite 0 1
    bsWrite 0 24
    bsWrite 0 11
  bsIf (profileIdc != 2) do
    bsWrite 0 24
    bsWrite 0 19
  bsWrite 0 1
  bsWrite levelIdc 8

/-! ## Validation -/

/-- `column_width_minus1[i]`; the array has 19 entries. -/
def columnWidth (pp : VAPictureParameterBufferHEVC) (i : Nat) : Nat :=
  if h : i < 19 then (pp.columnWidthMinus1 ⟨i, h⟩).toNat else 0

/-- `row_height_minus1[i]`; the array has 21 entries. -/
def rowHeight (pp : VAPictureParameterBufferHEVC) (i : Nat) : Nat :=
  if h : i < 21 then (pp.rowHeightMinus1 ⟨i, h⟩).toNat else 0

/-- One of the loops of `tile_spacing_is_uniform`: `n` of `n + 1` tiles with their sizes
`minus1`, in a picture of `ctbs` blocks. -/
def spacingIsUniform (minus1 : Nat → Nat) (n ctbs : Nat) : Bool :=
  (List.range n).all fun i =>
    let first := (i * ctbs) / (n + 1)
    let last := ((i + 1) * ctbs) / (n + 1)
    !(decide (last ≤ first) || minus1 i != last - first - 1)

/-- `tile_spacing_is_uniform` (`hevc.c:362-385`). -/
def tileSpacingIsUniform (pp : VAPictureParameterBufferHEVC) : Bool :=
  spacingIsUniform (columnWidth pp) pp.numTileColumnsMinus1.toNat (widthCtbs pp) &&
    spacingIsUniform (rowHeight pp) pp.numTileRowsMinus1.toNat (heightCtbs pp)

/-- The tile checks of `validate_picture_parameters` (`hevc.c:465-483`). -/
def validTiles (pp : VAPictureParameterBufferHEVC) : Bool :=
  let explicitWidth :=
    ((List.range pp.numTileColumnsMinus1.toNat).map fun i => columnWidth pp i + 1).sum
  let explicitHeight :=
    ((List.range pp.numTileRowsMinus1.toNat).map fun i => rowHeight pp i + 1).sum
  !(decide (widthCtbs pp < pp.numTileColumnsMinus1.toNat + 1) ||
      decide (heightCtbs pp < pp.numTileRowsMinus1.toNat + 1)) &&
    !(decide (widthCtbs pp ≤ explicitWidth) || decide (heightCtbs pp ≤ explicitHeight))

/-- The PCM checks of `validate_picture_parameters` (`hevc.c:456-463`). -/
def validPcm (pp : VAPictureParameterBufferHEVC) : Bool :=
  !(decide (15 < pp.pcmSampleBitDepthLumaMinus1.toNat) ||
    decide (15 < pp.pcmSampleBitDepthChromaMinus1.toNat) ||
    decide (2 < pp.log2MinPcmLumaCodingBlockSizeMinus3.toNat) ||
    decide (ctbLog2 pp - 3 < pp.log2MinPcmLumaCodingBlockSizeMinus3.toNat +
      pp.log2DiffMaxMinPcmLumaCodingBlockSize.toNat))

/-- The first block of checks of `validate_picture_parameters` (`hevc.c:413-432`). -/
def validFields (pp : VAPictureParameterBufferHEVC) (hasIq : Bool) (profileIdc : Nat) : Bool :=
  !((profileIdc != 1 && profileIdc != 2) || !validateSliceSyntaxBounds pp ||
    pp.chromaFormatIdc != 1 || pp.separateColourPlaneFlag ||
    decide (15 < pp.spsMaxDecPicBufferingMinus1.toNat) ||
    pp.bitDepthLumaMinus8 != pp.bitDepthChromaMinus8 ||
    (profileIdc == 1 && pp.bitDepthLumaMinus8 != 0) ||
    (profileIdc == 2 && decide (2 < pp.bitDepthLumaMinus8.toNat)) ||
    decide (3 < pp.log2MinTransformBlockSizeMinus2.toNat) ||
    decide (3 < pp.log2DiffMaxMinTransformBlockSize.toNat) ||
    decide (14 < pp.numRefIdxL0DefaultActiveMinus1.toNat) ||
    decide (14 < pp.numRefIdxL1DefaultActiveMinus1.toNat) ||
    decide (pp.ppsCbQpOffset.toInt < -12) || decide (12 < pp.ppsCbQpOffset.toInt) ||
    decide (pp.ppsCrQpOffset.toInt < -12) || decide (12 < pp.ppsCrQpOffset.toInt) ||
    decide (pp.ppsBetaOffsetDiv2.toInt < -6) || decide (6 < pp.ppsBetaOffsetDiv2.toInt) ||
    decide (pp.ppsTcOffsetDiv2.toInt < -6) || decide (6 < pp.ppsTcOffsetDiv2.toInt) ||
    decide (19 < pp.numTileColumnsMinus1.toNat) || decide (21 < pp.numTileRowsMinus1.toNat) ||
    (pp.scalingListEnabledFlag && !hasIq))

/-- The range of `init_qp_minus26` (`hevc.c:434-440`). -/
def validInitQp (pp : VAPictureParameterBufferHEVC) : Bool :=
  !(decide (pp.initQpMinus26.toInt < -(26 + 6 * (pp.bitDepthLumaMinus8.toNat : Int))) ||
    decide (25 < pp.initQpMinus26.toInt))

/-- The block structure checks of `validate_picture_parameters` (`hevc.c:442-454`). -/
def validBlocks (pp : VAPictureParameterBufferHEVC) : Bool :=
  let minCbSize := 2 ^ (pp.log2MinLumaCodingBlockSizeMinus3.toNat + 3)
  !(pp.picWidthInLumaSamples.toNat % minCbSize != 0 ||
    pp.picHeightInLumaSamples.toNat % minCbSize != 0 ||
    decide (ctbLog2 pp - 2 < pp.log2ParallelMergeLevelMinus2.toNat) ||
    (pp.cuQpDeltaEnabledFlag &&
      decide (pp.log2DiffMaxMinLumaCodingBlockSize.toNat < pp.diffCuQpDeltaDepth.toNat)))

/-- `validate_picture_parameters` (`hevc.c:409-485`). -/
def validatePictureParameters (pp : VAPictureParameterBufferHEVC)
    (iq : Option VAIQMatrixBufferHEVC) (profileIdc : Nat) : Option HEVCRPS :=
  if !validFields pp iq.isSome profileIdc then none
  else if !validInitQp pp then none
  else if !validBlocks pp then none
  else if pp.pcmEnabledFlag && !validPcm pp then none
  else if pp.tilesEnabledFlag && !validTiles pp then none
  else collectRps pp

/-! ## The emitters -/

/-- The statements of `write_vps` up to `bs_rbsp_trailing` (`hevc.c:497-513`). -/
def vpsRbsp (pp : VAPictureParameterBufferHEVC) (profileIdc : Nat) : BsM Unit := do
  writeNalHeader 32
  bsWrite 0 4
  bsWrite 1 1
  bsWrite 1 1
  bsWrite 0 6
  bsWrite 0 3
  bsWrite 1 1
  bsWrite 0xffff 16
  writeProfileTierLevel profileIdc (deriveLevelIdc pp) (fieldPic pp)
  bsWrite 0 1
  bsWriteUe pp.spsMaxDecPicBufferingMinus1.toNat
  bsWriteUe (reorder pp)
  bsWriteUe 0
  bsWrite 0 6
  bsWriteUe 0
  bsWrite 0 1
  bsWrite 0 1

/-- Write an RBSP into a buffer of `cap` bytes and finish its NAL unit. -/
def writeNal (cap bufSize : Nat) (rbsp : BsM Unit) : Option (List UInt8) := do
  let (_, bs) ← (do rbsp; bsRbspTrailing : BsM Unit) (BSWriter.init cap)
  finishNal bufSize bs.output

/-- `write_vps` (`hevc.c:487-516`). -/
def writeVps (bufSize : Nat) (pp : VAPictureParameterBufferHEVC) (profileIdc : Nat) :
    Option (List UInt8) :=
  writeNal 512 bufSize (vpsRbsp pp profileIdc)

/-- The statements of `write_sps` up to `bs_rbsp_trailing` (`hevc.c:930-976`). -/
def spsRbsp (pp : VAPictureParameterBufferHEVC) (profileIdc : Nat) : BsM Unit := do
  writeNalHeader 33
  bsWrite 0 4
  bsWrite 0 3
  bsWrite 1 1
  writeProfileTierLevel profileIdc (deriveLevelIdc pp) (fieldPic pp)
  bsWriteUe 0
  bsWriteUe pp.chromaFormatIdc.val
  bsWriteUe pp.picWidthInLumaSamples.toNat
  bsWriteUe pp.picHeightInLumaSamples.toNat
  bsWrite 0 1
  bsWriteUe pp.bitDepthLumaMinus8.toNat
  bsWriteUe pp.bitDepthChromaMinus8.toNat
  bsWriteUe pp.log2MaxPicOrderCntLsbMinus4.toNat
  bsWrite 0 1
  bsWriteUe pp.spsMaxDecPicBufferingMinus1.toNat
  bsWriteUe (reorder pp)
  bsWriteUe 0
  bsWriteUe pp.log2MinLumaCodingBlockSizeMinus3.toNat
  bsWriteUe pp.log2DiffMaxMinLumaCodingBlockSize.toNat
  bsWriteUe pp.log2MinTransformBlockSizeMinus2.toNat
  bsWriteUe pp.log2DiffMaxMinTransformBlockSize.toNat
  bsWriteUe pp.maxTransformHierarchyDepthInter.toNat
  bsWriteUe pp.maxTransformHierarchyDepthIntra.toNat
  bsWriteFlag pp.scalingListEnabledFlag
  bsIf pp.scalingListEnabledFlag (bsWrite 0 1)
  bsWriteFlag pp.ampEnabledFlag
  bsWriteFlag pp.sampleAdaptiveOffsetEnabledFlag
  bsWriteFlag pp.pcmEnabledFlag
  bsIf pp.pcmEnabledFlag do
    bsWrite pp.pcmSampleBitDepthLumaMinus1.toNat 4
    bsWrite pp.pcmSampleBitDepthChromaMinus1.toNat 4
    bsWriteUe pp.log2MinPcmLumaCodingBlockSizeMinus3.toNat
    bsWriteUe pp.log2DiffMaxMinPcmLumaCodingBlockSize.toNat
    bsWriteFlag pp.pcmLoopFilterDisabledFlag
  bsWriteUe 0
  bsWriteFlag pp.longTermRefPicsPresentFlag
  bsIf pp.longTermRefPicsPresentFlag (bsWriteUe 0)
  bsWriteFlag pp.spsTemporalMvpEnabledFlag
  bsWriteFlag pp.strongIntraSmoothingEnabledFlag
  bsWrite 0 1
  bsWrite 0 1

/-- `write_sps` (`hevc.c:919-979`). -/
def writeSps (bufSize : Nat) (pp : VAPictureParameterBufferHEVC) (profileIdc : Nat) :
    Option (List UInt8) :=
  writeNal 32768 bufSize (spsRbsp pp profileIdc)

/-- `diag4x4_x` and `diag4x4_y` (`hevc.c:518-523`), as positions. -/
def diag4x4 : List Nat :=
  List.zipWith (fun x y => 4 * y + x)
    [0, 0, 1, 0, 1, 2, 0, 1, 2, 3, 1, 2, 3, 2, 3, 3]
    [0, 1, 0, 2, 1, 0, 3, 2, 1, 0, 3, 2, 1, 3, 2, 3]

/-- `diag8x8_x` and `diag8x8_y` (`hevc.c:524-535`), as positions. -/
def diag8x8 : List Nat :=
  List.zipWith (fun x y => 8 * y + x)
    [0, 0, 1, 0, 1, 2, 0, 1, 2, 3, 0, 1, 2, 3, 4, 0,
      1, 2, 3, 4, 5, 0, 1, 2, 3, 4, 5, 6, 0, 1, 2, 3,
      4, 5, 6, 7, 1, 2, 3, 4, 5, 6, 7, 2, 3, 4, 5, 6,
      7, 3, 4, 5, 6, 7, 4, 5, 6, 7, 5, 6, 7, 6, 7, 7]
    [0, 1, 0, 2, 1, 0, 3, 2, 1, 0, 4, 3, 2, 1, 0, 5,
      4, 3, 2, 1, 0, 6, 5, 4, 3, 2, 1, 0, 7, 6, 5, 4,
      3, 2, 1, 0, 7, 6, 5, 4, 3, 2, 1, 7, 6, 5, 4, 3,
      2, 7, 6, 5, 4, 3, 7, 6, 5, 4, 7, 6, 5, 7, 6, 7]

/-- Entry `pos` of a matrix. -/
def matrixEntry {n : Nat} (matrix : Fin n → UInt8) (pos : Nat) : Nat :=
  if h : pos < n then (matrix ⟨pos, h⟩).toNat else 0

/-- `scaling_matrix` (`hevc.c:537-547`). -/
def scalingMatrix (iq : VAIQMatrixBufferHEVC) (sizeId : Nat) (matrixId : Fin 6) : Nat → Nat :=
  match sizeId with
  | 0 => matrixEntry (iq.scalingList4x4 matrixId)
  | 1 => matrixEntry (iq.scalingList8x8 matrixId)
  | 2 => matrixEntry (iq.scalingList16x16 matrixId)
  | _ => matrixEntry (iq.scalingList32x32 ⟨matrixId.val / 3, by omega⟩)

/-- `scaling_dc` (`hevc.c:549-557`). -/
def scalingDc (iq : VAIQMatrixBufferHEVC) (sizeId : Nat) (matrixId : Fin 6) : Nat :=
  if sizeId = 2 then (iq.scalingListDc16x16 matrixId).toNat
  else if sizeId = 3 then (iq.scalingListDc32x32 ⟨matrixId.val / 3, by omega⟩).toNat
  else 8

/-- The matrices of a size: every third one for 32x32. -/
def matrixIds (sizeId : Nat) : List (Fin 6) :=
  if sizeId = 3 then [0, 3] else [0, 1, 2, 3, 4, 5]

/-- The difference of two coefficients, brought into the range of a signed byte. -/
def coefDelta (value next : Int) : Int :=
  let delta := value - next
  let delta := if 127 < delta then delta - 256 else delta
  if delta < -128 then delta + 256 else delta

/-- The inner loop of `write_scaling_lists` (`hevc.c:576-586`). -/
def writeCoefs (entry : Nat → Nat) : List Nat → Int → BsM Unit
  | [], _ => pure ()
  | pos :: scan, next => do
    bsWriteSe (coefDelta (entry pos) next)
    writeCoefs entry scan (entry pos)

/-- The body of the loops of `write_scaling_lists` for one matrix (`hevc.c:566-586`). -/
def writeScalingMatrix (iq : VAIQMatrixBufferHEVC) (sizeId : Nat) (matrixId : Fin 6) : BsM Unit := do
  bsWrite 1 1
  bsIf (decide (1 < sizeId)) do
    bsIf (scalingDc iq sizeId matrixId == 0) bsFail
    bsWriteSe ((scalingDc iq sizeId matrixId : Int) - 8)
  writeCoefs (scalingMatrix iq sizeId matrixId) (if sizeId = 0 then diag4x4 else diag8x8)
    (if 1 < sizeId then scalingDc iq sizeId matrixId else 8)

/-- `write_scaling_lists` (`hevc.c:559-590`). -/
def writeScalingLists (iq : VAIQMatrixBufferHEVC) : BsM Unit :=
  bsEach (fun sizeId => bsEach (writeScalingMatrix iq sizeId) (matrixIds sizeId)) (List.range 4)

/-- `deblock_present` (`hevc.c:988-991`). -/
def deblockPresent (pp : VAPictureParameterBufferHEVC) : Bool :=
  pp.deblockingFilterOverrideEnabledFlag || pp.ppsDisableDeblockingFilterFlag ||
    pp.ppsBetaOffsetDiv2 != 0 || pp.ppsTcOffsetDiv2 != 0

/-- The statements of `write_pps` up to `bs_rbsp_trailing` (`hevc.c:993-1047`). -/
def ppsRbsp (pp : VAPictureParameterBufferHEVC) (iq : Option VAIQMatrixBufferHEVC) (ppsId : Nat) :
    BsM Unit := do
  writeNalHeader 34
  bsWriteUe ppsId
  bsWriteUe 0
  bsWriteFlag pp.dependentSliceSegmentsEnabledFlag
  bsWriteFlag pp.outputFlagPresentFlag
  bsWrite pp.numExtraSliceHeaderBits.toNat 3
  bsWriteFlag pp.signDataHidingEnabledFlag
  bsWriteFlag pp.cabacInitPresentFlag
  bsWriteUe pp.numRefIdxL0DefaultActiveMinus1.toNat
  bsWriteUe pp.numRefIdxL1DefaultActiveMinus1.toNat
  bsWriteSe pp.initQpMinus26.toInt
  bsWriteFlag pp.constrainedIntraPredFlag
  bsWriteFlag pp.transformSkipEnabledFlag
  bsWriteFlag pp.cuQpDeltaEnabledFlag
  bsIf pp.cuQpDeltaEnabledFlag (bsWriteUe pp.diffCuQpDeltaDepth.toNat)
  bsWriteSe pp.ppsCbQpOffset.toInt
  bsWriteSe pp.ppsCrQpOffset.toInt
  bsWriteFlag pp.ppsSliceChromaQpOffsetsPresentFlag
  bsWriteFlag pp.weightedPredFlag
  bsWriteFlag pp.weightedBipredFlag
  bsWriteFlag pp.transquantBypassEnabledFlag
  bsWriteFlag pp.tilesEnabledFlag
  bsWriteFlag pp.entropyCodingSyncEnabledFlag
  bsIf pp.tilesEnabledFlag do
    bsWriteUe pp.numTileColumnsMinus1.toNat
    bsWriteUe pp.numTileRowsMinus1.toNat
    bsWriteFlag (tileSpacingIsUniform pp)
    bsIf (!tileSpacingIsUniform pp) do
      bsEach (fun i => bsWriteUe (columnWidth pp i)) (List.range pp.numTileColumnsMinus1.toNat)
      bsEach (fun i => bsWriteUe (rowHeight pp i)) (List.range pp.numTileRowsMinus1.toNat)
    bsWriteFlag pp.loopFilterAcrossTilesEnabledFlag
  bsWriteFlag pp.ppsLoopFilterAcrossSlicesEnabledFlag
  bsWriteFlag (deblockPresent pp)
  bsIf (deblockPresent pp) do
    bsWriteFlag pp.deblockingFilterOverrideEnabledFlag
    bsWriteFlag pp.ppsDisableDeblockingFilterFlag
    bsIf (!pp.ppsDisableDeblockingFilterFlag) do
      bsWriteSe pp.ppsBetaOffsetDiv2.toInt
      bsWriteSe pp.ppsTcOffsetDiv2.toInt
  bsWriteFlag pp.scalingListEnabledFlag
  bsIf pp.scalingListEnabledFlag (iq.elim bsFail writeScalingLists)
  bsWriteFlag pp.listsModificationPresentFlag
  bsWriteUe pp.log2ParallelMergeLevelMinus2.toNat
  bsWriteFlag pp.sliceSegmentHeaderExtensionPresentFlag
  bsWrite 0 1

/-- `write_pps` (`hevc.c:981-1050`). The validation lets no scaling lists through without an IQ
matrix. -/
def writePps (bufSize : Nat) (pp : VAPictureParameterBufferHEVC)
    (iq : Option VAIQMatrixBufferHEVC) (ppsId : Nat) : Option (List UInt8) :=
  writeNal 32768 bufSize (ppsRbsp pp iq ppsId)

/-- `write_sequence_parameter_sets` (`hevc.c:1052-1068`). -/
def writeSequenceParameterSets (bufSize : Nat) (pp : VAPictureParameterBufferHEVC)
    (profileIdc : Nat) : Option (List UInt8) := do
  let vps ← writeVps bufSize pp profileIdc
  let sps ← writeSps (bufSize - vps.length) pp profileIdc
  if (vps ++ sps).length ≤ 2 ^ 31 - 1 then some (vps ++ sps) else none

/-- `rk_hevc_write_sequence_parameter_sets` (`hevc.c:1070-1080`). -/
def rkHevcWriteSequenceParameterSets (bufSize : Nat) (pp : VAPictureParameterBufferHEVC)
    (iq : Option VAIQMatrixBufferHEVC) (profileIdc : Nat) : Option (List UInt8) := do
  let _rps ← validatePictureParameters pp iq profileIdc
  writeSequenceParameterSets bufSize pp profileIdc

/-- `rk_hevc_write_parameter_sets` (`hevc.c:1082-1102`). -/
def rkHevcWriteParameterSets (bufSize : Nat) (pp : VAPictureParameterBufferHEVC)
    (iq : Option VAIQMatrixBufferHEVC) (ppsId profileIdc : Nat) : Option (List UInt8) := do
  if 63 < ppsId then none
  else
    let _rps ← validatePictureParameters pp iq profileIdc
    let sequenceSets ← writeSequenceParameterSets bufSize pp profileIdc
    let pps ← writePps (bufSize - sequenceSets.length) pp iq ppsId
    if 2 ^ 31 - 1 - pps.length < sequenceSets.length then none else some (sequenceSets ++ pps)

/-- `rk_hevc_write_picture_parameter_set` (`hevc.c:1104-1115`). -/
def rkHevcWritePictureParameterSet (bufSize : Nat) (pp : VAPictureParameterBufferHEVC)
    (iq : Option VAIQMatrixBufferHEVC) (ppsId profileIdc : Nat) : Option (List UInt8) := do
  if 63 < ppsId then none
  else
    let _rps ← validatePictureParameters pp iq profileIdc
    writePps bufSize pp iq ppsId

end RockchipVaapi.Hevc
