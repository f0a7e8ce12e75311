import RockchipVaapi.Hevc.RoundTrip

/-!
# What the VPS and the SPS depend on

`build_hevc_job` compares the bytes of `rk_hevc_write_sequence_parameter_sets` with those of the
last queued bundle and sends them again when they differ (`mpp_dec.c:993-1003`). The emitters
read the sequence-level fields of the picture parameters and one flag of `CurrPic`: VA-API has
no other place for the scan type of the stream.
-/

namespace RockchipVaapi.Hevc
open Bitstream

/-- Two picture parameter buffers with the same sequence-level fields. -/
structure SameSequence (pp pp' : VAPictureParameterBufferHEVC) : Prop where
  width : pp.picWidthInLumaSamples = pp'.picWidthInLumaSamples
  height : pp.picHeightInLumaSamples = pp'.picHeightInLumaSamples
  chromaFormat : pp.chromaFormatIdc = pp'.chromaFormatIdc
  bitDepthLuma : pp.bitDepthLumaMinus8 = pp'.bitDepthLumaMinus8
  bitDepthChroma : pp.bitDepthChromaMinus8 = pp'.bitDepthChromaMinus8
  pocLsb : pp.log2MaxPicOrderCntLsbMinus4 = pp'.log2MaxPicOrderCntLsbMinus4
  dpbSize : pp.spsMaxDecPicBufferingMinus1 = pp'.spsMaxDecPicBufferingMinus1
  noReordering : pp.noPicReorderingFlag = pp'.noPicReorderingFlag
  minCodingBlock : pp.log2MinLumaCodingBlockSizeMinus3 = pp'.log2MinLumaCodingBlockSizeMinus3
  diffCodingBlock : pp.log2DiffMaxMinLumaCodingBlockSize = pp'.log2DiffMaxMinLumaCodingBlockSize
  minTransformBlock : pp.log2MinTransformBlockSizeMinus2 = pp'.log2MinTransformBlockSizeMinus2
  diffTransformBlock : pp.log2DiffMaxMinTransformBlockSize = pp'.log2DiffMaxMinTransformBlockSize
  depthInter : pp.maxTransformHierarchyDepthInter = pp'.maxTransformHierarchyDepthInter
  depthIntra : pp.maxTransformHierarchyDepthIntra = pp'.maxTransformHierarchyDepthIntra
  pcm : pp.pcmEnabledFlag = pp'.pcmEnabledFlag
  pcmDepthLuma : pp.pcmSampleBitDepthLumaMinus1 = pp'.pcmSampleBitDepthLumaMinus1
  pcmDepthChroma : pp.pcmSampleBitDepthChromaMinus1 = pp'.pcmSampleBitDepthChromaMinus1
  pcmMinBlock : pp.log2MinPcmLumaCodingBlockSizeMinus3 = pp'.log2MinPcmLumaCodingBlockSizeMinus3
  pcmDiffBlock :
    pp.log2DiffMaxMinPcmLumaCodingBlockSize = pp'.log2DiffMaxMinPcmLumaCodingBlockSize
  pcmLoopFilter : pp.pcmLoopFilterDisabledFlag = pp'.pcmLoopFilterDisabledFlag
  scalingList : pp.scalingListEnabledFlag = pp'.scalingListEnabledFlag
  amp : pp.ampEnabledFlag = pp'.ampEnabledFlag
  sao : pp.sampleAdaptiveOffsetEnabledFlag = pp'.sampleAdaptiveOffsetEnabledFlag
  longTerm : pp.longTermRefPicsPresentFlag = pp'.longTermRefPicsPresentFlag
  temporalMvp : pp.spsTemporalMvpEnabledFlag = pp'.spsTemporalMvpEnabledFlag
  strongIntra : pp.strongIntraSmoothingEnabledFlag = pp'.strongIntraSmoothingEnabledFlag

section

variable {pp pp' : VAPictureParameterBufferHEVC}

theorem SameSequence.reorder_eq (same : SameSequence pp pp') : reorder pp = reorder pp' := by
  unfold reorder
  rw [same.noReordering, same.dpbSize]

theorem SameSequence.deriveLevelIdc_eq (same : SameSequence pp pp') :
    deriveLevelIdc pp = deriveLevelIdc pp' := by
  unfold deriveLevelIdc
  rw [same.width, same.height]

theorem SameSequence.vpsRbsp_eq (same : SameSequence pp pp') (field : fieldPic pp = fieldPic pp')
    (profileIdc : Nat) : vpsRbsp pp profileIdc = vpsRbsp pp' profileIdc := by
  unfold vpsRbsp
  rw [same.deriveLevelIdc_eq, same.reorder_eq, same.dpbSize, field]

theorem SameSequence.spsRbsp_eq (same : SameSequence pp pp') (field : fieldPic pp = fieldPic pp')
    (profileIdc : Nat) : spsRbsp pp profileIdc = spsRbsp pp' profileIdc := by
  unfold spsRbsp
  rw [same.deriveLevelIdc_eq, same.reorder_eq, field, same.chromaFormat, same.width, same.height,
    same.bitDepthLuma, same.bitDepthChroma, same.pocLsb, same.dpbSize, same.minCodingBlock,
    same.diffCodingBlock, same.minTransformBlock, same.diffTransformBlock, same.depthInter,
    same.depthIntra, same.scalingList, same.amp, same.sao, same.pcm, same.pcmDepthLuma,
    same.pcmDepthChroma, same.pcmMinBlock, same.pcmDiffBlock, same.pcmLoopFilter, same.longTerm,
    same.temporalMvp, same.strongIntra]

/-- The emitters write the same bytes, or fail alike. -/
theorem SameSequence.writeSequenceParameterSets_eq (same : SameSequence pp pp')
    (field : fieldPic pp = fieldPic pp') (bufSize profileIdc : Nat) :
    writeSequenceParameterSets bufSize pp profileIdc =
      writeSequenceParameterSets bufSize pp' profileIdc := by
  unfold writeSequenceParameterSets writeVps writeSps
  rw [same.vpsRbsp_eq field, same.spsRbsp_eq field]

end

/-- A successful call returns what the emitters write: the IQ matrix only takes part in the
validation. -/
theorem rkHevcWriteSequenceParameterSets_some {bufSize profileIdc : Nat}
    {pp : VAPictureParameterBufferHEVC} {iq : Option VAIQMatrixBufferHEVC} {out : List UInt8}
    (written : rkHevcWriteSequenceParameterSets bufSize pp iq profileIdc = some out) :
    writeSequenceParameterSets bufSize pp profileIdc = some out := by
  obtain ⟨_, _, emitted⟩ := Option.bind_eq_some_iff.mp written
  exact emitted

/-- Where one picture of a sequence is written, every valid picture of it is. -/
theorem SameSequence.written_of_valid {bufSize profileIdc : Nat}
    {pp pp' : VAPictureParameterBufferHEVC} {iq iq' : Option VAIQMatrixBufferHEVC}
    {out : List UInt8} (same : SameSequence pp pp') (field : fieldPic pp = fieldPic pp')
    (written : rkHevcWriteSequenceParameterSets bufSize pp iq profileIdc = some out)
    (valid : (validatePictureParameters pp' iq' profileIdc).isSome = true) :
    ∃ out', rkHevcWriteSequenceParameterSets bufSize pp' iq' profileIdc = some out' := by
  obtain ⟨rps, passed⟩ := Option.isSome_iff_exists.mp valid
  have emitted := rkHevcWriteSequenceParameterSets_some written
  rw [same.writeSequenceParameterSets_eq field] at emitted
  exact ⟨out, Option.bind_eq_some_iff.mpr ⟨rps, passed, emitted⟩⟩

/-- Two picture parameter buffers of one sequence and one scan type yield the same bytes, with
any IQ matrices. -/
theorem sequenceParameterSets_agree (bufSize profileIdc : Nat)
    (pp pp' : VAPictureParameterBufferHEVC) (iq iq' : Option VAIQMatrixBufferHEVC)
    (same : SameSequence pp pp') (field : fieldPic pp = fieldPic pp') (out out' : List UInt8)
    (written : rkHevcWriteSequenceParameterSets bufSize pp iq profileIdc = some out)
    (written' : rkHevcWriteSequenceParameterSets bufSize pp' iq' profileIdc = some out') :
    out = out' := by
  have first := rkHevcWriteSequenceParameterSets_some written
  have second := rkHevcWriteSequenceParameterSets_some written'
  rw [same.writeSequenceParameterSets_eq field] at first
  exact Option.some.inj (first.symm.trans second)

/-- A later picture of the sequence of `blockPicture`: another POC, a reference and another
QP. -/
def laterBlockPicture : VAPictureParameterBufferHEVC :=
  { blockPicture with
    currPic := ⟨2, 8, 0⟩
    referenceFrames := fun i => if i = 0 then ⟨1, 0, 0x10⟩ else ⟨0xffffffff, 0, 1⟩
    initQpMinus26 := 3, numExtraSliceHeaderBits := 1, stRpsBits := 9 }

theorem sequenceParameterSets_agree_later :
    ∃ out, rkHevcWriteSequenceParameterSets 4096 blockPicture none 1 = some out ∧
      rkHevcWriteSequenceParameterSets 4096 laterBlockPicture none 1 = some out := by
  have written : (rkHevcWriteSequenceParameterSets 4096 blockPicture none 1).isSome := by
    decide +kernel
  obtain ⟨out, h⟩ := Option.isSome_iff_exists.mp written
  have same : SameSequence blockPicture laterBlockPicture := by constructor <;> rfl
  -- the later picture is valid, and its emitters write what those of the first one wrote
  have valid : (validatePictureParameters laterBlockPicture none 1).isSome := by decide +kernel
  obtain ⟨out', h'⟩ := same.written_of_valid rfl h valid
  have agree := sequenceParameterSets_agree 4096 1 blockPicture laterBlockPicture none none same
    rfl out out' h h'
  exact ⟨out, h, agree ▸ h'⟩

/-- `VA_PICTURE_HEVC_FIELD_PIC` of `CurrPic` reaches the profile and level syntax of both
headers. -/
theorem fieldFlag_changes_headers :
    let field := { blockPicture with currPic := ⟨1, 0, vaPictureFieldPic⟩ }
    SameSequence blockPicture field ∧
      ∃ out out', rkHevcWriteSequenceParameterSets 4096 blockPicture none 1 = some out ∧
        rkHevcWriteSequenceParameterSets 4096 field none 1 = some out' ∧ out ≠ out' := by
  intro field
  have both : (rkHevcWriteSequenceParameterSets 4096 blockPicture none 1).isSome ∧
      (rkHevcWriteSequenceParameterSets 4096 field none 1).isSome ∧
      rkHevcWriteSequenceParameterSets 4096 blockPicture none 1 ≠
        rkHevcWriteSequenceParameterSets 4096 field none 1 := by
    decide +kernel
  obtain ⟨first, second, differ⟩ := both
  obtain ⟨out, h⟩ := Option.isSome_iff_exists.mp first
  obtain ⟨out', h'⟩ := Option.isSome_iff_exists.mp second
  refine ⟨by constructor <;> rfl, out, out', h, h', fun same => differ ?_⟩
  rw [h, h', same]

end RockchipVaapi.Hevc
