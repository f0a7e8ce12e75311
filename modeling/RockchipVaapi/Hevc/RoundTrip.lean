import RockchipVaapi.Hevc.ParameterSets
import RockchipVaapi.Hevc.Syntax

/-!
# HEVC parameter sets decode back

The codes the three emitters write, in order, and the proof that the syntax tables of the
standard read the VA parameters back from them. The contents of the scaling lists and of the
tile geometry are carried along as they are coded.
-/

namespace RockchipVaapi.Hevc
open Bitstream

/-! ## Profile, tier and level -/

/-- The codes of `write_profile_tier_level`. -/
def ptlCodes (profileIdc levelIdc : Nat) (field : Bool) : List (List Bool) :=
  [uBits 2 0, uBits 1 0, uBits 5 profileIdc,
    ((List.range 32).map fun i => [i == profileIdc]).flatten, [!field], [field], uBits 1 1,
    [!field],
    if profileIdc == 2 then [uBits 7 0, uBits 1 0, uBits 24 0, uBits 11 0].flatten else [],
    if profileIdc != 2 then [uBits 24 0, uBits 19 0].flatten else [], uBits 1 0, uBits 8 levelIdc]

theorem emits_ptl (profileIdc levelIdc : Nat) (field : Bool) :
    Emits (writeProfileTierLevel profileIdc levelIdc field)
      (ptlCodes profileIdc levelIdc field).flatten := by
  refine (emits_write _ _).cons <| (emits_write _ _).cons <| (emits_write _ _).cons <|
    (emits_each _ fun i _ => emits_flag _).cons <| (emits_flag _).cons <| (emits_flag _).cons <|
    (emits_write _ _).cons <| (emits_flag _).cons <| (Emits.bsIf fun _ => ?_).cons <|
    (Emits.bsIf fun _ => ?_).cons <| (emits_write _ _).cons <| (emits_write _ _).last
  · exact (emits_write _ _).cons <| (emits_write _ _).cons <| (emits_write _ _).cons <|
      (emits_write _ _).last
  · exact (emits_write _ _).cons <| (emits_write _ _).last

/-- The profile, tier and level that is read back. -/
def ptlOf (profileIdc levelIdc : Nat) (field : Bool) : ProfileTierLevel :=
  { profileSpace := 0, tierFlag := false, profileIdc
    compatibilityFlags := (List.range 32).map fun i => i == profileIdc
    progressiveSourceFlag := !field, interlacedSourceFlag := field
    nonPackedConstraintFlag := true, frameOnlyConstraintFlag := !field, constraintBits := 0
    inbldFlag := false, levelIdc }

theorem reads_ptl {profileIdc levelIdc : Nat} (field : Bool) (profile : profileIdc < 2 ^ 5)
    (level : levelIdc < 2 ^ 8) :
    Reads readProfileTierLevel (ptlCodes profileIdc levelIdc field).flatten
      (ptlOf profileIdc levelIdc field) := by
  -- both branches write 43 zero bits
  have zeros : ∀ rest : List (List Bool),
      ((if profileIdc == 2 then [uBits 7 0, uBits 1 0, uBits 24 0, uBits 11 0].flatten else []) ::
        (if profileIdc != 2 then [uBits 24 0, uBits 19 0].flatten else []) :: rest).flatten =
      (uBits 43 0 :: rest).flatten := by
    intro rest
    by_cases two : profileIdc = 2
    · subst two
      rfl
    · have eq : (profileIdc == 2) = false := by simpa using two
      have ne : (profileIdc != 2) = true := by simpa using two
      rw [eq, ne]
      rfl
  have flags : Reads (readMany readFlag 32) ((List.range 32).map fun i => [i == profileIdc]).flatten
      ((List.range 32).map fun i => i == profileIdc) :=
    reads_readMany (List.range 32) fun i _ => reads_flag _
  refine (reads_u (by norm_num)).cons <| (reads_flag false).cons <| (reads_u profile).cons <|
    flags.cons <| (reads_flag _).cons <| (reads_flag _).cons <| (reads_flag true).cons <|
    (reads_flag _).cons ?_
  rw [zeros]
  exact (reads_u (by norm_num)).cons <| (reads_flag false).cons <| (reads_u level).cons <|
    reads_pure _

theorem deriveLevelIdc_lt (pp : VAPictureParameterBufferHEVC) : deriveLevelIdc pp < 2 ^ 8 := by
  unfold deriveLevelIdc
  dsimp only
  repeat' split
  all_goals norm_num

/-! ## Fields of the VA buffers -/

theorem emits_uint8 (v : UInt8) : Emits (bsWriteUe v.toNat) (ueBits v.toNat) :=
  emits_ue (by have := v.toNat_lt; omega)

theorem emits_uint16 (v : UInt16) : Emits (bsWriteUe v.toNat) (ueBits v.toNat) :=
  emits_ue (by have := v.toNat_lt; omega)

theorem emits_int8 (v : Int8) : Emits (bsWriteSe v.toInt) (seBits v.toInt) := by
  have low := v.le_toInt
  have high := v.toInt_lt
  exact emits_se (by omega) (by omega)

theorem reorder_lt (pp : VAPictureParameterBufferHEVC) : reorder pp < 2 ^ 8 := by
  have := pp.spsMaxDecPicBufferingMinus1.toNat_lt
  unfold reorder
  split <;> omega

/-! ## The video parameter set -/

/-- The codes of the buffering information. -/
def orderingCodes (pp : VAPictureParameterBufferHEVC) : List (List Bool) :=
  [ueBits pp.spsMaxDecPicBufferingMinus1.toNat, ueBits (reorder pp), ueBits 0]

/-- The buffering information that is read back. -/
def orderingOf (pp : VAPictureParameterBufferHEVC) : OrderingInfo :=
  { maxDecPicBufferingMinus1 := pp.spsMaxDecPicBufferingMinus1.toNat
    maxNumReorderPics := reorder pp, maxLatencyIncreasePlus1 := 0 }

theorem reads_ordering (pp : VAPictureParameterBufferHEVC) :
    Reads readOrderingInfo (orderingCodes pp).flatten (orderingOf pp) :=
  (reads_ue _).cons <| (reads_ue _).cons <| (reads_ue 0).cons <| reads_pure _

/-- The codes of the NAL unit header. -/
def headerCodes (nalType : Nat) : List (List Bool) :=
  [uBits 1 0, uBits 6 nalType, uBits 6 0, uBits 3 1]

theorem emits_nalHeader (nalType : Nat) :
    Emits (writeNalHeader nalType) (headerCodes nalType).flatten :=
  (emits_write _ _).cons <| (emits_write _ _).cons <| (emits_write _ _).cons <|
    (emits_write _ _).last

/-- The codes of the VPS behind its NAL unit header. -/
def vpsCodes (pp : VAPictureParameterBufferHEVC) (profileIdc : Nat) : List (List Bool) :=
  [uBits 4 0, uBits 1 1, uBits 1 1, uBits 6 0, uBits 3 0, uBits 1 1, uBits 16 0xffff,
    (ptlCodes profileIdc (deriveLevelIdc pp) (fieldPic pp)).flatten, uBits 1 0,
    ueBits pp.spsMaxDecPicBufferingMinus1.toNat, ueBits (reorder pp), ueBits 0, uBits 6 0,
    ueBits 0, uBits 1 0, uBits 1 0]

theorem emits_vps (pp : VAPictureParameterBufferHEVC) (profileIdc : Nat) :
    Emits (vpsRbsp pp profileIdc)
      ((headerCodes 32).flatten :: vpsCodes pp profileIdc).flatten := by
  have reorderLt := reorder_lt pp
  exact (emits_nalHeader 32).cons <| (emits_write _ _).cons <| (emits_write _ _).cons <|
    (emits_write _ _).cons <| (emits_write _ _).cons <| (emits_write _ _).cons <|
    (emits_write _ _).cons <| (emits_write _ _).cons <| (emits_ptl _ _ _).cons <|
    (emits_write _ _).cons <| (emits_uint8 _).cons <| (emits_ue (by omega)).cons <|
    (emits_ue (by norm_num)).cons <| (emits_write _ _).cons <| (emits_ue (by norm_num)).cons <|
    (emits_write _ _).cons <| (emits_write _ _).last

/-- The VPS that is read back. -/
def vpsOf (pp : VAPictureParameterBufferHEVC) (profileIdc : Nat) : Vps :=
  { videoParameterSetId := 0, baseLayerInternalFlag := true, baseLayerAvailableFlag := true
    maxLayersMinus1 := 0, temporalIdNestingFlag := true, reserved0xffff := 0xffff
    profileTierLevel := ptlOf profileIdc (deriveLevelIdc pp) (fieldPic pp)
    subLayerOrderingInfoPresentFlag := false, ordering := orderingOf pp, maxLayerId := 0 }

theorem reads_absent_false : Reads (readAbsent false) [] () := fun _ => rfl

theorem reads_vps (pp : VAPictureParameterBufferHEVC) {profileIdc : Nat}
    (profile : profileIdc < 2 ^ 5) :
    Reads readVps (vpsCodes pp profileIdc).flatten (vpsOf pp profileIdc) := by
  have grouped : (vpsCodes pp profileIdc).flatten =
      [uBits 4 0, uBits 1 1, uBits 1 1, uBits 6 0, uBits 3 0, uBits 1 1, uBits 16 0xffff,
        (ptlCodes profileIdc (deriveLevelIdc pp) (fieldPic pp)).flatten, uBits 1 0,
        (orderingCodes pp).flatten, uBits 6 0, ueBits 0, uBits 1 0, uBits 1 0].flatten := by
    simp [vpsCodes, orderingCodes]
  rw [grouped]
  exact (reads_u (by norm_num)).cons <| (reads_flag true).cons <| (reads_flag true).cons <|
    (reads_u (by norm_num)).cons <| (reads_u (by norm_num)).cons <| reads_absent_false.skip <|
    (reads_flag true).cons <| (reads_u (by norm_num)).cons <|
    (reads_ptl _ profile (deriveLevelIdc_lt pp)).cons <| (reads_flag false).cons <|
    (reads_ordering pp).cons <| (reads_u (by norm_num)).cons <| (reads_ue 0).cons <|
    reads_absent_false.skip <| (reads_flag false).cons <| reads_absent_false.skip <|
    (reads_flag false).cons <| reads_absent_false.skip <| reads_pure _

/-! ## The sequence parameter set -/

/-- The codes of the PCM elements. -/
def pcmCodes (pp : VAPictureParameterBufferHEVC) : List (List Bool) :=
  [uBits 4 pp.pcmSampleBitDepthLumaMinus1.toNat, uBits 4 pp.pcmSampleBitDepthChromaMinus1.toNat,
    ueBits pp.log2MinPcmLumaCodingBlockSizeMinus3.toNat,
    ueBits pp.log2DiffMaxMinPcmLumaCodingBlockSize.toNat, [pp.pcmLoopFilterDisabledFlag]]

/-- The codes of the SPS behind its NAL unit header. -/
def spsCodes (pp : VAPictureParameterBufferHEVC) (profileIdc : Nat) : List (List Bool) :=
  [uBits 4 0, uBits 3 0, uBits 1 1,
    (ptlCodes profileIdc (deriveLevelIdc pp) (fieldPic pp)).flatten, ueBits 0,
    ueBits pp.chromaFormatIdc.val, ueBits pp.picWidthInLumaSamples.toNat,
    ueBits pp.picHeightInLumaSamples.toNat, uBits 1 0, ueBits pp.bitDepthLumaMinus8.toNat,
    ueBits pp.bitDepthChromaMinus8.toNat, ueBits pp.log2MaxPicOrderCntLsbMinus4.toNat, uBits 1 0,
    ueBits pp.spsMaxDecPicBufferingMinus1.toNat, ueBits (reorder pp), ueBits 0,
    ueBits pp.log2MinLumaCodingBlockSizeMinus3.toNat,
    ueBits pp.log2DiffMaxMinLumaCodingBlockSize.toNat,
    ueBits pp.log2MinTransformBlockSizeMinus2.toNat,
    ueBits pp.log2DiffMaxMinTransformBlockSize.toNat,
    ueBits pp.maxTransformHierarchyDepthInter.toNat,
    ueBits pp.maxTransformHierarchyDepthIntra.toNat, [pp.scalingListEnabledFlag],
    if pp.scalingListEnabledFlag then uBits 1 0 else [], [pp.ampEnabledFlag],
    [pp.sampleAdaptiveOffsetEnabledFlag], [pp.pcmEnabledFlag],
    if pp.pcmEnabledFlag then (pcmCodes pp).flatten else [], ueBits 0,
    [pp.longTermRefPicsPresentFlag], if pp.longTermRefPicsPresentFlag then ueBits 0 else [],
    [pp.spsTemporalMvpEnabledFlag], [pp.strongIntraSmoothingEnabledFlag], uBits 1 0, uBits 1 0]

theorem emits_sps (pp : VAPictureParameterBufferHEVC) (profileIdc : Nat) :
    Emits (spsRbsp pp profileIdc)
      ((headerCodes 33).flatten :: spsCodes pp profileIdc).flatten := by
  have reorderLt := reorder_lt pp
  have chromaLt := pp.chromaFormatIdc.isLt
  refine (emits_nalHeader 33).cons <| (emits_write _ _).cons <| (emits_write _ _).cons <|
    (emits_write _ _).cons <| (emits_ptl _ _ _).cons <| (emits_ue (by norm_num)).cons <|
    (emits_ue (by omega)).cons <| (emits_uint16 _).cons <| (emits_uint16 _).cons <|
    (emits_write _ _).cons <| (emits_uint8 _).cons <| (emits_uint8 _).cons <|
    (emits_uint8 _).cons <| (emits_write _ _).cons <| (emits_uint8 _).cons <|
    (emits_ue (by omega)).cons <| (emits_ue (by norm_num)).cons <| (emits_uint8 _).cons <|
    (emits_uint8 _).cons <| (emits_uint8 _).cons <| (emits_uint8 _).cons <|
    (emits_uint8 _).cons <| (emits_uint8 _).cons <| (emits_flag _).cons <|
    (Emits.bsIf fun _ => emits_write _ _).cons <| (emits_flag _).cons <| (emits_flag _).cons <|
    (emits_flag _).cons <| (Emits.bsIf fun _ => ?pcm).cons <| (emits_ue (by norm_num)).cons <|
    (emits_flag _).cons <| (Emits.bsIf fun _ => emits_ue (by norm_num)).cons <|
    (emits_flag _).cons <| (emits_flag _).cons <| (emits_write _ _).cons <|
    (emits_write _ _).last
  case pcm =>
    exact (emits_write _ _).cons <| (emits_write _ _).cons <| (emits_uint8 _).cons <|
      (emits_uint8 _).cons <| (emits_flag _).last

/-- The PCM elements that are read back. -/
def pcmOf (pp : VAPictureParameterBufferHEVC) : PcmInfo :=
  { sampleBitDepthLumaMinus1 := pp.pcmSampleBitDepthLumaMinus1.toNat
    sampleBitDepthChromaMinus1 := pp.pcmSampleBitDepthChromaMinus1.toNat
    log2MinLumaCodingBlockSizeMinus3 := pp.log2MinPcmLumaCodingBlockSizeMinus3.toNat
    log2DiffMaxMinLumaCodingBlockSize := pp.log2DiffMaxMinPcmLumaCodingBlockSize.toNat
    loopFilterDisabledFlag := pp.pcmLoopFilterDisabledFlag }

/-- The SPS that is read back. -/
def spsOf (pp : VAPictureParameterBufferHEVC) (profileIdc : Nat) : Sps :=
  { videoParameterSetId := 0, temporalIdNestingFlag := true
    profileTierLevel := ptlOf profileIdc (deriveLevelIdc pp) (fieldPic pp)
    seqParameterSetId := 0, chromaFormatIdc := pp.chromaFormatIdc.val
    separateColourPlaneFlag := false
    picWidthInLumaSamples := pp.picWidthInLumaSamples.toNat
    picHeightInLumaSamples := pp.picHeightInLumaSamples.toNat
    conformanceWindow := none
    bitDepthLumaMinus8 := pp.bitDepthLumaMinus8.toNat
    bitDepthChromaMinus8 := pp.bitDepthChromaMinus8.toNat
    log2MaxPicOrderCntLsbMinus4 := pp.log2MaxPicOrderCntLsbMinus4.toNat
    ordering := orderingOf pp
    log2MinLumaCodingBlockSizeMinus3 := pp.log2MinLumaCodingBlockSizeMinus3.toNat
    log2DiffMaxMinLumaCodingBlockSize := pp.log2DiffMaxMinLumaCodingBlockSize.toNat
    log2MinLumaTransformBlockSizeMinus2 := pp.log2MinTransformBlockSizeMinus2.toNat
    log2DiffMaxMinLumaTransformBlockSize := pp.log2DiffMaxMinTransformBlockSize.toNat
    maxTransformHierarchyDepthInter := pp.maxTransformHierarchyDepthInter.toNat
    maxTransformHierarchyDepthIntra := pp.maxTransformHierarchyDepthIntra.toNat
    scalingListEnabledFlag := pp.scalingListEnabledFlag
    scalingListData := none
    ampEnabledFlag := pp.ampEnabledFlag
    sampleAdaptiveOffsetEnabledFlag := pp.sampleAdaptiveOffsetEnabledFlag
    pcm := if pp.pcmEnabledFlag then some (pcmOf pp) else none
    numShortTermRefPicSets := 0
    longTermRefPicsPresentFlag := pp.longTermRefPicsPresentFlag
    numLongTermRefPicsSps := 0, ltRefPicsSps := []
    temporalMvpEnabledFlag := pp.spsTemporalMvpEnabledFlag
    strongIntraSmoothingEnabledFlag := pp.strongIntraSmoothingEnabledFlag }

/-- `Reads.readIf` where the element has the same value absent and present. -/
theorem reads_readIf_same {α : Type} {c : Bool} {p : Reader α} {bits : List Bool} {v : α}
    (h : Reads p bits v) : Reads (readIf c p v) (if c then bits else []) v := by
  cases c with
  | false => exact reads_pure v
  | true => exact h

theorem reads_sps (pp : VAPictureParameterBufferHEVC) {profileIdc : Nat}
    (profile : profileIdc < 2 ^ 5) (chroma : pp.chromaFormatIdc = 1)
    (pcm : pp.pcmEnabledFlag = true → validPcm pp = true) :
    Reads readSps (spsCodes pp profileIdc).flatten (spsOf pp profileIdc) := by
  have grouped : (spsCodes pp profileIdc).flatten =
      ((spsCodes pp profileIdc).take 13 ++ (orderingCodes pp).flatten ::
        (spsCodes pp profileIdc).drop 16).flatten := by
    simp [spsCodes, orderingCodes]
  have plane : (pp.chromaFormatIdc.val == 3) = false := by
    rw [chroma]
    rfl
  have noList : Reads readSpsScalingList (uBits 1 0) none :=
    (reads_flag false).bind (reads_pure none)
  have noLongTerm : Reads (readLongTermSps (pp.log2MaxPicOrderCntLsbMinus4.toNat + 4)) (ueBits 0) [] :=
    (reads_ue 0).bind (reads_pure [])
  have pcmInfo : pp.pcmEnabledFlag = true →
      Reads (do let info ← readPcmInfo; return some info) (pcmCodes pp).flatten (some (pcmOf pp)) := by
    intro enabled
    have valid := pcm enabled
    simp only [validPcm, Bool.not_eq_true', Bool.or_eq_false_iff, decide_eq_false_iff_not] at valid
    have body : Reads readPcmInfo (pcmCodes pp).flatten (pcmOf pp) :=
      (reads_u (by omega)).cons <| (reads_u (by omega)).cons <| (reads_ue _).cons <|
        (reads_ue _).cons <| (reads_flag _).cons <| reads_pure _
    exact body.map
  rw [grouped]
  refine (reads_u (by norm_num)).cons <| (reads_u (by norm_num)).cons <| reads_absent_false.skip <|
    (reads_flag true).cons <| (reads_ptl _ profile (deriveLevelIdc_lt pp)).cons <|
    (reads_ue 0).cons <| (reads_ue _).cons ?_
  rw [plane]
  refine (reads_pure false).skip <| (reads_ue _).cons <| (reads_ue _).cons <|
    (reads_flag false).cons <| (reads_pure none).skip <| (reads_ue _).cons <| (reads_ue _).cons <|
    (reads_ue _).cons <| (reads_flag false).cons <| (reads_ordering pp).cons <|
    (reads_ue _).cons <| (reads_ue _).cons <| (reads_ue _).cons <| (reads_ue _).cons <|
    (reads_ue _).cons <| (reads_ue _).cons <| (reads_flag _).cons <|
    (reads_readIf_same noList).cons <| (reads_flag _).cons <| (reads_flag _).cons <|
    (reads_flag _).cons <| (Reads.readIf pcmInfo).cons <| (reads_ue 0).cons <|
    reads_absent_false.skip <| (reads_flag _).cons <| (reads_readIf_same noLongTerm).cons <|
    (reads_flag _).cons <| (reads_flag _).cons <| (reads_flag false).cons <|
    reads_absent_false.skip <| (reads_flag false).cons <| reads_absent_false.skip <| reads_pure _

/-! ## The picture parameter set -/

/-- The coefficient differences of a matrix after `next`. -/
def coefDeltas (entry : Nat → Nat) : List Nat → Int → List Int
  | [], _ => []
  | pos :: scan, next => coefDelta (entry pos) next :: coefDeltas entry scan (entry pos)

/-- The code of one scaling matrix. -/
def matrixCodes (iq : VAIQMatrixBufferHEVC) (sizeId : Nat) (matrixId : Fin 6) : List (List Bool) :=
  [uBits 1 1,
    if decide (1 < sizeId) then seBits ((scalingDc iq sizeId matrixId : Int) - 8) else [],
    ((coefDeltas (scalingMatrix iq sizeId matrixId) (if sizeId = 0 then diag4x4 else diag8x8)
      (if 1 < sizeId then scalingDc iq sizeId matrixId else 8)).map seBits).flatten]

/-- The code of all scaling matrices. -/
def scalingCodes (iq : VAIQMatrixBufferHEVC) : List (List Bool) :=
  (List.range 4).map fun sizeId =>
    ((matrixIds sizeId).map fun matrixId => (matrixCodes iq sizeId matrixId).flatten).flatten

/-- The syntax of one scaling matrix. -/
def matrixSyntax (iq : VAIQMatrixBufferHEVC) (sizeId : Nat) (matrixId : Fin 6) : ScalingListSyntax :=
  .coded (if decide (1 < sizeId) then (scalingDc iq sizeId matrixId : Int) - 8 else 0)
    (coefDeltas (scalingMatrix iq sizeId matrixId) (if sizeId = 0 then diag4x4 else diag8x8)
      (if 1 < sizeId then scalingDc iq sizeId matrixId else 8))

theorem matrixEntry_lt {n : Nat} (matrix : Fin n → UInt8) (pos : Nat) :
    matrixEntry matrix pos < 2 ^ 8 := by
  unfold matrixEntry
  split
  · rename_i h
    exact (matrix ⟨pos, h⟩).toNat_lt
  · norm_num

theorem scalingMatrix_lt (iq : VAIQMatrixBufferHEVC) (sizeId : Nat) (matrixId : Fin 6) (pos : Nat) :
    scalingMatrix iq sizeId matrixId pos < 2 ^ 8 := by
  unfold scalingMatrix
  split <;> exact matrixEntry_lt _ _

theorem scalingDc_lt (iq : VAIQMatrixBufferHEVC) (sizeId : Nat) (matrixId : Fin 6) :
    scalingDc iq sizeId matrixId < 2 ^ 8 := by
  unfold scalingDc
  split
  · exact UInt8.toNat_lt _
  · split
    · exact UInt8.toNat_lt _
    · norm_num

theorem coefDelta_range {value next : Nat} (hv : value < 2 ^ 8) (hn : next < 2 ^ 8) :
    -128 ≤ coefDelta value next ∧ coefDelta value next ≤ 127 := by
  unfold coefDelta
  dsimp only
  split <;> split <;> omega

theorem coefDeltas_range {entry : Nat → Nat} (small : ∀ pos, entry pos < 2 ^ 8) :
    ∀ (scan : List Nat) (next : Nat), next < 2 ^ 8 →
      ∀ delta ∈ coefDeltas entry scan next, -128 ≤ delta ∧ delta ≤ 127 := by
  intro scan
  induction scan with
  | nil => intro _ _ delta h; cases h
  | cons pos scan ih =>
    intro next hn delta h
    rcases List.mem_cons.mp h with rfl | h
    · exact coefDelta_range (small pos) hn
    · exact ih (entry pos) (small pos) delta h

theorem length_coefDeltas (entry : Nat → Nat) (scan : List Nat) (next : Int) :
    (coefDeltas entry scan next).length = scan.length := by
  induction scan generalizing next with
  | nil => rfl
  | cons pos scan ih => simp [coefDeltas, ih]

theorem emits_coefs {entry : Nat → Nat} (small : ∀ pos, entry pos < 2 ^ 8) :
    ∀ (scan : List Nat) (next : Nat), next < 2 ^ 8 →
      Emits (writeCoefs entry scan next) ((coefDeltas entry scan next).map seBits).flatten := by
  intro scan
  induction scan with
  | nil => intro _ _; exact emits_nil
  | cons pos scan ih =>
    intro next hn
    obtain ⟨low, high⟩ := coefDelta_range (small pos) hn
    exact (emits_se (by omega) (by omega)).cons (ih (entry pos) (small pos))

/-- The coefficient before the first one: the DC coefficient of the large matrices. -/
def firstCoef (iq : VAIQMatrixBufferHEVC) (sizeId : Nat) (matrixId : Fin 6) : Nat :=
  if 1 < sizeId then scalingDc iq sizeId matrixId else 8

theorem firstCoef_lt (iq : VAIQMatrixBufferHEVC) (sizeId : Nat) (matrixId : Fin 6) :
    firstCoef iq sizeId matrixId < 2 ^ 8 := by
  unfold firstCoef
  split
  · exact scalingDc_lt iq sizeId matrixId
  · norm_num

theorem firstCoef_cast (iq : VAIQMatrixBufferHEVC) (sizeId : Nat) (matrixId : Fin 6) :
    (if 1 < sizeId then (scalingDc iq sizeId matrixId : Int) else 8) =
      (firstCoef iq sizeId matrixId : Int) := by
  unfold firstCoef
  split <;> rfl

/-- No DC coefficient that is coded is zero. -/
def DcNonzero (iq : VAIQMatrixBufferHEVC) : Prop :=
  ∀ sizeId ∈ List.range 4, 1 < sizeId → ∀ matrixId ∈ matrixIds sizeId, scalingDc iq sizeId matrixId ≠ 0

theorem emits_scalingMatrix (iq : VAIQMatrixBufferHEVC) (sizeId : Nat) (matrixId : Fin 6)
    (nonzero : 1 < sizeId → scalingDc iq sizeId matrixId ≠ 0) :
    Emits (writeScalingMatrix iq sizeId matrixId) (matrixCodes iq sizeId matrixId).flatten := by
  have dcLt := scalingDc_lt iq sizeId matrixId
  refine (emits_write 1 1).cons <| (Emits.bsIf fun large => ?dc).cons <| Emits.last ?coefs
  case dc =>
    have hne : (scalingDc iq sizeId matrixId == 0) = false := by
      rw [beq_eq_false_iff_ne]
      exact nonzero (of_decide_eq_true large)
    rw [hne]
    exact emits_nil.seq (emits_se (by omega) (by omega))
  case coefs =>
    rw [firstCoef_cast]
    exact emits_coefs (scalingMatrix_lt iq sizeId matrixId) _ _ (firstCoef_lt iq sizeId matrixId)

theorem emits_scalingLists (iq : VAIQMatrixBufferHEVC) (nonzero : DcNonzero iq) :
    Emits (writeScalingLists iq) (scalingCodes iq).flatten :=
  emits_each _ fun sizeId hs => emits_each _ fun matrixId hm =>
    emits_scalingMatrix iq sizeId matrixId fun large => nonzero sizeId hs large matrixId hm

theorem fails_scalingLists (iq : VAIQMatrixBufferHEVC) (zero : ¬ DcNonzero iq) :
    Fails (writeScalingLists iq) := by
  unfold DcNonzero at zero
  push Not at zero
  obtain ⟨sizeId, hs, large, matrixId, hm, hz⟩ := zero
  have isZero : (scalingDc iq sizeId matrixId == 0) = true := beq_iff_eq.mpr hz
  have reject : Fails (bsIf (scalingDc iq sizeId matrixId == 0) bsFail) :=
    Fails.bsIf isZero fun _ => rfl
  have matrix : Fails (writeScalingMatrix iq sizeId matrixId) := by
    unfold writeScalingMatrix
    apply Fails.after
    apply Fails.before
    exact Fails.bsIf (decide_eq_true large) (Fails.before reject)
  have size : Fails (bsEach (writeScalingMatrix iq sizeId) (matrixIds sizeId)) :=
    Fails.each matrix _ hm
  unfold writeScalingLists
  refine Fails.each ?_ _ hs
  exact size

theorem reads_scalingMatrix (iq : VAIQMatrixBufferHEVC) {sizeId : Nat} (matrixId : Fin 6)
    (size : sizeId ∈ List.range 4) :
    Reads (readScalingMatrix sizeId) (matrixCodes iq sizeId matrixId).flatten
      (matrixSyntax iq sizeId matrixId) := by
  have count : min 64 (2 ^ (4 + 2 * sizeId)) = (coefDeltas (scalingMatrix iq sizeId matrixId)
      (if sizeId = 0 then diag4x4 else diag8x8)
      (if 1 < sizeId then (scalingDc iq sizeId matrixId : Int) else 8)).length := by
    rw [length_coefDeltas]
    have cases : sizeId = 0 ∨ sizeId = 1 ∨ sizeId = 2 ∨ sizeId = 3 := by
      have lt := List.mem_range.mp size
      omega
    rcases cases with rfl | rfl | rfl | rfl <;> rfl
  have coefs : ∀ deltas : List Int,
      Reads (readMany readSe deltas.length) (deltas.map seBits).flatten (deltas.map id) :=
    fun deltas => reads_readMany deltas fun v _ => reads_se v
  have read := coefs (coefDeltas (scalingMatrix iq sizeId matrixId)
    (if sizeId = 0 then diag4x4 else diag8x8)
    (if 1 < sizeId then (scalingDc iq sizeId matrixId : Int) else 8))
  rw [List.map_id, ← count] at read
  exact (reads_flag true).cons <| (Reads.readIf fun _ => reads_se _).cons <|
    read.cons <| reads_pure _

/-- The syntax of all scaling matrices. -/
def scalingSyntax (iq : VAIQMatrixBufferHEVC) : List ScalingListSyntax :=
  (matrixIds 0).map (matrixSyntax iq 0) ++ (matrixIds 1).map (matrixSyntax iq 1) ++
    (matrixIds 2).map (matrixSyntax iq 2) ++ (matrixIds 3).map (matrixSyntax iq 3)

theorem reads_scalingLists (iq : VAIQMatrixBufferHEVC) :
    Reads readScalingListData (scalingCodes iq).flatten (scalingSyntax iq) := by
  have size : ∀ sizeId : Nat, sizeId ∈ List.range 4 →
      Reads (readMany (readScalingMatrix sizeId) (matrixIds sizeId).length)
        ((matrixIds sizeId).map fun matrixId => (matrixCodes iq sizeId matrixId).flatten).flatten
        ((matrixIds sizeId).map (matrixSyntax iq sizeId)) :=
    fun sizeId hs => reads_readMany _ fun matrixId _ => reads_scalingMatrix iq matrixId hs
  exact (size 0 (by decide)).cons <| (size 1 (by decide)).cons <| (size 2 (by decide)).cons <|
    (size 3 (by decide)).cons <| reads_pure _

/-- The codes of the explicit tile sizes. -/
def tileSizeCodes (pp : VAPictureParameterBufferHEVC) : List (List Bool) :=
  [((List.range pp.numTileColumnsMinus1.toNat).map fun i => ueBits (columnWidth pp i)).flatten,
    ((List.range pp.numTileRowsMinus1.toNat).map fun i => ueBits (rowHeight pp i)).flatten]

/-- The codes of the tile elements. -/
def tileCodes (pp : VAPictureParameterBufferHEVC) : List (List Bool) :=
  [ueBits pp.numTileColumnsMinus1.toNat, ueBits pp.numTileRowsMinus1.toNat,
    [tileSpacingIsUniform pp], if !tileSpacingIsUniform pp then (tileSizeCodes pp).flatten else [],
    [pp.loopFilterAcrossTilesEnabledFlag]]

/-- The codes of the deblocking control. -/
def deblockingCodes (pp : VAPictureParameterBufferHEVC) : List (List Bool) :=
  [[pp.deblockingFilterOverrideEnabledFlag], [pp.ppsDisableDeblockingFilterFlag],
    if !pp.ppsDisableDeblockingFilterFlag then
      [seBits pp.ppsBetaOffsetDiv2.toInt, seBits pp.ppsTcOffsetDiv2.toInt].flatten
    else []]

/-- The codes of the PPS behind its NAL unit header. -/
def ppsCodes (pp : VAPictureParameterBufferHEVC) (iq : Option VAIQMatrixBufferHEVC) (ppsId : Nat) :
    List (List Bool) :=
  [ueBits ppsId, ueBits 0, [pp.dependentSliceSegmentsEnabledFlag], [pp.outputFlagPresentFlag],
    uBits 3 pp.numExtraSliceHeaderBits.toNat, [pp.signDataHidingEnabledFlag],
    [pp.cabacInitPresentFlag], ueBits pp.numRefIdxL0DefaultActiveMinus1.toNat,
    ueBits pp.numRefIdxL1DefaultActiveMinus1.toNat, seBits pp.initQpMinus26.toInt,
    [pp.constrainedIntraPredFlag], [pp.transformSkipEnabledFlag], [pp.cuQpDeltaEnabledFlag],
    if pp.cuQpDeltaEnabledFlag then ueBits pp.diffCuQpDeltaDepth.toNat else [],
    seBits pp.ppsCbQpOffset.toInt, seBits pp.ppsCrQpOffset.toInt,
    [pp.ppsSliceChromaQpOffsetsPresentFlag], [pp.weightedPredFlag], [pp.weightedBipredFlag],
    [pp.transquantBypassEnabledFlag], [pp.tilesEnabledFlag], [pp.entropyCodingSyncEnabledFlag],
    if pp.tilesEnabledFlag then (tileCodes pp).flatten else [],
    [pp.ppsLoopFilterAcrossSlicesEnabledFlag], [deblockPresent pp],
    if deblockPresent pp then (deblockingCodes pp).flatten else [], [pp.scalingListEnabledFlag],
    if pp.scalingListEnabledFlag then iq.elim [] (fun m => (scalingCodes m).flatten) else [],
    [pp.listsModificationPresentFlag], ueBits pp.log2ParallelMergeLevelMinus2.toNat,
    [pp.sliceSegmentHeaderExtensionPresentFlag], uBits 1 0]

theorem columnWidth_lt (pp : VAPictureParameterBufferHEVC) (i : Nat) : columnWidth pp i < 2 ^ 16 := by
  unfold columnWidth
  split
  · exact UInt16.toNat_lt _
  · norm_num

theorem rowHeight_lt (pp : VAPictureParameterBufferHEVC) (i : Nat) : rowHeight pp i < 2 ^ 16 := by
  unfold rowHeight
  split
  · exact UInt16.toNat_lt _
  · norm_num

/-- The scaling lists of a PPS can be written: there is an IQ matrix, and no coded DC
coefficient is zero. -/
def ScalingCoded (pp : VAPictureParameterBufferHEVC) (iq : Option VAIQMatrixBufferHEVC) : Prop :=
  pp.scalingListEnabledFlag = true → ∃ m, iq = some m ∧ DcNonzero m

theorem emits_pps (pp : VAPictureParameterBufferHEVC) (iq : Option VAIQMatrixBufferHEVC)
    {ppsId : Nat} (id : ppsId ≤ 63) (scaling : ScalingCoded pp iq) :
    Emits (ppsRbsp pp iq ppsId) ((headerCodes 34).flatten :: ppsCodes pp iq ppsId).flatten := by
  have width := columnWidth_lt pp
  have height := rowHeight_lt pp
  refine (emits_nalHeader 34).cons <| (emits_ue (by omega)).cons <| (emits_ue (by norm_num)).cons <|
    (emits_flag _).cons <| (emits_flag _).cons <| (emits_write _ _).cons <| (emits_flag _).cons <|
    (emits_flag _).cons <| (emits_uint8 _).cons <| (emits_uint8 _).cons <| (emits_int8 _).cons <|
    (emits_flag _).cons <| (emits_flag _).cons <| (emits_flag _).cons <|
    (Emits.bsIf fun _ => emits_uint8 _).cons <| (emits_int8 _).cons <| (emits_int8 _).cons <|
    (emits_flag _).cons <| (emits_flag _).cons <| (emits_flag _).cons <| (emits_flag _).cons <|
    (emits_flag _).cons <| (emits_flag _).cons <| (Emits.bsIf fun _ => ?tiles).cons <|
    (emits_flag _).cons <| (emits_flag _).cons <| (Emits.bsIf fun _ => ?deblocking).cons <|
    (emits_flag _).cons <| (Emits.bsIf fun enabled => ?lists).cons <| (emits_flag _).cons <|
    (emits_uint8 _).cons <| (emits_flag _).cons <| (emits_write _ _).last
  case tiles =>
    refine (emits_uint8 _).cons <| (emits_uint8 _).cons <| (emits_flag _).cons <|
      (Emits.bsIf fun _ => ?_).cons <| (emits_flag _).last
    exact (emits_each _ fun i _ => emits_ue (by have := width i; omega)).cons <|
      (emits_each _ fun i _ => emits_ue (by have := height i; omega)).last
  case deblocking =>
    refine (emits_flag _).cons <| (emits_flag _).cons <| (Emits.bsIf fun _ => ?_).last
    exact (emits_int8 _).cons <| (emits_int8 _).last
  case lists =>
    obtain ⟨m, rfl, nonzero⟩ := scaling enabled
    exact emits_scalingLists m nonzero

/-- `write_pps` that succeeds could write its scaling lists. -/
theorem scalingCoded_of_writePps {bufSize ppsId : Nat} {pp : VAPictureParameterBufferHEVC}
    {iq : Option VAIQMatrixBufferHEVC} {out : List UInt8}
    (h : writePps bufSize pp iq ppsId = some out) : ScalingCoded pp iq := by
  by_contra bad
  unfold ScalingCoded at bad
  push Not at bad
  obtain ⟨enabled, bad⟩ := bad
  have lists : Fails (bsIf pp.scalingListEnabledFlag (iq.elim bsFail writeScalingLists)) := by
    apply Fails.bsIf enabled
    cases iq with
    | none => exact fun _ => rfl
    | some m => exact fails_scalingLists m (bad m rfl)
  have body : Fails (ppsRbsp pp iq ppsId) := by
    unfold ppsRbsp
    iterate 28 apply Fails.after
    exact Fails.before lists
  have whole : Fails (do ppsRbsp pp iq ppsId; bsRbspTrailing) := Fails.before body
  rw [writePps, writeNal, whole] at h
  cases h

/-- The tile elements that are read back. -/
def tilesOf (pp : VAPictureParameterBufferHEVC) : TileInfo :=
  { numTileColumnsMinus1 := pp.numTileColumnsMinus1.toNat
    numTileRowsMinus1 := pp.numTileRowsMinus1.toNat
    spacing := if !tileSpacingIsUniform pp then
        some ((List.range pp.numTileColumnsMinus1.toNat).map (columnWidth pp),
          (List.range pp.numTileRowsMinus1.toNat).map (rowHeight pp))
      else none
    loopFilterAcrossTilesEnabledFlag := pp.loopFilterAcrossTilesEnabledFlag }

/-- The deblocking control that is read back where it is coded. -/
def deblockingOf (pp : VAPictureParameterBufferHEVC) : DeblockingInfo :=
  let offsets := if !pp.ppsDisableDeblockingFilterFlag then
      (pp.ppsBetaOffsetDiv2.toInt, pp.ppsTcOffsetDiv2.toInt)
    else (0, 0)
  ⟨pp.deblockingFilterOverrideEnabledFlag, pp.ppsDisableDeblockingFilterFlag, offsets.1, offsets.2⟩

/-- The PPS that is read back. -/
def ppsOf (pp : VAPictureParameterBufferHEVC) (iq : Option VAIQMatrixBufferHEVC) (ppsId : Nat) : Pps :=
  { picParameterSetId := ppsId, seqParameterSetId := 0
    dependentSliceSegmentsEnabledFlag := pp.dependentSliceSegmentsEnabledFlag
    outputFlagPresentFlag := pp.outputFlagPresentFlag
    numExtraSliceHeaderBits := pp.numExtraSliceHeaderBits.toNat
    signDataHidingEnabledFlag := pp.signDataHidingEnabledFlag
    cabacInitPresentFlag := pp.cabacInitPresentFlag
    numRefIdxL0DefaultActiveMinus1 := pp.numRefIdxL0DefaultActiveMinus1.toNat
    numRefIdxL1DefaultActiveMinus1 := pp.numRefIdxL1DefaultActiveMinus1.toNat
    initQpMinus26 := pp.initQpMinus26.toInt
    constrainedIntraPredFlag := pp.constrainedIntraPredFlag
    transformSkipEnabledFlag := pp.transformSkipEnabledFlag
    cuQpDeltaEnabledFlag := pp.cuQpDeltaEnabledFlag
    diffCuQpDeltaDepth := if pp.cuQpDeltaEnabledFlag then pp.diffCuQpDeltaDepth.toNat else 0
    cbQpOffset := pp.ppsCbQpOffset.toInt, crQpOffset := pp.ppsCrQpOffset.toInt
    sliceChromaQpOffsetsPresentFlag := pp.ppsSliceChromaQpOffsetsPresentFlag
    weightedPredFlag := pp.weightedPredFlag, weightedBipredFlag := pp.weightedBipredFlag
    transquantBypassEnabledFlag := pp.transquantBypassEnabledFlag
    entropyCodingSyncEnabledFlag := pp.entropyCodingSyncEnabledFlag
    tiles := if pp.tilesEnabledFlag then some (tilesOf pp) else none
    loopFilterAcrossSlicesEnabledFlag := pp.ppsLoopFilterAcrossSlicesEnabledFlag
    deblocking := if deblockPresent pp then deblockingOf pp else inferredDeblocking
    scalingListData := if pp.scalingListEnabledFlag then iq.map scalingSyntax else none
    listsModificationPresentFlag := pp.listsModificationPresentFlag
    log2ParallelMergeLevelMinus2 := pp.log2ParallelMergeLevelMinus2.toNat
    sliceSegmentHeaderExtensionPresentFlag := pp.sliceSegmentHeaderExtensionPresentFlag }

theorem reads_tiles (pp : VAPictureParameterBufferHEVC) :
    Reads readTileInfo (tileCodes pp).flatten (some (tilesOf pp)) := by
  have widths := reads_readMany (p := readUe) (List.range pp.numTileColumnsMinus1.toNat)
    fun i _ => reads_ue (columnWidth pp i)
  have heights := reads_readMany (p := readUe) (List.range pp.numTileRowsMinus1.toNat)
    fun i _ => reads_ue (rowHeight pp i)
  rw [List.length_range] at widths heights
  have sizes : Reads (readTileSizes pp.numTileColumnsMinus1.toNat pp.numTileRowsMinus1.toNat)
      (tileSizeCodes pp).flatten
      (some ((List.range pp.numTileColumnsMinus1.toNat).map (columnWidth pp),
        (List.range pp.numTileRowsMinus1.toNat).map (rowHeight pp))) :=
    widths.cons <| heights.cons <| reads_pure _
  exact (reads_ue _).cons <| (reads_ue _).cons <| (reads_flag _).cons <|
    (Reads.readIf fun _ => sizes).cons <| (reads_flag _).cons <| reads_pure _

theorem reads_deblocking (pp : VAPictureParameterBufferHEVC) :
    Reads readDeblockingInfo (deblockingCodes pp).flatten (deblockingOf pp) := by
  have offsets : Reads readDeblockingOffsets
      [seBits pp.ppsBetaOffsetDiv2.toInt, seBits pp.ppsTcOffsetDiv2.toInt].flatten
      (pp.ppsBetaOffsetDiv2.toInt, pp.ppsTcOffsetDiv2.toInt) :=
    (reads_se _).cons <| (reads_se _).cons <| reads_pure _
  exact (reads_flag _).cons <| (reads_flag _).cons <| (Reads.readIf fun _ => offsets).cons <|
    reads_pure _

theorem reads_pps (pp : VAPictureParameterBufferHEVC) (iq : Option VAIQMatrixBufferHEVC)
    (ppsId : Nat) (extra : pp.numExtraSliceHeaderBits.toNat ≤ 7) (scaling : ScalingCoded pp iq) :
    Reads readPps (ppsCodes pp iq ppsId).flatten (ppsOf pp iq ppsId) := by
  have lists : pp.scalingListEnabledFlag = true →
      Reads (do let data ← readScalingListData; return some data)
        (iq.elim [] fun m => (scalingCodes m).flatten) (iq.map scalingSyntax) := by
    intro enabled
    obtain ⟨m, rfl, -⟩ := scaling enabled
    exact (reads_scalingLists m).map
  exact (reads_ue _).cons <| (reads_ue 0).cons <| (reads_flag _).cons <| (reads_flag _).cons <|
    (reads_u (by omega)).cons <| (reads_flag _).cons <| (reads_flag _).cons <| (reads_ue _).cons <|
    (reads_ue _).cons <| (reads_se _).cons <| (reads_flag _).cons <| (reads_flag _).cons <|
    (reads_flag _).cons <| (Reads.readIf fun _ => reads_ue _).cons <| (reads_se _).cons <|
    (reads_se _).cons <| (reads_flag _).cons <| (reads_flag _).cons <| (reads_flag _).cons <|
    (reads_flag _).cons <| (reads_flag _).cons <| (reads_flag _).cons <|
    (Reads.readIf fun _ => reads_tiles pp).cons <| (reads_flag _).cons <| (reads_flag _).cons <|
    (Reads.readIf fun _ => reads_deblocking pp).cons <| (reads_flag _).cons <|
    (Reads.readIf lists).cons <| (reads_flag _).cons <| (reads_ue _).cons <|
    (reads_flag _).cons <| (reads_flag false).cons <| reads_absent_false.skip <| reads_pure _

/-! ## Sizes and NAL units -/

theorem length_ue8 (v : UInt8) : (ueBits v.toNat).length ≤ 17 :=
  length_ueBits_le (k := 8) (by have := v.toNat_lt; omega)

theorem length_ue16 {v : Nat} (h : v < 2 ^ 16) : (ueBits v).length ≤ 33 :=
  length_ueBits_le (k := 16) (by omega)

theorem length_se8 (v : Int8) : (seBits v.toInt).length ≤ 17 := by
  have low := v.le_toInt
  have high := v.toInt_lt
  exact length_seBits_le (k := 8) (by omega) (by omega)

theorem length_ite_le {c : Bool} {xs : List Bool} {n : Nat} (h : xs.length ≤ n) :
    (if c then xs else []).length ≤ n := by
  cases c with
  | false => simp
  | true => simpa using h

theorem length_ptlCodes (profileIdc levelIdc : Nat) (field : Bool) :
    (ptlCodes profileIdc levelIdc field).flatten.length ≤ 139 := by
  have flags : ((List.range 32).map fun i => [i == profileIdc]).flatten.length ≤ 32 := by
    simp [List.length_flatten, Function.comp_def]
  have main10 : (if profileIdc == 2 then [uBits 7 0, uBits 1 0, uBits 24 0, uBits 11 0].flatten
      else []).length ≤ 43 := length_ite_le (by simp)
  have other : (if profileIdc != 2 then [uBits 24 0, uBits 19 0].flatten else []).length ≤ 43 :=
    length_ite_le (by simp)
  exact length_flatten_le_sum [2, 1, 5, 32, 1, 1, 1, 1, 43, 43, 1, 8] <|
    .cons (by simp) <| .cons (by simp) <| .cons (by simp) <| .cons flags <| .cons (by simp) <|
    .cons (by simp) <| .cons (by simp) <| .cons (by simp) <| .cons main10 <| .cons other <|
    .cons (by simp) <| .cons (by simp) .nil

theorem length_vpsCodes (pp : VAPictureParameterBufferHEVC) (profileIdc : Nat) :
    (vpsCodes pp profileIdc).flatten.length ≤ 16 * 139 := by
  have ptl := length_ptlCodes profileIdc (deriveLevelIdc pp) (fieldPic pp)
  have dpb : (ueBits pp.spsMaxDecPicBufferingMinus1.toNat).length ≤ 139 :=
    (length_ue8 _).trans (by norm_num)
  have order : (ueBits (reorder pp)).length ≤ 139 :=
    (length_ue16 (by have := reorder_lt pp; omega)).trans (by norm_num)
  have zero : (ueBits 0).length ≤ 139 := by decide
  refine length_flatten_le (n := 139) ?_
  intro code hc
  simp only [vpsCodes, List.mem_cons, List.mem_nil_iff, or_false] at hc
  rcases hc with rfl | rfl | rfl | rfl | rfl | rfl | rfl | rfl | rfl | rfl | rfl | rfl | rfl | rfl |
    rfl | rfl
  all_goals first
    | exact ptl
    | exact dpb
    | exact order
    | exact zero
    | simp

theorem length_spsCodes (pp : VAPictureParameterBufferHEVC) (profileIdc : Nat) :
    (spsCodes pp profileIdc).flatten.length ≤ 35 * 139 := by
  refine length_flatten_le (n := 139) ?_
  have ptl := length_ptlCodes profileIdc (deriveLevelIdc pp) (fieldPic pp)
  have byte : ∀ v : UInt8, (ueBits v.toNat).length ≤ 139 := fun v => (length_ue8 v).trans (by norm_num)
  have word : ∀ v : UInt16, (ueBits v.toNat).length ≤ 139 := fun v =>
    (length_ue16 v.toNat_lt).trans (by norm_num)
  have order : (ueBits (reorder pp)).length ≤ 139 :=
    (length_ue16 (by have := reorder_lt pp; omega)).trans (by norm_num)
  have chroma : (ueBits pp.chromaFormatIdc.val).length ≤ 139 :=
    (length_ue16 (by have := pp.chromaFormatIdc.isLt; omega)).trans (by norm_num)
  have zero : (ueBits 0).length ≤ 139 := by decide
  have pcm : (pcmCodes pp).flatten.length ≤ 139 :=
    (length_flatten_le_sum [4, 4, 17, 17, 1] <| .cons (by simp) <| .cons (by simp) <|
      .cons (length_ue8 _) <| .cons (length_ue8 _) <| .cons (by simp) .nil).trans (by norm_num)
  intro code hc
  simp only [spsCodes, List.mem_cons, List.mem_nil_iff, or_false] at hc
  rcases hc with rfl | rfl | rfl | rfl | rfl | rfl | rfl | rfl | rfl | rfl | rfl | rfl | rfl | rfl |
    rfl | rfl | rfl | rfl | rfl | rfl | rfl | rfl | rfl | rfl | rfl | rfl | rfl | rfl | rfl | rfl |
    rfl | rfl | rfl | rfl | rfl
  all_goals first
    | exact byte _
    | exact word _
    | exact ptl
    | exact order
    | exact chroma
    | exact zero
    | exact length_ite_le pcm
    | exact length_ite_le zero
    | exact length_ite_le (by simp)
    | simp

theorem length_scalingCodes (iq : VAIQMatrixBufferHEVC) :
    (scalingCodes iq).flatten.length ≤ 4 * (6 * 1123) := by
  have matrix : ∀ sizeId matrixId, (matrixCodes iq sizeId matrixId).flatten.length ≤ 1123 := by
    intro sizeId matrixId
    have dcLt := scalingDc_lt iq sizeId matrixId
    have dc : (if decide (1 < sizeId) then seBits ((scalingDc iq sizeId matrixId : Int) - 8)
        else []).length ≤ 19 :=
      length_ite_le (length_seBits_le (k := 9) (by omega) (by omega))
    have coefs : ((coefDeltas (scalingMatrix iq sizeId matrixId)
        (if sizeId = 0 then diag4x4 else diag8x8)
        (if 1 < sizeId then (scalingDc iq sizeId matrixId : Int) else 8)).map seBits).flatten.length ≤
          64 * 17 := by
      rw [firstCoef_cast]
      have scan : (if sizeId = 0 then diag4x4 else diag8x8).length ≤ 64 := by
        split <;> decide
      refine (length_flatten_le (n := 17) ?_).trans ?_
      · intro code hc
        obtain ⟨delta, hd, rfl⟩ := List.mem_map.mp hc
        obtain ⟨low, high⟩ := coefDeltas_range (scalingMatrix_lt iq sizeId matrixId) _ _
          (firstCoef_lt iq sizeId matrixId) delta hd
        exact length_seBits_le (k := 8) (by omega) (by omega)
      · rw [List.length_map, length_coefDeltas]
        exact Nat.mul_le_mul_right 17 scan
    simp only [matrixCodes, List.flatten_cons, List.flatten_nil, List.length_append,
      List.length_nil, length_uBits]
    omega
  have size : ∀ sizeId, ((matrixIds sizeId).map fun matrixId =>
      (matrixCodes iq sizeId matrixId).flatten).flatten.length ≤ 6 * 1123 := by
    intro sizeId
    refine (length_flatten_le (n := 1123) ?_).trans ?_
    · intro code hc
      obtain ⟨matrixId, -, rfl⟩ := List.mem_map.mp hc
      exact matrix sizeId matrixId
    · rw [List.length_map]
      refine Nat.mul_le_mul_right 1123 ?_
      unfold matrixIds
      split <;> decide
  refine (length_flatten_le (n := 6 * 1123) ?_).trans ?_
  · intro code hc
    obtain ⟨sizeId, -, rfl⟩ := List.mem_map.mp hc
    exact size sizeId
  · rw [scalingCodes, List.length_map, List.length_range]

theorem length_tileCodes (pp : VAPictureParameterBufferHEVC) :
    (tileCodes pp).flatten.length ≤ 17000 := by
  have each : ∀ (f : Nat → Nat) (n : UInt8), (∀ i, f i < 2 ^ 16) →
      ((List.range n.toNat).map fun i => ueBits (f i)).flatten.length ≤ 255 * 33 := by
    intro f n small
    refine (length_flatten_le (n := 33) ?_).trans ?_
    · intro code hc
      obtain ⟨i, -, rfl⟩ := List.mem_map.mp hc
      exact length_ue16 (small i)
    · rw [List.length_map, List.length_range]
      refine Nat.mul_le_mul_right 33 ?_
      have := n.toNat_lt
      omega
  have widths := each (columnWidth pp) pp.numTileColumnsMinus1 (columnWidth_lt pp)
  have heights := each (rowHeight pp) pp.numTileRowsMinus1 (rowHeight_lt pp)
  have sizes : (if !tileSpacingIsUniform pp then (tileSizeCodes pp).flatten else []).length ≤
      255 * 33 + 255 * 33 := by
    refine length_ite_le ?_
    simp only [tileSizeCodes, List.flatten_cons, List.flatten_nil, List.length_append,
      List.length_nil]
    omega
  have columns := length_ue8 pp.numTileColumnsMinus1
  have rows := length_ue8 pp.numTileRowsMinus1
  simp only [tileCodes, List.flatten_cons, List.flatten_nil, List.length_append, List.length_nil,
    List.length_singleton]
  omega

theorem length_deblockingCodes (pp : VAPictureParameterBufferHEVC) :
    (deblockingCodes pp).flatten.length ≤ 36 := by
  have offsets : (if !pp.ppsDisableDeblockingFilterFlag then
      [seBits pp.ppsBetaOffsetDiv2.toInt, seBits pp.ppsTcOffsetDiv2.toInt].flatten
    else []).length ≤ 34 :=
    length_ite_le (length_flatten_le_sum [17, 17] <| .cons (length_se8 _) <|
      .cons (length_se8 _) .nil)
  exact length_flatten_le_sum [1, 1, 34] <| .cons (by simp) <| .cons (by simp) <|
    .cons offsets .nil

theorem length_ppsCodes (pp : VAPictureParameterBufferHEVC) (iq : Option VAIQMatrixBufferHEVC)
    {ppsId : Nat} (id : ppsId ≤ 63) : (ppsCodes pp iq ppsId).flatten.length ≤ 50000 := by
  have hid : (ueBits ppsId).length ≤ 33 := length_ue16 (by omega)
  have flag : ∀ b : Bool, [b].length ≤ 1 := fun _ => Nat.le_refl 1
  have lists : (if pp.scalingListEnabledFlag then iq.elim [] (fun m => (scalingCodes m).flatten)
      else []).length ≤ 4 * (6 * 1123) := by
    refine length_ite_le ?_
    cases iq with
    | none => simp
    | some m => exact length_scalingCodes m
  have total : (ppsCodes pp iq ppsId).flatten.length ≤ _ := length_flatten_le_sum _ <|
    .cons hid <| .cons (Nat.le_refl 1) <| .cons (flag _) <| .cons (flag _) <|
    .cons (length_uBits 3 _).le <| .cons (flag _) <| .cons (flag _) <| .cons (length_ue8 _) <|
    .cons (length_ue8 _) <| .cons (length_se8 _) <| .cons (flag _) <| .cons (flag _) <|
    .cons (flag _) <| .cons (length_ite_le (length_ue8 _)) <| .cons (length_se8 _) <|
    .cons (length_se8 _) <| .cons (flag _) <| .cons (flag _) <| .cons (flag _) <|
    .cons (flag _) <| .cons (flag _) <| .cons (flag _) <|
    .cons (length_ite_le (length_tileCodes pp)) <| .cons (flag _) <| .cons (flag _) <|
    .cons (length_ite_le (length_deblockingCodes pp)) <| .cons (flag _) <| .cons lists <|
    .cons (flag _) <| .cons (length_ue8 _) <| .cons (flag _) <| .cons (length_uBits 1 _).le .nil
  exact total.trans (by simp)

/-- What `writeNal` makes of an emitter of a two-byte header and `bits`: the header and the
escaped RBSP with these bits and their trailing bits, unless the destination is too small. -/
theorem writeNal_eq {m : BsM Unit} {bits : List Bool} {cap : Nat} (bufSize : Nat) (first : UInt8)
    (emits : Emits m (byteBits first ++ (byteBits 1 ++ bits))) (nonzero : first ≠ 0)
    (room : bits.length + 24 ≤ 8 * cap) :
    ∃ rbsp, bytesBits rbsp = bits ++ trailingBits bits.length ∧ Clean (first :: 1 :: escape rbsp) ∧
      writeNal cap bufSize m =
        if 6 + (escape rbsp).length ≤ bufSize ∧ 6 + (escape rbsp).length ≤ 2 ^ 31 - 1 then
          some (withStartCode (first :: 1 :: escape rbsp))
        else none := by
  obtain ⟨w, run, wrote⟩ := emits.trailing cap (by simp; omega)
  have pad : trailingBits (byteBits first ++ (byteBits 1 ++ bits)).length =
      trailingBits bits.length := by
    have length : (byteBits first ++ (byteBits 1 ++ bits)).length = bits.length + 16 := by
      simp only [List.length_append, length_byteBits]
      omega
    rw [length, trailingBits, trailingBits]
    congr 2
    omega
  have shape := wrote
  rw [pad, List.append_assoc, List.append_assoc] at shape
  obtain ⟨tail, hout, htail⟩ := exists_cons_of_byteBits shape
  obtain ⟨rbsp, htail', hrbsp⟩ := exists_cons_of_byteBits htail
  have last : w.output.getLast? ≠ some 0 := getLast?_ne_zero_of_trailing wrote
  have esc : escape w.output = first :: 1 :: escape rbsp := by
    rw [hout, htail', escape, escapeFrom, escapeFrom]
    simp [nonzero, escape]
  refine ⟨rbsp, hrbsp, ?_, ?_⟩
  · rw [← esc]
    exact ⟨noStartCode_escape _, by rw [escape, getLast?_escapeFrom]; exact last⟩
  · have finish : writeNal cap bufSize m = finishNal bufSize w.output := by
      rw [writeNal, run]
      rfl
    rw [finish, finishNal, emulationPrevent_eq, esc]
    simp only [List.length_cons]
    by_cases small : bufSize < 4
    · rw [if_pos small, if_neg (by omega)]
    · rw [if_neg small]
      by_cases fits : (escape rbsp).length + 1 + 1 ≤ bufSize - 4
      · rw [if_pos fits]
        by_cases big : 2 ^ 31 - 1 - 4 < (escape rbsp).length + 1 + 1
        · rw [if_pos (.inr big), if_neg (by omega)]
        · rw [if_neg (by simpa using big), if_pos (by omega)]
          rfl
      · rw [if_neg fits, if_pos (.inl rfl), if_neg (by omega)]

/-- A NAL unit that `writeNal` finished. -/
theorem writeNal_of_emits {m : BsM Unit} {bits : List Bool} {cap bufSize : Nat} {out : List UInt8}
    (first : UInt8) (emits : Emits m (byteBits first ++ (byteBits 1 ++ bits))) (nonzero : first ≠ 0)
    (room : bits.length + 24 ≤ 8 * cap) (h : writeNal cap bufSize m = some out) :
    ∃ rbsp, bytesBits rbsp = bits ++ trailingBits bits.length ∧
      out = withStartCode (first :: 1 :: escape rbsp) ∧ Clean (first :: 1 :: escape rbsp) := by
  obtain ⟨rbsp, hbits, clean, eq⟩ := writeNal_eq bufSize first emits nonzero room
  rw [eq] at h
  split at h
  · exact ⟨rbsp, hbits, (Option.some.inj h).symm, clean⟩
  · cases h

/-- `writeNal` succeeds where the destination has twice the room of the RBSP. -/
theorem writeNal_succeeds {m : BsM Unit} {bits : List Bool} (cap bufSize : Nat) (first : UInt8)
    (emits : Emits m (byteBits first ++ (byteBits 1 ++ bits))) (nonzero : first ≠ 0)
    (room : bits.length + 24 ≤ 8 * cap) (large : bits.length + 32 ≤ 4 * bufSize)
    (small : bits.length ≤ 2 ^ 30) :
    ∃ out, writeNal cap bufSize m = some out ∧ 4 * out.length ≤ bits.length + 32 := by
  obtain ⟨rbsp, hbits, -, eq⟩ := writeNal_eq bufSize first emits nonzero room
  have bytes := congrArg List.length hbits
  simp only [length_bytesBits, List.length_append, length_trailingBits] at bytes
  have double : (escape rbsp).length ≤ 2 * rbsp.length := length_escapeFrom_le rbsp 0
  rw [if_pos (by omega)] at eq
  refine ⟨_, eq, ?_⟩
  simp only [withStartCode, List.length_cons]
  omega

/-- The NAL unit of `nalType` is read back by the reader of its RBSP. -/
theorem parseNal_of_reads {α : Type} {p : Reader α} {bits : List Bool} {v : α} {rbsp : List UInt8}
    {first : UInt8} {nalType : Nat} (type : first.toNat / 128 = 0 ∧ first.toNat / 2 % 64 = nalType)
    (reads : Reads p bits v) (hrbsp : bytesBits rbsp = bits ++ trailingBits bits.length) :
    parseNal nalType p (first :: 1 :: escape rbsp) = some v := by
  have read := reads (trailingBits bits.length)
  rw [← hrbsp] at read
  rw [parseNal, parseNalHeader, if_pos type.1]
  dsimp only
  rw [if_pos type.2]
  exact readRbsp_escape read (isTrailing_trailingBits _)

/-! ## The whole bundle -/

/-- The sequence parameter set says what `pp` says, with no reference pictures of its own. PCM
elements are compared where they are coded. -/
structure SpsCarries (pp : VAPictureParameterBufferHEVC) (sps : Sps) : Prop where
  width : sps.picWidthInLumaSamples = pp.picWidthInLumaSamples.toNat
  height : sps.picHeightInLumaSamples = pp.picHeightInLumaSamples.toNat
  chromaFormat : sps.chromaFormatIdc = pp.chromaFormatIdc.val
  separateColourPlane : sps.separateColourPlaneFlag = pp.separateColourPlaneFlag
  bitDepthLuma : sps.bitDepthLumaMinus8 = pp.bitDepthLumaMinus8.toNat
  bitDepthChroma : sps.bitDepthChromaMinus8 = pp.bitDepthChromaMinus8.toNat
  log2MaxPicOrderCntLsb :
    sps.log2MaxPicOrderCntLsbMinus4 = pp.log2MaxPicOrderCntLsbMinus4.toNat
  maxDecPicBuffering :
    sps.ordering.maxDecPicBufferingMinus1 = pp.spsMaxDecPicBufferingMinus1.toNat
  log2MinCodingBlock :
    sps.log2MinLumaCodingBlockSizeMinus3 = pp.log2MinLumaCodingBlockSizeMinus3.toNat
  log2DiffCodingBlock :
    sps.log2DiffMaxMinLumaCodingBlockSize = pp.log2DiffMaxMinLumaCodingBlockSize.toNat
  log2MinTransformBlock :
    sps.log2MinLumaTransformBlockSizeMinus2 = pp.log2MinTransformBlockSizeMinus2.toNat
  log2DiffTransformBlock :
    sps.log2DiffMaxMinLumaTransformBlockSize = pp.log2DiffMaxMinTransformBlockSize.toNat
  hierarchyDepthInter :
    sps.maxTransformHierarchyDepthInter = pp.maxTransformHierarchyDepthInter.toNat
  hierarchyDepthIntra :
    sps.maxTransformHierarchyDepthIntra = pp.maxTransformHierarchyDepthIntra.toNat
  scalingListEnabled : sps.scalingListEnabledFlag = pp.scalingListEnabledFlag
  amp : sps.ampEnabledFlag = pp.ampEnabledFlag
  sampleAdaptiveOffset : sps.sampleAdaptiveOffsetEnabledFlag = pp.sampleAdaptiveOffsetEnabledFlag
  pcmEnabled : sps.pcm.isSome = pp.pcmEnabledFlag
  pcm : ∀ info, sps.pcm = some info → info = pcmOf pp
  longTermRefPicsPresent : sps.longTermRefPicsPresentFlag = pp.longTermRefPicsPresentFlag
  temporalMvp : sps.temporalMvpEnabledFlag = pp.spsTemporalMvpEnabledFlag
  strongIntraSmoothing :
    sps.strongIntraSmoothingEnabledFlag = pp.strongIntraSmoothingEnabledFlag
  noShortTermSets : sps.numShortTermRefPicSets = 0
  noLongTermPics : sps.numLongTermRefPicsSps = 0 ∧ sps.ltRefPicsSps = []

/-- The picture parameter set says what `pp` says. Elements that depend on a flag are compared
where they are coded; the deblocking control is compared with its inferred values too. -/
structure PpsCarries (pp : VAPictureParameterBufferHEVC) (ppsId : Nat) (pps : Pps) : Prop where
  id : pps.picParameterSetId = ppsId
  dependentSliceSegments :
    pps.dependentSliceSegmentsEnabledFlag = pp.dependentSliceSegmentsEnabledFlag
  outputFlagPresent : pps.outputFlagPresentFlag = pp.outputFlagPresentFlag
  extraSliceHeaderBits : pps.numExtraSliceHeaderBits = pp.numExtraSliceHeaderBits.toNat
  signDataHiding : pps.signDataHidingEnabledFlag = pp.signDataHidingEnabledFlag
  cabacInitPresent : pps.cabacInitPresentFlag = pp.cabacInitPresentFlag
  numRefIdxL0 : pps.numRefIdxL0DefaultActiveMinus1 = pp.numRefIdxL0DefaultActiveMinus1.toNat
  numRefIdxL1 : pps.numRefIdxL1DefaultActiveMinus1 = pp.numRefIdxL1DefaultActiveMinus1.toNat
  initQp : pps.initQpMinus26 = pp.initQpMinus26.toInt
  constrainedIntraPred : pps.constrainedIntraPredFlag = pp.constrainedIntraPredFlag
  transformSkip : pps.transformSkipEnabledFlag = pp.transformSkipEnabledFlag
  cuQpDelta : pps.cuQpDeltaEnabledFlag = pp.cuQpDeltaEnabledFlag
  cuQpDeltaDepth : pp.cuQpDeltaEnabledFlag = true →
    pps.diffCuQpDeltaDepth = pp.diffCuQpDeltaDepth.toNat
  cbQpOffset : pps.cbQpOffset = pp.ppsCbQpOffset.toInt
  crQpOffset : pps.crQpOffset = pp.ppsCrQpOffset.toInt
  sliceChromaQpOffsetsPresent :
    pps.sliceChromaQpOffsetsPresentFlag = pp.ppsSliceChromaQpOffsetsPresentFlag
  weightedPred : pps.weightedPredFlag = pp.weightedPredFlag
  weightedBipred : pps.weightedBipredFlag = pp.weightedBipredFlag
  transquantBypass : pps.transquantBypassEnabledFlag = pp.transquantBypassEnabledFlag
  entropyCodingSync : pps.entropyCodingSyncEnabledFlag = pp.entropyCodingSyncEnabledFlag
  tilesEnabled : pps.tiles.isSome = pp.tilesEnabledFlag
  tiles : ∀ info, pps.tiles = some info →
    info.numTileColumnsMinus1 = pp.numTileColumnsMinus1.toNat ∧
    info.numTileRowsMinus1 = pp.numTileRowsMinus1.toNat ∧
    info.loopFilterAcrossTilesEnabledFlag = pp.loopFilterAcrossTilesEnabledFlag
  loopFilterAcrossSlices :
    pps.loopFilterAcrossSlicesEnabledFlag = pp.ppsLoopFilterAcrossSlicesEnabledFlag
  deblockingOverride :
    pps.deblocking.overrideEnabledFlag = pp.deblockingFilterOverrideEnabledFlag
  deblockingDisabled : pps.deblocking.disabledFlag = pp.ppsDisableDeblockingFilterFlag
  deblockingOffsets : pp.ppsDisableDeblockingFilterFlag = false →
    pps.deblocking.betaOffsetDiv2 = pp.ppsBetaOffsetDiv2.toInt ∧
    pps.deblocking.tcOffsetDiv2 = pp.ppsTcOffsetDiv2.toInt
  scalingListDataPresent : pps.scalingListData.isSome = pp.scalingListEnabledFlag
  listsModificationPresent :
    pps.listsModificationPresentFlag = pp.listsModificationPresentFlag
  log2ParallelMergeLevel :
    pps.log2ParallelMergeLevelMinus2 = pp.log2ParallelMergeLevelMinus2.toNat
  sliceHeaderExtensionPresent :
    pps.sliceSegmentHeaderExtensionPresentFlag = pp.sliceSegmentHeaderExtensionPresentFlag

/-- What the validation guarantees of the fields the emitters write with a fixed width. -/
theorem validatePictureParameters_facts {pp : VAPictureParameterBufferHEVC}
    {iq : Option VAIQMatrixBufferHEVC} {profileIdc : Nat} {rps : HEVCRPS}
    (h : validatePictureParameters pp iq profileIdc = some rps) :
    (profileIdc = 1 ∨ profileIdc = 2) ∧ pp.chromaFormatIdc = 1 ∧
      pp.separateColourPlaneFlag = false ∧ pp.numExtraSliceHeaderBits.toNat ≤ 7 ∧
      (pp.pcmEnabledFlag = true → validPcm pp = true) := by
  unfold validatePictureParameters at h
  split at h
  · cases h
  · rename_i fields
    split at h
    · cases h
    · split at h
      · cases h
      · split at h
        · cases h
        · rename_i pcm
          simp only [Bool.not_eq_true', Bool.not_eq_false, validFields, Bool.or_eq_false_iff,
            Bool.and_eq_false_iff, bne_eq_false_iff_eq] at fields
          obtain ⟨⟨⟨⟨⟨⟨⟨⟨⟨⟨⟨⟨⟨⟨⟨⟨⟨⟨⟨⟨⟨⟨profile, bounds⟩, chroma⟩, plane⟩, -⟩, -⟩, -⟩, -⟩, -⟩, -⟩, -⟩,
            -⟩, -⟩, -⟩, -⟩, -⟩, -⟩, -⟩, -⟩, -⟩, -⟩, -⟩, -⟩ := fields
          have bounds := sliceSyntaxBounds_of_validate (by simpa using bounds)
          refine ⟨profile, chroma, plane, bounds.extraBits, ?_⟩
          intro enabled
          simpa [enabled] using pcm

theorem spsCarries_spsOf {pp : VAPictureParameterBufferHEVC} {profileIdc : Nat}
    (plane : pp.separateColourPlaneFlag = false) : SpsCarries pp (spsOf pp profileIdc) := by
  constructor
  case separateColourPlane => rw [plane]; rfl
  case pcmEnabled => cases h : pp.pcmEnabledFlag <;> simp [spsOf, h]
  case pcm =>
    intro info h
    cases enabled : pp.pcmEnabledFlag with
    | false => simp [spsOf, enabled] at h
    | true => simpa [spsOf, enabled] using h.symm
  case noLongTermPics => exact ⟨rfl, rfl⟩
  all_goals rfl

/-- Without deblocking control all four elements have their inferred values. -/
theorem inferred_of_not_deblockPresent {pp : VAPictureParameterBufferHEVC}
    (h : deblockPresent pp = false) :
    pp.deblockingFilterOverrideEnabledFlag = false ∧ pp.ppsDisableDeblockingFilterFlag = false ∧
      pp.ppsBetaOffsetDiv2 = 0 ∧ pp.ppsTcOffsetDiv2 = 0 := by
  simp only [deblockPresent, Bool.or_eq_false_iff, bne_eq_false_iff_eq] at h
  exact ⟨h.1.1.1, h.1.1.2, h.1.2, h.2⟩

theorem ppsCarries_ppsOf {pp : VAPictureParameterBufferHEVC} {iq : Option VAIQMatrixBufferHEVC}
    {ppsId : Nat} (scaling : ScalingCoded pp iq) : PpsCarries pp ppsId (ppsOf pp iq ppsId) := by
  have deblocking : (ppsOf pp iq ppsId).deblocking.overrideEnabledFlag =
        pp.deblockingFilterOverrideEnabledFlag ∧
      (ppsOf pp iq ppsId).deblocking.disabledFlag = pp.ppsDisableDeblockingFilterFlag ∧
      (pp.ppsDisableDeblockingFilterFlag = false →
        (ppsOf pp iq ppsId).deblocking.betaOffsetDiv2 = pp.ppsBetaOffsetDiv2.toInt ∧
        (ppsOf pp iq ppsId).deblocking.tcOffsetDiv2 = pp.ppsTcOffsetDiv2.toInt) := by
    cases present : deblockPresent pp with
    | true =>
      refine ⟨by simp [ppsOf, present, deblockingOf], by simp [ppsOf, present, deblockingOf], ?_⟩
      intro enabled
      simp [ppsOf, present, deblockingOf, enabled]
    | false =>
      obtain ⟨ho, hd, hb, ht⟩ := inferred_of_not_deblockPresent present
      simp [ppsOf, present, inferredDeblocking, ho, hd, hb, ht]
  constructor
  case cuQpDeltaDepth => intro enabled; simp [ppsOf, enabled]
  case tilesEnabled => cases h : pp.tilesEnabledFlag <;> simp [ppsOf, h]
  case tiles =>
    intro info h
    cases enabled : pp.tilesEnabledFlag with
    | false => simp [ppsOf, enabled] at h
    | true =>
      obtain rfl : tilesOf pp = info := by simpa [ppsOf, enabled] using h
      exact ⟨rfl, rfl, rfl⟩
  case deblockingOverride => exact deblocking.1
  case deblockingDisabled => exact deblocking.2.1
  case deblockingOffsets => exact deblocking.2.2
  case scalingListDataPresent =>
    cases enabled : pp.scalingListEnabledFlag with
    | false => simp [ppsOf, enabled]
    | true =>
      obtain ⟨m, rfl, -⟩ := scaling enabled
      simp [ppsOf, enabled]
  all_goals rfl

/-- The sequence headers that are written are one VPS and one SPS. -/
theorem writeSequenceParameterSets_nals {bufSize profileIdc : Nat}
    {pp : VAPictureParameterBufferHEVC} {iq : Option VAIQMatrixBufferHEVC} {rps : HEVCRPS}
    {out : List UInt8} (valid : validatePictureParameters pp iq profileIdc = some rps)
    (written : writeSequenceParameterSets bufSize pp profileIdc = some out) :
    ∃ vpsNal spsNal vps sps, out = [vpsNal, spsNal].flatMap withStartCode ∧ Clean vpsNal ∧
      Clean spsNal ∧ parseNal 32 readVps vpsNal = some vps ∧ parseNal 33 readSps spsNal = some sps ∧
      vps.ordering.maxDecPicBufferingMinus1 = pp.spsMaxDecPicBufferingMinus1.toNat ∧
      SpsCarries pp sps := by
  obtain ⟨vpsBytes, hvps, written⟩ := Option.bind_eq_some_iff.mp written
  obtain ⟨spsBytes, hsps, written⟩ := Option.bind_eq_some_iff.mp written
  obtain ⟨profile, chroma, plane, -, pcm⟩ := validatePictureParameters_facts valid
  have profileLt : profileIdc < 2 ^ 5 := by omega
  have vpsLength := length_vpsCodes pp profileIdc
  have spsLength := length_spsCodes pp profileIdc
  obtain ⟨vpsRbsp, vpsBits, rfl, vpsClean⟩ :=
    writeNal_of_emits 0x40 (emits_vps pp profileIdc) (by decide) (by omega) hvps
  obtain ⟨spsRbsp, spsBits, rfl, spsClean⟩ :=
    writeNal_of_emits 0x42 (emits_sps pp profileIdc) (by decide) (by omega) hsps
  split at written
  · obtain rfl := Option.some.inj written
    exact ⟨_, _, _, _, by simp, vpsClean, spsClean,
      parseNal_of_reads (by decide) (reads_vps pp profileLt) vpsBits,
      parseNal_of_reads (by decide) (reads_sps pp profileLt chroma pcm) spsBits, rfl,
      spsCarries_spsOf plane⟩
  · cases written

/-- The picture header that is written is one PPS, and it is read back in full. -/
theorem writePps_reads {bufSize ppsId profileIdc : Nat} {pp : VAPictureParameterBufferHEVC}
    {iq : Option VAIQMatrixBufferHEVC} {rps : HEVCRPS} {out : List UInt8} (id : ppsId ≤ 63)
    (valid : validatePictureParameters pp iq profileIdc = some rps)
    (written : writePps bufSize pp iq ppsId = some out) :
    ∃ ppsNal, out = withStartCode ppsNal ∧ Clean ppsNal ∧
      parseNal 34 readPps ppsNal = some (ppsOf pp iq ppsId) := by
  obtain ⟨-, -, -, extra, -⟩ := validatePictureParameters_facts valid
  have scaling := scalingCoded_of_writePps written
  have ppsLength := length_ppsCodes pp iq id
  obtain ⟨ppsRbsp, ppsBits, rfl, ppsClean⟩ :=
    writeNal_of_emits 0x44 (emits_pps pp iq id scaling) (by decide) (by omega) written
  exact ⟨_, rfl, ppsClean,
    parseNal_of_reads (by decide) (reads_pps pp iq ppsId extra scaling) ppsBits⟩

/-- The PPS that is written says what the parameters say. -/
theorem writePps_nal {bufSize ppsId profileIdc : Nat} {pp : VAPictureParameterBufferHEVC}
    {iq : Option VAIQMatrixBufferHEVC} {rps : HEVCRPS} {out : List UInt8} (id : ppsId ≤ 63)
    (valid : validatePictureParameters pp iq profileIdc = some rps)
    (written : writePps bufSize pp iq ppsId = some out) :
    ∃ ppsNal pps, out = withStartCode ppsNal ∧ Clean ppsNal ∧
      parseNal 34 readPps ppsNal = some pps ∧ PpsCarries pp ppsId pps := by
  obtain ⟨ppsNal, shape, clean, reads⟩ := writePps_reads id valid written
  exact ⟨ppsNal, _, shape, clean, reads, ppsCarries_ppsOf (scalingCoded_of_writePps written)⟩

/-- A bundle that is written splits into one VPS, one SPS and one PPS, and the standard's
syntax reads every carried parameter back. -/
theorem hevcParameterSets_decodeBack (bufSize : Nat) (pp : VAPictureParameterBufferHEVC)
    (iq : Option VAIQMatrixBufferHEVC) (ppsId profileIdc : Nat) (out : List UInt8)
    (written : rkHevcWriteParameterSets bufSize pp iq ppsId profileIdc = some out) :
    ∃ vpsNal spsNal ppsNal vps sps pps, nalUnits out = [vpsNal, spsNal, ppsNal] ∧
      parseNal 32 readVps vpsNal = some vps ∧ parseNal 33 readSps spsNal = some sps ∧
      parseNal 34 readPps ppsNal = some pps ∧
      vps.ordering.maxDecPicBufferingMinus1 = pp.spsMaxDecPicBufferingMinus1.toNat ∧
      SpsCarries pp sps ∧ PpsCarries pp ppsId pps := by
  unfold rkHevcWriteParameterSets at written
  split at written
  · cases written
  · rename_i hid
    obtain ⟨rps, valid, written⟩ := Option.bind_eq_some_iff.mp written
    obtain ⟨sequenceSets, hsequence, written⟩ := Option.bind_eq_some_iff.mp written
    obtain ⟨ppsBytes, hpps, written⟩ := Option.bind_eq_some_iff.mp written
    obtain ⟨vpsNal, spsNal, vps, sps, rfl, vpsClean, spsClean, readsVps, readsSps, buffering,
      carriesSps⟩ := writeSequenceParameterSets_nals valid hsequence
    obtain ⟨ppsNal, pps, rfl, ppsClean, readsPps, carriesPps⟩ :=
      writePps_nal (by omega) valid hpps
    split at written
    · cases written
    · obtain rfl := Option.some.inj written
      refine ⟨vpsNal, spsNal, ppsNal, vps, sps, pps, ?_, readsVps, readsSps, readsPps, buffering,
        carriesSps, carriesPps⟩
      have split := nalUnits_flatMap [vpsNal, spsNal, ppsNal] (by
        intro nal hn
        simp only [List.mem_cons, List.mem_nil_iff, or_false] at hn
        rcases hn with rfl | rfl | rfl
        · exact vpsClean
        · exact spsClean
        · exact ppsClean)
      rw [← split]
      simp

/-- The emitters succeed on valid parameters with a buffer of the size the driver uses. -/
theorem rkHevcWriteParameterSets_succeeds {pp : VAPictureParameterBufferHEVC}
    {iq : Option VAIQMatrixBufferHEVC} {ppsId profileIdc bufSize : Nat} {rps : HEVCRPS}
    (valid : validatePictureParameters pp iq profileIdc = some rps) (id : ppsId ≤ 63)
    (scaling : ScalingCoded pp iq) (large : 65536 ≤ bufSize) :
    ∃ out, rkHevcWriteParameterSets bufSize pp iq ppsId profileIdc = some out := by
  have vpsLength := length_vpsCodes pp profileIdc
  have spsLength := length_spsCodes pp profileIdc
  have ppsLength := length_ppsCodes pp iq id
  obtain ⟨vps, hvps, vpsSize⟩ := writeNal_succeeds 512 bufSize 0x40 (emits_vps pp profileIdc)
    (by decide) (by omega) (by omega) (by omega)
  obtain ⟨sps, hsps, spsSize⟩ := writeNal_succeeds 32768 (bufSize - vps.length) 0x42
    (emits_sps pp profileIdc) (by decide) (by omega) (by omega) (by omega)
  obtain ⟨pps, hpps, ppsSize⟩ := writeNal_succeeds 32768 (bufSize - (vps ++ sps).length) 0x44
    (emits_pps pp iq id scaling) (by decide) (by omega) (by rw [List.length_append]; omega)
    (by omega)
  refine ⟨vps ++ sps ++ pps, ?_⟩
  have both : writeSequenceParameterSets bufSize pp profileIdc = some (vps ++ sps) := by
    unfold writeSequenceParameterSets writeVps writeSps
    rw [hvps]
    show (writeNal _ _ _).bind _ = _
    rw [hsps, Option.bind_some, if_pos (by rw [List.length_append]; omega)]
  unfold rkHevcWriteParameterSets writePps
  rw [if_neg (by omega), valid, both]
  show (writeNal _ _ _).bind _ = _
  rw [hpps, Option.bind_some, if_neg (by rw [List.length_append]; omega)]

/-- A picture of one 64x64 coding tree block, without references. -/
def blockPicture : VAPictureParameterBufferHEVC :=
  { currPic := ⟨1, 0, 0⟩, referenceFrames := fun _ => ⟨0xffffffff, 0, 1⟩
    picWidthInLumaSamples := 64, picHeightInLumaSamples := 64, chromaFormatIdc := 1
    separateColourPlaneFlag := false, pcmEnabledFlag := true, scalingListEnabledFlag := false
    transformSkipEnabledFlag := true, ampEnabledFlag := true
    strongIntraSmoothingEnabledFlag := true, signDataHidingEnabledFlag := false
    constrainedIntraPredFlag := false, cuQpDeltaEnabledFlag := true, weightedPredFlag := false
    weightedBipredFlag := false, transquantBypassEnabledFlag := false, tilesEnabledFlag := false
    entropyCodingSyncEnabledFlag := false, ppsLoopFilterAcrossSlicesEnabledFlag := true
    loopFilterAcrossTilesEnabledFlag := false, pcmLoopFilterDisabledFlag := false
    noPicReorderingFlag := false, spsMaxDecPicBufferingMinus1 := 4, bitDepthLumaMinus8 := 0
    bitDepthChromaMinus8 := 0, pcmSampleBitDepthLumaMinus1 := 7
    pcmSampleBitDepthChromaMinus1 := 7, log2MinLumaCodingBlockSizeMinus3 := 0
    log2DiffMaxMinLumaCodingBlockSize := 3, log2MinTransformBlockSizeMinus2 := 0
    log2DiffMaxMinTransformBlockSize := 3, log2MinPcmLumaCodingBlockSizeMinus3 := 0
    log2DiffMaxMinPcmLumaCodingBlockSize := 2, maxTransformHierarchyDepthIntra := 1
    maxTransformHierarchyDepthInter := 2, initQpMinus26 := -4, diffCuQpDeltaDepth := 1
    ppsCbQpOffset := 2, ppsCrQpOffset := -2, log2ParallelMergeLevelMinus2 := 0
    numTileColumnsMinus1 := 0, numTileRowsMinus1 := 0, columnWidthMinus1 := fun _ => 0
    rowHeightMinus1 := fun _ => 0, listsModificationPresentFlag := false
    longTermRefPicsPresentFlag := true, spsTemporalMvpEnabledFlag := true
    cabacInitPresentFlag := true, outputFlagPresentFlag := false
    dependentSliceSegmentsEnabledFlag := false, ppsSliceChromaQpOffsetsPresentFlag := false
    sampleAdaptiveOffsetEnabledFlag := true, deblockingFilterOverrideEnabledFlag := false
    ppsDisableDeblockingFilterFlag := false, sliceSegmentHeaderExtensionPresentFlag := false
    log2MaxPicOrderCntLsbMinus4 := 4, numShortTermRefPicSets := 2, numLongTermRefPicSps := 0
    numRefIdxL0DefaultActiveMinus1 := 1, numRefIdxL1DefaultActiveMinus1 := 0
    ppsBetaOffsetDiv2 := 1, ppsTcOffsetDiv2 := -1, numExtraSliceHeaderBits := 0, stRpsBits := 0 }

theorem hevcParameterSets_decodeBack_block :
    ∃ out, rkHevcWriteParameterSets 65536 blockPicture none 5 1 = some out ∧
      ∃ vpsNal spsNal ppsNal vps sps pps, nalUnits out = [vpsNal, spsNal, ppsNal] ∧
        parseNal 32 readVps vpsNal = some vps ∧ parseNal 33 readSps spsNal = some sps ∧
        parseNal 34 readPps ppsNal = some pps ∧
        vps.ordering.maxDecPicBufferingMinus1 = 4 ∧
        SpsCarries blockPicture sps ∧ PpsCarries blockPicture 5 pps := by
  have valid : validatePictureParameters blockPicture none 1 = some ⟨[], [], []⟩ := by
    decide +kernel
  obtain ⟨out, written⟩ := rkHevcWriteParameterSets_succeeds valid (show 5 ≤ 63 by decide)
    (fun enabled => absurd enabled Bool.false_ne_true) (Nat.le_refl 65536)
  exact ⟨out, written, hevcParameterSets_decodeBack 65536 blockPicture none 5 1 out written⟩

end RockchipVaapi.Hevc
