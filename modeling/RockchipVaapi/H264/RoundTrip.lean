import RockchipVaapi.H264.ParameterSets
import RockchipVaapi.H264.Syntax

/-!
# H.264 parameter sets decode back

The codes `h264_write_sps` and `h264_write_pps` emit, in order, and the proof that the syntax
tables of the standard read the VA parameters back from them.
-/

namespace RockchipVaapi.H264
open Bitstream

/-- The codes of the High profile fields. -/
def chromaCodes (pp : VAPictureParameterBufferH264) : List (List Bool) :=
  [ueBits pp.chromaFormatIdc.val,
    if pp.chromaFormatIdc == 3 then [pp.residualColourTransformFlag] else [],
    ueBits pp.bitDepthLumaMinus8.toNat, ueBits pp.bitDepthChromaMinus8.toNat, uBits 1 0, uBits 1 0]

/-- The codes of `pic_order_cnt_type` 1. -/
def pocCycleCodes (pp : VAPictureParameterBufferH264) : List (List Bool) :=
  [[pp.deltaPicOrderAlwaysZeroFlag], seBits 0, seBits 0, ueBits 0]

/-- The codes of the SPS behind its NAL unit header. -/
def spsCodes (pp : VAPictureParameterBufferH264) (profileIdc : Nat) : List (List Bool) :=
  [uBits 8 profileIdc, [profileIdc == 66], [profileIdc == 66 || profileIdc == 77], uBits 1 0,
    uBits 5 0, uBits 8 (h264DeriveLevelIdc pp), ueBits 0,
    if h264HighProfile profileIdc then (chromaCodes pp).flatten else [],
    ueBits pp.log2MaxFrameNumMinus4.val, ueBits pp.picOrderCntType.val,
    if pp.picOrderCntType == 0 then ueBits pp.log2MaxPicOrderCntLsbMinus4.val else [],
    if pp.picOrderCntType == 1 then (pocCycleCodes pp).flatten else [],
    ueBits pp.numRefFrames.toNat, [pp.gapsInFrameNumValueAllowedFlag],
    ueBits pp.pictureWidthInMbsMinus1.toNat, ueCode (phUnits pp), [pp.frameMbsOnlyFlag],
    if !pp.frameMbsOnlyFlag then [pp.mbAdaptiveFrameFieldFlag] else [],
    [pp.direct8x8InferenceFlag], uBits 1 0, uBits 1 0]

theorem uint8_lt (v : UInt8) : v.toNat + 1 < 2 ^ 32 := by
  have := v.toNat_lt
  omega

theorem uint16_lt (v : UInt16) : v.toNat + 1 < 2 ^ 32 := by
  have := v.toNat_lt
  omega

theorem fin_lt {n : Nat} (h : n < 2 ^ 31) (v : Fin n) : v.val + 1 < 2 ^ 32 := by
  have := v.isLt
  omega

theorem phUnits_lt (pp : VAPictureParameterBufferH264)
    (h : pp.frameMbsOnlyFlag = true ∨ (pp.pictureHeightInMbsMinus1.toNat + 1) % 2 = 0) :
    phUnits pp + 1 < 2 ^ 17 ∧
      (2 - pp.frameMbsOnlyFlag.toNat) * (phUnits pp + 1) = pp.pictureHeightInMbsMinus1.toNat + 1 := by
  have := pp.pictureHeightInMbsMinus1.toNat_lt
  unfold phUnits
  cases hf : pp.frameMbsOnlyFlag with
  | true => simp; omega
  | false =>
    have heven : (pp.pictureHeightInMbsMinus1.toNat + 1) % 2 = 0 := by simpa [hf] using h
    simp
    omega

theorem phUnits_lt_two_pow (pp : VAPictureParameterBufferH264) : phUnits pp < 2 ^ 32 := by
  have := pp.pictureHeightInMbsMinus1.toNat_lt
  unfold phUnits
  split <;> omega

theorem emits_sps (pp : VAPictureParameterBufferH264) (profileIdc : Nat) :
    Emits (h264SpsRbsp pp profileIdc) (uBits 8 0x67 :: spsCodes pp profileIdc).flatten := by
  refine (emits_write _ _).cons <| (emits_write _ _).cons <| (emits_flag _).cons <|
    (emits_flag _).cons <| (emits_write _ _).cons <| (emits_write _ _).cons <|
    (emits_write _ _).cons <| (emits_ue (by norm_num)).cons <|
    (Emits.bsIf fun _ => ?high).cons <| (emits_ue (fin_lt (by norm_num) _)).cons <|
    (emits_ue (fin_lt (by norm_num) _)).cons <|
    (Emits.bsIf fun _ => emits_ue (fin_lt (by norm_num) _)).cons <|
    (Emits.bsIf fun _ => ?cycle).cons <| (emits_ue (uint8_lt _)).cons <| (emits_flag _).cons <|
    (emits_ue (uint16_lt _)).cons <| (emits_ueCode (phUnits_lt_two_pow pp)).cons <|
    (emits_flag _).cons <|
    (Emits.bsIf fun _ => emits_flag _).cons <| (emits_flag _).cons <| (emits_write _ _).cons <|
    (emits_write _ _).last
  case high =>
    exact (emits_ue (fin_lt (by norm_num) _)).cons <| (Emits.bsIf fun _ => emits_flag _).cons <|
      (emits_ue (uint8_lt _)).cons <| (emits_ue (uint8_lt _)).cons <| (emits_write _ _).cons <|
      (emits_write _ _).last
  case cycle =>
    exact (emits_flag _).cons <| (emits_se (by norm_num) (by norm_num)).cons <|
      (emits_se (by norm_num) (by norm_num)).cons <| (emits_ue (by norm_num)).last

/-- The chroma format section a High profile SPS is read back to. -/
def chromaInfoOf (pp : VAPictureParameterBufferH264) : ChromaInfo :=
  { chromaFormatIdc := pp.chromaFormatIdc.val
    separateColourPlaneFlag := if pp.chromaFormatIdc == 3 then pp.residualColourTransformFlag else false
    bitDepthLumaMinus8 := pp.bitDepthLumaMinus8.toNat
    bitDepthChromaMinus8 := pp.bitDepthChromaMinus8.toNat
    qpprimeYZeroTransformBypassFlag := false
    scalingMatrix := none }

/-- The SPS that `pp` is read back to. -/
def spsOf (pp : VAPictureParameterBufferH264) (profileIdc : Nat) : Sps :=
  { profileIdc := profileIdc
    constraintSet0Flag := profileIdc == 66
    constraintSet1Flag := profileIdc == 66 || profileIdc == 77
    constraintSet2Flag := false
    constraintSet3To5AndReserved := 0
    levelIdc := h264DeriveLevelIdc pp
    seqParameterSetId := 0
    chroma := if h264HighProfile profileIdc then chromaInfoOf pp else inferredChromaInfo
    log2MaxFrameNumMinus4 := pp.log2MaxFrameNumMinus4.val
    picOrderCntType := pp.picOrderCntType.val
    log2MaxPicOrderCntLsbMinus4 :=
      if pp.picOrderCntType == 0 then pp.log2MaxPicOrderCntLsbMinus4.val else 0
    picOrderCntCycle :=
      if pp.picOrderCntType == 1 then some (pp.deltaPicOrderAlwaysZeroFlag, 0, 0, []) else none
    maxNumRefFrames := pp.numRefFrames.toNat
    gapsInFrameNumValueAllowedFlag := pp.gapsInFrameNumValueAllowedFlag
    picWidthInMbsMinus1 := pp.pictureWidthInMbsMinus1.toNat
    picHeightInMapUnitsMinus1 := phUnits pp
    frameMbsOnlyFlag := pp.frameMbsOnlyFlag
    mbAdaptiveFrameFieldFlag := if !pp.frameMbsOnlyFlag then pp.mbAdaptiveFrameFieldFlag else false
    direct8x8InferenceFlag := pp.direct8x8InferenceFlag
    frameCropping := none }

theorem levelIdc_lt (pp : VAPictureParameterBufferH264) : h264DeriveLevelIdc pp < 2 ^ 8 := by
  have all : ∀ limit ∈ h264LevelLimits, limit.levelIdc < 2 ^ 8 := by decide
  unfold h264DeriveLevelIdc
  split
  · rename_i limit found
    exact all limit (List.mem_of_find?_eq_some found)
  · decide

theorem reads_unless_false : Reads (readUnless false) [] () := fun _ => rfl

theorem reads_chromaInfo (pp : VAPictureParameterBufferH264) :
    Reads readChromaInfo (chromaCodes pp).flatten (chromaInfoOf pp) := by
  have three : (pp.chromaFormatIdc.val == 3) = (pp.chromaFormatIdc == 3) := by
    rw [Bool.eq_iff_iff, beq_iff_eq, beq_iff_eq, Fin.ext_iff]
    rfl
  refine (reads_ue _).cons ?_
  rw [three]
  exact (Reads.readIf fun _ => reads_flag _).cons <| (reads_ue _).cons <| (reads_ue _).cons <|
    (reads_flag false).cons <| (reads_flag false).cons <| reads_pure _

theorem reads_sps (pp : VAPictureParameterBufferH264) {profileIdc : Nat}
    (profile : profileIdc < 2 ^ 8)
    (high : hasChromaFormat profileIdc = h264HighProfile profileIdc)
    (height : phUnits pp + 1 < 2 ^ 32) :
    Reads readSps (spsCodes pp profileIdc).flatten (spsOf pp profileIdc) := by
  have zero : (pp.picOrderCntType.val == 0) = (pp.picOrderCntType == 0) := by
    rw [Bool.eq_iff_iff, beq_iff_eq, beq_iff_eq, Fin.ext_iff]
    rfl
  have one : (pp.picOrderCntType.val == 1) = (pp.picOrderCntType == 1) := by
    rw [Bool.eq_iff_iff, beq_iff_eq, beq_iff_eq, Fin.ext_iff]
    rfl
  have cycle : Reads readPicOrderCntCycle (pocCycleCodes pp).flatten
      (some (pp.deltaPicOrderAlwaysZeroFlag, 0, 0, [])) :=
    (reads_flag _).cons <| (reads_se 0).cons <| (reads_se 0).cons <| (reads_ue 0).cons <|
      reads_pure _
  refine (reads_u profile).cons <| (reads_flag _).cons <| (reads_flag _).cons <|
    (reads_flag false).cons <| (reads_u (by norm_num)).cons <| (reads_u (levelIdc_lt pp)).cons <|
    (reads_ue 0).cons ?_
  rw [high]
  refine (Reads.readIf fun _ => reads_chromaInfo pp).cons <| (reads_ue _).cons <|
    (reads_ue _).cons ?_
  rw [zero, one]
  have heightCode : ueCode (phUnits pp) = ueBits (phUnits pp) := if_neg (by omega)
  rw [heightCode]
  exact (Reads.readIf fun _ => reads_ue _).cons <| (Reads.readIf fun _ => cycle).cons <|
    (reads_ue _).cons <| (reads_flag _).cons <| (reads_ue _).cons <| (reads_ue _).cons <|
    (reads_flag _).cons <| (Reads.readIf fun _ => reads_flag _).cons <| (reads_flag _).cons <|
    (reads_flag false).cons <| (reads_pure none).skip <| (reads_flag false).cons <| reads_pure _

/-! ## The picture parameter set -/

/-- The codes of one scaling list after `last`. -/
def scalingListCodes {n : Nat} (list : Fin n → UInt8) : List (Fin n) → Nat → List (List Bool)
  | [], _ => []
  | pos :: scan, last =>
    seBits (scalingDelta (list pos).toNat last) :: scalingListCodes list scan (list pos).toNat

/-- The codes of the scaling lists, each behind its present flag. -/
def scalingListsCodes {n : Nat} (scan : List (Fin n)) (lists : List (Fin n → UInt8)) :
    List (List Bool) :=
  lists.map fun list => true :: (scalingListCodes list scan 8).flatten

/-- The scaling lists of a PPS with the matrices of `iq`. -/
def matrixCodes (iq : Option VAIQMatrixBufferH264) (transform8x8 : Bool) : List (List Bool) :=
  match iq with
  | none => []
  | some iq =>
    [(scalingListsCodes scan4x4 (List.ofFn iq.scalingList4x4)).flatten,
      if transform8x8 then (scalingListsCodes scan8x8 (List.ofFn iq.scalingList8x8)).flatten else []]

/-- The codes of the PPS extension. -/
def extensionCodes (pp : VAPictureParameterBufferH264) (iq : Option VAIQMatrixBufferH264) :
    List (List Bool) :=
  [[pp.transform8x8ModeFlag], [iq.isSome], (matrixCodes iq pp.transform8x8ModeFlag).flatten,
    seBits pp.secondChromaQpIndexOffset.toInt]

/-- The codes of the PPS behind its NAL unit header, up to the extension. -/
def ppsCodes (pp : VAPictureParameterBufferH264) (l0 l1 : Nat) : List (List Bool) :=
  [ueBits 0, ueBits 0, [pp.entropyCodingModeFlag], [pp.picOrderPresentFlag], ueBits 0, ueBits l0,
    ueBits l1, [pp.weightedPredFlag], uBits 2 pp.weightedBipredIdc.val,
    seBits pp.picInitQpMinus26.toInt, seBits pp.picInitQsMinus26.toInt,
    seBits pp.chromaQpIndexOffset.toInt, [pp.deblockingFilterControlPresentFlag],
    [pp.constrainedIntraPredFlag], [pp.redundantPicCntPresentFlag]]

/-- An IQ matrix buffer without zero entries. -/
def VAIQMatrixBufferH264.NoZero (iq : VAIQMatrixBufferH264) : Prop :=
  (∀ i pos, iq.scalingList4x4 i pos ≠ 0) ∧ ∀ i pos, iq.scalingList8x8 i pos ≠ 0

/-- No scaling list that is coded has a zero entry; without 8x8 transforms the 8x8 lists are
not coded. -/
def CodedNoZero (iq : Option VAIQMatrixBufferH264) (transform8x8 : Bool) : Prop :=
  ∀ m, iq = some m → (∀ i pos, m.scalingList4x4 i pos ≠ 0) ∧
    (transform8x8 = true → ∀ i pos, m.scalingList8x8 i pos ≠ 0)

theorem scalingDelta_range {next last : Nat} (hn : next < 256) (hl : last < 256) :
    -128 ≤ scalingDelta next last ∧ scalingDelta next last ≤ 127 := by
  unfold scalingDelta
  dsimp only
  split
  · omega
  · split <;> omega

theorem emits_scalingList {n : Nat} (list : Fin n → UInt8) (nonzero : ∀ pos, list pos ≠ 0) :
    ∀ (scan : List (Fin n)) (last : Nat), last < 256 →
      Emits (writeScalingList list scan last) (scalingListCodes list scan last).flatten := by
  intro scan
  induction scan with
  | nil => intro _ _; exact emits_nil
  | cons pos scan ih =>
    intro last hlast
    have hn := (list pos).toNat_lt
    have hne : ((list pos).toNat == 0) = false := by
      rw [beq_eq_false_iff_ne]
      intro h
      exact nonzero pos (UInt8.toNat.inj h)
    obtain ⟨low, high⟩ := scalingDelta_range hn hlast
    rw [writeScalingList, hne]
    exact (emits_nil).seq <| (emits_se (by omega) (by omega)).cons (ih _ hn)

theorem emits_scalingLists {n : Nat} (scan : List (Fin n)) :
    ∀ lists : List (Fin n → UInt8), (∀ list ∈ lists, ∀ pos, list pos ≠ 0) →
      Emits (writeScalingLists scan lists) (scalingListsCodes scan lists).flatten := by
  intro lists
  induction lists with
  | nil => intro _; exact emits_nil
  | cons list lists ih =>
    intro h
    have head : Emits (do bsWrite 1 1; writeScalingList list scan 8)
        (true :: (scalingListCodes list scan 8).flatten) :=
      (emits_write 1 1).seq (emits_scalingList list (h list (by simp)) scan 8 (by norm_num))
    have whole := head.cons (ih fun l hl => h l (List.mem_cons_of_mem _ hl))
    exact whole

theorem emits_matrices (iq : Option VAIQMatrixBufferH264) (transform8x8 : Bool)
    (nonzero : CodedNoZero iq transform8x8) :
    Emits (h264ScalingMatrices iq transform8x8) (matrixCodes iq transform8x8).flatten := by
  cases iq with
  | none => exact emits_nil
  | some iq =>
    obtain ⟨h4, h8⟩ := nonzero iq rfl
    refine (emits_scalingLists scan4x4 _ ?_).cons (Emits.bsIf fun coded => emits_scalingLists scan8x8 _ ?_).last
    · intro list hl
      obtain ⟨i, rfl⟩ := List.mem_ofFn.mp hl
      exact h4 i
    · intro list hl
      obtain ⟨i, rfl⟩ := List.mem_ofFn.mp hl
      exact h8 coded i

theorem int8_range (v : Int8) : -128 ≤ v.toInt ∧ v.toInt ≤ 127 := by
  have low := v.le_toInt
  have high := v.toInt_lt
  omega

theorem emits_int8 (v : Int8) : Emits (bsWriteSe v.toInt) (seBits v.toInt) := by
  have := int8_range v
  exact emits_se (by omega) (by omega)

theorem emits_pps (pp : VAPictureParameterBufferH264) (iq : Option VAIQMatrixBufferH264)
    (nonzero : CodedNoZero iq pp.transform8x8ModeFlag) {l0 l1 : Nat} (h0 : l0 < 2 ^ 31) (h1 : l1 < 2 ^ 31) :
    Emits (h264PpsRbsp pp iq l0 l1)
      (uBits 8 0x68 :: (ppsCodes pp l0 l1 ++
        [if h264PpsExtension pp iq then (extensionCodes pp iq).flatten else []])).flatten := by
  have nonneg0 : ¬ ((l0 : Int) < 0) := by omega
  have nonneg1 : ¬ ((l1 : Int) < 0) := by omega
  unfold h264PpsRbsp
  rw [if_neg nonneg0, if_neg nonneg1, Int.toNat_natCast, Int.toNat_natCast]
  refine (emits_write _ _).cons <| (emits_ue (by norm_num)).cons <| (emits_ue (by norm_num)).cons <|
    (emits_flag _).cons <| (emits_flag _).cons <| (emits_ue (by norm_num)).cons <|
    (emits_ue (by omega)).cons <| (emits_ue (by omega)).cons <| (emits_flag _).cons <|
    (emits_write _ _).cons <| (emits_int8 _).cons <| (emits_int8 _).cons <| (emits_int8 _).cons <|
    (emits_flag _).cons <| (emits_flag _).cons <| (emits_flag _).cons <|
    (Emits.bsIf fun _ => ?ext).last
  case ext =>
    exact (emits_flag _).cons <| (emits_flag _).cons <| (emits_matrices iq _ nonzero).cons <|
      (emits_int8 _).last

/-- The entries of a scaling list in the order they are coded. -/
def listValues {n : Nat} (scan : List (Fin n)) (list : Fin n → UInt8) : List Int :=
  scan.map fun pos => ((list pos).toNat : Int)

theorem reads_scalingList {n : Nat} (list : Fin n → UInt8) (nonzero : ∀ pos, list pos ≠ 0) :
    ∀ (scan : List (Fin n)) (last : Nat), 0 < last → last < 256 →
      Reads (readScalingList scan.length last last) (scalingListCodes list scan last).flatten
        (listValues scan list) := by
  intro scan
  induction scan with
  | nil => intro _ _ _; exact reads_pure []
  | cons pos scan ih =>
    intro last hpos hlast
    have hn := (list pos).toNat_lt
    have hnz : 0 < (list pos).toNat := by
      rw [Nat.pos_iff_ne_zero]
      intro h
      exact nonzero pos (UInt8.toNat.inj h)
    have present : ((last : Int) != 0) = true := by simp; omega
    -- the decoder's modular sum undoes the wrapped difference
    have sum : ((last : Int) + scalingDelta (list pos).toNat last + 256) % 256 =
        (list pos).toNat := by
      unfold scalingDelta
      dsimp only
      split
      · omega
      · split <;> omega
    have delta : Reads (do let delta ← readSe; return ((last : Int) + delta + 256) % 256)
        (seBits (scalingDelta (list pos).toNat last)) ((list pos).toNat : Int) := by
      have read := (reads_se (scalingDelta (list pos).toNat last)).map
        (f := fun delta => ((last : Int) + delta + 256) % 256)
      rwa [sum] at read
    have keep : (if ((list pos).toNat : Int) = 0 then (last : Int) else (list pos).toNat) =
        (list pos).toNat := by
      rw [if_neg]
      omega
    rw [List.length_cons, readScalingList, present]
    refine Reads.cons delta ?_
    rw [keep]
    exact (ih _ hnz hn).map

theorem reads_presentList {n : Nat} (list : Fin n → UInt8) (nonzero : ∀ pos, list pos ≠ 0)
    (scan : List (Fin n)) :
    Reads (readPresentList scan.length) (true :: (scalingListCodes list scan 8).flatten)
      (some (listValues scan list)) := by
  have body := (reads_scalingList list nonzero scan 8 (by norm_num) (by norm_num)).map (f := some)
  exact (reads_flag true).bind body

theorem reads_presentLists {n : Nat} (scan : List (Fin n)) (lists : List (Fin n → UInt8))
    (nonzero : ∀ list ∈ lists, ∀ pos, list pos ≠ 0) :
    Reads (readMany (readPresentList scan.length) lists.length)
      (scalingListsCodes scan lists).flatten (lists.map fun list => some (listValues scan list)) :=
  reads_readMany lists fun list hl => reads_presentList list (nonzero list hl) scan

/-- The scaling matrix `iq` is read back to. -/
def matrixOf (iq : VAIQMatrixBufferH264) (transform8x8 : Bool) : List (Option (List Int)) :=
  (List.ofFn iq.scalingList4x4).map (fun list => some (listValues scan4x4 list)) ++
    if transform8x8 then (List.ofFn iq.scalingList8x8).map (fun list => some (listValues scan8x8 list))
    else []

theorem reads_matrix (iq : VAIQMatrixBufferH264) (transform8x8 : Bool)
    (nonzero : CodedNoZero (some iq) transform8x8) :
    Reads (readScalingMatrix (if transform8x8 then 2 else 0))
      (matrixCodes (some iq) transform8x8).flatten (matrixOf iq transform8x8) := by
  obtain ⟨h4, h8⟩ := nonzero iq rfl
  have lists4 := reads_presentLists scan4x4 (List.ofFn iq.scalingList4x4) (by
    intro list hl
    obtain ⟨i, rfl⟩ := List.mem_ofFn.mp hl
    exact h4 i)
  refine Reads.cons lists4 ?_
  cases transform8x8 with
  | false => exact reads_pure _
  | true =>
    have lists8 := reads_presentLists scan8x8 (List.ofFn iq.scalingList8x8) (by
      intro list hl
      obtain ⟨i, rfl⟩ := List.mem_ofFn.mp hl
      exact h8 rfl i)
    exact (lists8.cons <| reads_pure _)

/-- The extension values of the PPS that `pp` and `iq` are read back to. -/
def extensionOf (pp : VAPictureParameterBufferH264) (iq : Option VAIQMatrixBufferH264) :
    PpsExtension :=
  { transform8x8ModeFlag := pp.transform8x8ModeFlag
    scalingMatrix := iq.map fun iq => matrixOf iq pp.transform8x8ModeFlag
    secondChromaQpIndexOffset := pp.secondChromaQpIndexOffset.toInt }

/-- The PPS that `pp`, `iq` and the default counts are read back to. -/
def ppsOf (pp : VAPictureParameterBufferH264) (iq : Option VAIQMatrixBufferH264) (l0 l1 : Nat) :
    Pps :=
  { picParameterSetId := 0
    seqParameterSetId := 0
    entropyCodingModeFlag := pp.entropyCodingModeFlag
    bottomFieldPicOrderInFramePresentFlag := pp.picOrderPresentFlag
    numRefIdxL0DefaultActiveMinus1 := l0
    numRefIdxL1DefaultActiveMinus1 := l1
    weightedPredFlag := pp.weightedPredFlag
    weightedBipredIdc := pp.weightedBipredIdc.val
    picInitQpMinus26 := pp.picInitQpMinus26.toInt
    picInitQsMinus26 := pp.picInitQsMinus26.toInt
    chromaQpIndexOffset := pp.chromaQpIndexOffset.toInt
    deblockingFilterControlPresentFlag := pp.deblockingFilterControlPresentFlag
    constrainedIntraPredFlag := pp.constrainedIntraPredFlag
    redundantPicCntPresentFlag := pp.redundantPicCntPresentFlag
    extension := extensionOf pp iq }

theorem reads_extension (pp : VAPictureParameterBufferH264) (iq : Option VAIQMatrixBufferH264)
    (nonzero : CodedNoZero iq pp.transform8x8ModeFlag) {chromaFormatIdc : Nat} (chroma : chromaFormatIdc ≠ 3) :
    Reads (readPpsExtension chromaFormatIdc) (extensionCodes pp iq).flatten (extensionOf pp iq) := by
  have not444 : (chromaFormatIdc == 3) = false := by simpa using chroma
  refine (reads_flag _).cons <| (reads_flag _).cons ?_
  rw [not444]
  cases iq with
  | none => exact (reads_pure none).cons <| (reads_se _).cons <| reads_pure _
  | some m =>
    have matrix := (reads_matrix m pp.transform8x8ModeFlag nonzero).map (f := some)
    exact (matrix.cons <| (reads_se _).cons <| reads_pure _)

/-- A signed Exp-Golomb code holds a one. -/
theorem true_mem_seBits (v : Int) : true ∈ seBits v := by
  rw [seBits, ueBits_eq]
  simp

/-- Behind the fixed part of the PPS the reader finds the extension exactly when
`h264_write_pps` wrote it, and infers the values it left out otherwise. -/
theorem reads_optionalExtension (pp : VAPictureParameterBufferH264)
    (iq : Option VAIQMatrixBufferH264) (nonzero : CodedNoZero iq pp.transform8x8ModeFlag)
    {chromaFormatIdc : Nat} (chroma : chromaFormatIdc ≠ 3) (n : Nat) :
    readOptionalExtension chromaFormatIdc pp.chromaQpIndexOffset.toInt
        ((if h264PpsExtension pp iq then (extensionCodes pp iq).flatten else []) ++ trailingBits n) =
      some (extensionOf pp iq, trailingBits n) := by
  unfold readOptionalExtension
  cases h : h264PpsExtension pp iq with
  | true =>
    have more : moreRbspData ((extensionCodes pp iq).flatten ++ trailingBits n) = true := by
      apply moreRbspData_append
      simp [extensionCodes, true_mem_seBits]
    simp only [if_true, more]
    exact reads_extension pp iq nonzero chroma _
  | false =>
    simp only [h264PpsExtension, Bool.or_eq_false_iff, bne_eq_false_iff_eq] at h
    obtain ⟨⟨hiq, ht⟩, hc⟩ := h
    have none : iq = none := by simpa using hiq
    simp only [Bool.false_eq_true, if_false, List.nil_append, moreRbspData_trailingBits]
    simp [extensionOf, inferredExtension, none, ht, hc]

theorem reads_pps (pp : VAPictureParameterBufferH264) (iq : Option VAIQMatrixBufferH264)
    (nonzero : CodedNoZero iq pp.transform8x8ModeFlag) {chromaFormatIdc : Nat} (chroma : chromaFormatIdc ≠ 3)
    (l0 l1 n : Nat) :
    readPps chromaFormatIdc ((ppsCodes pp l0 l1 ++
        [if h264PpsExtension pp iq then (extensionCodes pp iq).flatten else []]).flatten ++
          trailingBits n) = some (ppsOf pp iq l0 l1, trailingBits n) := by
  have ext := reads_optionalExtension pp iq nonzero chroma n
  have bipred : pp.weightedBipredIdc.val < 2 ^ 2 := pp.weightedBipredIdc.isLt
  refine (reads_ue 0).consOn <| (reads_ue 0).consOn <| (reads_flag _).consOn <|
    (reads_flag _).consOn <| (reads_ue 0).consOn <| reads_unless_false.skipOn <|
    (reads_ue l0).consOn <| (reads_ue l1).consOn <| (reads_flag _).consOn <|
    (reads_u bipred).consOn <| (reads_se _).consOn <| (reads_se _).consOn <|
    (reads_se _).consOn <| (reads_flag _).consOn <| (reads_flag _).consOn <|
    (reads_flag _).consOn ?_
  have last : ∀ code : List Bool, (List.append [] [code]).flatten = code := by simp
  rw [bind_apply, last, ext]
  rfl

/-- The default counts are read before anything that depends on the chroma format. -/
theorem reads_refDefaults (pp : VAPictureParameterBufferH264) (l0 l1 : Nat)
    (codes : List (List Bool)) (rest : List Bool) :
    (readPpsRefDefaults ((ppsCodes pp l0 l1 ++ codes).flatten ++ rest)).map Prod.fst =
      some (l0, l1) := by
  have read : readPpsRefDefaults ((ppsCodes pp l0 l1 ++ codes).flatten ++ rest) =
      some ((l0, l1), ((ppsCodes pp l0 l1).drop 7 ++ codes).flatten ++ rest) :=
    (reads_ue 0).consOn <| (reads_ue 0).consOn <| (reads_flag _).consOn <| (reads_flag _).consOn <|
      (reads_ue 0).consOn <| reads_unless_false.skipOn <| (reads_ue l0).consOn <|
      (reads_ue l1).consOn rfl
  rw [read]
  rfl

/-! ## A zero entry is rejected -/

theorem fails_scalingList {n : Nat} (list : Fin n → UInt8) {pos : Fin n} (zero : list pos = 0) :
    ∀ (scan : List (Fin n)) (last : Nat), pos ∈ scan → Fails (writeScalingList list scan last) := by
  intro scan
  induction scan with
  | nil => intro _ h; simp at h
  | cons head scan ih =>
    intro last h
    rcases List.mem_cons.mp h with rfl | h
    · exact Fails.before (Fails.bsIf (by simp [zero]) fun _ => rfl)
    · exact Fails.after (Fails.after (ih _ h))

theorem fails_scalingLists {n : Nat} {scan : List (Fin n)} {list : Fin n → UInt8} {pos : Fin n}
    (zero : list pos = 0) (hpos : pos ∈ scan) :
    ∀ lists : List (Fin n → UInt8), list ∈ lists → Fails (writeScalingLists scan lists) := by
  intro lists
  induction lists with
  | nil => intro h; simp at h
  | cons head lists ih =>
    intro h
    rcases List.mem_cons.mp h with rfl | h
    · exact Fails.after (Fails.before (fails_scalingList list zero scan 8 hpos))
    · exact Fails.after (Fails.after (ih h))

theorem mem_scan4x4 (pos : Fin 16) : pos ∈ scan4x4 := by revert pos; decide

theorem mem_scan8x8 (pos : Fin 64) : pos ∈ scan8x8 := by revert pos; decide

theorem fails_matrices {iq : Option VAIQMatrixBufferH264} {transform8x8 : Bool}
    (zero : ¬ CodedNoZero iq transform8x8) : Fails (h264ScalingMatrices iq transform8x8) := by
  cases iq with
  | none => exact absurd (fun m h => nomatch h) zero
  | some m =>
    by_cases h4 : ∀ i pos, m.scalingList4x4 i pos ≠ 0
    · by_cases h8 : transform8x8 = true → ∀ i pos, m.scalingList8x8 i pos ≠ 0
      · exact absurd (fun m' h => by cases h; exact ⟨h4, h8⟩) zero
      · push Not at h8
        obtain ⟨coded, i, pos, hz⟩ := h8
        exact Fails.after (Fails.bsIf coded (fails_scalingLists hz (mem_scan8x8 pos) _
          (List.mem_ofFn.mpr ⟨i, rfl⟩)))
    · push Not at h4
      obtain ⟨i, pos, hz⟩ := h4
      exact Fails.before (fails_scalingLists hz (mem_scan4x4 pos) _ (List.mem_ofFn.mpr ⟨i, rfl⟩))

/-- `h264_write_pps` rejects a zero entry in a scaling list that is coded. -/
theorem h264WritePps_zero (pp : VAPictureParameterBufferH264) (iq : Option VAIQMatrixBufferH264)
    (l0 l1 : Int) (bufSize : Nat) (zero : ¬ CodedNoZero iq pp.transform8x8ModeFlag) :
    h264WritePps bufSize pp iq l0 l1 = none := by
  have present : h264PpsExtension pp iq = true := by
    cases iq with
    | none => exact absurd (fun m h => nomatch h) zero
    | some m => rfl
  have body : Fails (h264PpsRbsp pp iq l0 l1) := by
    unfold h264PpsRbsp
    iterate 16 apply Fails.after
    apply Fails.bsIf present
    exact Fails.after (Fails.after (Fails.before (fails_matrices zero)))
  unfold h264WritePps
  rw [(Fails.before body : Fails (do h264PpsRbsp pp iq l0 l1; bsRbspTrailing)) _]
  rfl

/-! ## Sizes and NAL units -/

theorem length_ueBits_uint8 (v : UInt8) : (ueBits v.toNat).length ≤ 17 :=
  length_ueBits_le (k := 8) (by have := v.toNat_lt; omega)

theorem length_ueBits_uint16 (v : UInt16) : (ueBits v.toNat).length ≤ 33 :=
  length_ueBits_le (k := 16) (by have := v.toNat_lt; omega)

theorem length_ueBits_fin {n : Nat} (h : n ≤ 16) (v : Fin n) : (ueBits v.val).length ≤ 9 :=
  length_ueBits_le (k := 4) (by have := v.isLt; omega)

theorem length_seBits_int8 (v : Int8) : (seBits v.toInt).length ≤ 17 := by
  have := int8_range v
  exact length_seBits_le (k := 8) (by omega) (by omega)

theorem length_ite_le {c : Bool} {xs : List Bool} {n : Nat} (h : xs.length ≤ n) :
    (if c then xs else []).length ≤ n := by
  cases c with
  | false => simp
  | true => simpa using h

theorem length_chromaCodes (pp : VAPictureParameterBufferH264) :
    (chromaCodes pp).flatten.length ≤ 102 := by
  refine (length_flatten_le (n := 17) ?_).trans (by simp [chromaCodes])
  intro code hc
  simp only [chromaCodes, List.mem_cons, List.mem_nil_iff, or_false] at hc
  rcases hc with rfl | rfl | rfl | rfl | rfl | rfl
  · exact (length_ueBits_fin (by norm_num) _).trans (by norm_num)
  · exact length_ite_le (by simp)
  · exact length_ueBits_uint8 _
  · exact length_ueBits_uint8 _
  · simp
  · simp

theorem length_ueCode {v : Nat} (h : v < 2 ^ 32) : (ueCode v).length ≤ 63 := by
  unfold ueCode
  split
  · simp
  · exact length_ueBits_le (k := 31) (by omega)

theorem length_spsCodes (pp : VAPictureParameterBufferH264) (profileIdc : Nat) :
    (spsCodes pp profileIdc).flatten.length ≤ 2142 := by
  refine (length_flatten_le (n := 102) ?_).trans (by simp [spsCodes])
  intro code hc
  simp only [spsCodes, List.mem_cons, List.mem_nil_iff, or_false] at hc
  rcases hc with rfl | rfl | rfl | rfl | rfl | rfl | rfl | rfl | rfl | rfl | rfl | rfl | rfl | rfl |
    rfl | rfl | rfl | rfl | rfl | rfl | rfl
  · simp
  · simp
  · simp
  · simp
  · simp
  · simp
  · decide
  · exact length_ite_le (length_chromaCodes pp)
  · exact (length_ueBits_fin (by norm_num) _).trans (by norm_num)
  · exact (length_ueBits_fin (by norm_num) _).trans (by norm_num)
  · exact length_ite_le ((length_ueBits_fin (by norm_num) _).trans (by norm_num))
  · exact length_ite_le (by simp [pocCycleCodes]; decide)
  · exact (length_ueBits_uint8 _).trans (by norm_num)
  · simp
  · exact (length_ueBits_uint16 _).trans (by norm_num)
  · exact (length_ueCode (phUnits_lt_two_pow pp)).trans (by norm_num)
  · simp
  · exact length_ite_le (by simp)
  · simp
  · simp
  · simp

theorem length_scalingListCodes {n : Nat} (list : Fin n → UInt8) :
    ∀ (scan : List (Fin n)) (last : Nat), last < 256 →
      (scalingListCodes list scan last).flatten.length ≤ 17 * scan.length := by
  intro scan
  induction scan with
  | nil => intro _ _; simp [scalingListCodes]
  | cons pos scan ih =>
    intro last hlast
    have hn := (list pos).toNat_lt
    obtain ⟨low, high⟩ := scalingDelta_range hn hlast
    have head : (seBits (scalingDelta (list pos).toNat last)).length ≤ 17 :=
      length_seBits_le (k := 8) (by omega) (by omega)
    have tail := ih _ hn
    rw [scalingListCodes, List.flatten_cons, List.length_append, List.length_cons]
    omega

theorem length_scalingListsCodes {n : Nat} (scan : List (Fin n)) (lists : List (Fin n → UInt8)) :
    (scalingListsCodes scan lists).flatten.length ≤ lists.length * (17 * scan.length + 1) := by
  have each : ∀ code ∈ scalingListsCodes scan lists, code.length ≤ 17 * scan.length + 1 := by
    intro code hc
    obtain ⟨list, -, rfl⟩ := List.mem_map.mp hc
    have := length_scalingListCodes list scan 8 (by norm_num)
    rw [List.length_cons]
    omega
  have bound := length_flatten_le each
  simpa [scalingListsCodes] using bound

theorem length_extensionCodes (pp : VAPictureParameterBufferH264) (iq : Option VAIQMatrixBufferH264) :
    (extensionCodes pp iq).flatten.length ≤ 3835 := by
  have second := length_seBits_int8 pp.secondChromaQpIndexOffset
  have matrix : (matrixCodes iq pp.transform8x8ModeFlag).flatten.length ≤ 3816 := by
    cases iq with
    | none => simp [matrixCodes]
    | some iq =>
      have h4 := length_scalingListsCodes scan4x4 (List.ofFn iq.scalingList4x4)
      have h8 := length_scalingListsCodes scan8x8 (List.ofFn iq.scalingList8x8)
      rw [List.length_ofFn] at h4 h8
      have h8' := length_ite_le (c := pp.transform8x8ModeFlag) h8
      simp only [matrixCodes, List.flatten_cons, List.flatten_nil, List.append_nil,
        List.length_append]
      have s4 : scan4x4.length = 16 := rfl
      have s8 : scan8x8.length = 64 := rfl
      rw [s4] at h4
      rw [s8] at h8'
      omega
  simp only [extensionCodes, List.flatten_cons, List.flatten_nil, List.append_nil,
    List.length_append, List.length_singleton]
  omega

theorem length_ppsCodes (pp : VAPictureParameterBufferH264) {l0 l1 : Nat} (h0 : l0 < 2 ^ 31)
    (h1 : l1 < 2 ^ 31) : (ppsCodes pp l0 l1).flatten.length ≤ 945 := by
  refine (length_flatten_le (n := 63) ?_).trans (by simp [ppsCodes])
  intro code hc
  simp only [ppsCodes, List.mem_cons, List.mem_nil_iff, or_false] at hc
  rcases hc with rfl | rfl | rfl | rfl | rfl | rfl | rfl | rfl | rfl | rfl | rfl | rfl | rfl | rfl |
    rfl
  · decide
  · decide
  · simp
  · simp
  · decide
  · exact length_ueBits_le (k := 31) (by omega)
  · exact length_ueBits_le (k := 31) (by omega)
  · simp
  · simp
  · exact (length_seBits_int8 _).trans (by norm_num)
  · exact (length_seBits_int8 _).trans (by norm_num)
  · exact (length_seBits_int8 _).trans (by norm_num)
  · simp
  · simp
  · simp

theorem h264FinishNal_eq {bufSize : Nat} {raw : List UInt8} (nonempty : raw ≠ [])
    (room : 4 + raw.length * 2 ≤ bufSize) :
    h264FinishNal bufSize raw = some (withStartCode (escape raw)) := by
  have fits : (escape raw).length ≤ bufSize - 4 := by
    have : (escape raw).length ≤ 2 * raw.length := length_escapeFrom_le raw 0
    omega
  have ne : escape raw ≠ [] := escapeFrom_ne_nil nonempty
  simp only [h264FinishNal, emulationPrevent_eq, if_pos fits, if_neg ne,
    if_neg (by omega : ¬ bufSize < 4 + raw.length * 2)]
  rfl

/-- The NAL unit both writers produce from an emitter of a header byte and `bits`: one clean
NAL unit, whose payload is the escaped RBSP with these bits and their trailing bits. -/
theorem h264Nal_of_emits {m : BsM Unit} {bits : List Bool} {bufSize : Nat} (header : UInt8)
    (cap : Nat) (emits : Emits m (byteBits header ++ bits)) (nonzero : header ≠ 0)
    (room : bits.length + 16 ≤ 8 * cap) (small : bits.length ≤ 8000) (buffer : 2048 ≤ bufSize) :
    ∃ rbsp, bytesBits rbsp = bits ++ trailingBits bits.length ∧
      (do let (_, bs) ← (do m; bsRbspTrailing : BsM Unit) (BSWriter.init cap)
          h264FinishNal bufSize bs.output : Option (List UInt8)) =
        some (withStartCode (header :: escape rbsp)) ∧
      Clean (header :: escape rbsp) := by
  obtain ⟨w, run, out⟩ := emits.trailing cap (by simp; omega)
  have pad : trailingBits (byteBits header ++ bits).length = trailingBits bits.length := by
    simp [trailingBits]
  have shape := out
  rw [pad, List.append_assoc] at shape
  obtain ⟨rbsp, hout, hrbsp⟩ := exists_cons_of_byteBits shape
  have last : w.output.getLast? ≠ some 0 := getLast?_ne_zero_of_trailing out
  have esc : escape w.output = header :: escape rbsp := by
    rw [hout, escape, escapeFrom]
    simp [nonzero, escape]
  have length : w.output.length ≤ 1003 := by
    have total := congrArg List.length out
    simp only [length_bytesBits, List.length_append, length_byteBits, length_trailingBits] at total
    omega
  refine ⟨rbsp, hrbsp, ?_, ?_⟩
  · rw [run]
    show h264FinishNal bufSize w.output = _
    rw [h264FinishNal_eq (by rw [hout]; simp) (by omega), esc]
  · rw [← esc]
    exact ⟨noStartCode_escape _, by rw [escape, getLast?_escapeFrom]; exact last⟩

/-- `h264_write_sps` never fails into a buffer of 2048 bytes. It writes one NAL unit, and
where the height is not the wrapped one the syntax table reads `spsOf` from it. -/
theorem h264WriteSps_spec (pp : VAPictureParameterBufferH264) (profileIdc : Nat) {bufSize : Nat}
    (buffer : 2048 ≤ bufSize) :
    ∃ rbsp, h264WriteSps bufSize pp profileIdc = some (withStartCode (0x67 :: escape rbsp)) ∧
      Clean (0x67 :: escape rbsp) ∧
      (profileIdc < 2 ^ 8 → hasChromaFormat profileIdc = h264HighProfile profileIdc →
        phUnits pp + 1 < 2 ^ 32 →
        parseSpsNal (0x67 :: escape rbsp) = some (spsOf pp profileIdc)) := by
  have emits : Emits _ (byteBits 0x67 ++ (spsCodes pp profileIdc).flatten) :=
    emits_sps pp profileIdc
  have short := length_spsCodes pp profileIdc
  obtain ⟨rbsp, hbits, write, split⟩ := h264Nal_of_emits 0x67 512 emits
    (by decide) (by omega) (by omega) buffer
  refine ⟨rbsp, write, split, ?_⟩
  intro profile high height
  have read := reads_sps pp profile high height
    (trailingBits (spsCodes pp profileIdc).flatten.length)
  rw [← hbits] at read
  rw [parseSpsNal, if_pos (by decide)]
  exact readRbsp_escape read (isTrailing_trailingBits _)

/-- The codes of a PPS behind its NAL unit header. -/
def ppsBits (pp : VAPictureParameterBufferH264) (iq : Option VAIQMatrixBufferH264) (l0 l1 : Nat) :
    List Bool :=
  (ppsCodes pp l0 l1 ++
    [if h264PpsExtension pp iq then (extensionCodes pp iq).flatten else []]).flatten

/-- `h264_write_pps` writes one NAL unit with these codes. -/
theorem h264WritePps_bits (pp : VAPictureParameterBufferH264) (iq : Option VAIQMatrixBufferH264)
    (nonzero : CodedNoZero iq pp.transform8x8ModeFlag) (l0 l1 : Nat) (h0 : l0 < 2 ^ 31) (h1 : l1 < 2 ^ 31)
    {bufSize : Nat} (buffer : 2048 ≤ bufSize) :
    ∃ rbsp, bytesBits rbsp = ppsBits pp iq l0 l1 ++ trailingBits (ppsBits pp iq l0 l1).length ∧
      h264WritePps bufSize pp iq l0 l1 = some (withStartCode (0x68 :: escape rbsp)) ∧
      Clean (0x68 :: escape rbsp) := by
  have emits : Emits _ (byteBits 0x68 ++ ppsBits pp iq l0 l1) := emits_pps pp iq nonzero h0 h1
  have fixed := length_ppsCodes pp h0 h1
  have ext := length_ite_le (c := h264PpsExtension pp iq) (length_extensionCodes pp iq)
  have short : (ppsBits pp iq l0 l1).length ≤ 4780 := by
    rw [ppsBits, List.flatten_append, List.flatten_singleton, List.length_append]
    omega
  exact h264Nal_of_emits 0x68 1024 emits (by decide) (by omega) (by omega) buffer

/-- The syntax table reads `ppsOf` from the NAL unit that `h264_write_pps` writes. -/
theorem h264WritePps_spec (pp : VAPictureParameterBufferH264) (iq : Option VAIQMatrixBufferH264)
    (nonzero : CodedNoZero iq pp.transform8x8ModeFlag) (l0 l1 : Nat) (h0 : l0 < 2 ^ 31) (h1 : l1 < 2 ^ 31)
    {bufSize : Nat} (buffer : 2048 ≤ bufSize) :
    ∃ rbsp, h264WritePps bufSize pp iq l0 l1 = some (withStartCode (0x68 :: escape rbsp)) ∧
      Clean (0x68 :: escape rbsp) ∧ ppsRefDefaults (0x68 :: escape rbsp) = some (l0, l1) ∧
      ∀ chromaFormatIdc, chromaFormatIdc ≠ 3 →
        parsePpsNal chromaFormatIdc (0x68 :: escape rbsp) = some (ppsOf pp iq l0 l1) := by
  obtain ⟨rbsp, hbits, write, split⟩ := h264WritePps_bits pp iq nonzero l0 l1 h0 h1 buffer
  refine ⟨rbsp, write, split, ?_, ?_⟩
  · rw [ppsRefDefaults, if_pos (by decide), unescape_escape, hbits]
    exact reads_refDefaults pp l0 l1 _ _
  intro chromaFormatIdc chroma
  have read := reads_pps pp iq nonzero chroma l0 l1 (ppsBits pp iq l0 l1).length
  rw [← ppsBits, ← hbits] at read
  rw [parsePpsNal, if_pos (by decide)]
  exact readRbsp_escape read (isTrailing_trailingBits _)

/-! ## Both parameter sets -/

/-- The sequence parameter set `sps` says what `pp` says. Elements that the syntax does not
carry for the picture at hand are compared only where they are coded. -/
structure SpsCarries (pp : VAPictureParameterBufferH264) (sps : Sps) : Prop where
  width : sps.picWidthInMbsMinus1 = pp.pictureWidthInMbsMinus1.toNat
  height : sps.frameHeightInMbs = pp.pictureHeightInMbsMinus1.toNat + 1
  chromaFormat : sps.chroma.chromaFormatIdc = pp.chromaFormatIdc.val
  bitDepthLuma : sps.chroma.bitDepthLumaMinus8 = pp.bitDepthLumaMinus8.toNat
  bitDepthChroma : sps.chroma.bitDepthChromaMinus8 = pp.bitDepthChromaMinus8.toNat
  log2MaxFrameNum : sps.log2MaxFrameNumMinus4 = pp.log2MaxFrameNumMinus4.val
  picOrderCntType : sps.picOrderCntType = pp.picOrderCntType.val
  log2MaxPicOrderCntLsb : pp.picOrderCntType = 0 →
    sps.log2MaxPicOrderCntLsbMinus4 = pp.log2MaxPicOrderCntLsbMinus4.val
  numRefFrames : sps.maxNumRefFrames = pp.numRefFrames.toNat
  gapsInFrameNum : sps.gapsInFrameNumValueAllowedFlag = pp.gapsInFrameNumValueAllowedFlag
  frameMbsOnly : sps.frameMbsOnlyFlag = pp.frameMbsOnlyFlag
  mbAdaptiveFrameField : pp.frameMbsOnlyFlag = false →
    sps.mbAdaptiveFrameFieldFlag = pp.mbAdaptiveFrameFieldFlag
  direct8x8Inference : sps.direct8x8InferenceFlag = pp.direct8x8InferenceFlag

/-- The picture parameter set `pps` says what `pp` and the default counts say. -/
structure PpsCarries (pp : VAPictureParameterBufferH264) (l0 l1 : Int) (pps : Pps) : Prop where
  entropyCodingMode : pps.entropyCodingModeFlag = pp.entropyCodingModeFlag
  picOrderPresent : pps.bottomFieldPicOrderInFramePresentFlag = pp.picOrderPresentFlag
  numRefIdxL0 : (pps.numRefIdxL0DefaultActiveMinus1 : Int) = l0
  numRefIdxL1 : (pps.numRefIdxL1DefaultActiveMinus1 : Int) = l1
  weightedPred : pps.weightedPredFlag = pp.weightedPredFlag
  weightedBipred : pps.weightedBipredIdc = pp.weightedBipredIdc.val
  picInitQp : pps.picInitQpMinus26 = pp.picInitQpMinus26.toInt
  picInitQs : pps.picInitQsMinus26 = pp.picInitQsMinus26.toInt
  chromaQpIndexOffset : pps.chromaQpIndexOffset = pp.chromaQpIndexOffset.toInt
  secondChromaQpIndexOffset :
    pps.extension.secondChromaQpIndexOffset = pp.secondChromaQpIndexOffset.toInt
  transform8x8Mode : pps.extension.transform8x8ModeFlag = pp.transform8x8ModeFlag
  deblockingFilterControl :
    pps.deblockingFilterControlPresentFlag = pp.deblockingFilterControlPresentFlag
  constrainedIntraPred : pps.constrainedIntraPredFlag = pp.constrainedIntraPredFlag
  redundantPicCnt : pps.redundantPicCntPresentFlag = pp.redundantPicCntPresentFlag

theorem spsCarries_spsOf (pp : VAPictureParameterBufferH264) {profileIdc : Nat}
    (height : pp.frameMbsOnlyFlag = true ∨ (pp.pictureHeightInMbsMinus1.toNat + 1) % 2 = 0)
    (base : h264HighProfile profileIdc = false →
      pp.chromaFormatIdc = 1 ∧ pp.bitDepthLumaMinus8 = 0 ∧ pp.bitDepthChromaMinus8 = 0) :
    SpsCarries pp (spsOf pp profileIdc) := by
  have chroma : (spsOf pp profileIdc).chroma.chromaFormatIdc = pp.chromaFormatIdc.val ∧
      (spsOf pp profileIdc).chroma.bitDepthLumaMinus8 = pp.bitDepthLumaMinus8.toNat ∧
      (spsOf pp profileIdc).chroma.bitDepthChromaMinus8 = pp.bitDepthChromaMinus8.toNat := by
    cases h : h264HighProfile profileIdc with
    | true => simp [spsOf, h, chromaInfoOf]
    | false =>
      obtain ⟨hc, hl, hb⟩ := base h
      simp [spsOf, h, inferredChromaInfo, hc, hl, hb]
  exact {
    width := rfl
    height := (phUnits_lt pp height).2
    chromaFormat := chroma.1
    bitDepthLuma := chroma.2.1
    bitDepthChroma := chroma.2.2
    log2MaxFrameNum := rfl
    picOrderCntType := rfl
    log2MaxPicOrderCntLsb := fun h => by simp [spsOf, h]
    numRefFrames := rfl
    gapsInFrameNum := rfl
    frameMbsOnly := rfl
    mbAdaptiveFrameField := fun h => by simp [spsOf, h]
    direct8x8Inference := rfl }

theorem ppsCarries_ppsOf (pp : VAPictureParameterBufferH264) (iq : Option VAIQMatrixBufferH264)
    (l0 l1 : Nat) : PpsCarries pp l0 l1 (ppsOf pp iq l0 l1) := by
  constructor <;> rfl

/-- Both emitters succeed into the driver's 2048-byte buffer, each output is one NAL unit, and
the standard's syntax reads every carried parameter back. -/
theorem h264ParameterSets_decodeBack (pp : VAPictureParameterBufferH264) (profileIdc : Nat)
    (iq : Option VAIQMatrixBufferH264) (l0 l1 : Int)
    (height : pp.frameMbsOnlyFlag = true ∨ (pp.pictureHeightInMbsMinus1.toNat + 1) % 2 = 0)
    (profile : profileIdc ∈ [66, 77, 100, 110])
    (base : profileIdc = 66 ∨ profileIdc = 77 →
      pp.chromaFormatIdc = 1 ∧ pp.bitDepthLumaMinus8 = 0 ∧ pp.bitDepthChromaMinus8 = 0)
    (high : profileIdc = 100 ∨ profileIdc = 110 → pp.chromaFormatIdc ≠ 3)
    (matrix : ∀ m, iq = some m → m.NoZero)
    (h0 : 0 ≤ l0 ∧ l0 < 2 ^ 31) (h1 : 0 ≤ l1 ∧ l1 < 2 ^ 31) :
    ∃ sps pps spsNal ppsNal s p,
      h264WriteSps 2048 pp profileIdc = some sps ∧ h264WritePps 2048 pp iq l0 l1 = some pps ∧
      nalUnits sps = [spsNal] ∧ nalUnits pps = [ppsNal] ∧
      parseSpsNal spsNal = some s ∧ parsePpsNal s.chroma.chromaFormatIdc ppsNal = some p ∧
      SpsCarries pp s ∧ PpsCarries pp l0 l1 p := by
  have cases : profileIdc = 66 ∨ profileIdc = 77 ∨ profileIdc = 100 ∨ profileIdc = 110 := by
    simpa using profile
  have facts : profileIdc < 2 ^ 8 ∧ hasChromaFormat profileIdc = h264HighProfile profileIdc := by
    rcases cases with rfl | rfl | rfl | rfl <;> decide
  have low : h264HighProfile profileIdc = false → profileIdc = 66 ∨ profileIdc = 77 := by
    rcases cases with rfl | rfl | rfl | rfl <;> decide
  have carries := spsCarries_spsOf pp height (fun h => base (low h))
  have chroma : (spsOf pp profileIdc).chroma.chromaFormatIdc ≠ 3 := by
    rw [carries.chromaFormat]
    intro h3
    have h3' : pp.chromaFormatIdc = 3 := Fin.ext h3
    rcases cases with h | h | h | h
    · exact absurd (h3'.symm.trans (base (.inl h)).1) (by decide)
    · exact absurd (h3'.symm.trans (base (.inr h)).1) (by decide)
    · exact high (.inl h) h3'
    · exact high (.inr h) h3'
  obtain ⟨n0, rfl⟩ := Int.eq_ofNat_of_zero_le h0.1
  obtain ⟨n1, rfl⟩ := Int.eq_ofNat_of_zero_le h1.1
  have coded : CodedNoZero iq pp.transform8x8ModeFlag :=
    fun m hm => ⟨(matrix m hm).1, fun _ => (matrix m hm).2⟩
  have short := (phUnits_lt pp height).1
  obtain ⟨sps, writeSps, cleanSps, readS⟩ := h264WriteSps_spec pp profileIdc (Nat.le_refl 2048)
  obtain ⟨pps, writePps, cleanPps, -, readP⟩ := h264WritePps_spec pp iq coded n0 n1
    (by omega) (by omega) (Nat.le_refl 2048)
  exact ⟨_, _, _, _, _, _, writeSps, writePps, cleanSps.nalUnits, cleanPps.nalUnits,
    readS facts.1 facts.2 (by omega), readP _ chroma, carries, ppsCarries_ppsOf pp iq n0 n1⟩

/-- An interlaced 1920x1088 picture with CABAC and 8x8 transforms. -/
def interlacedPicture : VAPictureParameterBufferH264 :=
  { pictureWidthInMbsMinus1 := 119, pictureHeightInMbsMinus1 := 67, bitDepthLumaMinus8 := 0
    bitDepthChromaMinus8 := 0, numRefFrames := 4, chromaFormatIdc := 1
    residualColourTransformFlag := false, gapsInFrameNumValueAllowedFlag := false
    frameMbsOnlyFlag := false, mbAdaptiveFrameFieldFlag := true, direct8x8InferenceFlag := true
    minLumaBiPredSize8x8 := true, log2MaxFrameNumMinus4 := 4, picOrderCntType := 0
    log2MaxPicOrderCntLsbMinus4 := 5, deltaPicOrderAlwaysZeroFlag := false
    picInitQpMinus26 := -3, picInitQsMinus26 := 0, chromaQpIndexOffset := -2
    secondChromaQpIndexOffset := 1, entropyCodingModeFlag := true, weightedPredFlag := true
    weightedBipredIdc := 2, transform8x8ModeFlag := true, fieldPicFlag := true
    constrainedIntraPredFlag := false, picOrderPresentFlag := true
    deblockingFilterControlPresentFlag := true, redundantPicCntPresentFlag := false }

/-- The flat scaling matrices. -/
def flatMatrices : VAIQMatrixBufferH264 := ⟨fun _ _ => 16, fun _ _ => 16⟩

theorem h264ParameterSets_decodeBack_interlaced :
    ∃ sps pps spsNal ppsNal s p,
      h264WriteSps 2048 interlacedPicture 100 = some sps ∧
      h264WritePps 2048 interlacedPicture (some flatMatrices) 3 1 = some pps ∧
      nalUnits sps = [spsNal] ∧ nalUnits pps = [ppsNal] ∧
      parseSpsNal spsNal = some s ∧ parsePpsNal s.chroma.chromaFormatIdc ppsNal = some p ∧
      SpsCarries interlacedPicture s ∧ PpsCarries interlacedPicture 3 1 p :=
  h264ParameterSets_decodeBack interlacedPicture 100 (some flatMatrices) 3 1 (by decide)
    (by decide) (by decide) (by decide)
    (by intro m h; obtain rfl := Option.some.inj h; exact ⟨fun _ _ => (by decide : (16 : UInt8) ≠ 0),
      fun _ _ => (by decide : (16 : UInt8) ≠ 0)⟩)
    (by decide) (by decide)

end RockchipVaapi.H264
