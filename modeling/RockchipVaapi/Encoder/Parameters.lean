import RockchipVaapi.Misc.Planes

/-!
# Encoder parameter buffers

The encoder half of a context and `rk_mpp_enc_render_buffer`: the parameter sets it copies, the
checks it makes of them, and the slices it adds up. A structure of VA-API is the fields the driver
reads and the bytes of all others, so that a copy of it is a copy of the whole.
-/

namespace RockchipVaapi.Encoder

/-! ## VA structures -/

/-- `VAEncSequenceParameterBufferH264`. -/
structure VAEncSequenceParameterBufferH264 where
  levelIdc : UInt8
  intraPeriod : UInt32
  bitsPerSecond : UInt32
  pictureWidthInMbs : UInt16
  pictureHeightInMbs : UInt16
  others : List UInt8
  deriving DecidableEq, Repr

/-- `VAEncPictureParameterBufferH264`. -/
structure VAEncPictureParameterBufferH264 where
  codedBuf : UInt32
  picInitQp : UInt8
  idrPicFlag : Bool
  entropyCodingModeFlag : Bool
  transform8x8ModeFlag : Bool
  others : List UInt8
  deriving DecidableEq, Repr

/-- `VAEncSliceParameterBufferH264`. -/
structure VAEncSliceParameterBufferH264 where
  macroblockAddress : UInt32
  numMacroblocks : UInt32
  sliceType : UInt8
  others : List UInt8
  deriving DecidableEq, Repr

/-- `VAEncSequenceParameterBufferHEVC`. -/
structure VAEncSequenceParameterBufferHEVC where
  generalProfileIdc : UInt8
  generalLevelIdc : UInt8
  generalTierFlag : UInt8
  intraPeriod : UInt32
  ipPeriod : UInt32
  bitsPerSecond : UInt32
  picWidthInLumaSamples : UInt16
  picHeightInLumaSamples : UInt16
  chromaFormatIdc : Fin 4
  separateColourPlaneFlag : Bool
  bitDepthLumaMinus8 : Fin 8
  bitDepthChromaMinus8 : Fin 8
  scalingListEnabledFlag : Bool
  pcmEnabledFlag : Bool
  log2MinLumaCodingBlockSizeMinus3 : UInt8
  log2DiffMaxMinLumaCodingBlockSize : UInt8
  others : List UInt8
  deriving DecidableEq, Repr

/-- `VAEncPictureParameterBufferHEVC`. -/
structure VAEncPictureParameterBufferHEVC where
  codedBuf : UInt32
  picInitQp : UInt8
  diffCuQpDeltaDepth : UInt8
  ppsCbQpOffset : Int8
  ppsCrQpOffset : Int8
  numTileColumnsMinus1 : UInt8
  numTileRowsMinus1 : UInt8
  idrPicFlag : Bool
  codingType : Fin 8
  tilesEnabledFlag : Bool
  scalingListDataPresentFlag : Bool
  weightedPredFlag : Bool
  weightedBipredFlag : Bool
  constrainedIntraPredFlag : Bool
  others : List UInt8
  deriving DecidableEq, Repr

/-- `VAEncSliceParameterBufferHEVC`. -/
structure VAEncSliceParameterBufferHEVC where
  sliceSegmentAddress : UInt32
  numCtuInSlice : UInt32
  sliceType : UInt8
  slicePicParameterSetId : UInt8
  sliceQpDelta : Int8
  sliceCbQpOffset : Int8
  sliceCrQpOffset : Int8
  sliceBetaOffsetDiv2 : Int8
  sliceTcOffsetDiv2 : Int8
  lastSliceOfPicFlag : Bool
  dependentSliceSegmentFlag : Bool
  sliceSaoLumaFlag : Bool
  sliceSaoChromaFlag : Bool
  sliceDeblockingFilterDisabledFlag : Bool
  sliceLoopFilterAcrossSlicesEnabledFlag : Bool
  others : List UInt8
  deriving DecidableEq, Repr

/-- The types of `VAEncMiscParameterBuffer` that the driver tells apart. -/
inductive VAEncMiscParameterType
  | rateControl
  | frameRate
  | other
  deriving DecidableEq, Repr

/-- The sizes of the VA structures, which the headers of VA-API decide. -/
structure VaSizes where
  seqH264 : Nat
  picH264 : Nat
  sliceH264 : Nat
  seqHevc : Nat
  picHevc : Nat
  sliceHevc : Nat
  misc : Nat
  rateControl : Nat
  frameRate : Nat
  deriving DecidableEq, Repr

/-- `VABufferType`, as far as the encoder tells its values apart. -/
inductive VABufferType
  | encSequenceParameter
  | encPictureParameter
  | encSliceParameter
  | encMiscParameter
  | other
  deriving DecidableEq, Repr

/-- The bytes of a buffer as the structures that are copied out of them. A buffer is read as one
of them only, so none of them restricts another. Element `i` of a slice buffer lies at
`i * size`. -/
structure BufferData where
  seqH264 : VAEncSequenceParameterBufferH264
  picH264 : VAEncPictureParameterBufferH264
  sliceH264 : Nat → VAEncSliceParameterBufferH264
  seqHevc : VAEncSequenceParameterBufferHEVC
  picHevc : VAEncPictureParameterBufferHEVC
  sliceHevc : Nat → VAEncSliceParameterBufferHEVC
  miscType : VAEncMiscParameterType
  bitsPerSecond : UInt32
  framerate : UInt32

/-- `RKBuffer` as the encoder reads it. -/
structure RKBuffer where
  type : VABufferType
  size : UInt32
  numElements : UInt32
  data : BufferData

/-- `bytes` of `rk_mpp_enc_render_buffer`. -/
def RKBuffer.bytes (b : RKBuffer) : Nat := b.size.toNat * b.numElements.toNat

/-- The elements of an H.264 slice parameter buffer. -/
def RKBuffer.slicesH264 (b : RKBuffer) : List VAEncSliceParameterBufferH264 :=
  (List.range b.numElements.toNat).map b.data.sliceH264

/-- The elements of an HEVC slice parameter buffer. -/
def RKBuffer.slicesHevc (b : RKBuffer) : List VAEncSliceParameterBufferHEVC :=
  (List.range b.numElements.toNat).map b.data.sliceHevc

/-! ## The context -/

/-- The statuses of the encoder. -/
inductive VAStatus
  | success
  | invalidSurface
  | invalidBuffer
  | invalidParameter
  | unsupportedBufferType
  | operationFailed
  | encodingError
  | allocationFailed
  deriving DecidableEq, Repr

/-- The codecs that can be encoded. -/
inductive Coding
  | avc
  | hevc
  deriving DecidableEq, Repr

/-- The profiles with an encoding entry point. -/
inductive VAProfile
  | h264Main
  | h264High
  | hevcMain
  deriving DecidableEq, Repr

/-- `profile_to_coding` for these profiles. -/
def profileToCoding : VAProfile → Coding
  | .h264Main => .avc
  | .h264High => .avc
  | .hevcMain => .hevc

/-- The rate control of a config. -/
inductive RateControl
  | cbr
  | vbr
  | other
  deriving DecidableEq, Repr

/-- A picture size in the range that `rk_CreateContext` checks (`context.c:70-75`). -/
structure PictureSize where
  width : Nat
  height : Nat
  width_pos : 0 < width
  height_pos : 0 < height
  width_le : width ≤ 8192
  height_le : height ≤ 8192
  deriving DecidableEq

/-- The fields of the render surface that the encoder reads. -/
structure RenderSurface where
  width : Nat
  height : Nat
  hstride : Nat
  vstride : Nat
  tenBit : Bool
  deriving DecidableEq, Repr

/-- The encoder half of `RKContext`. -/
structure RKContext where
  profile : VAProfile
  rateControl : RateControl
  size : PictureSize
  renderSurface : Option RenderSurface
  encSeq : VAEncSequenceParameterBufferH264
  encPic : VAEncPictureParameterBufferH264
  encSlice : VAEncSliceParameterBufferH264
  encHevcSeq : VAEncSequenceParameterBufferHEVC
  encHevcPic : VAEncPictureParameterBufferHEVC
  encHevcSlice : VAEncSliceParameterBufferHEVC
  hasEncSeq : Bool
  hasEncPic : Bool
  hasEncSlice : Bool
  encSliceCount : UInt32
  encSliceUnits : UInt32
  encSliceUnitSpan : UInt32
  encSliceLastUnits : UInt32
  encBitrate : UInt32
  encFpsNum : UInt32
  encFpsDen : UInt32
  deriving DecidableEq

/-- The `coding` field. -/
def RKContext.coding (c : RKContext) : Coding := profileToCoding c.profile

/-- `hevc_ctu_size` (`mpp_enc.c:70-77`) of a sequence parameter set. -/
def ctuSize (seq : VAEncSequenceParameterBufferHEVC) : Nat :=
  let log2Size := 3 + seq.log2MinLumaCodingBlockSizeMinus3.toNat +
    seq.log2DiffMaxMinLumaCodingBlockSize.toNat
  if log2Size ≤ 6 then 2 ^ log2Size else 0

/-- `hevc_ctu_size` of a context. -/
def hevcCtuSize (c : RKContext) : Nat := ctuSize c.encHevcSeq

/-! ## Slices -/

/-- `add_encoder_slice` (`mpp_enc.c:79-96`); `none` where it returns false. -/
def addEncoderSlice (c : RKContext) (address units : UInt32) (unitsPerRow : Nat) :
    Option RKContext :=
  if units = 0 ∨ unitsPerRow = 0 ∨ address ≠ c.encSliceUnits ∨
      address.toNat % unitsPerRow ≠ 0 ∨ units.toNat % unitsPerRow ≠ 0 ∨
      (c.encSliceCount ≠ 0 ∧
        (c.encSliceLastUnits ≠ c.encSliceUnitSpan ∨ c.encSliceUnitSpan < units)) ∨
      0xffffffff - c.encSliceUnits < units then none
  else
    some { c with
      encSliceUnitSpan := if c.encSliceCount = 0 then units else c.encSliceUnitSpan
      encSliceCount := c.encSliceCount + 1
      encSliceUnits := c.encSliceUnits + units
      encSliceLastUnits := units }

/-- `hevc_slices_compatible` (`mpp_enc.c:98-124`). -/
def hevcSlicesCompatible (first next : VAEncSliceParameterBufferHEVC) : Bool :=
  first.sliceType == next.sliceType &&
    first.slicePicParameterSetId == next.slicePicParameterSetId &&
    first.sliceQpDelta == next.sliceQpDelta &&
    first.sliceCbQpOffset == next.sliceCbQpOffset &&
    first.sliceCrQpOffset == next.sliceCrQpOffset &&
    first.sliceBetaOffsetDiv2 == next.sliceBetaOffsetDiv2 &&
    first.sliceTcOffsetDiv2 == next.sliceTcOffsetDiv2 &&
    first.dependentSliceSegmentFlag == next.dependentSliceSegmentFlag &&
    first.sliceSaoLumaFlag == next.sliceSaoLumaFlag &&
    first.sliceSaoChromaFlag == next.sliceSaoChromaFlag &&
    first.sliceDeblockingFilterDisabledFlag == next.sliceDeblockingFilterDisabledFlag &&
    first.sliceLoopFilterAcrossSlicesEnabledFlag == next.sliceLoopFilterAcrossSlicesEnabledFlag

/-- `units_per_row` of an H.264 picture. -/
def macroblocksPerRow (c : RKContext) : Nat := (c.size.width + 15) / 16

/-- `units_per_row` of an HEVC picture. `rk_RenderPicture` lets no buffer through without a render
surface. -/
def ctusPerRow (c : RKContext) : Nat :=
  match c.renderSurface with
  | some s => if hevcCtuSize c = 0 then 0 else (s.width + hevcCtuSize c - 1) / hevcCtuSize c
  | none => 0

/-- One turn of the loop over the H.264 slices (`mpp_enc.c:394-406`); `none` where it returns. -/
def takeSliceH264 (c : RKContext) (slice : VAEncSliceParameterBufferH264) : Option RKContext :=
  if c.encSliceCount ≠ 0 ∧ c.encSlice.sliceType ≠ slice.sliceType then none
  else (addEncoderSlice c slice.macroblockAddress slice.numMacroblocks (macroblocksPerRow c)).map
    fun c => if c.encSliceCount = 1 then { c with encSlice := slice } else c

/-- One turn of the loop over the HEVC slices (`mpp_enc.c:415-439`); `none` where it returns. -/
def takeSliceHevc (c : RKContext) (slice : VAEncSliceParameterBufferHEVC) : Option RKContext :=
  if c.encSliceCount ≠ 0 ∧
      (hevcSlicesCompatible c.encHevcSlice slice = false ∨
        c.encHevcSlice.lastSliceOfPicFlag = true) then none
  else (addEncoderSlice c slice.sliceSegmentAddress slice.numCtuInSlice (ctusPerRow c)).map fun c =>
    if c.encSliceCount = 1 then { c with encHevcSlice := slice }
    else if slice.lastSliceOfPicFlag then
      { c with encHevcSlice := { c.encHevcSlice with lastSliceOfPicFlag := true } }
    else c

/-- The loop over the slices of a buffer, and whether it came to its end. -/
def takeSlices {σ : Type} (take : RKContext → σ → Option RKContext) :
    List σ → RKContext → Bool × RKContext
  | [], c => (true, c)
  | slice :: slices, c =>
    match take c slice with
    | none => (false, c)
    | some c => takeSlices take slices c

/-! ## The parameter buffers -/

/-- The checks of an H.264 sequence parameter set (`mpp_enc.c:300-307`). -/
def validSeqH264 (c : RKContext) (seq : VAEncSequenceParameterBufferH264) : Bool :=
  !(seq.pictureWidthInMbs == 0 || seq.pictureHeightInMbs == 0 ||
    seq.pictureWidthInMbs != UInt16.ofNat ((c.size.width + 15) / 16) ||
    seq.pictureHeightInMbs != UInt16.ofNat ((c.size.height + 15) / 16) ||
    decide (0x7fffffff < seq.intraPeriod))

/-- The checks of an HEVC sequence parameter set (`mpp_enc.c:314-341`). -/
def validSeqHevc (c : RKContext) (seq : VAEncSequenceParameterBufferHEVC) : Bool :=
  let visibleDimensions := c.renderSurface.any fun s =>
    seq.picWidthInLumaSamples == UInt16.ofNat s.width &&
      seq.picHeightInLumaSamples == UInt16.ofNat s.height
  let alignedContextDimensions := c.renderSurface.any fun s =>
    roundUp 16 s.width == c.size.width && roundUp 16 s.height == c.size.height &&
      seq.picWidthInLumaSamples == UInt16.ofNat c.size.width &&
      seq.picHeightInLumaSamples == UInt16.ofNat c.size.height
  !(seq.generalProfileIdc != 1 || (!visibleDimensions && !alignedContextDimensions) ||
    seq.chromaFormatIdc != 1 || seq.separateColourPlaneFlag || seq.bitDepthLumaMinus8 != 0 ||
    seq.bitDepthChromaMinus8 != 0 || seq.scalingListEnabledFlag || seq.pcmEnabledFlag ||
    decide (1 < seq.ipPeriod) || decide (0x7fffffff < seq.intraPeriod) || ctuSize seq == 0)

/-- The checks of an HEVC picture parameter set (`mpp_enc.c:366-375`). -/
def validPicHevc (pic : VAEncPictureParameterBufferHEVC) : Bool :=
  !(pic.numTileColumnsMinus1 != 0 || pic.numTileRowsMinus1 != 0 || pic.tilesEnabledFlag ||
    pic.scalingListDataPresentFlag || pic.weightedPredFlag || pic.weightedBipredFlag ||
    decide (pic.codingType.val < 1) || decide (2 < pic.codingType.val) ||
    decide (2 < pic.diffCuQpDeltaDepth))

/-- The case `VAEncSequenceParameterBufferType` (`mpp_enc.c:295-350`). -/
def renderSequence (sizes : VaSizes) (c : RKContext) (b : RKBuffer) : VAStatus × RKContext :=
  match c.coding with
  | .avc =>
    if b.bytes < sizes.seqH264 then (.invalidBuffer, c)
    else
      let c := { c with encSeq := b.data.seqH264 }
      if !validSeqH264 c c.encSeq then (.invalidParameter, c)
      else (.success, { c with hasEncSeq := true })
  | .hevc =>
    if b.bytes < sizes.seqHevc then (.invalidBuffer, c)
    else
      let c := { c with encHevcSeq := b.data.seqHevc }
      if !validSeqHevc c c.encHevcSeq then (.invalidParameter, c)
      else (.success, { c with hasEncSeq := true })

/-- The case `VAEncPictureParameterBufferType` (`mpp_enc.c:351-385`). -/
def renderPicture (sizes : VaSizes) (c : RKContext) (b : RKBuffer) : VAStatus × RKContext :=
  match c.coding with
  | .avc =>
    if b.bytes < sizes.picH264 then (.invalidBuffer, c)
    else (.success, { c with encPic := b.data.picH264, hasEncPic := true })
  | .hevc =>
    if b.bytes < sizes.picHevc then (.invalidBuffer, c)
    else
      let c := { c with encHevcPic := b.data.picHevc }
      if !validPicHevc c.encHevcPic then (.invalidParameter, c)
      else (.success, { c with hasEncPic := true })

/-- The end of the case `VAEncSliceParameterBufferType`. -/
def finishSlices : Bool × RKContext → VAStatus × RKContext
  | (true, c) => (.success, { c with hasEncSlice := true })
  | (false, c) => (.invalidParameter, c)

/-- The case `VAEncSliceParameterBufferType` (`mpp_enc.c:386-443`). -/
def renderSlices (sizes : VaSizes) (c : RKContext) (b : RKBuffer) : VAStatus × RKContext :=
  if b.numElements = 0 then (.invalidBuffer, c)
  else
    match c.coding with
    | .avc =>
      if b.size.toNat < sizes.sliceH264 then (.invalidBuffer, c)
      else finishSlices (takeSlices takeSliceH264 b.slicesH264 c)
    | .hevc =>
      if b.size.toNat < sizes.sliceHevc then (.invalidBuffer, c)
      else finishSlices (takeSlices takeSliceHevc b.slicesHevc c)

/-- The frame rate of a misc parameter buffer, written before it is checked
(`mpp_enc.c:462-467`). -/
def takeFrameRate (c : RKContext) (framerate : UInt32) : VAStatus × RKContext :=
  let c := { c with encFpsNum := framerate &&& 0xffff, encFpsDen := framerate >>> 16 }
  let c := if c.encFpsDen = 0 then { c with encFpsDen := 1 } else c
  if c.encFpsNum = 0 then (.invalidParameter, c) else (.success, c)

/-- The case `VAEncMiscParameterBufferType` (`mpp_enc.c:444-469`). -/
def renderMisc (sizes : VaSizes) (c : RKContext) (b : RKBuffer) : VAStatus × RKContext :=
  if b.bytes < sizes.misc then (.invalidBuffer, c)
  else
    match b.data.miscType with
    | .rateControl =>
      if b.bytes < sizes.misc + sizes.rateControl then (.invalidBuffer, c)
      else if 0x7fffffff < b.data.bitsPerSecond then (.invalidParameter, c)
      else (.success, { c with encBitrate := b.data.bitsPerSecond })
    | .frameRate =>
      if b.bytes < sizes.misc + sizes.frameRate then (.invalidBuffer, c)
      else takeFrameRate c b.data.framerate
    | .other => (.success, c)

/-- `rk_mpp_enc_render_buffer` (`mpp_enc.c:291-473`). -/
def rkMppEncRenderBuffer (sizes : VaSizes) (c : RKContext) (b : RKBuffer) :
    VAStatus × RKContext :=
  match b.type with
  | .encSequenceParameter => renderSequence sizes c b
  | .encPictureParameter => renderPicture sizes c b
  | .encSliceParameter => renderSlices sizes c b
  | .encMiscParameter => renderMisc sizes c b
  | .other => (.unsupportedBufferType, c)

/-! ## What a parameter buffer can do -/

/-- The ways out of `rk_mpp_enc_render_buffer`: the status and the context behind it. -/
inductive RenderMove (c : RKContext) (b : RKBuffer) : VAStatus → RKContext → Prop
  | kept {status : VAStatus} (refused : status ≠ .success) : RenderMove c b status c
  | seqH264 (type : b.type = .encSequenceParameter) (coding : c.coding = .avc)
      (valid : validSeqH264 c b.data.seqH264 = true) :
      RenderMove c b .success { c with encSeq := b.data.seqH264, hasEncSeq := true }
  | badSeqH264 (type : b.type = .encSequenceParameter) (coding : c.coding = .avc)
      (invalid : validSeqH264 c b.data.seqH264 = false) :
      RenderMove c b .invalidParameter { c with encSeq := b.data.seqH264 }
  | seqHevc (type : b.type = .encSequenceParameter) (coding : c.coding = .hevc)
      (valid : validSeqHevc c b.data.seqHevc = true) :
      RenderMove c b .success { c with encHevcSeq := b.data.seqHevc, hasEncSeq := true }
  | badSeqHevc (type : b.type = .encSequenceParameter) (coding : c.coding = .hevc)
      (invalid : validSeqHevc c b.data.seqHevc = false) :
      RenderMove c b .invalidParameter { c with encHevcSeq := b.data.seqHevc }
  | picH264 (type : b.type = .encPictureParameter) (coding : c.coding = .avc) :
      RenderMove c b .success { c with encPic := b.data.picH264, hasEncPic := true }
  | picHevc (type : b.type = .encPictureParameter) (coding : c.coding = .hevc)
      (valid : validPicHevc b.data.picHevc = true) :
      RenderMove c b .success { c with encHevcPic := b.data.picHevc, hasEncPic := true }
  | badPicHevc (type : b.type = .encPictureParameter) (coding : c.coding = .hevc)
      (invalid : validPicHevc b.data.picHevc = false) :
      RenderMove c b .invalidParameter { c with encHevcPic := b.data.picHevc }
  | slicesH264 (type : b.type = .encSliceParameter) (coding : c.coding = .avc) :
      RenderMove c b (finishSlices (takeSlices takeSliceH264 b.slicesH264 c)).1
        (finishSlices (takeSlices takeSliceH264 b.slicesH264 c)).2
  | slicesHevc (type : b.type = .encSliceParameter) (coding : c.coding = .hevc) :
      RenderMove c b (finishSlices (takeSlices takeSliceHevc b.slicesHevc c)).1
        (finishSlices (takeSlices takeSliceHevc b.slicesHevc c)).2
  | bitrate (type : b.type = .encMiscParameter) (misc : b.data.miscType = .rateControl) :
      RenderMove c b .success { c with encBitrate := b.data.bitsPerSecond }
  | frameRate (type : b.type = .encMiscParameter) (misc : b.data.miscType = .frameRate) :
      RenderMove c b (takeFrameRate c b.data.framerate).1 (takeFrameRate c b.data.framerate).2
  | otherMisc (type : b.type = .encMiscParameter) (misc : b.data.miscType = .other) :
      RenderMove c b .success c

theorem renderSequence_move (sizes : VaSizes) (c : RKContext) {b : RKBuffer}
    (type : b.type = .encSequenceParameter) :
    RenderMove c b (renderSequence sizes c b).1 (renderSequence sizes c b).2 := by
  unfold renderSequence
  cases coding : c.coding with
  | avc =>
    dsimp only
    split
    · exact .kept (by simp)
    · have same : validSeqH264 { c with encSeq := b.data.seqH264 } b.data.seqH264 =
          validSeqH264 c b.data.seqH264 := rfl
      rw [same]
      cases valid : validSeqH264 c b.data.seqH264 with
      | true => exact .seqH264 type coding valid
      | false => exact .badSeqH264 type coding valid
  | hevc =>
    dsimp only
    split
    · exact .kept (by simp)
    · have same : validSeqHevc { c with encHevcSeq := b.data.seqHevc } b.data.seqHevc =
          validSeqHevc c b.data.seqHevc := rfl
      rw [same]
      cases valid : validSeqHevc c b.data.seqHevc with
      | true => exact .seqHevc type coding valid
      | false => exact .badSeqHevc type coding valid

theorem renderPicture_move (sizes : VaSizes) (c : RKContext) {b : RKBuffer}
    (type : b.type = .encPictureParameter) :
    RenderMove c b (renderPicture sizes c b).1 (renderPicture sizes c b).2 := by
  unfold renderPicture
  cases coding : c.coding with
  | avc =>
    dsimp only
    split
    · exact .kept (by simp)
    · exact .picH264 type coding
  | hevc =>
    dsimp only
    split
    · exact .kept (by simp)
    · cases valid : validPicHevc b.data.picHevc with
      | true => exact .picHevc type coding valid
      | false => exact .badPicHevc type coding valid

theorem renderSlices_move (sizes : VaSizes) (c : RKContext) {b : RKBuffer}
    (type : b.type = .encSliceParameter) :
    RenderMove c b (renderSlices sizes c b).1 (renderSlices sizes c b).2 := by
  unfold renderSlices
  split
  · exact .kept (by simp)
  · cases coding : c.coding with
    | avc =>
      dsimp only
      split
      · exact .kept (by simp)
      · exact .slicesH264 type coding
    | hevc =>
      dsimp only
      split
      · exact .kept (by simp)
      · exact .slicesHevc type coding

theorem renderMisc_move (sizes : VaSizes) (c : RKContext) {b : RKBuffer}
    (type : b.type = .encMiscParameter) :
    RenderMove c b (renderMisc sizes c b).1 (renderMisc sizes c b).2 := by
  unfold renderMisc
  split
  · exact .kept (by simp)
  · cases misc : b.data.miscType with
    | rateControl =>
      dsimp only
      split
      · exact .kept (by simp)
      · split
        · exact .kept (by simp)
        · exact .bitrate type misc
    | frameRate =>
      dsimp only
      split
      · exact .kept (by simp)
      · exact .frameRate type misc
    | other => exact .otherMisc type misc

theorem rkMppEncRenderBuffer_move (sizes : VaSizes) (c : RKContext) (b : RKBuffer) :
    RenderMove c b (rkMppEncRenderBuffer sizes c b).1 (rkMppEncRenderBuffer sizes c b).2 := by
  unfold rkMppEncRenderBuffer
  cases type : b.type with
  | encSequenceParameter => exact renderSequence_move sizes c type
  | encPictureParameter => exact renderPicture_move sizes c type
  | encSliceParameter => exact renderSlices_move sizes c type
  | encMiscParameter => exact renderMisc_move sizes c type
  | other => exact .kept (by simp)

/-! ## The calls -/

/-- The encoder loop of `rk_RenderPicture` (`context.c:423-440`). A buffer that does not exist and
one that is refused end it. -/
def renderBuffers (sizes : VaSizes) : RKContext → List (Option RKBuffer) → VAStatus × RKContext
  | c, [] => (.success, c)
  | c, none :: _ => (.invalidBuffer, c)
  | c, some b :: buffers =>
    match rkMppEncRenderBuffer sizes c b with
    | (.success, c) => renderBuffers sizes c buffers
    | refused => refused

/-- `rk_RenderPicture` on an encoder context (`context.c:423-440`). -/
def rkRenderPicture (sizes : VaSizes) (c : RKContext) (buffers : List (Option RKBuffer)) :
    VAStatus × RKContext :=
  if c.renderSurface = none then (.operationFailed, c) else renderBuffers sizes c buffers

/-- The slice accumulators of a picture that begins or has ended. -/
def RKContext.noSlices (c : RKContext) : RKContext :=
  { c with
    hasEncPic := false, hasEncSlice := false, encSliceCount := 0, encSliceUnits := 0
    encSliceUnitSpan := 0, encSliceLastUnits := 0 }

/-- `rk_BeginPicture` on an encoder context (`context.c:296-327`). -/
def rkBeginPicture (c : RKContext) (s : RenderSurface) : VAStatus × RKContext :=
  let exactDimensions := s.width == c.size.width && s.height == c.size.height
  let alignedHevcDimensions := c.coding == .hevc && roundUp 16 s.width == c.size.width &&
    roundUp 16 s.height == c.size.height
  if (!exactDimensions && !alignedHevcDimensions) || s.tenBit then (.invalidSurface, c)
  else if c.renderSurface.isSome then (.operationFailed, c)
  else (.success, { c.noSlices with renderSurface := some s })

/-- An H.264 encoder for pictures of two by three macroblocks. -/
def smallEncoder : RKContext where
  profile := .h264Main
  rateControl := .cbr
  size := ⟨32, 48, by decide, by decide, by decide, by decide⟩
  renderSurface := none
  encSeq := ⟨40, 0, 0, 2, 3, []⟩
  encPic := ⟨0, 26, true, true, false, []⟩
  encSlice := ⟨0, 0, 2, []⟩
  encHevcSeq := ⟨1, 0, 0, 0, 0, 0, 0, 0, 1, false, 0, 0, false, false, 0, 0, []⟩
  encHevcPic := ⟨0, 26, 0, 0, 0, 0, 0, false, 1, false, false, false, false, false, []⟩
  encHevcSlice := ⟨0, 0, 2, 0, 0, 0, 0, 0, 0, false, false, false, false, false, false, []⟩
  hasEncSeq := true
  hasEncPic := true
  hasEncSlice := false
  encSliceCount := 0
  encSliceUnits := 0
  encSliceUnitSpan := 0
  encSliceLastUnits := 0
  encBitrate := 0
  encFpsNum := 30
  encFpsDen := 1

end RockchipVaapi.Encoder
