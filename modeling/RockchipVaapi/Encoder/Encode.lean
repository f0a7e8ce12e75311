import RockchipVaapi.Encoder.Parameters

/-!
# Encoding a picture

`configure_encoder` as the list of the settings it makes, and `rk_mpp_enc_encode` around it: the
checks of the collected parameters before it, and the exchange with MPP behind it.
-/

namespace RockchipVaapi.Encoder

/-- `MPP_ENC_RC_MODE_...`. -/
inductive RcMode
  | cbr
  | vbr
  | fixqp
  deriving DecidableEq, Repr

/-- A value of an encoder setting. Constants of MPP keep their names. -/
inductive ConfigValue
  | number (value : Int)
  | formatYuv420sp
  | rcMode (mode : RcMode)
  | splitNone
  | splitByCtu
  deriving DecidableEq, Repr

/-- A flag as a value. -/
def ConfigValue.flag (value : Bool) : ConfigValue := .number (if value then 1 else 0)

/-- The conversion of a `uint32_t` to an `int32_t`. -/
def asInt32 (value : UInt32) : Int := value.toBitVec.toInt

/-- `mpp_rc_mode` (`mpp_enc.c:27-34`). -/
def mppRcMode : RateControl → RcMode
  | .cbr => .cbr
  | .vbr => .vbr
  | .other => .fixqp

/-- `bounded_bitrate` (`mpp_enc.c:36-43`). -/
def boundedBitrate (value : Int) : Int :=
  if value < 1 then 1 else if 0x7fffffff < value then 0x7fffffff else value

/-- `encoder_bitrate` (`mpp_enc.c:45-52`). -/
def encoderBitrate (c : RKContext) : UInt32 :=
  if c.encBitrate ≠ 0 then c.encBitrate
  else
    match c.coding with
    | .hevc => c.encHevcSeq.bitsPerSecond
    | .avc => c.encSeq.bitsPerSecond

/-- `encoder_gop` (`mpp_enc.c:54-60`). -/
def encoderGop (c : RKContext) : UInt32 :=
  let value := match c.coding with
    | .hevc => c.encHevcSeq.intraPeriod
    | .avc => c.encSeq.intraPeriod
  if value ≠ 0 then value else 60

/-- `encoder_qp` (`mpp_enc.c:62-68`). -/
def encoderQp (c : RKContext) : Int :=
  let value := match c.coding with
    | .hevc => c.encHevcPic.picInitQp
    | .avc => c.encPic.picInitQp
  if 1 ≤ value ∧ value ≤ 51 then value.toNat else 26

/-- `encoder_width` (`mpp_enc.c:126-130`). -/
def encoderWidth (c : RKContext) : Nat := c.renderSurface.elim c.size.width RenderSurface.width

/-- `encoder_height` (`mpp_enc.c:132-136`). -/
def encoderHeight (c : RKContext) : Nat := c.renderSurface.elim c.size.height RenderSurface.height

/-- The settings of every picture (`mpp_enc.c:161-179`). -/
def pictureSettings (c : RKContext) : List (String × ConfigValue) :=
  let hstride := c.renderSurface.elim (roundUp 16 (encoderWidth c)) RenderSurface.hstride
  let vstride := c.renderSurface.elim (roundUp 16 (encoderHeight c)) RenderSurface.vstride
  let fpsNum := if c.encFpsNum ≠ 0 then c.encFpsNum else 30
  let fpsDen := if c.encFpsDen ≠ 0 then c.encFpsDen else 1
  [("prep:width", .number (encoderWidth c)), ("prep:height", .number (encoderHeight c)),
    ("prep:hor_stride", .number hstride), ("prep:ver_stride", .number vstride),
    ("prep:format", .formatYuv420sp), ("rc:fps_in_flex", .number 0),
    ("rc:fps_in_num", .number (asInt32 fpsNum)), ("rc:fps_in_denom", .number (asInt32 fpsDen)),
    ("rc:fps_out_flex", .number 0), ("rc:fps_out_num", .number (asInt32 fpsNum)),
    ("rc:fps_out_denom", .number (asInt32 fpsDen)), ("rc:gop", .number (asInt32 (encoderGop c))),
    ("rc:mode", .rcMode (mppRcMode c.rateControl)), ("rc:qp_init", .number (encoderQp c)),
    ("split:mode", if 1 < c.encSliceCount then .splitByCtu else .splitNone),
    ("split:arg", .number (if 1 < c.encSliceCount then asInt32 c.encSliceUnitSpan else 0)),
    ("split:out", .number 0)]

/-- The settings of the codec (`mpp_enc.c:181-231`). -/
def codecSettings (c : RKContext) : List (String × ConfigValue) :=
  match c.coding with
  | .avc =>
    [("h264:profile", .number (if c.profile = .h264High then 100 else 77)),
      ("h264:level", .number (if c.encSeq.levelIdc ≠ 0 then c.encSeq.levelIdc.toNat else 40)),
      ("h264:cabac_en", .flag c.encPic.entropyCodingModeFlag), ("h264:cabac_idc", .number 0),
      ("h264:trans8x8", .flag c.encPic.transform8x8ModeFlag)]
  | .hevc =>
    [("h265:profile", .number c.encHevcSeq.generalProfileIdc.toNat),
      ("h265:tier", .number c.encHevcSeq.generalTierFlag.toNat),
      ("h265:level", .number
        (if c.encHevcSeq.generalLevelIdc ≠ 0 then c.encHevcSeq.generalLevelIdc.toNat else 120)),
      ("h265:lcu_size", .number (hevcCtuSize c)),
      ("h265:diff_cu_qp_delta_depth", .number c.encHevcPic.diffCuQpDeltaDepth.toNat),
      ("h265:cb_qp_offset", .number c.encHevcPic.ppsCbQpOffset.toInt),
      ("h265:cr_qp_offset", .number c.encHevcPic.ppsCrQpOffset.toInt),
      ("h265:const_intra", .flag c.encHevcPic.constrainedIntraPredFlag),
      ("h265:sao_luma_disable", .flag !c.encHevcSlice.sliceSaoLumaFlag),
      ("h265:sao_chroma_disable", .flag !c.encHevcSlice.sliceSaoChromaFlag),
      ("h265:dblk_disable", .flag c.encHevcSlice.sliceDeblockingFilterDisabledFlag),
      ("h265:dblk_alpha", .number c.encHevcSlice.sliceBetaOffsetDiv2.toInt),
      ("h265:dblk_beta", .number c.encHevcSlice.sliceTcOffsetDiv2.toInt)]

/-- The settings of the rate control (`mpp_enc.c:233-257`). -/
def rateSettings (c : RKContext) : List (String × ConfigValue) :=
  let qp := encoderQp c
  let requested := encoderBitrate c
  let bitrate := boundedBitrate (if requested ≠ 0 then requested.toNat else 2000000)
  match mppRcMode c.rateControl with
  | .fixqp =>
    [("rc:qp_min", .number qp), ("rc:qp_max", .number qp), ("rc:qp_min_i", .number qp),
      ("rc:qp_max_i", .number qp), ("rc:qp_ip", .number 0)]
  | mode =>
    [("rc:bps_target", .number bitrate),
      ("rc:bps_max", .number
        (boundedBitrate (if mode = .cbr then bitrate * 17 / 16 else bitrate * 3 / 2))),
      ("rc:bps_min", .number
        (boundedBitrate (if mode = .cbr then bitrate * 15 / 16 else bitrate / 16))),
      ("rc:qp_min", .number 0), ("rc:qp_max", .number 48), ("rc:qp_min_i", .number 0),
      ("rc:qp_max_i", .number 48), ("rc:qp_ip", .number 2)]

/-- All settings of `configure_encoder`, in order. -/
def encoderSettings (c : RKContext) : List (String × ConfigValue) :=
  pictureSettings c ++ codecSettings c ++ rateSettings c

/-- What `rk_mpp_enc_encode` finds outside the context. -/
structure EncodeEnv where
  /-- `buffer_acquire`: whether the buffer that is found is a coded buffer. -/
  codedBuffer : UInt32 → Option Bool
  /-- The input buffer of the surface is there, imported and converted. -/
  inputReady : Bool
  accepts : String × ConfigValue → Bool
  setCfg : Bool
  frameInit : Bool
  setIdrFrame : Bool
  putFrame : Bool
  /-- The length of the packet, where MPP returned one with data. -/
  packet : Option Nat
  storeCoded : VAStatus

/-- The settings that are made, up to the first one MPP refuses, and the result of
`configure_encoder` (`mpp_enc.c:138-266`). -/
def configureEncoder (env : EncodeEnv) (c : RKContext) : List (String × ConfigValue) × Bool :=
  ((encoderSettings c).takeWhile env.accepts, (encoderSettings c).all env.accepts && env.setCfg)

/-- The number of macroblocks or coding tree units of a picture; nothing without a unit size. -/
def pictureUnits (c : RKContext) (s : RenderSurface) : Option Nat :=
  match c.coding with
  | .avc => some (((c.size.width + 15) / 16) * ((c.size.height + 15) / 16))
  | .hevc =>
    let ctu := hevcCtuSize c
    if ctu = 0 then none else some ((s.width + ctu - 1) / ctu * ((s.height + ctu - 1) / ctu))

/-- The total-units check of `rk_mpp_enc_encode` (`mpp_enc.c:482-500`). -/
def coversPicture (c : RKContext) (s : RenderSurface) : Bool :=
  (pictureUnits c s).any fun units => c.encSliceUnits == UInt32.ofNat units

/-- The last HEVC slice was flagged as such. -/
def lastSliceSeen (c : RKContext) : Bool := c.coding == .avc || c.encHevcSlice.lastSliceOfPicFlag

/-- What `rk_mpp_enc_encode` returns, the settings it made, and the failure flag of the coded
buffer where one was found. -/
structure EncodeResult where
  status : VAStatus
  settings : List (String × ConfigValue)
  codedFailed : Option Bool
  deriving DecidableEq, Repr

/-- The part of `rk_mpp_enc_encode` behind the configuration (`mpp_enc.c:534-569`). -/
def submitPicture (env : EncodeEnv) (requestIdr : Bool) : VAStatus :=
  if !env.frameInit || (requestIdr && !env.setIdrFrame) || !env.putFrame then .encodingError
  else
    match env.packet with
    | none => .encodingError
    | some length => if length = 0 ∨ 0xffffffff < length then .encodingError else env.storeCoded

/-- `rk_mpp_enc_encode` (`mpp_enc.c:475-585`). -/
def rkMppEncEncode (env : EncodeEnv) (c : RKContext) : EncodeResult :=
  match c.renderSurface with
  | none => ⟨.invalidParameter, [], none⟩
  | some s =>
    if !c.hasEncSeq || !c.hasEncPic || !c.hasEncSlice || !coversPicture c s || !lastSliceSeen c then
      ⟨.invalidParameter, [], none⟩
    else
      let codedId := match c.coding with
        | .avc => c.encPic.codedBuf
        | .hevc => c.encHevcPic.codedBuf
      let requestIdr := match c.coding with
        | .avc => c.encPic.idrPicFlag
        | .hevc => c.encHevcPic.idrPicFlag
      if env.codedBuffer codedId ≠ some true then ⟨.invalidBuffer, [], none⟩
      else if !env.inputReady then ⟨.encodingError, [], some true⟩
      else
        let configured := configureEncoder env c
        let status := if configured.2 then submitPicture env requestIdr else .encodingError
        ⟨status, configured.1, some (status != .success)⟩

/-- `rk_EndPicture` on an encoder context (`context.c:496-517`). -/
def rkEndPicture (env : EncodeEnv) (c : RKContext) : EncodeResult × RKContext :=
  if c.renderSurface = none then (⟨.operationFailed, [], none⟩, c)
  else (rkMppEncEncode env c, { c.noSlices with renderSurface := none })

end RockchipVaapi.Encoder
