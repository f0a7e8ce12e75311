import RockchipVaapi.Config.Profiles
import RockchipVaapi.ObjectHeap.Heap
import RockchipVaapi.Surface.Attributes
import RockchipVaapi.Surface.Convert

/-!
# Configurations

An application asks what a profile and an entry point can do, creates a configuration with some of
the answers, and asks the configuration for the formats of its surfaces. What a creation takes is
exactly what was reported.
-/

namespace RockchipVaapi.Config

open ObjectHeap

/-- The types of attributes that `rk_GetConfigAttributes` tells apart. -/
inductive VAConfigAttribType
  | rtFormat
  | rateControl
  | encPackedHeaders
  | encInterlaced
  | encMaxRefFrames
  | encMaxSlices
  | encSliceStructure
  | encQualityRange
  | maxPictureWidth
  | maxPictureHeight
  | encHevcFeatures
  | encHevcBlockSizes
  | decSliceMode
  | encryption
  | other (value : Int)
  deriving DecidableEq, Repr

structure VAConfigAttrib where
  type : VAConfigAttribType
  value : UInt32
  deriving DecidableEq, Repr

def vaAttribNotSupported : UInt32 := 0x80000000

def vaRtFormatYuv420 : UInt32 := 0x1

def vaRtFormatYuv42010 : UInt32 := 0x100

def vaRcCqp : UInt32 := 0x10

def vaRcCbr : UInt32 := 0x2

def vaRcVbr : UInt32 := 0x4

def vaEncPackedHeaderNone : UInt32 := 0

def vaEncInterlacedNone : UInt32 := 0

def vaDecSliceModeNormal : UInt32 := 1

/-- `VA_ENC_SLICE_STRUCTURE_POWER_OF_TWO_ROWS`, `_EQUAL_ROWS` and `_EQUAL_MULTI_ROWS`. -/
def sliceStructures : UInt32 := 0x1 ||| 0x4 ||| 0x20

/-- `RK_MAX_WIDTH` and `RK_MAX_HEIGHT`. -/
def rkMaxDimension : UInt32 := 8192

/-- `hevc_encode_features` (`rockchip_drv_video.c:152-156`). -/
def hevcEncodeFeatures : UInt32 := 0

/-- `hevc_encode_block_sizes` (`rockchip_drv_video.c:158-173`), two bits for each field. -/
def hevcEncodeBlockSizes : UInt32 :=
  UInt32.ofNat (3 ||| 3 <<< 2 ||| 0 <<< 4 ||| 3 <<< 6 ||| 0 <<< 8 ||| 1 <<< 10 ||| 1 <<< 12 |||
    1 <<< 14 ||| 1 <<< 16 ||| 2 <<< 18 ||| 0 <<< 20)

/-- The render-target format of a profile, with which both functions begin. -/
def profileRtFormat (profile : VAProfile) (encode : Bool) : UInt32 :=
  if !encode && (profile == .hevcMain10 || profile == .vp9Profile2) then vaRtFormatYuv42010
  else vaRtFormatYuv420

/-- The `switch` of `rk_GetConfigAttributes` (`rockchip_drv_video.c:217-283`). -/
def configAttribute (profile : VAProfile) (encode : Bool) : VAConfigAttribType → UInt32
  | .rtFormat => profileRtFormat profile encode
  | .rateControl => if encode then vaRcCqp ||| vaRcCbr ||| vaRcVbr else vaAttribNotSupported
  | .encPackedHeaders => if encode then vaEncPackedHeaderNone else vaAttribNotSupported
  | .encInterlaced => if encode then vaEncInterlacedNone else vaAttribNotSupported
  | .encMaxRefFrames => if encode then 1 else vaAttribNotSupported
  | .encMaxSlices =>
    if !encode then vaAttribNotSupported
    else if profile = .hevcMain then (rkMaxDimension + 63) / 64
    else (rkMaxDimension + 15) / 16
  | .encSliceStructure => if encode then sliceStructures else vaAttribNotSupported
  | .encQualityRange => if encode then 1 else vaAttribNotSupported
  | .maxPictureWidth => if encode then rkMaxDimension else vaAttribNotSupported
  | .maxPictureHeight => if encode then rkMaxDimension else vaAttribNotSupported
  | .encHevcFeatures =>
    if encode && profile == .hevcMain then hevcEncodeFeatures else vaAttribNotSupported
  | .encHevcBlockSizes =>
    if encode && profile == .hevcMain then hevcEncodeBlockSizes else vaAttribNotSupported
  | .decSliceMode => if encode then vaAttribNotSupported else vaDecSliceModeNormal
  | .encryption => vaAttribNotSupported
  | .other _ => vaAttribNotSupported

/-- `rk_GetConfigAttributes` (`rockchip_drv_video.c:207-286`). -/
def rkGetConfigAttributes (env : Environment) (profile : VAProfile) (entrypoint : VAEntrypoint)
    (list : List VAConfigAttrib) : Except VAError (List VAConfigAttrib) :=
  let encode := entrypoint == .encSlice
  if encode && !encodeProfileSupported env profile then .error .unsupportedEntrypoint
  else .ok (list.map fun a => { a with value := configAttribute profile encode a.type })

/-! ## Creating -/

/-- The fields of `RKConfig`. -/
structure RKConfig where
  profile : VAProfile
  entrypoint : VAEntrypoint
  rtFormat : UInt32
  rateControl : UInt32
  deriving DecidableEq, Repr

/-- `rt_format` and `rate_control` in the loop of `rk_CreateConfig`. -/
structure RunningValues where
  rtFormat : UInt32
  rateControl : UInt32
  deriving DecidableEq, Repr

/-- One turn of the loop (`rockchip_drv_video.c:324-350`). -/
def takeAttrib (expectedRtFormat : UInt32) (encode : Bool) (st : RunningValues)
    (a : VAConfigAttrib) : Except VAError RunningValues :=
  match a.type with
  | .rtFormat =>
    if a.value ≠ expectedRtFormat then .error .unsupportedRtFormat
    else .ok { st with rtFormat := a.value }
  | .rateControl =>
    if !encode || (a.value != vaRcCqp && a.value != vaRcCbr && a.value != vaRcVbr) then
      .error .attrNotSupported
    else .ok { st with rateControl := a.value }
  | .encPackedHeaders =>
    if !encode || a.value != vaEncPackedHeaderNone then .error .attrNotSupported else .ok st
  | .decSliceMode =>
    if encode || a.value != vaDecSliceModeNormal then .error .attrNotSupported else .ok st
  | _ => .error .attrNotSupported

/-- The loop. -/
def takeAttribs (expectedRtFormat : UInt32) (encode : Bool) :
    RunningValues → List VAConfigAttrib → Except VAError RunningValues
  | st, [] => .ok st
  | st, a :: attribs =>
    match takeAttrib expectedRtFormat encode st a with
    | .error e => .error e
    | .ok st => takeAttribs expectedRtFormat encode st attribs

/-- `rk_CreateConfig` up to the allocation (`rockchip_drv_video.c:288-359`). No `attribs` stands for
a negative count, and for a null pointer with a positive one. -/
def configRequest (env : Environment) (profile : VAProfile) (entrypoint : VAEntrypoint)
    (attribs : Option (List VAConfigAttrib)) : Except VAError RKConfig :=
  if profileSupported env profile = false then .error .unsupportedProfile
  else
    let encode := entrypoint == .encSlice
    if entrypoint ≠ .vld ∧ encode = false then .error .unsupportedEntrypoint
    else if entrypoint = .vld ∧ decodeProfileSupported env profile = false then
      .error .unsupportedEntrypoint
    else if encode && !encodeProfileSupported env profile then .error .unsupportedEntrypoint
    else
      match attribs with
      | none => .error .invalidParameter
      | some attribs =>
        let expectedRtFormat := profileRtFormat profile encode
        match takeAttribs expectedRtFormat encode ⟨expectedRtFormat, vaRcCqp⟩ attribs with
        | .error e => .error e
        | .ok st => .ok ⟨profile, entrypoint, st.rtFormat, st.rateControl⟩

/-- `rk_CreateConfig` (`rockchip_drv_video.c:288-367`); `memory` and `alloc` are the outcomes of
`calloc` and of the `realloc` of the heap. -/
def rkCreateConfig (env : Environment) (heap : RKObjectHeap RKConfig) (profile : VAProfile)
    (entrypoint : VAEntrypoint) (attribs : Option (List VAConfigAttrib)) (memory alloc : Bool) :
    RKObjectHeap RKConfig × Except VAError UInt32 :=
  match configRequest env profile entrypoint attribs with
  | .error e => (heap, .error e)
  | .ok config =>
    if memory = false then (heap, .error .allocationFailed)
    else
      match insert heap config alloc with
      | (heap, none) => (heap, .error .allocationFailed)
      | (heap, some id) => (heap, .ok id)

/-- `rk_DestroyConfig` (`rockchip_drv_video.c:369-378`). -/
def rkDestroyConfig (heap : RKObjectHeap RKConfig) (id : UInt32) :
    RKObjectHeap RKConfig × Except VAError Unit :=
  match remove heap id with
  | (heap, none) => (heap, .error .invalidConfig)
  | (heap, some _) => (heap, .ok ())

/-- `config_acquire`. Between the calls the heap has the only reference to a configuration. -/
def configAcquire (heap : RKObjectHeap RKConfig) (id : UInt32) : Option RKConfig :=
  acquire heap id fun _ => 1

/-- The attributes that `rk_QueryConfigAttributes` reports. -/
def RKConfig.attribs (c : RKConfig) : List VAConfigAttrib :=
  ⟨.rtFormat, c.rtFormat⟩ ::
    if c.entrypoint = .encSlice then [⟨.rateControl, c.rateControl⟩] else []

/-- `rk_QueryConfigAttributes` (`rockchip_drv_video.c:380-406`). -/
def rkQueryConfigAttributes (heap : RKObjectHeap RKConfig) (id : UInt32) :
    Except VAError (VAProfile × VAEntrypoint × List VAConfigAttrib) :=
  match configAcquire heap id with
  | none => .error .invalidConfig
  | some c => .ok (c.profile, c.entrypoint, c.attribs)

/-! ## Surfaces of a configuration -/

/-- The `VASurfaceAttrib`s of a query, all with integer values. -/
inductive QueriedType
  | pixelFormat
  | memoryType
  | maxWidth
  | maxHeight
  deriving DecidableEq, Repr

structure QueriedAttrib where
  type : QueriedType
  settable : Bool
  value : UInt32
  deriving DecidableEq, Repr

/-- What a query leaves in `num_attribs` and in the list, and its status. -/
structure SurfaceQuery where
  count : Nat
  list : List QueriedAttrib
  status : Except VAError Unit

/-- The pixel formats of `rk_QuerySurfaceAttrs` (`rockchip_drv_video.c:498-505`, `521-545`). -/
def RKConfig.pixelFormats (c : RKConfig) (rga : Bool) : List Surface.Fourcc :=
  let is10bit := c.rtFormat == vaRtFormatYuv42010
  let encodeUploads := c.entrypoint == .encSlice && !is10bit
  let rgbImports := encodeUploads && rga
  [if is10bit then .p010 else .nv12] ++ (if encodeUploads then [.i420, .yv12] else []) ++
    if rgbImports then [.rgba, .rgbx, .bgra, .bgrx] else []

/-- `rk_QuerySurfaceAttrs` (`rockchip_drv_video.c:486-571`). `room` is `num_attribs` where the
application brings a list. -/
def rkQuerySurfaceAttrs (heap : RKObjectHeap RKConfig) (rga : Bool) (id : UInt32)
    (room : Option Nat) : Except VAError SurfaceQuery :=
  match configAcquire heap id with
  | none => .error .invalidConfig
  | some c =>
    let list := (c.pixelFormats rga).map (fun fourcc => ⟨.pixelFormat, true, fourcc.code⟩) ++
      [⟨.memoryType, true, Surface.memTypeVa ||| Surface.memTypeDrmPrime2⟩,
        ⟨.maxWidth, false, rkMaxDimension⟩, ⟨.maxHeight, false, rkMaxDimension⟩]
    match room with
    | none => .ok ⟨list.length, [], .ok ()⟩
    | some room =>
      if room < list.length then .ok ⟨list.length, [], .error .maxNumExceeded⟩
      else .ok ⟨list.length, list, .ok ()⟩

/-! ## Contexts of a configuration -/

inductive MppCodingType
  | avc
  | hevc
  | vp8
  | vp9
  | av1
  deriving DecidableEq, Repr

/-- `profile_to_coding` (`context.c:44-59`); `none` is `MPP_VIDEO_CodingUnused`. -/
def profileToCoding : VAProfile → Option MppCodingType
  | .h264ConstrainedBaseline | .h264Main | .h264High | .h264High10 => some .avc
  | .hevcMain | .hevcMain10 => some .hevc
  | .vp8Version03 => some .vp8
  | .vp9Profile0 | .vp9Profile2 => some .vp9
  | .av1Profile0 | .av1Profile1 => some .av1
  | .other _ => none

/-- The arguments of `rk_CreateContext`, with whether `targets` and `out_id` are null. -/
structure ContextArgs where
  width : Int
  height : Int
  nTargets : Int
  targets : Bool
  outId : Bool

/-- The fields that a context has from its configuration and its size. -/
structure ContextFields where
  profile : VAProfile
  entrypoint : VAEntrypoint
  rateControl : UInt32
  isEncoder : Bool
  width : Int
  height : Int
  coding : MppCodingType
  deriving DecidableEq, Repr

/-- `output_10bit` (`context.c:88-90`). -/
def output10bit (c : RKConfig) : Bool :=
  c.entrypoint == .vld && (c.profile == .hevcMain10 || c.profile == .vp9Profile2)

/-- `rk_CreateContext` up to the allocation (`context.c:61-110`). -/
def contextRequest (heap : RKObjectHeap RKConfig) (id : UInt32) (args : ContextArgs) :
    Except VAError ContextFields :=
  if args.width ≤ 0 ∨ args.height ≤ 0 ∨ 8192 < args.width ∨ 8192 < args.height ∨
      args.nTargets < 0 ∨ (0 < args.nTargets ∧ args.targets = false) ∨ args.outId = false then
    .error (if 8192 < args.width ∨ 8192 < args.height then .resolutionNotSupported
      else .invalidParameter)
  else
    match configAcquire heap id with
    | none => .error .invalidConfig
    | some c =>
      match profileToCoding c.profile with
      | none => .error .unsupportedProfile
      | some coding =>
        if output10bit c && !Surface.rkRgaNv15ToP010GeometrySupported args.width.toNat true then
          .error .resolutionNotSupported
        else
          .ok ⟨c.profile, c.entrypoint, c.rateControl, c.entrypoint == .encSlice, args.width,
            args.height, coding⟩

/-! ## What is taken was reported -/

/-- The attributes that a configuration may be created with. -/
def VAConfigAttribType.settable : VAConfigAttribType → Bool
  | .rtFormat | .rateControl | .encPackedHeaders | .decSliceMode => true
  | _ => false

/-- What a report offers: one bit of a mask of rate controls, and the value of any other attribute. -/
def Offers (reported : UInt32) (a : VAConfigAttrib) : Prop :=
  reported ≠ vaAttribNotSupported ∧
    if a.type = .rateControl then
      ∃ bit < 32, a.value = 1 <<< UInt32.ofNat bit ∧ reported &&& a.value ≠ 0
    else a.value = reported

/-- The last rate control of a list, and constant quantisers without one. -/
def rateControlOf (attribs : List VAConfigAttrib) (rateControl : UInt32) : UInt32 :=
  attribs.foldl (fun value a => if a.type = .rateControl then a.value else value) rateControl

section

variable {profile : VAProfile} {encode : Bool}

/-- The bits of the reported mask are the rate controls that are taken. -/
theorem offers_rateControl (value : UInt32) :
    (∃ bit < 32, value = 1 <<< UInt32.ofNat bit ∧ (vaRcCqp ||| vaRcCbr ||| vaRcVbr) &&& value ≠ 0) ↔
      value = vaRcCqp ∨ value = vaRcCbr ∨ value = vaRcVbr := by
  constructor
  · rintro ⟨bit, small, rfl, offered⟩
    have bits : ∀ bit < 32, (vaRcCqp ||| vaRcCbr ||| vaRcVbr) &&& 1 <<< UInt32.ofNat bit ≠ 0 →
        (1 : UInt32) <<< UInt32.ofNat bit = vaRcCqp ∨ (1 : UInt32) <<< UInt32.ofNat bit = vaRcCbr ∨
          (1 : UInt32) <<< UInt32.ofNat bit = vaRcVbr := by decide
    exact bits bit small offered
  · rintro (rfl | rfl | rfl)
    · exact ⟨4, by decide⟩
    · exact ⟨1, by decide⟩
    · exact ⟨2, by decide⟩

/-- One attribute is taken when its type may be set and the report offers its value. -/
theorem takeAttrib_iff {st st' : RunningValues} {a : VAConfigAttrib}
    (expected : st.rtFormat = profileRtFormat profile encode) :
    takeAttrib (profileRtFormat profile encode) encode st a = .ok st' ↔
      (a.type.settable = true ∧ Offers (configAttribute profile encode a.type) a) ∧
        st' = ⟨st.rtFormat, rateControlOf [a] st.rateControl⟩ := by
  obtain ⟨type, value⟩ := a
  have format : profileRtFormat profile encode ≠ vaAttribNotSupported := by
    unfold profileRtFormat
    split <;> decide
  have mask : vaRcCqp ||| vaRcCbr ||| vaRcVbr ≠ vaAttribNotSupported := by decide
  have none : vaEncPackedHeaderNone ≠ vaAttribNotSupported := by decide
  have normal : vaDecSliceModeNormal ≠ vaAttribNotSupported := by decide
  obtain ⟨rtFormat, rateControl⟩ := st
  dsimp only at expected
  subst expected
  cases type with
  | rtFormat =>
    by_cases same : value = profileRtFormat profile encode
    · simp [takeAttrib, VAConfigAttribType.settable, Offers, configAttribute, format, same,
        rateControlOf, eq_comm]
    · simp [takeAttrib, VAConfigAttribType.settable, Offers, configAttribute, same]
  | rateControl =>
    cases encode with
    | false => simp [takeAttrib, Offers, configAttribute]
    | true =>
      simp only [takeAttrib, Offers, configAttribute, VAConfigAttribType.settable, if_true,
        offers_rateControl, ne_eq, mask, not_false_eq_true, true_and, rateControlOf,
        List.foldl_cons, List.foldl_nil]
      by_cases taken : value = vaRcCqp ∨ value = vaRcCbr ∨ value = vaRcVbr
      · rw [if_neg (by simpa using fun a b => (taken.resolve_left a).resolve_left b)]
        simp [taken, eq_comm]
      · rw [if_pos (by simpa [not_or, and_assoc] using taken)]
        simp [taken]
  | encPackedHeaders =>
    cases encode with
    | false => simp [takeAttrib, Offers, configAttribute]
    | true =>
      by_cases same : value = vaEncPackedHeaderNone
      · simp [takeAttrib, Offers, configAttribute, VAConfigAttribType.settable, none, same,
          rateControlOf, eq_comm]
      · simp [takeAttrib, Offers, configAttribute, same]
  | decSliceMode =>
    cases encode with
    | true => simp [takeAttrib, Offers, configAttribute]
    | false =>
      by_cases same : value = vaDecSliceModeNormal
      · simp [takeAttrib, Offers, configAttribute, VAConfigAttribType.settable, normal, same,
          rateControlOf, eq_comm]
      · simp [takeAttrib, Offers, configAttribute, same]
  | _ => simp [takeAttrib, VAConfigAttribType.settable]

/-- The loop takes a list when it takes every attribute of it, and the last rate control counts. -/
theorem takeAttribs_iff {attribs : List VAConfigAttrib} {st st' : RunningValues}
    (expected : st.rtFormat = profileRtFormat profile encode) :
    takeAttribs (profileRtFormat profile encode) encode st attribs = .ok st' ↔
      (∀ a ∈ attribs, a.type.settable = true ∧ Offers (configAttribute profile encode a.type) a) ∧
        st' = ⟨st.rtFormat, rateControlOf attribs st.rateControl⟩ := by
  induction attribs generalizing st with
  | nil =>
    simp only [takeAttribs, rateControlOf, List.foldl_nil, Except.ok.injEq, List.not_mem_nil,
      false_imp_iff, implies_true, true_and]
    exact eq_comm
  | cons a attribs ih =>
    rw [takeAttribs, List.forall_mem_cons]
    cases turn : takeAttrib (profileRtFormat profile encode) encode st a with
    | error e =>
      have refused : ¬(a.type.settable = true ∧ Offers (configAttribute profile encode a.type) a) := by
        intro offered
        have taken := (takeAttrib_iff expected).mpr ⟨offered, rfl⟩
        rw [turn] at taken
        cases taken
      simp [refused]
    | ok next =>
      obtain ⟨offered, rfl⟩ := (takeAttrib_iff expected).mp turn
      have rest := @ih ⟨st.rtFormat, rateControlOf [a] st.rateControl⟩ expected
      dsimp only at rest ⊢
      rw [rest]
      simp [offered, rateControlOf]

/-- The end of a request, behind the checks of the profile and the entry point. -/
theorem taken_iff {entrypoint : VAEntrypoint} {attribs : List VAConfigAttrib} {config : RKConfig} :
    (match takeAttribs (profileRtFormat profile encode) encode
        ⟨profileRtFormat profile encode, vaRcCqp⟩ attribs with
      | .error e => .error e
      | .ok st => .ok ⟨profile, entrypoint, st.rtFormat, st.rateControl⟩) =
        (.ok config : Except VAError RKConfig) ↔
      (∀ a ∈ attribs, a.type.settable = true ∧ Offers (configAttribute profile encode a.type) a) ∧
        config = ⟨profile, entrypoint, profileRtFormat profile encode,
          rateControlOf attribs vaRcCqp⟩ := by
  cases loop : takeAttribs (profileRtFormat profile encode) encode
      ⟨profileRtFormat profile encode, vaRcCqp⟩ attribs with
  | error e =>
    refine iff_of_false nofun fun taken => ?_
    have start : (⟨profileRtFormat profile encode, vaRcCqp⟩ : RunningValues).rtFormat =
        profileRtFormat profile encode := rfl
    have ok := (takeAttribs_iff start).mpr ⟨taken.1, rfl⟩
    rw [loop] at ok
    cases ok
  | ok st =>
    obtain ⟨all, rfl⟩ := (takeAttribs_iff rfl).mp loop
    simp only [Except.ok.injEq]
    exact ⟨fun same => ⟨all, same.symm⟩, fun taken => taken.2.symm⟩

theorem reports_iff {attribs : List VAConfigAttrib} :
    List.Forall₂ (fun report a => a.type.settable = true ∧ Offers report.value a)
      (attribs.map fun a => { a with value := configAttribute profile encode a.type }) attribs ↔
      ∀ a ∈ attribs, a.type.settable = true ∧ Offers (configAttribute profile encode a.type) a := by
  rw [List.forall₂_map_left_iff, List.forall₂_same]

end

/-- A configuration is created from exactly what is reported: an advertised pair of profile and
entry point, and attributes that may be set with values that are offered. It has the format of its
profile and the last rate control. -/
theorem configRequest_iff (env : Environment) (profile : VAProfile) (entrypoint : VAEntrypoint)
    (attribs : List VAConfigAttrib) (config : RKConfig) :
    configRequest env profile entrypoint (some attribs) = .ok config ↔
      Advertised env profile entrypoint ∧
        (∃ reports, rkGetConfigAttributes env profile entrypoint attribs = .ok reports ∧
          List.Forall₂ (fun report a => a.type.settable = true ∧ Offers report.value a)
            reports attribs) ∧
        config = ⟨profile, entrypoint,
          configAttribute profile (entrypoint == .encSlice) .rtFormat,
          rateControlOf attribs vaRcCqp⟩ := by
  rw [advertised_supported]
  unfold configRequest rkGetConfigAttributes
  cases entrypoint with
  | other value => cases supported : profileSupported env profile <;> simp
  | vld =>
    have decoding : (VAEntrypoint.vld == .encSlice) = false := rfl
    cases decodes : decodeProfileSupported env profile with
    | false => cases supported : profileSupported env profile <;> simp
    | true =>
      simp only [profileSupported, decodes, decoding, Bool.true_or, reduceCtorEq, if_false, ne_eq,
        not_true_eq_false, false_and, and_false, Bool.false_and, Bool.false_eq_true, true_and,
        or_false, Except.ok.injEq, exists_eq_left', reports_iff]
      exact taken_iff
  | encSlice =>
    have encoding : (VAEntrypoint.encSlice == .encSlice) = true := rfl
    cases encodes : encodeProfileSupported env profile with
    | false => cases supported : profileSupported env profile <;> simp
    | true =>
      simp only [profileSupported, encodes, encoding, Bool.or_true, reduceCtorEq, if_false, ne_eq,
        Bool.not_true, Bool.and_false, Bool.false_eq_true, true_and, false_and, and_false,
        not_false_eq_true, false_or, Except.ok.injEq, exists_eq_left', reports_iff]
      exact taken_iff

end RockchipVaapi.Config
