import Mathlib.Data.UInt
import RockchipVaapi.Misc.Transition
import RockchipVaapi.Surface.Create

/-!
# Surface attributes

`rk_CreateSurfaces2` goes over the attributes of the application once. Each kind of attribute has a
setting of its own, which the first one sets and all later ones have to repeat, so that the order of
the list does not matter.
-/

namespace RockchipVaapi.Surface

/-- The failures of a creation. -/
inductive CreateError
  | invalidParameter
  | unsupportedRtFormat
  | unsupportedMemoryType
  | attrNotSupported
  | resolutionNotSupported
  | allocationFailed
  deriving DecidableEq, Repr

/-- `VA_FOURCC`. -/
def vaFourcc (a b c d : Char) : UInt32 :=
  UInt32.ofNat (a.toNat + b.toNat * 0x100 + c.toNat * 0x10000 + d.toNat * 0x1000000)

/-- The numbers of the formats. -/
def Fourcc.code : Fourcc → UInt32
  | .nv12 => vaFourcc 'N' 'V' '1' '2'
  | .p010 => vaFourcc 'P' '0' '1' '0'
  | .i420 => vaFourcc 'I' '4' '2' '0'
  | .yv12 => vaFourcc 'Y' 'V' '1' '2'
  | .rgba => vaFourcc 'R' 'G' 'B' 'A'
  | .rgbx => vaFourcc 'R' 'G' 'B' 'X'
  | .bgra => vaFourcc 'B' 'G' 'R' 'A'
  | .bgrx => vaFourcc 'B' 'G' 'R' 'X'

/-- The format of a number, if the driver knows it. -/
def Fourcc.ofCode (code : UInt32) : Option Fourcc :=
  [.nv12, .p010, .i420, .yv12, .rgba, .rgbx, .bgra, .bgrx].find? fun fourcc : Fourcc =>
    fourcc.code == code

/-- `rgb_fourcc` (`surface.c:69-72`). -/
def Fourcc.rgb (fourcc : Fourcc) : Bool := (rgbDrmFormat fourcc).isSome

/-- The render-target formats of `rk_CreateSurfaces2`. -/
inductive RtFormat
  | yuv420
  | yuv42010
  | rgb32
  deriving DecidableEq, Repr

/-- `VA_RT_FORMAT_YUV420`, `VA_RT_FORMAT_YUV420_10` and `VA_RT_FORMAT_RGB32`. -/
def RtFormat.ofCode (format : UInt32) : Option RtFormat :=
  if format = 0x1 then some .yuv420
  else if format = 0x100 then some .yuv42010
  else if format = 0x20000 then some .rgb32
  else none

/-- The format of a surface without a pixel format attribute (`surface.c:536-544`). -/
def RtFormat.fourcc : RtFormat → Fourcc
  | .yuv420 => .nv12
  | .yuv42010 => .p010
  | .rgb32 => .bgra

/-- The pixel formats of a render-target format (`surface.c:599-606`). -/
def RtFormat.admits (format : RtFormat) (fourcc : Fourcc) : Bool :=
  match format with
  | .yuv42010 => fourcc == .p010
  | .yuv420 => fourcc == .nv12 || fourcc == .i420 || fourcc == .yv12
  | .rgb32 => fourcc.rgb

/-- The attributes that the loop tells apart. -/
inductive VASurfaceAttribType
  | usageHint
  | memoryType
  | externalBufferDescriptor
  | pixelFormat
  | other
  deriving DecidableEq, Repr

/-- `VAGenericValue`. A pointer is its address, which is 0 for `NULL`. -/
inductive VAGenericValue
  | integer (i : UInt32)
  | pointer (p : Nat)
  | other
  deriving DecidableEq, Repr

structure VASurfaceAttrib where
  type : VASurfaceAttribType
  value : VAGenericValue
  deriving DecidableEq, Repr

/-- `VA_SURFACE_ATTRIB_MEM_TYPE_VA`. -/
def memTypeVa : UInt32 := 0x1

/-- `VA_SURFACE_ATTRIB_MEM_TYPE_DRM_PRIME_2`. -/
def memTypeDrmPrime2 : UInt32 := 0x40000000

/-- `VA_SURFACE_ATTRIB_USAGE_HINT_ENCODER`. -/
def usageHintEncoder : UInt32 := 0x2

/-! ## The loop -/

/-- A running value with its `seen` flag. -/
structure Setting (α : Type) where
  value : α
  seen : Bool
  deriving DecidableEq, Repr

/-- Later attributes have to repeat what the first one said. -/
def Setting.set {α : Type} [DecidableEq α] (s : Setting α) (value : α) :
    Except CreateError (Setting α) :=
  if s.seen ∧ value ≠ s.value then .error .invalidParameter else .ok ⟨value, true⟩

/-- The running values of the loop (`surface.c:546-551`). -/
structure AttribState where
  fourcc : Setting Fourcc
  memoryType : Setting UInt32
  externalDescriptors : Setting Nat
  encoderInput : Bool
  deriving DecidableEq, Repr

/-- A memory type attribute (`surface.c:564-576`). -/
def memoryTypeAttrib (s : Setting UInt32) : VAGenericValue → Except CreateError (Setting UInt32)
  | .integer requested =>
    if requested ≠ memTypeVa ∧ requested ≠ memTypeDrmPrime2 then .error .unsupportedMemoryType
    else s.set requested
  | _ => .error .invalidParameter

/-- A descriptor attribute (`surface.c:577-588`). -/
def descriptorAttrib (s : Setting Nat) : VAGenericValue → Except CreateError (Setting Nat)
  | .pointer requested => if requested = 0 then .error .invalidParameter else s.set requested
  | _ => .error .invalidParameter

/-- A pixel format attribute (`surface.c:591-608`). -/
def pixelFormatAttrib (format : RtFormat) (s : Setting Fourcc) :
    VAGenericValue → Except CreateError (Setting Fourcc)
  | .integer requested =>
    if s.seen ∧ requested ≠ s.value.code then .error .invalidParameter
    else
      match Fourcc.ofCode requested with
      | none => .error .attrNotSupported
      | some fourcc =>
        if format.admits fourcc then .ok ⟨fourcc, true⟩ else .error .unsupportedRtFormat
  | _ => .error .invalidParameter

/-- A usage hint (`surface.c:557-563`). -/
def usageHintAttrib (encoderInput : Bool) : VAGenericValue → Bool
  | .integer hint => encoderInput || hint &&& usageHintEncoder != 0
  | _ => encoderInput

/-- One turn of the loop (`surface.c:552-609`). -/
def attribStep (format : RtFormat) (st : AttribState) (a : VASurfaceAttrib) :
    Except CreateError AttribState :=
  match a.type with
  | .usageHint => .ok { st with encoderInput := usageHintAttrib st.encoderInput a.value }
  | .memoryType =>
    (memoryTypeAttrib st.memoryType a.value).map fun s => { st with memoryType := s }
  | .externalBufferDescriptor =>
    (descriptorAttrib st.externalDescriptors a.value).map fun s =>
      { st with externalDescriptors := s }
  | .pixelFormat => (pixelFormatAttrib format st.fourcc a.value).map fun s => { st with fourcc := s }
  | .other => .ok st

/-- The loop. -/
def attribLoop (format : RtFormat) : AttribState → List VASurfaceAttrib →
    Except CreateError AttribState
  | st, [] => .ok st
  | st, a :: attribs =>
    match attribStep format st a with
    | .error e => .error e
    | .ok st => attribLoop format st attribs

/-- The running values before the loop. -/
def AttribState.init (format : RtFormat) : AttribState where
  fourcc := ⟨format.fourcc, false⟩
  memoryType := ⟨memTypeVa, false⟩
  externalDescriptors := ⟨0, false⟩
  encoderInput := false

/-- The arguments of `create_surfaces`. `imports` is the address of the descriptors. -/
structure CreateArgs where
  width : Int
  height : Int
  n : Nat
  fourcc : Fourcc
  imports : Option Nat
  encoderInput : Bool
  deriving DecidableEq, Repr

/-- The checks behind the loop (`surface.c:611-624`). -/
def AttribState.finish (st : AttribState) (width height : Int) (n : Nat) :
    Except CreateError CreateArgs :=
  let imported := st.memoryType.value == memTypeDrmPrime2
  let fourcc := st.fourcc.value
  if imported ≠ st.externalDescriptors.seen then .error .invalidParameter
  else if fourcc.rgb = true ∧ imported = false then .error .unsupportedMemoryType
  else if imported = true ∧ fourcc ≠ .nv12 ∧ fourcc ≠ .p010 ∧ fourcc.rgb = false then
    .error .attrNotSupported
  else
    .ok ⟨width, height, n, fourcc, if imported then some st.externalDescriptors.value else none,
      st.encoderInput⟩

/-- `rk_CreateSurfaces2` up to the call of `create_surfaces` (`surface.c:524-624`). -/
def createSurfaces2Args (format width height n : UInt32) (attribs : List VASurfaceAttrib) :
    Except CreateError CreateArgs :=
  if intMax < width.toNat ∨ intMax < height.toNat ∨ intMax < n.toNat then .error .invalidParameter
  else
    match RtFormat.ofCode format with
    | none => .error .unsupportedRtFormat
    | some format =>
      match attribLoop format (.init format) attribs with
      | .error e => .error e
      | .ok st => st.finish width.toNat height.toNat n.toNat

/-! ## The order of the attributes -/

section

variable {format : RtFormat}

theorem attribLoop_run (st : AttribState) (attribs : List VASurfaceAttrib) :
    (attribLoop format st attribs).toOption =
      Transition.run (fun st a => (attribStep format st a).toOption) st attribs := by
  induction attribs generalizing st with
  | nil => rfl
  | cons a attribs ih =>
    rw [attribLoop, Transition.run]
    cases attribStep format st a with
    | error e => rfl
    | ok st' => exact ih st'

/-- Two attributes of a kind are accepted in either order, with the same setting afterwards. -/
def Exchanges {σ : Type} (act : σ → VAGenericValue → Except CreateError σ) : Prop :=
  ∀ s v w, ((act s v).toOption.bind fun s' => (act s' w).toOption) =
    (act s w).toOption.bind fun s' => (act s' v).toOption

theorem Setting.set_exchange {α : Type} [DecidableEq α] (s : Setting α) (x y : α) :
    ((s.set x).toOption.bind fun s' => (s'.set y).toOption) =
      (s.set y).toOption.bind fun s' => (s'.set x).toOption := by
  obtain ⟨value, seen⟩ := s
  unfold Setting.set
  cases seen with
  | true =>
    by_cases hx : x = value
    · by_cases hy : y = value
      · rw [hx, hy]
      · simp [hx, hy, Except.toOption]
    · by_cases hy : y = value
      · simp [hx, hy, Except.toOption]
      · simp [hx, hy, Except.toOption]
  | false =>
    by_cases same : y = x
    · rw [same]
    · simp [same, Ne.symm same, Except.toOption]

/-- A kind whose attributes say what the setting has to be. -/
theorem exchanges_of_decode {α : Type} [DecidableEq α]
    {act : Setting α → VAGenericValue → Except CreateError (Setting α)}
    (decode : VAGenericValue → Option α)
    (h : ∀ s v, (act s v).toOption = (decode v).bind fun x => (s.set x).toOption) :
    Exchanges act := by
  intro s v w
  simp only [h]
  cases decode v with
  | none => cases (decode w).bind fun x => (s.set x).toOption <;> rfl
  | some x =>
    cases decode w with
    | none => simp only [Option.bind_none, Option.bind_fun_none]
    | some y => exact s.set_exchange x y

theorem memoryTypeAttrib_exchanges : Exchanges memoryTypeAttrib := by
  apply exchanges_of_decode fun
    | .integer i => if i ≠ memTypeVa ∧ i ≠ memTypeDrmPrime2 then none else some i
    | _ => none
  intro s v
  cases v with
  | integer i =>
    unfold memoryTypeAttrib
    dsimp only
    split <;> rfl
  | pointer p => rfl
  | other => rfl

theorem descriptorAttrib_exchanges : Exchanges descriptorAttrib := by
  apply exchanges_of_decode fun
    | .pointer p => if p = 0 then none else some p
    | _ => none
  intro s v
  cases v with
  | pointer p =>
    unfold descriptorAttrib
    dsimp only
    split <;> rfl
  | integer i => rfl
  | other => rfl

theorem Fourcc.ofCode_some {code : UInt32} {fourcc : Fourcc} (h : ofCode code = some fourcc) :
    fourcc.code = code := by
  have found := List.find?_some h
  exact eq_of_beq found

theorem Fourcc.ofCode_code (fourcc : Fourcc) : ofCode fourcc.code = some fourcc := by
  cases fourcc <;> decide

theorem pixelFormatAttrib_exchanges (format : RtFormat) : Exchanges (pixelFormatAttrib format) := by
  apply exchanges_of_decode fun
    | .integer i => (Fourcc.ofCode i).filter fun fourcc => format.admits fourcc
    | _ => none
  intro s v
  cases v with
  | pointer p => rfl
  | other => rfl
  | integer i =>
    unfold pixelFormatAttrib
    dsimp only
    cases known : Fourcc.ofCode i with
    | none => split <;> rfl
    | some fourcc =>
      -- a number is that of the setting just when its format is
      have same : i ≠ s.value.code ↔ fourcc ≠ s.value := by
        apply not_congr
        constructor
        · rintro rfl
          exact Option.some.inj (known.symm.trans s.value.ofCode_code)
        · rintro rfl
          exact (Fourcc.ofCode_some known).symm
      rw [Option.filter_some]
      unfold Setting.set
      simp only [same]
      cases format.admits fourcc with
      | true => rfl
      | false => split <;> rfl

theorem usageHintAttrib_exchange (encoderInput : Bool) (v w : VAGenericValue) :
    usageHintAttrib (usageHintAttrib encoderInput v) w =
      usageHintAttrib (usageHintAttrib encoderInput w) v := by
  cases v with
  | integer i =>
    cases w with
    | integer j => exact Bool.or_right_comm _ _ _
    | pointer p => rfl
    | other => rfl
  | pointer p => rfl
  | other => rfl

theorem toOption_map {α β : Type} (x : Except CreateError α) (f : α → β) :
    (x.map f).toOption = x.toOption.map f := by
  cases x <;> rfl

/-- Two changes that do not look at each other. -/
theorem map_exchange {σ τ γ : Type} (x : Option σ) (y : Option τ) (f : σ → τ → γ) :
    (x.bind fun s => y.map (f s)) = y.bind fun t => x.map fun s => f s t := by
  cases x <;> cases y <;> rfl

/-- A kind's exchange, seen on the whole state. -/
theorem Exchanges.lift {σ : Type} {act : σ → VAGenericValue → Except CreateError σ}
    (h : Exchanges act) (s : σ) (v w : VAGenericValue) (put : σ → AttribState) :
    ((act s v).toOption.bind fun s' => (act s' w).toOption.map put) =
      (act s w).toOption.bind fun s' => (act s' v).toOption.map put := by
  have both := congrArg (Option.map put) (h s v w)
  rwa [Option.map_bind, Option.map_bind] at both

section

variable (st : AttribState) (v : VAGenericValue)

theorem attribStep_usageHint : (attribStep format st ⟨.usageHint, v⟩).toOption =
    (some (usageHintAttrib st.encoderInput v)).map fun e => { st with encoderInput := e } := rfl

theorem attribStep_memoryType : (attribStep format st ⟨.memoryType, v⟩).toOption =
    (memoryTypeAttrib st.memoryType v).toOption.map fun s => { st with memoryType := s } :=
  toOption_map _ _

theorem attribStep_descriptor : (attribStep format st ⟨.externalBufferDescriptor, v⟩).toOption =
    (descriptorAttrib st.externalDescriptors v).toOption.map fun s =>
      { st with externalDescriptors := s } :=
  toOption_map _ _

theorem attribStep_pixelFormat : (attribStep format st ⟨.pixelFormat, v⟩).toOption =
    (pixelFormatAttrib format st.fourcc v).toOption.map fun s => { st with fourcc := s } :=
  toOption_map _ _

theorem attribStep_other : (attribStep format st ⟨.other, v⟩).toOption = some st := rfl

end

/-- Attributes may be exchanged: those of one kind agree, and kinds that differ have settings of
their own. -/
theorem attribStep_exchange (st : AttribState) (a b : VASurfaceAttrib) :
    ((attribStep format st a).toOption.bind fun st' => (attribStep format st' b).toOption) =
      (attribStep format st b).toOption.bind fun st' => (attribStep format st' a).toOption := by
  obtain ⟨kind, v⟩ := a
  obtain ⟨kind', w⟩ := b
  by_cases same : kind = kind'
  · subst same
    cases kind with
    | usageHint =>
      simp only [attribStep_usageHint, Option.map_some, Option.bind_some, usageHintAttrib_exchange]
    | memoryType =>
      simp only [attribStep_memoryType, Option.bind_map, Function.comp_def]
      exact memoryTypeAttrib_exchanges.lift st.memoryType v w fun s => { st with memoryType := s }
    | externalBufferDescriptor =>
      simp only [attribStep_descriptor, Option.bind_map, Function.comp_def]
      exact descriptorAttrib_exchanges.lift st.externalDescriptors v w fun s =>
        { st with externalDescriptors := s }
    | pixelFormat =>
      simp only [attribStep_pixelFormat, Option.bind_map, Function.comp_def]
      exact (pixelFormatAttrib_exchanges format).lift st.fourcc v w fun s => { st with fourcc := s }
    | other => rfl
  · cases kind <;> cases kind' <;>
      first
      | exact absurd rfl same
      | simp only [attribStep_other, Option.bind_some, Option.bind_fun_some]
      | simp only [attribStep_usageHint, attribStep_memoryType, attribStep_descriptor,
          attribStep_pixelFormat, Option.bind_map, Function.comp_def]
        exact map_exchange _ _ _

theorem attribLoop_perm (format : RtFormat) (st : AttribState) {attribs attribs' : List VASurfaceAttrib}
    (perm : attribs.Perm attribs') :
    (attribLoop format st attribs).toOption = (attribLoop format st attribs').toOption := by
  rw [attribLoop_run, attribLoop_run]
  exact Transition.run_perm attribStep_exchange perm st

end

theorem ok_iff_toOption {α : Type} {x : Except CreateError α} {a : α} :
    x = .ok a ↔ x.toOption = some a := by
  cases x with
  | error e => simp [Except.toOption]
  | ok b => simp [Except.toOption]

/-- The order of the attributes decides neither whether `create_surfaces` is reached nor with which
arguments. -/
theorem createSurfaces2Args_perm (format width height n : UInt32)
    {attribs attribs' : List VASurfaceAttrib} (perm : attribs.Perm attribs') (args : CreateArgs) :
    createSurfaces2Args format width height n attribs = .ok args ↔
      createSurfaces2Args format width height n attribs' = .ok args := by
  rw [ok_iff_toOption, ok_iff_toOption]
  unfold createSurfaces2Args
  split
  · exact Iff.rfl
  · split
    · exact Iff.rfl
    · rename_i rt _
      have loops := attribLoop_perm rt (.init rt) perm
      cases first : attribLoop rt (.init rt) attribs with
      | error e =>
        cases second : attribLoop rt (.init rt) attribs' with
        | error e' => exact Iff.rfl
        | ok st =>
          rw [first, second] at loops
          cases loops
      | ok st =>
        rw [first] at loops
        rw [ok_iff_toOption.mpr loops.symm]

/-- Two equal formats around a hint for the encoder. -/
def hintedAttribs : List VASurfaceAttrib :=
  [⟨.memoryType, .integer memTypeVa⟩, ⟨.pixelFormat, .integer Fourcc.i420.code⟩,
    ⟨.usageHint, .integer usageHintEncoder⟩, ⟨.pixelFormat, .integer Fourcc.i420.code⟩]

theorem createSurfaces2Args_perm_hinted :
    createSurfaces2Args 1 64 32 1 hintedAttribs = .ok ⟨64, 32, 1, .i420, none, true⟩ ∧
      (createSurfaces2Args 1 64 32 1 hintedAttribs = .ok ⟨64, 32, 1, .i420, none, true⟩ ↔
        createSurfaces2Args 1 64 32 1 (hintedAttribs.reverse) =
          .ok ⟨64, 32, 1, .i420, none, true⟩) :=
  ⟨by decide, createSurfaces2Args_perm 1 64 32 1 (List.reverse_perm hintedAttribs).symm _⟩

end RockchipVaapi.Surface
