import RockchipVaapi.Config.Attributes
import RockchipVaapi.ObjectHeap.Refinement
import RockchipVaapi.Surface.Placeholder

/-!
# What a configuration promises

The configurations that a driver holds after any calls: each was advertised, is reported as it was
made, and lists the formats that its surfaces can have.
-/

namespace RockchipVaapi.Config

open ObjectHeap

/-! ## What was taken is kept -/

/-- The calls that change the configurations, with the environment at the time of a creation. -/
inductive ConfigCall
  | create (env : Environment) (profile : VAProfile) (entrypoint : VAEntrypoint)
    (attribs : Option (List VAConfigAttrib)) (memory alloc : Bool)
  | destroy (id : UInt32)

def ConfigCall.perform (heap : RKObjectHeap RKConfig) : ConfigCall → RKObjectHeap RKConfig
  | .create env profile entrypoint attribs memory alloc =>
    (rkCreateConfig env heap profile entrypoint attribs memory alloc).1
  | .destroy id => (rkDestroyConfig heap id).1

/-- The configurations after calls on a driver that was just initialised. -/
def configsAfter (calls : List ConfigCall) : RKObjectHeap RKConfig :=
  calls.foldl ConfigCall.perform (.init .config)

/-- A configuration that some creation made, in some environment. -/
def Created (c : RKConfig) : Prop :=
  ∃ env attribs, configRequest env c.profile c.entrypoint (some attribs) = .ok c

/-- What a call does to the heap. -/
def ConfigCall.onHeap : ConfigCall → List (Call RKConfig)
  | .create env profile entrypoint attribs memory alloc =>
    match configRequest env profile entrypoint attribs with
    | .error _ => []
    | .ok config => if memory = false then [] else [.insert config alloc]
  | .destroy id => [.remove id]

theorem ConfigCall.perform_heap (state : RKObjectHeap RKConfig × FreshMap UInt32 RKConfig)
    (call : ConfigCall) : (call.onHeap.foldl ObjectHeap.perform state).1 = call.perform state.1 := by
  cases call with
  | create env profile entrypoint attribs memory alloc =>
    simp only [onHeap, ConfigCall.perform, rkCreateConfig]
    cases configRequest env profile entrypoint attribs with
    | error e => rfl
    | ok config =>
      cases memory with
      | false => rfl
      | true =>
        simp only [Bool.true_eq_false, if_false, List.foldl_cons, List.foldl_nil, ObjectHeap.perform]
        rcases insert state.1 config alloc with ⟨heap, _ | id⟩ <;> rfl
  | destroy id =>
    simp only [onHeap, ConfigCall.perform, rkDestroyConfig, List.foldl_cons, List.foldl_nil,
      ObjectHeap.perform]
    rcases remove state.1 id with ⟨heap, _ | config⟩ <;> rfl

theorem configsAfter_eq (calls : List ConfigCall) :
    configsAfter calls = (performAll .config (calls.flatMap ConfigCall.onHeap)).1 := by
  have run : ∀ (calls : List ConfigCall) (state : RKObjectHeap RKConfig × FreshMap UInt32 RKConfig),
      calls.foldl ConfigCall.perform state.1 =
        ((calls.flatMap ConfigCall.onHeap).foldl ObjectHeap.perform state).1 := by
    intro calls
    induction calls with
    | nil => exact fun _ => rfl
    | cons call calls ih =>
      intro state
      rw [List.flatMap_cons, List.foldl_append, List.foldl_cons, ← ConfigCall.perform_heap state call]
      exact ih _
  exact run calls (.init .config, .empty)

/-- A request names the profile and the entry point of the configuration. -/
theorem configRequest_created {env : Environment} {profile : VAProfile}
    {entrypoint : VAEntrypoint} {attribs : Option (List VAConfigAttrib)} {c : RKConfig}
    (made : configRequest env profile entrypoint attribs = .ok c) : Created c := by
  cases attribs with
  | none =>
    unfold configRequest at made
    split at made
    · cases made
    · dsimp only at made
      split at made
      · cases made
      · split at made
        · cases made
        · split at made <;> cases made
  | some attribs =>
    obtain ⟨-, -, rfl⟩ := (configRequest_iff env profile entrypoint attribs c).mp made
    exact ⟨env, attribs, made⟩

/-- A call on a heap brings in no more than the object that it inserts. -/
theorem perform_live {α : Type} {P : α → Prop} {state : RKObjectHeap α × FreshMap UInt32 α}
    {call : Call α} (inserted : ∀ o alloc, call = .insert o alloc → P o)
    (all : ∀ id o, state.2.live id = some o → P o) (id : UInt32) (o : α)
    (live : (ObjectHeap.perform state call).2.live id = some o) : P o := by
  cases call with
  | insert object alloc =>
    unfold ObjectHeap.perform at live
    rcases result : insert state.1 object alloc with ⟨heap, _ | fresh⟩
    · simp only [result] at live
      exact all id o live
    · simp only [result, FreshMap.issue] at live
      by_cases same : id = fresh
      · rw [same, Function.update_self, Option.some.injEq] at live
        exact live ▸ inserted object alloc rfl
      · rw [Function.update_of_ne same] at live
        exact all id o live
  | acquire id' refs => exact all id o live
  | remove id' =>
    unfold ObjectHeap.perform at live
    rcases result : remove state.1 id' with ⟨heap, _ | gone⟩
    · simp only [result] at live
      exact all id o live
    · simp only [result, FreshMap.retire] at live
      by_cases same : id = id'
      · rw [same, Function.update_self] at live
        cases live
      · rw [Function.update_of_ne same] at live
        exact all id o live

theorem foldl_perform_live {α : Type} {P : α → Prop} {calls : List (Call α)}
    {state : RKObjectHeap α × FreshMap UInt32 α}
    (inserted : ∀ o alloc, Call.insert o alloc ∈ calls → P o)
    (all : ∀ id o, state.2.live id = some o → P o) :
    ∀ id o, (calls.foldl ObjectHeap.perform state).2.live id = some o → P o := by
  induction calls generalizing state with
  | nil => exact all
  | cons call calls ih =>
    apply ih
    · exact fun o alloc mem => inserted o alloc (List.mem_cons_of_mem _ mem)
    · exact perform_live (fun o alloc same => inserted o alloc (same ▸ List.mem_cons_self)) all

/-- What a heap holds was inserted. -/
theorem performAll_live {α : Type} {P : α → Prop} (type : RKObjectType) (calls : List (Call α))
    (inserted : ∀ o alloc, Call.insert o alloc ∈ calls → P o) (id : UInt32) (o : α)
    (live : (performAll type calls).2.live id = some o) : P o := by
  refine foldl_perform_live inserted (fun id o live => ?_) id o live
  cases live

theorem onHeap_created {call : ConfigCall} {c : RKConfig} {alloc : Bool}
    (mem : Call.insert c alloc ∈ call.onHeap) : Created c := by
  cases call with
  | create env profile entrypoint attribs memory alloc' =>
    unfold ConfigCall.onHeap at mem
    cases made : configRequest env profile entrypoint attribs with
    | error e => simp [made] at mem
    | ok config =>
      cases memory with
      | false => simp [made] at mem
      | true =>
        simp only [made, Bool.true_eq_false, if_false, List.mem_singleton, Call.insert.injEq] at mem
        exact mem.1 ▸ configRequest_created made
  | destroy id => simp [ConfigCall.onHeap] at mem

/-- Every configuration that a driver holds was made by a creation. -/
theorem configAcquire_created (calls : List ConfigCall) {id : UInt32} {c : RKConfig}
    (held : configAcquire (configsAfter calls) id = some c) : Created c := by
  rw [configsAfter_eq] at held
  obtain ⟨-, free, inv⟩ := inv_performAll .config (calls.flatMap ConfigCall.onHeap)
  have live := ((inv.acquire_iff id (fun _ => 1) fun _ _ => by decide) c).mp held
  refine performAll_live .config _ ?_ id c live.1
  intro o alloc mem
  obtain ⟨call, -, mem⟩ := List.mem_flatMap.mp mem
  exact onHeap_created mem

/-! ## What was kept is reported again -/

/-- The last rate control of a list is one of the list. -/
theorem rateControlOf_cases (attribs : List VAConfigAttrib) (rateControl : UInt32) :
    rateControlOf attribs rateControl = rateControl ∨
      ∃ a ∈ attribs, a.type = .rateControl ∧ rateControlOf attribs rateControl = a.value := by
  induction attribs generalizing rateControl with
  | nil => exact .inl rfl
  | cons a attribs ih =>
    change rateControlOf attribs _ = _ ∨ _
    by_cases control : a.type = .rateControl
    · rcases ih a.value with kept | ⟨b, mem, type, value⟩
      · exact .inr ⟨a, List.mem_cons_self, control, by simpa [rateControlOf, control] using kept⟩
      · exact .inr ⟨b, List.mem_cons_of_mem _ mem, type, by simpa [rateControlOf, control] using value⟩
    · rcases ih rateControl with kept | ⟨b, mem, type, value⟩
      · exact .inl (by simpa [control] using kept)
      · exact .inr ⟨b, List.mem_cons_of_mem _ mem, type, by simpa [rateControlOf, control] using value⟩

/-- What is known of a configuration: its pair is advertised, and its values are those of the
report. -/
structure RKConfig.Reported (env : Environment) (c : RKConfig) : Prop where
  advertised : Advertised env c.profile c.entrypoint
  rtFormat : c.rtFormat = profileRtFormat c.profile (c.entrypoint == .encSlice)
  encoder : c.entrypoint = .encSlice →
    c.rateControl = vaRcCqp ∨ c.rateControl = vaRcCbr ∨ c.rateControl = vaRcVbr
  decoder : c.entrypoint ≠ .encSlice → c.rateControl = vaRcCqp

theorem configRequest_reported {env : Environment} {c : RKConfig} {attribs : List VAConfigAttrib}
    (made : configRequest env c.profile c.entrypoint (some attribs) = .ok c) : c.Reported env := by
  obtain ⟨advertised, ⟨reports, answer, offered⟩, same⟩ := (configRequest_iff ..).mp made
  unfold rkGetConfigAttributes at answer
  dsimp only at answer
  split at answer
  · cases answer
  obtain rfl := Except.ok.inj answer
  have offers := reports_iff.mp offered
  have control : c.rateControl = rateControlOf attribs vaRcCqp := congrArg RKConfig.rateControl same
  refine ⟨advertised, congrArg RKConfig.rtFormat same, fun encodes => ?_, fun decodes => ?_⟩
  · rcases rateControlOf_cases attribs vaRcCqp with kept | ⟨a, mem, type, value⟩
    · exact .inl (control.trans kept)
    · have offer := (offers a mem).2
      rw [type, encodes] at offer
      unfold Offers at offer
      rw [if_pos type] at offer
      exact control ▸ value ▸ (offers_rateControl a.value).mp offer.2
  · rcases rateControlOf_cases attribs vaRcCqp with kept | ⟨a, mem, type, value⟩
    · exact control.trans kept
    · have offer := (offers a mem).2.1
      rw [type, beq_false_of_ne decodes] at offer
      exact absurd rfl offer

/-- A configuration's own attributes make it again. -/
theorem RKConfig.Reported.again {env : Environment} {c : RKConfig} (reported : c.Reported env) :
    configRequest env c.profile c.entrypoint (some c.attribs) = .ok c := by
  have supported := (advertised_supported ..).mp reported.advertised
  have format : profileRtFormat c.profile (c.entrypoint == .encSlice) ≠ vaAttribNotSupported := by
    unfold profileRtFormat
    split <;> decide
  have mask : vaRcCqp ||| vaRcCbr ||| vaRcVbr ≠ vaAttribNotSupported := by decide
  have answer : rkGetConfigAttributes env c.profile c.entrypoint c.attribs =
      .ok (c.attribs.map fun a =>
        { a with value := configAttribute c.profile (c.entrypoint == .encSlice) a.type }) := by
    unfold rkGetConfigAttributes
    rcases supported with ⟨decodes, -⟩ | ⟨-, encodes⟩
    · simp [decodes]
    · simp [encodes]
  rw [configRequest_iff]
  refine ⟨reported.advertised, ⟨_, answer, reports_iff.mpr ?_⟩, ?_⟩
  · intro a mem
    rcases List.mem_cons.mp mem with rfl | mem
    · exact ⟨rfl, format, by simpa [configAttribute] using reported.rtFormat⟩
    · by_cases encodes : c.entrypoint = .encSlice
      · rw [if_pos encodes, List.mem_singleton] at mem
        subst mem
        rw [encodes]
        refine ⟨rfl, mask, ?_⟩
        rw [if_pos rfl]
        exact (offers_rateControl c.rateControl).mpr (reported.encoder encodes)
      · rw [if_neg encodes] at mem
        cases mem
  · have control : rateControlOf c.attribs vaRcCqp = c.rateControl := by
      by_cases encodes : c.entrypoint = .encSlice
      · simp [attribs, encodes, rateControlOf]
      · simp [attribs, encodes, rateControlOf, reported.decoder encodes]
    rw [control]
    change c = ⟨_, _, profileRtFormat c.profile (c.entrypoint == .encSlice), _⟩
    rw [← reported.rtFormat]

/-- No configuration is refused by its profile when a context is made of it. -/
theorem RKConfig.Reported.coding {env : Environment} {c : RKConfig} (reported : c.Reported env) :
    profileToCoding c.profile = some .avc ∨ profileToCoding c.profile = some .hevc ∨
      profileToCoding c.profile = some .vp9 := by
  have supported := (advertised_supported ..).mp reported.advertised
  cases profile : c.profile <;>
    simp [profile, decodeProfileSupported, encodeProfileSupported] at supported <;>
      simp [profileToCoding]

theorem output10bit_iff {env : Environment} {c : RKConfig} (reported : c.Reported env) :
    output10bit c = true ↔ c.rtFormat = vaRtFormatYuv42010 := by
  have differ : vaRtFormatYuv420 ≠ vaRtFormatYuv42010 := by decide
  rw [reported.rtFormat]
  rcases (advertised_supported ..).mp reported.advertised with ⟨decodes, -⟩ | ⟨encodes, -⟩
  · by_cases wideProfile : c.profile = .hevcMain10 ∨ c.profile = .vp9Profile2
    · simp [output10bit, profileRtFormat, decodes, wideProfile]
    · simp [output10bit, profileRtFormat, decodes, wideProfile, differ]
  · simp [output10bit, profileRtFormat, encodes, differ]

/-- A context of a held configuration with a coding is refused only where the converter is. -/
theorem contextRequest_iff {heap : RKObjectHeap RKConfig} {id : UInt32} {c : RKConfig}
    {coding : MppCodingType} {width height : Int} (held : configAcquire heap id = some c)
    (coded : profileToCoding c.profile = some coding) (wide : 0 < width) (narrow : width ≤ 8192)
    (tall : 0 < height) (short : height ≤ 8192) :
    (∃ fields, contextRequest heap id ⟨width, height, 0, false, true⟩ = .ok fields ∧
      fields.rateControl = c.rateControl) ↔ ¬(output10bit c = true ∧ width < 68) := by
  have fits : ¬(width ≤ 0 ∨ height ≤ 0 ∨ 8192 < width ∨ 8192 < height ∨ (0 : Int) < 0 ∨
      ((0 : Int) < 0 ∧ false = false) ∨ true = false) := by
    rintro (h | h | h | h | h | h | h)
    all_goals first | omega | cases h
  have geometry : Surface.rkRgaNv15ToP010GeometrySupported width.toNat true = decide (68 ≤ width) := by
    unfold Surface.rkRgaNv15ToP010GeometrySupported Surface.rkRga3MinActiveWidth
    rw [Bool.not_true, Bool.false_or, decide_eq_decide]
    omega
  unfold contextRequest
  dsimp only
  rw [if_neg fits, held]
  dsimp only
  rw [coded, geometry]
  cases output10bit c with
  | false => simp
  | true =>
    by_cases small : width < 68
    · simp [small]
    · simp [small, Int.not_lt.mp small]

/-- After any calls, each configuration that the driver holds was advertised. What a query reports
of it makes an equal configuration, and a context of it is refused only for its size. -/
theorem configs_keep (calls : List ConfigCall) {id : UInt32} {c : RKConfig}
    (held : configAcquire (configsAfter calls) id = some c) :
    (∃ env, Advertised env c.profile c.entrypoint ∧ ∃ attribs,
      rkQueryConfigAttributes (configsAfter calls) id = .ok (c.profile, c.entrypoint, attribs) ∧
        configRequest env c.profile c.entrypoint (some attribs) = .ok c) ∧
    ∀ width height : Int, 0 < width → width ≤ 8192 → 0 < height → height ≤ 8192 →
      ((∃ fields, contextRequest (configsAfter calls) id ⟨width, height, 0, false, true⟩ =
        .ok fields ∧ fields.rateControl = c.rateControl) ↔
          ¬(c.rtFormat = vaRtFormatYuv42010 ∧ width < 68)) := by
  obtain ⟨env, attribs, made⟩ := configAcquire_created calls held
  have reported := configRequest_reported made
  refine ⟨⟨env, reported.advertised, c.attribs, ?_, reported.again⟩, ?_⟩
  · unfold rkQueryConfigAttributes
    rw [held]
  · intro width height wide narrow tall short
    rw [← output10bit_iff reported]
    rcases reported.coding with coding | coding | coding
    all_goals exact contextRequest_iff held coding wide narrow tall short

/-- A decoder and an encoder, one of which is destroyed. -/
def fewConfigs : List ConfigCall :=
  let env : Environment := ⟨none, some (ascii ['1'])⟩
  [.create env .hevcMain .vld (some []) true true,
    .create env .h264High .encSlice (some [⟨.rateControl, vaRcVbr⟩, ⟨.rtFormat, 1⟩]) true true,
    .create env .vp9Profile0 .vld (some [⟨.rateControl, vaRcVbr⟩]) true true, .destroy 0x10100000]

theorem configs_keep_few :
    (∃ env, Advertised env .h264High .encSlice ∧ ∃ attribs,
      rkQueryConfigAttributes (configsAfter fewConfigs) 0x10100001 =
          .ok (.h264High, .encSlice, attribs) ∧
        configRequest env .h264High .encSlice (some attribs) =
          .ok ⟨.h264High, .encSlice, 1, vaRcVbr⟩) ∧
    ∀ width height : Int, 0 < width → width ≤ 8192 → 0 < height → height ≤ 8192 →
      ((∃ fields, contextRequest (configsAfter fewConfigs) 0x10100001
          ⟨width, height, 0, false, true⟩ = .ok fields ∧ fields.rateControl = vaRcVbr) ↔
        ¬((1 : UInt32) = vaRtFormatYuv42010 ∧ width < 68)) :=
  configs_keep fewConfigs (c := ⟨.h264High, .encSlice, 1, vaRcVbr⟩) (by rfl)

/-! ## What a query lists is created -/

section

open Surface

variable {format : RtFormat} {code width height n : UInt32} {fourcc : Fourcc}

/-- A pixel format alone is taken under a render-target format of its own, and never an RGB one. -/
theorem pixelFormat_args (known : RtFormat.ofCode code = some format)
    (sizes : width.toNat ≤ intMax ∧ height.toNat ≤ intMax ∧ n.toNat ≤ intMax) (args : CreateArgs) :
    createSurfaces2Args code width height n [⟨.pixelFormat, .integer fourcc.code⟩] = .ok args ↔
      (format.admits fourcc = true ∧ fourcc.rgb = false) ∧
        args = ⟨width.toNat, height.toNat, n.toNat, fourcc, none, false⟩ := by
  unfold createSurfaces2Args
  rw [if_neg (by omega), known]
  simp only [attribLoop, attribStep, AttribState.init, pixelFormatAttrib, Fourcc.ofCode_code,
    Bool.false_eq_true, false_and, if_false]
  cases admits : format.admits fourcc with
  | false => simp [Except.map]
  | true =>
    have own : (memTypeVa == memTypeDrmPrime2) = false := rfl
    cases rgb : fourcc.rgb <;> simp [Except.map, AttribState.finish, own, rgb, eq_comm]

/-- An RGB format is taken with a descriptor of the application's memory. -/
theorem rgbImport_args (sizes : width.toNat ≤ intMax ∧ height.toNat ≤ intMax ∧ n.toNat ≤ intMax)
    (rgb : fourcc.rgb = true) {p : Nat} (pointer : p ≠ 0) :
    createSurfaces2Args 0x20000 width height n
      [⟨.pixelFormat, .integer fourcc.code⟩, ⟨.memoryType, .integer memTypeDrmPrime2⟩,
        ⟨.externalBufferDescriptor, .pointer p⟩] =
      .ok ⟨width.toNat, height.toNat, n.toNat, fourcc, some p, false⟩ := by
  have known : RtFormat.ofCode 0x20000 = some .rgb32 := rfl
  unfold createSurfaces2Args
  rw [if_neg (by omega), known]
  simp [attribLoop, attribStep, AttribState.init, pixelFormatAttrib, memoryTypeAttrib,
    descriptorAttrib, pointer, Setting.set, Fourcc.ofCode_code, RtFormat.admits, rgb, Except.map,
    AttribState.finish]

/-- With memory, a surface of a format without RGB is made in every size up to the maximum; all
formats but NV12 need even sizes. -/
theorem createSurface_listed {env : CreateEnv} {width height : Nat} (rgb : fourcc.rgb = false)
    (memory : ∀ size, ∃ buffer, env.alloc.get size = some buffer ∧ 0 ≤ buffer.fd)
    (wide : 0 < width) (narrow : width ≤ 8192) (tall : 0 < height) (short : height ≤ 8192)
    (even : fourcc = .nv12 ∨ width % 2 = 0 ∧ height % 2 = 0) (encoderInput : Bool) :
    ∃ s, createSurface env width height fourcc none encoderInput = some s ∧ s.fourcc = fourcc := by
  have size : (0 < (width : Int) ∧ (width : Int) ≤ rkMaxSize) ∧
      0 < (height : Int) ∧ (height : Int) ≤ rkMaxSize := by
    unfold rkMaxSize
    omega
  have accepted : formatAccepted fourcc false width height = true := by
    rcases even with rfl | ⟨columns, lines⟩
    · rfl
    · cases fourcc <;> simp_all [formatAccepted, Fourcc.rgb, rgbDrmFormat]
  obtain ⟨bytes, sized⟩ := rkSurfacePlaceholderSize_small (fourcc == .p010) wide narrow tall short
  obtain ⟨buffer, allocated, open_⟩ := memory bytes
  have placed : placeholder env width height (fourcc == .p010) = some buffer := by
    simp [placeholder, sized, allocated, open_]
  unfold createSurface
  rw [dif_pos size]
  simp only [Option.isSome_none, Int.toNat_natCast, accepted, if_true, placed]
  exact ⟨_, rfl, rfl⟩

/-- The attributes of a query. -/
def queried (c : RKConfig) (rga : Bool) : List QueriedAttrib :=
  (c.pixelFormats rga).map (fun fourcc => ⟨.pixelFormat, true, fourcc.code⟩) ++
    [⟨.memoryType, true, memTypeVa ||| memTypeDrmPrime2⟩, ⟨.maxWidth, false, rkMaxDimension⟩,
      ⟨.maxHeight, false, rkMaxDimension⟩]

theorem mem_queried {c : RKConfig} {rga : Bool} :
    (⟨.pixelFormat, true, fourcc.code⟩ : QueriedAttrib) ∈ queried c rga ↔
      fourcc ∈ c.pixelFormats rga := by
  have injective : ∀ other : Fourcc, other.code = fourcc.code → other = fourcc := by
    intro other same
    exact Option.some.inj (other.ofCode_code.symm.trans (same ▸ fourcc.ofCode_code))
  simp only [queried, List.mem_append, List.mem_map, QueriedAttrib.mk.injEq, true_and,
    List.mem_cons, reduceCtorEq, false_and, List.not_mem_nil, or_false]
  exact ⟨fun ⟨other, mem, same⟩ => injective other same ▸ mem, fun mem => ⟨fourcc, mem, rfl⟩⟩

/-- The formats of a query are those of the configuration's format, and for an encoder with the
converter those that an import brings. -/
theorem pixelFormats_admitted {env : Environment} {c : RKConfig} (reported : c.Reported env)
    (rga : Bool) : ∃ format, RtFormat.ofCode c.rtFormat = some format ∧
      (∀ fourcc ∈ c.pixelFormats rga, if fourcc.rgb = true then rga = true
        else format.admits fourcc = true) ∧
      (c.entrypoint = .encSlice → ∀ fourcc : Fourcc, fourcc.rgb = false →
        format.admits fourcc = true → fourcc ∈ c.pixelFormats rga) := by
  have formats : c.rtFormat = vaRtFormatYuv420 ∨
      c.rtFormat = vaRtFormatYuv42010 ∧ c.entrypoint ≠ .encSlice := by
    rw [reported.rtFormat]
    unfold profileRtFormat
    split
    · rename_i wide
      refine .inr ⟨rfl, fun encodes => ?_⟩
      rw [encodes] at wide
      cases wide
    · exact .inl rfl
  rcases formats with eight | ⟨ten, decodes⟩
  · refine ⟨.yuv420, by rw [eight]; rfl, ?_, ?_⟩
    · intro fourcc mem
      have other : (vaRtFormatYuv420 == vaRtFormatYuv42010) = false := rfl
      simp only [RKConfig.pixelFormats, eight, other] at mem
      cases fourcc <;> cases rga <;>
        simp [Fourcc.rgb, rgbDrmFormat, RtFormat.admits] at mem ⊢
    · intro encodes fourcc rgb admitted
      have other : (vaRtFormatYuv420 == vaRtFormatYuv42010) = false := rfl
      simp only [RKConfig.pixelFormats, eight, encodes, other]
      cases fourcc <;> simp [RtFormat.admits] at admitted ⊢
  · refine ⟨.yuv42010, by rw [ten]; rfl, ?_, fun encodes => absurd encodes decodes⟩
    intro fourcc mem
    have same : (vaRtFormatYuv42010 == vaRtFormatYuv42010) = true := rfl
    simp only [RKConfig.pixelFormats, ten, same] at mem
    cases fourcc <;> simp [Fourcc.rgb, rgbDrmFormat, RtFormat.admits] at mem ⊢

/-- After any calls, a query of the surfaces of a held configuration says in two steps how many
attributes there are and which, and each pixel format of them is taken by `rk_CreateSurfaces2`:
with the format of the configuration, or as an RGB import where the converter is there. For an
encoder no other format is. With memory, the surface is made in every size up to the maximum. -/
theorem querySurfaceAttrs_honoured (calls : List ConfigCall) {id : UInt32} {c : RKConfig}
    (held : configAcquire (configsAfter calls) id = some c) (rga : Bool) :
    ∃ list : List QueriedAttrib,
      rkQuerySurfaceAttrs (configsAfter calls) rga id none = .ok ⟨list.length, [], .ok ()⟩ ∧
      (∀ room, rkQuerySurfaceAttrs (configsAfter calls) rga id (some room) =
        if room < list.length then .ok ⟨list.length, [], .error .maxNumExceeded⟩
        else .ok ⟨list.length, list, .ok ()⟩) ∧
      ∀ (fourcc : Fourcc) (width height n : UInt32),
        width.toNat ≤ intMax ∧ height.toNat ≤ intMax ∧ n.toNat ≤ intMax →
        (⟨.pixelFormat, true, fourcc.code⟩ ∈ list → if fourcc.rgb = true then
          rga = true ∧ ∀ p, p ≠ 0 → createSurfaces2Args 0x20000 width height n
            [⟨.pixelFormat, .integer fourcc.code⟩, ⟨.memoryType, .integer memTypeDrmPrime2⟩,
              ⟨.externalBufferDescriptor, .pointer p⟩] =
                .ok ⟨width.toNat, height.toNat, n.toNat, fourcc, some p, false⟩
        else
          createSurfaces2Args c.rtFormat width height n [⟨.pixelFormat, .integer fourcc.code⟩] =
            .ok ⟨width.toNat, height.toNat, n.toNat, fourcc, none, false⟩ ∧
          ∀ env : CreateEnv,
            (∀ size, ∃ buffer, env.alloc.get size = some buffer ∧ 0 ≤ buffer.fd) →
            0 < width.toNat → width.toNat ≤ rkMaxDimension.toNat →
            0 < height.toNat → height.toNat ≤ rkMaxDimension.toNat →
            (fourcc = .nv12 ∨ width.toNat % 2 = 0 ∧ height.toNat % 2 = 0) →
              ∃ s, createSurface env width.toNat height.toNat fourcc none false = some s ∧
                s.fourcc = fourcc) ∧
        (c.entrypoint = .encSlice → ∀ args,
          createSurfaces2Args c.rtFormat width height n [⟨.pixelFormat, .integer fourcc.code⟩] =
            .ok args → ⟨.pixelFormat, true, fourcc.code⟩ ∈ list) := by
  obtain ⟨env, attribs, made⟩ := configAcquire_created calls held
  have reported := configRequest_reported made
  obtain ⟨format, known, listed, unlisted⟩ := pixelFormats_admitted reported rga
  refine ⟨queried c rga, ?_, ?_, ?_⟩
  · unfold rkQuerySurfaceAttrs
    rw [held]
    rfl
  · intro room
    unfold rkQuerySurfaceAttrs
    rw [held]
    rfl
  · intro fourcc width height n sizes
    refine ⟨fun mem => ?_, fun encodes args accepted => ?_⟩
    · have admitted := listed fourcc (mem_queried.mp mem)
      cases rgb : fourcc.rgb with
      | true =>
        rw [rgb, if_pos rfl] at admitted
        rw [if_pos rfl]
        exact ⟨admitted, fun p pointer => rgbImport_args sizes rgb pointer⟩
      | false =>
        rw [rgb, if_neg Bool.false_ne_true] at admitted
        rw [if_neg Bool.false_ne_true]
        refine ⟨(pixelFormat_args known sizes _).mpr ⟨⟨admitted, rgb⟩, rfl⟩, ?_⟩
        intro env memory wide narrow tall short even
        exact createSurface_listed rgb memory wide narrow tall short even false
    · obtain ⟨⟨admitted, rgb⟩, -⟩ := (pixelFormat_args known sizes args).mp accepted
      exact mem_queried.mpr (unlisted encodes fourcc rgb admitted)

theorem querySurfaceAttrs_honoured_few : ∃ list : List QueriedAttrib,
    rkQuerySurfaceAttrs (configsAfter fewConfigs) true 0x10100001 none =
      .ok ⟨list.length, [], .ok ()⟩ ∧ ⟨.pixelFormat, true, Fourcc.i420.code⟩ ∈ list := by
  have held : configAcquire (configsAfter fewConfigs) 0x10100001 =
      some ⟨.h264High, .encSlice, 1, vaRcVbr⟩ := by rfl
  obtain ⟨list, count, -, formats⟩ := querySurfaceAttrs_honoured fewConfigs held true
  exact ⟨list, count, (formats .i420 64 32 1 (by decide)).2 rfl _ rfl⟩

end

end RockchipVaapi.Config
