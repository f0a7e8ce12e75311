import RockchipVaapi.Surface.Export

/-!
# Creating and importing surfaces

`create_surfaces` makes one surface after the other, each with a placeholder and, where the
application brings memory of its own, with what `import_surface_descriptor` takes over.
-/

namespace RockchipVaapi.Surface

/-- `RK_MAX_WIDTH` and `RK_MAX_HEIGHT`. -/
def rkMaxSize : Int := 8192

/-- What the creation of a surface asks of the system. `imports` stands for the duplication of an
object, its cache synchronisation and `mpp_buffer_import`, which answer with a buffer and a file
descriptor. -/
structure CreateEnv where
  rga : Bool
  imports : DescriptorObject → Option (Nat × Int)
  alloc : Allocator

/-- `rgb_drm_format` (`surface.c:58-67`). -/
def rgbDrmFormat : Fourcc → Option DrmFormat
  | .rgba => some .abgr8888
  | .rgbx => some .xbgr8888
  | .bgra => some .argb8888
  | .bgrx => some .xrgb8888
  | _ => none

/-- Planes that an import takes over: the pitches, and whether the chroma has its own object. -/
structure ImportPlanes where
  pitch : Nat
  chromaPitch : Nat
  multiplane : Bool
  deriving DecidableEq, Repr

/-- The planes of an RGB image (`surface.c:107-115`). -/
def importRgb (width height : Nat) (format : DrmFormat) (object : DescriptorObject)
    (layer : DescriptorLayer) : Option ImportPlanes :=
  match layer.planes with
  | [plane] =>
    if layer.drmFormat = format ∧ plane.object = 0 ∧ plane.offset = 0 ∧ plane.pitch % 4 = 0 ∧
        width ≤ plane.pitch / 4 ∧ width % 2 = 0 ∧ height % 2 = 0 ∧
        plane.pitch * height ≤ object.size then
      some ⟨plane.pitch, 0, false⟩
    else none
  | _ => none

/-- The planes of an NV12 or P010 image in one object or in two (`surface.c:116-144`). -/
def importYuv (width height : Nat) (p010 : Bool) (object : DescriptorObject)
    (chromaObject : Option DescriptorObject) (layer : DescriptorLayer) : Option ImportPlanes :=
  let bytesPerSample := sampleBytes p010
  match layer.planes with
  | [luma, chroma] =>
    let chromaOffset := if chromaObject.isSome then 0 else luma.pitch * height
    let requiredSize :=
      if chromaObject.isSome then luma.pitch * height
      else chromaOffset + chroma.pitch * (height / 2)
    if layer.drmFormat = (if p010 then .p010 else .nv12) ∧ luma.object = 0 ∧
        chroma.object = (if chromaObject.isSome then 1 else 0) ∧ luma.offset = 0 ∧
        chroma.offset = chromaOffset ∧ luma.pitch % bytesPerSample = 0 ∧
        chroma.pitch % bytesPerSample = 0 ∧
        (chromaObject.isNone → chroma.pitch = luma.pitch) ∧
        width ≤ luma.pitch / bytesPerSample ∧ width ≤ chroma.pitch / bytesPerSample ∧
        (∀ o ∈ chromaObject, chroma.pitch * (height / 2) ≤ o.size) ∧
        requiredSize ≤ object.size then
      some ⟨luma.pitch, chroma.pitch, chromaObject.isSome⟩
    else none
  | _ => none

/-- An object that can be imported. -/
def DescriptorObject.valid (o : DescriptorObject) : Bool := 0 ≤ o.fd && o.size != 0 && o.linear

/-- The import of the buffers (`surface.c:146-213`), and the fields that are set. -/
def importBuffers (env : CreateEnv) (planes : ImportPlanes) (object : DescriptorObject)
    (chromaObject : Option DescriptorObject) (format : DrmFormat) (rgb : Bool) :
    Option Imported :=
  match env.imports object with
  | none => none
  | some (handle, fd) =>
    let imported (chromaFd : Int) (chromaSize : Nat) : Imported :=
      { buf := ⟨handle, fd, 0, object.size⟩, fd := fd, size := object.size, pitch := planes.pitch
        chromaFd := chromaFd, chromaSize := chromaSize
        chromaPitch := if planes.multiplane then planes.chromaPitch else 0
        drmFormat := format, rgb := rgb, multiplane := planes.multiplane }
    match chromaObject with
    | none => some (imported (-1) 0)
    | some chroma => (env.imports chroma).map fun answer => imported answer.2 chroma.size

/-- `import_surface_descriptor` (`surface.c:74-224`). -/
def importSurfaceDescriptor (env : CreateEnv) (width height : Nat) (fourcc : Fourcc)
    (descriptor : VADRMPRIMESurfaceDescriptor) : Option Imported :=
  if descriptor.fourcc ≠ fourcc ∨ descriptor.width ≠ width ∨ descriptor.height ≠ height ∨
      descriptor.objects.all DescriptorObject.valid = false then none
  else
    match descriptor.layers, descriptor.objects, rgbDrmFormat fourcc with
    | [layer], [object], some format =>
      if env.rga then
        (importRgb width height format object layer).bind fun planes =>
          importBuffers env planes object none layer.drmFormat true
      else none
    | [layer], [object], none =>
      (importYuv width height (fourcc == .p010) object none layer).bind fun planes =>
        importBuffers env planes object none layer.drmFormat false
    | [layer], [object, chroma], none =>
      (importYuv width height (fourcc == .p010) object (some chroma) layer).bind fun planes =>
        importBuffers env planes object (some chroma) layer.drmFormat false
    | _, _, _ => none

section

variable {env : CreateEnv} {width height : Nat} {object : DescriptorObject}
  {chromaObject : Option DescriptorObject} {layer : DescriptorLayer} {planes : ImportPlanes}
  {imported : Imported} {rgb : Bool} {format : DrmFormat}

theorem importBuffers_some
    (h : importBuffers env planes object chromaObject format rgb = some imported) :
    imported.buf.size = object.size ∧ imported.size = object.size ∧
      imported.pitch = planes.pitch ∧ imported.rgb = rgb ∧
      imported.multiplane = planes.multiplane ∧
      (planes.multiplane = true → imported.chromaPitch = planes.chromaPitch) ∧
      ∀ chroma ∈ chromaObject, imported.chromaSize = chroma.size := by
  unfold importBuffers at h
  split at h
  · cases h
  · cases chromaObject with
    | none =>
      rw [← Option.some.inj h]
      exact ⟨rfl, rfl, rfl, rfl, rfl, fun two => if_pos two, fun _ mem => by cases mem⟩
    | some chroma =>
      obtain ⟨answer, -, rfl⟩ := Option.map_eq_some_iff.mp h
      refine ⟨rfl, rfl, rfl, rfl, rfl, fun two => if_pos two, fun _ mem => ?_⟩
      obtain rfl := Option.mem_some_iff.mp mem
      rfl

theorem importRgb_some (h : importRgb width height format object layer = some planes) :
    planes.pitch * height ≤ object.size ∧ planes.multiplane = false := by
  unfold importRgb at h
  split at h
  · obtain ⟨⟨-, -, -, -, -, -, -, room⟩, made⟩ := Option.ite_none_right_eq_some.mp h
    obtain rfl := Option.some.inj made
    exact ⟨room, rfl⟩
  · cases h

theorem importYuv_some {p010 : Bool}
    (h : importYuv width height p010 object chromaObject layer = some planes) :
    planes.multiplane = chromaObject.isSome ∧ planes.pitch % sampleBytes p010 = 0 ∧
      width ≤ planes.pitch / sampleBytes p010 ∧ planes.pitch * height ≤ object.size ∧
      (∀ chroma ∈ chromaObject, planes.chromaPitch * (height / 2) ≤ chroma.size) ∧
      (chromaObject = none → planes.pitch * height + planes.pitch * (height / 2) ≤ object.size) := by
  unfold importYuv at h
  simp only at h
  split at h
  · obtain ⟨⟨-, -, -, -, -, multiple, -, same, wide, -, chromaRoom, room⟩, made⟩ :=
      Option.ite_none_right_eq_some.mp h
    obtain rfl := Option.some.inj made
    refine ⟨rfl, multiple, wide, ?_, chromaRoom, ?_⟩
    · cases chromaObject with
      | none =>
        simp only [Option.isSome_none, Bool.false_eq_true, if_false] at room
        exact (Nat.le_add_right _ _).trans room
      | some chroma => exact room
    · rintro rfl
      rw [same rfl] at room
      exact room
  · cases h

/-- An import takes over an RGB image, or the one or two objects of an NV12 or P010 image. -/
theorem importSurfaceDescriptor_cases {fourcc : Fourcc} {descriptor : VADRMPRIMESurfaceDescriptor}
    (h : importSurfaceDescriptor env width height fourcc descriptor = some imported) :
    (∃ layer object format planes, rgbDrmFormat fourcc = some format ∧
      descriptor.objects = [object] ∧
      importRgb width height format object layer = some planes ∧
      importBuffers env planes object none layer.drmFormat true = some imported) ∨
      ∃ layer object chromaObject planes, rgbDrmFormat fourcc = none ∧
        descriptor.objects = object :: Option.toList chromaObject ∧
        importYuv width height (fourcc == .p010) object chromaObject layer = some planes ∧
        importBuffers env planes object chromaObject layer.drmFormat false = some imported := by
  unfold importSurfaceDescriptor at h
  split at h
  · cases h
  · split at h
    · rename_i layer object format layers objects isRgb
      obtain ⟨planes, found, taken⟩ :=
        Option.bind_eq_some_iff.mp (Option.ite_none_right_eq_some.mp h).2
      exact .inl ⟨layer, object, format, planes, isRgb, objects, found, taken⟩
    · rename_i layer object layers objects isYuv
      obtain ⟨planes, found, taken⟩ := Option.bind_eq_some_iff.mp h
      exact .inr ⟨layer, object, none, planes, isYuv, objects, found, taken⟩
    · rename_i layer object chroma layers objects isYuv
      obtain ⟨planes, found, taken⟩ := Option.bind_eq_some_iff.mp h
      exact .inr ⟨layer, object, some chroma, planes, isYuv, objects, found, taken⟩
    · cases h

end

/-- The formats that `rk_CreateSurfaces2` accepts, with memory of the driver or of the application
(`surface.c:613-620`), and those that need even sizes (`surface.c:238-241`). -/
def formatAccepted (fourcc : Fourcc) (imports : Bool) (width height : Nat) : Bool :=
  match fourcc with
  | .nv12 => true
  | .p010 => width % 2 == 0 && height % 2 == 0
  | .i420 | .yv12 => !imports && width % 2 == 0 && height % 2 == 0
  | .rgba | .rgbx | .bgra | .bgrx => imports

/-- The placeholder (`surface.c:280-326`). -/
def placeholder (env : CreateEnv) (width height : Nat) (is10bit : Bool) : Option MppBuffer :=
  ((rkSurfacePlaceholderSize width height is10bit).bind env.alloc.get).filter
    fun buffer => decide (0 ≤ buffer.fd)

/-- The image lies in one imported object. -/
def Imported.contiguous (imported : Imported) : Bool := !imported.rgb && !imported.multiplane

/-- The strides of a new surface (`surface.c:214-217`, `surface.c:293-306`). -/
def initialStrides (imported : Option Imported) (width height : Nat) (is10bit encoderInput : Bool) :
    Int × Int :=
  match imported.filter Imported.contiguous with
  | some imported => (toInt (imported.pitch / sampleBytes is10bit : Nat), height)
  | none =>
    let horizontalAlignment := if imported.isNone && !encoderInput && !is10bit then 64 else 16
    (roundUp horizontalAlignment width, roundUp 16 height)

/-- One turn of `create_surfaces` (`surface.c:226-340`), which fails as a whole if it fails. -/
def createSurface (env : CreateEnv) (width height : Int) (fourcc : Fourcc)
    (descriptor : Option VADRMPRIMESurfaceDescriptor) (encoderInput : Bool) : Option RKSurface :=
  if size : (0 < width ∧ width ≤ rkMaxSize) ∧ 0 < height ∧ height ≤ rkMaxSize then
    if formatAccepted fourcc descriptor.isSome width.toNat height.toNat then
      let imports : Option (Option Imported) :=
        match descriptor with
        | none => some none
        | some descriptor =>
          (importSurfaceDescriptor env width.toNat height.toNat fourcc descriptor).map some
      match imports, placeholder env width.toNat height.toNat (fourcc == .p010) with
      | some imported, some privBuf =>
        let strides := initialStrides imported width.toNat height.toNat (fourcc == .p010)
          encoderInput
        some
          { width := width, height := height, width_pos := size.1.1, height_pos := size.2.1
            frame := none, backingBuf := none, decodePool := none, hstride := strides.1
            vstride := strides.2, privBuf := privBuf, stableExport := false, exportBuf := none
            exportFence := 0, exportHstride := 0, exportVstride := 0, imported := imported
            encoderInput := encoderInput
            fmt := ⟨if fourcc == .p010 then .yuv420sp10bit else .yuv420sp, false⟩
            fourcc := fourcc, decoded := false, decodeFailed := false, h264FieldPending := false
            ctxId := 0, fence := 0 }
      | _, _ => none
    else none
  else none

/-- What a surface is when it is made. -/
structure CreatedFrom (env : CreateEnv) (width height : Int) (fourcc : Fourcc)
    (descriptor : Option VADRMPRIMESurfaceDescriptor) (encoderInput : Bool) (s : RKSurface) :
    Prop where
  columns : s.width = width
  lines : s.height = height
  wide : 0 < width ∧ width ≤ rkMaxSize
  tall : 0 < height ∧ height ≤ rkMaxSize
  accepted : formatAccepted fourcc descriptor.isSome width.toNat height.toNat = true
  own : descriptor = none → s.imported = none
  imports : ∀ d, descriptor = some d → ∃ imported,
    importSurfaceDescriptor env width.toNat height.toNat fourcc d = some imported ∧
      s.imported = some imported
  buffer : placeholder env width.toNat height.toNat (fourcc == .p010) = some s.privBuf
  strides : (s.hstride, s.vstride) =
    initialStrides s.imported width.toNat height.toNat (fourcc == .p010) encoderInput
  format : s.fourcc = fourcc
  depth : s.is10bit = (fourcc == .p010)
  empty : s.holdsPicture = false
  unexported : s.stableExport = false ∧ s.exportBuf = none ∧ s.exportFence = 0
  undecoded : s.decoded = false ∧ s.fence = 0

section

variable {env : CreateEnv} {width height : Int} {fourcc : Fourcc}
  {descriptor : Option VADRMPRIMESurfaceDescriptor} {encoderInput : Bool} {s : RKSurface}

theorem createSurface_from
    (created : createSurface env width height fourcc descriptor encoderInput = some s) :
    CreatedFrom env width height fourcc descriptor encoderInput s := by
  unfold createSurface at created
  split at created
  · rename_i size
    split at created
    · rename_i accepted
      simp only at created
      split at created
      · rename_i imported privBuf imports made
        have depth : (⟨if fourcc == .p010 then .yuv420sp10bit else .yuv420sp, false⟩ :
            MppFrameFormat).is10bit = (fourcc == .p010) := by
          cases fourcc == .p010 <;> rfl
        obtain rfl := Option.some.inj created
        refine ⟨rfl, rfl, size.1, size.2, accepted, ?_, ?_, made, rfl, rfl, depth, rfl,
          ⟨rfl, rfl, rfl⟩, rfl, rfl⟩
        · rintro rfl
          exact (Option.some.inj imports).symm
        · rintro d rfl
          obtain ⟨found, taken, rfl⟩ := Option.map_eq_some_iff.mp imports
          exact ⟨found, taken, rfl⟩
      · cases created
    · cases created
  · cases created

/-- A new surface has no storage for exports and no picture. -/
theorem createSurface_fresh
    (created : createSurface env width height fourcc descriptor encoderInput = some s) :
    s.stableExport = false ∧ s.exportBuf = none ∧ s.decoded = false := by
  have c := createSurface_from created
  exact ⟨c.unexported.1, c.unexported.2.1, c.undecoded.1⟩

end

end RockchipVaapi.Surface
