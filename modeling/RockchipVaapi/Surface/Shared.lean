import RockchipVaapi.Surface.Normalize
import RockchipVaapi.Surface.Placeholder

/-!
# Surfaces that go from one driver to another

`vaExportSurfaceHandle` fills in a descriptor, and `vaCreateSurfaces2` makes a surface of one. Of
memory of the application the exported descriptor is the one that the surface was made of, up to
the numbers of its file descriptors. Memory of the driver is laid out for the decoder, and only
some sizes of it meet what an import asks for.
-/

namespace RockchipVaapi.Surface

/-- The descriptor without the numbers of its file descriptors. -/
def VADRMPRIMESurfaceDescriptor.image (d : VADRMPRIMESurfaceDescriptor) :
    VADRMPRIMESurfaceDescriptor :=
  { d with objects := d.objects.map fun o => { o with fd := 0 } }

/-- What an import knows of the image, without the handles and the file descriptors. -/
def Imported.image (i : Imported) : Imported :=
  { i with buf := ⟨0, 0, 0, i.buf.size⟩, fd := 0, chromaFd := 0 }

/-- A driver that can open every object it is handed and has memory for placeholders. -/
structure CreateEnv.Ready (env : CreateEnv) : Prop where
  opens : ∀ o : DescriptorObject, 0 ≤ o.fd → (env.imports o).isSome = true
  memory : ∀ size, ∃ buffer, env.alloc.get size = some buffer ∧ 0 ≤ buffer.fd

/-! ## What an import reads of a descriptor -/

section

variable {env env' : CreateEnv} {width height : Nat} {object object' : DescriptorObject}
  {chromaObject chromaObject' : Option DescriptorObject} {layer : DescriptorLayer}
  {planes : ImportPlanes} {imported : Imported} {rgb : Bool} {format : DrmFormat}
  {fourcc : Fourcc} {d d' : VADRMPRIMESurfaceDescriptor}

/-- The fields of an import, which come from the planes and the sizes of the objects. -/
def importImage (planes : ImportPlanes) (object : DescriptorObject)
    (chromaObject : Option DescriptorObject) (format : DrmFormat) (rgb : Bool) : Imported where
  buf := ⟨0, 0, 0, object.size⟩
  fd := 0
  size := object.size
  pitch := planes.pitch
  chromaFd := 0
  chromaSize := (chromaObject.map DescriptorObject.size).getD 0
  chromaPitch := if planes.multiplane then planes.chromaPitch else 0
  drmFormat := format
  rgb := rgb
  multiplane := planes.multiplane

theorem importBuffers_image
    (h : importBuffers env planes object chromaObject format rgb = some imported) :
    imported.image = importImage planes object chromaObject format rgb := by
  unfold importBuffers at h
  split at h
  · cases h
  · cases chromaObject with
    | none =>
      rw [← Option.some.inj h]
      rfl
    | some chroma =>
      obtain ⟨answer, -, rfl⟩ := Option.map_eq_some_iff.mp h
      rfl

theorem importBuffers_ready (ready : env.Ready) (open_ : 0 ≤ object.fd)
    (chromaOpen : ∀ chroma ∈ chromaObject, 0 ≤ chroma.fd) :
    ∃ imported, importBuffers env planes object chromaObject format rgb = some imported := by
  obtain ⟨⟨handle, fd⟩, answer⟩ := Option.isSome_iff_exists.mp (ready.opens object open_)
  unfold importBuffers
  rw [answer]
  cases chromaObject with
  | none => exact ⟨_, rfl⟩
  | some chroma =>
    obtain ⟨answer', found⟩ := Option.isSome_iff_exists.mp (ready.opens chroma (chromaOpen _ rfl))
    dsimp only
    rw [found]
    exact ⟨_, rfl⟩

/-- Of an object the checks read no more than its size. -/
theorem importRgb_congr (size : object'.size = object.size) :
    importRgb width height format object' layer = importRgb width height format object layer := by
  unfold importRgb
  rw [size]

theorem importYuv_congr {p010 : Bool} (size : object'.size = object.size)
    (chromaSize : chromaObject'.map DescriptorObject.size =
      chromaObject.map DescriptorObject.size) :
    importYuv width height p010 object' chromaObject' layer =
      importYuv width height p010 object chromaObject layer := by
  unfold importYuv
  cases chromaObject with
  | none =>
    obtain rfl := Option.map_eq_none_iff.mp chromaSize
    rw [size]
  | some chroma =>
    obtain ⟨chroma', rfl, same⟩ := Option.map_eq_some_iff.mp chromaSize
    simp only [size, Option.isSome_some, Option.mem_def, Option.some.injEq, forall_eq', same,
      Option.isNone_some]

theorem image_objects (same : d'.image = d.image) :
    d'.fourcc = d.fourcc ∧ d'.width = d.width ∧ d'.height = d.height ∧ d'.layers = d.layers ∧
      d'.objects.map (fun o => (o.size, o.linear)) = d.objects.map fun o => (o.size, o.linear) := by
  simp only [VADRMPRIMESurfaceDescriptor.image, VADRMPRIMESurfaceDescriptor.mk.injEq] at same
  obtain ⟨fourcc, width, height, objects, layers⟩ := same
  refine ⟨fourcc, width, height, layers, ?_⟩
  have sizes := congrArg (List.map fun o : DescriptorObject => (o.size, o.linear)) objects
  rwa [List.map_map, List.map_map] at sizes

/-- The checks of an import pass, with what they find. -/
structure Takes (rga : Bool) (width height : Nat) (fourcc : Fourcc)
    (d : VADRMPRIMESurfaceDescriptor) (object : DescriptorObject)
    (chromaObject : Option DescriptorObject) (layer : DescriptorLayer) (planes : ImportPlanes)
    (rgb : Bool) : Prop where
  format : d.fourcc = fourcc
  size : d.width = width ∧ d.height = height
  objects : d.objects = object :: chromaObject.toList
  valid : d.objects.all DescriptorObject.valid = true
  layers : d.layers = [layer]
  found : (∃ format, rgbDrmFormat fourcc = some format ∧ rga = true ∧ chromaObject = none ∧
      rgb = true ∧ importRgb width height format object layer = some planes) ∨
    rgbDrmFormat fourcc = none ∧ rgb = false ∧
      importYuv width height (fourcc == .p010) object chromaObject layer = some planes

theorem Takes.imports
    (t : Takes env.rga width height fourcc d object chromaObject layer planes rgb) :
    importSurfaceDescriptor env width height fourcc d =
      importBuffers env planes object chromaObject layer.drmFormat rgb := by
  have checked : ¬(d.fourcc ≠ fourcc ∨ d.width ≠ width ∨ d.height ≠ height ∨
      d.objects.all DescriptorObject.valid = false) := by
    rw [t.valid, t.format, t.size.1, t.size.2]
    simp
  unfold importSurfaceDescriptor
  rw [if_neg checked, t.layers, t.objects]
  rcases t.found with ⟨format, isRgb, compiled, rfl, rfl, found⟩ | ⟨isYuv, rfl, found⟩
  · simp only [Option.toList_none, isRgb, compiled, if_true, found, Option.bind_some]
  · cases chromaObject with
    | none => simp only [Option.toList_none, isYuv, found, Option.bind_some]
    | some chroma => simp only [Option.toList_some, isYuv, found, Option.bind_some]

theorem importSurfaceDescriptor_takes
    (h : importSurfaceDescriptor env width height fourcc d = some imported) :
    ∃ object chromaObject layer planes rgb,
      Takes env.rga width height fourcc d object chromaObject layer planes rgb ∧
      importBuffers env planes object chromaObject layer.drmFormat rgb = some imported := by
  have unfolded := h
  unfold importSurfaceDescriptor at h
  split at h
  · cases h
  · rename_i checked
    simp only [not_or, not_not, Bool.not_eq_false] at checked
    obtain ⟨sameFourcc, sameWidth, sameHeight, valid⟩ := checked
    split at h
    · rename_i layer object format layers objects isRgb
      obtain ⟨compiled, h⟩ := Option.ite_none_right_eq_some.mp h
      obtain ⟨planes, found, taken⟩ := Option.bind_eq_some_iff.mp h
      exact ⟨object, none, layer, planes, true, ⟨sameFourcc, ⟨sameWidth, sameHeight⟩, objects,
        valid, layers, .inl ⟨format, isRgb, compiled, rfl, rfl, found⟩⟩, taken⟩
    · rename_i layer object layers objects isYuv
      obtain ⟨planes, found, taken⟩ := Option.bind_eq_some_iff.mp h
      exact ⟨object, none, layer, planes, false, ⟨sameFourcc, ⟨sameWidth, sameHeight⟩, objects,
        valid, layers, .inr ⟨isYuv, rfl, found⟩⟩, taken⟩
    · rename_i layer object chroma layers objects isYuv
      obtain ⟨planes, found, taken⟩ := Option.bind_eq_some_iff.mp h
      exact ⟨object, some chroma, layer, planes, false, ⟨sameFourcc, ⟨sameWidth, sameHeight⟩,
        objects, valid, layers, .inr ⟨isYuv, rfl, found⟩⟩, taken⟩
    · cases h

/-- The objects of a descriptor of the same image pass the checks as well. -/
theorem Takes.congr {rga rga' : Bool}
    (t : Takes rga width height fourcc d object chromaObject layer planes rgb)
    (compiled : rga = true → rga' = true) (same : d'.image = d.image)
    (open_ : ∀ o ∈ d'.objects, 0 ≤ o.fd) :
    ∃ object' chromaObject', object'.size = object.size ∧
      chromaObject'.map DescriptorObject.size = chromaObject.map DescriptorObject.size ∧
      Takes rga' width height fourcc d' object' chromaObject' layer planes rgb := by
  obtain ⟨sameFourcc, sameWidth, sameHeight, sameLayers, sameObjects⟩ := image_objects same
  have valid : d'.objects.all DescriptorObject.valid = true := by
    refine List.all_eq_true.mpr fun o' mem => ?_
    have found : (o'.size, o'.linear) ∈ d'.objects.map fun o => (o.size, o.linear) :=
      List.mem_map.mpr ⟨o', mem, rfl⟩
    rw [sameObjects] at found
    obtain ⟨o, mem', same⟩ := List.mem_map.mp found
    obtain ⟨size, linear⟩ := Prod.mk.inj same
    have good := List.all_eq_true.mp t.valid o mem'
    simp only [DescriptorObject.valid, Bool.and_eq_true, decide_eq_true_eq] at good ⊢
    rw [← size, ← linear]
    exact ⟨⟨open_ o' mem, good.1.2⟩, good.2⟩
  have ends : ∃ object' chromaObject', d'.objects = object' :: Option.toList chromaObject' ∧
      object'.size = object.size ∧
      chromaObject'.map DescriptorObject.size = chromaObject.map DescriptorObject.size := by
    rw [t.objects, List.map_cons] at sameObjects
    obtain ⟨object', rest, objects, size, others⟩ := List.map_eq_cons_iff.mp sameObjects
    cases chromaObject with
    | none =>
      obtain rfl := List.map_eq_nil_iff.mp others
      exact ⟨object', none, objects, (Prod.mk.inj size).1, rfl⟩
    | some chroma =>
      obtain ⟨chroma', rfl, size'⟩ := List.map_eq_singleton_iff.mp others
      exact ⟨object', some chroma', objects, (Prod.mk.inj size).1,
        congrArg some (Prod.mk.inj size').1⟩
  obtain ⟨object', chromaObject', objects, size, chromaSize⟩ := ends
  refine ⟨object', chromaObject', size, chromaSize, sameFourcc.trans t.format,
    ⟨sameWidth.trans t.size.1, sameHeight.trans t.size.2⟩, objects, valid,
    sameLayers.trans t.layers, ?_⟩
  rcases t.found with ⟨format, isRgb, has, rfl, rfl, found⟩ | ⟨isYuv, rfl, found⟩
  · exact .inl ⟨format, isRgb, compiled has, Option.map_eq_none_iff.mp chromaSize, rfl,
      (importRgb_congr size).trans found⟩
  · exact .inr ⟨isYuv, rfl, (importYuv_congr size chromaSize).trans found⟩

/-- Two descriptors of one image are accepted alike by a driver that can open the objects. -/
theorem importSurfaceDescriptor_image (ready : env'.Ready) (rga : env.rga = true → env'.rga = true)
    (same : d'.image = d.image) (open_ : ∀ o ∈ d'.objects, 0 ≤ o.fd)
    (h : importSurfaceDescriptor env width height fourcc d = some imported) :
    ∃ imported', importSurfaceDescriptor env' width height fourcc d' = some imported' ∧
      imported'.image = imported.image := by
  obtain ⟨object, chromaObject, layer, planes, rgb, t, taken⟩ := importSurfaceDescriptor_takes h
  obtain ⟨object', chromaObject', size, chromaSize, t'⟩ := t.congr rga same open_
  rw [t'.objects] at open_
  obtain ⟨imported', taken'⟩ := importBuffers_ready ready (open_ object' List.mem_cons_self)
    (fun chroma mem => open_ chroma (List.mem_cons_of_mem _ (Option.mem_toList.mpr mem)))
  refine ⟨imported', t'.imports.trans taken', ?_⟩
  rw [importBuffers_image taken', importBuffers_image taken, importImage, size, chromaSize]
  rfl

/-! ## The descriptor of an imported image -/

/-- The descriptor that an imported image was made of. -/
def importedDescriptor (fourcc : Fourcc) (width height : Nat) (i : Imported) :
    VADRMPRIMESurfaceDescriptor :=
  let luma : DescriptorPlane := ⟨0, 0, i.pitch⟩
  let chroma : DescriptorPlane :=
    if i.multiplane then ⟨1, 0, i.chromaPitch⟩ else ⟨0, i.pitch * height, i.pitch⟩
  ⟨fourcc, width, height,
    if i.multiplane then [⟨0, i.size, true⟩, ⟨0, i.chromaSize, true⟩] else [⟨0, i.size, true⟩],
    [⟨i.drmFormat, if i.rgb then [luma] else [luma, chroma]⟩]⟩

theorem importRgb_layer (h : importRgb width height format object layer = some planes) :
    layer = ⟨format, [⟨0, 0, planes.pitch⟩]⟩ := by
  obtain ⟨drmFormat, layerPlanes⟩ := layer
  unfold importRgb at h
  split at h
  · rename_i plane one
    obtain ⟨⟨sameFormat, number, offset, -⟩, made⟩ := Option.ite_none_right_eq_some.mp h
    obtain rfl := Option.some.inj made
    obtain ⟨_, _, _⟩ := plane
    dsimp only at one sameFormat number offset ⊢
    rw [one, sameFormat, number, offset]
  · cases h

theorem importYuv_layer {p010 : Bool}
    (h : importYuv width height p010 object chromaObject layer = some planes) :
    layer = ⟨if p010 then .p010 else .nv12, [⟨0, 0, planes.pitch⟩,
      if chromaObject.isSome then ⟨1, 0, planes.chromaPitch⟩
      else ⟨0, planes.pitch * height, planes.pitch⟩]⟩ := by
  obtain ⟨drmFormat, layerPlanes⟩ := layer
  unfold importYuv at h
  simp only at h
  split at h
  · rename_i luma chroma
    obtain ⟨⟨sameFormat, number, chromaNumber, offset, chromaOffset, -, -, samePitch, -⟩, made⟩ :=
      Option.ite_none_right_eq_some.mp h
    obtain rfl := Option.some.inj made
    obtain ⟨_, _, _⟩ := luma
    obtain ⟨_, _, _⟩ := chroma
    dsimp only at sameFormat number chromaNumber offset chromaOffset samePitch ⊢
    rw [sameFormat, number, chromaNumber, offset, chromaOffset]
    cases chromaObject with
    | none =>
      rw [samePitch rfl]
      rfl
    | some chroma => rfl
  · cases h

theorem importSurfaceDescriptor_descriptor
    (h : importSurfaceDescriptor env width height fourcc d = some imported) :
    d.image = importedDescriptor fourcc width height imported ∧
      imported.drmFormat = (rgbDrmFormat fourcc).getD (if fourcc == .p010 then .p010 else .nv12) ∧
      imported.rgb = (rgbDrmFormat fourcc).isSome := by
  obtain ⟨object, chromaObject, layer, planes, rgb, t, taken⟩ := importSurfaceDescriptor_takes h
  obtain ⟨-, size, pitch, sameRgb, multiplane, chromaPitch, chromaSize⟩ := importBuffers_some taken
  have drmFormat : imported.drmFormat = layer.drmFormat :=
    congrArg Imported.drmFormat (importBuffers_image taken)
  have stripped : ∀ o ∈ d.objects, ({ o with fd := 0 } : DescriptorObject) = ⟨0, o.size, true⟩ := by
    intro o mem
    have good := List.all_eq_true.mp t.valid o mem
    simp only [DescriptorObject.valid, Bool.and_eq_true] at good
    rw [good.2]
  have image : d.image = ⟨fourcc, width, height,
      (object :: chromaObject.toList).map fun o => ⟨0, o.size, true⟩, [layer]⟩ := by
    rw [VADRMPRIMESurfaceDescriptor.image, List.map_congr_left stripped, t.format, t.size.1,
      t.size.2, t.objects, t.layers]
  rw [image, importedDescriptor, size, pitch, sameRgb, multiplane, drmFormat]
  rcases t.found with ⟨format, isRgb, -, rfl, rfl, found⟩ | ⟨isYuv, rfl, found⟩
  · obtain rfl := importRgb_layer found
    rw [(importRgb_some found).2, isRgb]
    exact ⟨rfl, rfl, rfl⟩
  · have two := (importYuv_some found).1
    obtain rfl := importYuv_layer found
    rw [two, isYuv]
    refine ⟨?_, rfl, rfl⟩
    cases chromaObject with
    | none => rfl
    | some chroma =>
      rw [chromaPitch two, chromaSize chroma rfl]
      rfl

end

/-! ## Surfaces that no picture was begun on -/

/-- The surface is as it was made, as far as exports read it. -/
structure Untouched (s₀ s : RKSurface) : Prop where
  layout : s.layout = s₀.layout
  imported : s.imported = s₀.imported
  privBuf : s.privBuf = s₀.privBuf
  format : s.fourcc = s₀.fourcc
  undecoded : s.decoded = false
  empty : s.holdsPicture = false

/-- Pictures are begun on surfaces of the driver's memory only, and the fence says whether one
was. -/
structure Unbegun (s₀ : RKSurface) (st : SurfaceState) : Prop where
  calls : st.calls 0 = none
  imported : st.surface.imported = s₀.imported
  idle : s₀.imported.isSome = true → st.surface.fence = 0
  untouched : st.surface.fence = 0 → Untouched s₀ st.surface

section

variable {s₀ : RKSurface} {st st' : SurfaceState} {a : SurfaceAction}

theorem nextFence_ne_zero (fence : Nat) : nextFence fence ≠ 0 := by
  unfold nextFence
  dsimp only
  split <;> omega

theorem beginPicture_fence_ne_zero (s : RKSurface) (ctxId : Nat) (avc : Bool) :
    (beginPicture s ctxId avc).fence ≠ 0 := by
  rcases beginPicture_cases s ctxId avc with ⟨same, continues⟩ | same
  · simp only [RKSurface.continuation, Bool.and_eq_true, bne_iff_ne] at continues
    rw [same]
    exact continues.2
  · rw [same]
    exact nextFence_ne_zero s.fence

/-- A call of `assign_mpp_frame` starts with a fence that was handed out. -/
theorem Unbegun.fence_ne_zero (h : Unbegun s₀ st) {fence : Nat} {call : AssignCall}
    (here : st.calls fence = some call) : fence ≠ 0 := by
  rintro rfl
  rw [h.calls] at here
  cases here

theorem Unbegun.setAt (h : Unbegun s₀ st) {fence : Nat} (issued : fence ≠ 0)
    (call : Option AssignCall) : Surface.setAt st.calls fence call 0 = none := by
  rw [setAt_ne _ _ issued.symm]
  exact h.calls

theorem Unbegun.settle (h : Unbegun s₀ st) {decoded failed pending : Bool}
    (shown : decoded = true → st.surface.decoded = true ∨ st.surface.fence ≠ 0)
    (fence : st.surface.fence = 0) :
    Untouched s₀ (st.surface.settle decoded failed pending) := by
  have untouched := h.untouched fence
  refine ⟨untouched.layout, untouched.imported, untouched.privBuf, untouched.format, ?_,
    untouched.empty⟩
  by_contra decodes
  rcases shown (eq_true_of_ne_false decodes) with before | begun
  · rw [untouched.undecoded] at before
    cases before
  · exact begun fence

theorem unbegun_step (h : Unbegun s₀ st) (step : surfaceStep st a = some st') : Unbegun s₀ st' := by
  have move := surfaceStep_move step
  cases move with
  | begin own issued =>
    rename_i ctxId avc
    have begun := beginPicture_fence_ne_zero st.surface ctxId avc
    refine ⟨h.calls, ?_, fun isImported => ?_, fun fence => absurd fence begun⟩
    · rw [← h.imported]
      rcases beginPicture_cases st.surface ctxId avc with ⟨same, -⟩ | same <;> rw [same]
    · rw [← h.imported, own] at isImported
      cases isImported
  | settle kind shown => exact ⟨h.calls, h.imported, h.idle, h.settle shown⟩
  | idle kind => exact ⟨h.calls, h.imported, h.idle, h.untouched⟩
  | measure current issued => exact ⟨h.setAt issued _, h.imported, h.idle, h.untouched⟩
  | giveUp call_none kind kept =>
    rename_i fence call pixels
    have issued : fence ≠ 0 := by
      rcases kind with ⟨d, rfl⟩ | ⟨env, rfl⟩ | ⟨rfl, -⟩
      · rintro rfl
        simp [surfaceStep] at step
      · rintro rfl
        simp [surfaceStep, h.calls] at step
      · rintro rfl
        simp [surfaceStep, h.calls] at step
    exact ⟨h.setAt issued _, h.imported, h.idle, h.untouched⟩
  | prepare call prepared =>
    exact ⟨h.setAt (h.fence_ne_zero call) _, h.imported, h.idle, h.untouched⟩
  | failed call =>
    rename_i fence
    obtain ⟨decoded, failed, pending, same, shown⟩ :=
      completeSurfaceRef_settle st.surface fence false
    rw [same]
    refine ⟨h.setAt (h.fence_ne_zero call) _, h.imported, h.idle, h.settle fun decodes => ?_⟩
    exact .inl ((shown decodes).resolve_right (by simp))
  | publish call current =>
    have begun := h.fence_ne_zero call
    rw [← current] at begun
    exact ⟨h.setAt (h.fence_ne_zero call) _, h.imported, h.idle, fun fence => absurd fence begun⟩
  | exported =>
    rename_i thread env composed
    obtain ⟨same, -⟩ := exportSection_decoding st.surface env
    have imported : (exportSection st.surface env).1.imported = st.surface.imported :=
      (congrArg RKSurface.imported same :)
    refine ⟨h.calls, imported.trans h.imported, fun isImported => ?_, fun fence => ?_⟩
    · exact (congrArg RKSurface.fence same :).trans (h.idle isImported)
    · have untouched := h.untouched ((congrArg RKSurface.fence same :).symm.trans fence)
      exact ⟨(congrArg RKSurface.layout same :).trans untouched.layout,
        imported.trans untouched.imported,
        (congrArg RKSurface.privBuf same :).trans untouched.privBuf,
        (congrArg RKSurface.fourcc same :).trans untouched.format,
        (congrArg RKSurface.decoded same :).trans untouched.undecoded,
        (congrArg RKSurface.holdsPicture same :).trans untouched.empty⟩

theorem unbegun_run {actions : List SurfaceAction} (created : Created s₀)
    (run : Transition.run surfaceStep (.init s₀) actions = some st) : Unbegun s₀ st := by
  refine Transition.run_invariant' (fun _ _ _ => unbegun_step) ?_ run
  exact ⟨rfl, rfl, fun _ => created.unbegun, fun _ =>
    ⟨rfl, rfl, rfl, rfl, created.undecoded, created.empty⟩⟩

end

/-! ## What such a surface exports -/

section

variable {s : RKSurface} {env : ExportEnv} {composed : Bool} {d : VADRMPRIMESurfaceDescriptor}

theorem exportSection_undecoded (undecoded : s.decoded = false) (env : ExportEnv) :
    (exportSection s env).2 = .ok (match s.imported.filter Imported.multiplane with
      | some imported => .multiplane imported s.is10bit s.width s.height
      | none => .single (exportLocals s s.activeBuffer s.exportedHstride)) := by
  unfold exportSection RKSurface.needsRepack
  rw [undecoded]
  cases s.imported.filter Imported.multiplane <;> rfl

/-- A surface in one object is exported with its strides as they are. -/
theorem exportResult_single (undecoded : s.decoded = false)
    (one : s.imported.filter Imported.multiplane = none)
    (h : exportResult s env composed = .ok d) :
    (∃ buffer, s.activeBuffer = some buffer ∧ 0 ≤ buffer.fd ∧ buffer.size ≤ uint32Max) ∧
      d = singleDescriptor (exportLocals s s.activeBuffer s.exportedHstride) composed := by
  unfold exportResult at h
  rw [exportSection_undecoded undecoded, one] at h
  change describe env.dups composed (.single _) = _ at h
  unfold describe at h
  dsimp only at h
  split at h
  · cases h
  · rename_i fits
    split at h
    · cases h
    · simp only [not_or, not_lt, exportLocals] at fits
      refine ⟨?_, (Except.ok.inj h).symm⟩
      cases active : s.activeBuffer with
      | none => simp [active] at fits
      | some buffer =>
        simp only [active, Option.map_some, Option.getD_some] at fits
        exact ⟨buffer, rfl, fits.1, fits.2.2⟩

theorem exportResult_multiplane (undecoded : s.decoded = false) {imported : Imported}
    (two : s.imported.filter Imported.multiplane = some imported)
    (h : exportResult s env composed = .ok d) :
    d = multiplaneDescriptor imported s.is10bit s.width s.height composed := by
  unfold exportResult at h
  rw [exportSection_undecoded undecoded, two] at h
  change describe env.dups composed (.multiplane _ _ _ _) = _ at h
  unfold describe at h
  dsimp only at h
  split at h
  · cases h
  · exact (Except.ok.inj h).symm

end

/-! ## Memory of the application -/

/-- The formats of imported memory, by the planes of an import. -/
theorem imported_format {fourcc : Fourcc} {width height : Nat}
    (accepted : formatAccepted fourcc true width height = true) :
    rgbDrmFormat fourcc = none → fourcc = if fourcc == .p010 then .p010 else .nv12 := by
  cases fourcc <;> simp_all [formatAccepted, rgbDrmFormat]

section

variable {env env' : CreateEnv} {exportEnv : ExportEnv} {width height : Int} {fourcc : Fourcc}
  {d d' : VADRMPRIMESurfaceDescriptor} {encoderInput encoderInput' composed : Bool}
  {s₀ s s' : RKSurface} {imported : Imported}

theorem createSurface_ready (ready : env.Ready) (wide : 0 < width ∧ width ≤ rkMaxSize)
    (tall : 0 < height ∧ height ≤ rkMaxSize)
    (accepted : formatAccepted fourcc true width.toNat height.toNat = true)
    (taken : importSurfaceDescriptor env width.toNat height.toNat fourcc d = some imported) :
    ∃ s, createSurface env width height fourcc (some d) encoderInput = some s := by
  have small := And.intro wide tall
  unfold rkMaxSize at small
  obtain ⟨bytes, sized⟩ := @rkSurfacePlaceholderSize_small width.toNat height.toNat
    (fourcc == .p010) (by omega) (by omega) (by omega) (by omega)
  obtain ⟨buffer, allocated, open_⟩ := ready.memory bytes
  have placed : placeholder env width.toNat height.toNat (fourcc == .p010) = some buffer := by
    simp [placeholder, sized, allocated, open_]
  unfold createSurface
  rw [dif_pos ⟨wide, tall⟩]
  simp only [Option.isSome_some, accepted, if_true, taken, Option.map_some, placed]
  exact ⟨_, rfl⟩

/-- What a surface of imported memory is. -/
structure ImportedAs (env : CreateEnv) (width height : Int) (fourcc : Fourcc)
    (d : VADRMPRIMESurfaceDescriptor) (imported : Imported) (s : RKSurface) : Prop where
  taken : importSurfaceDescriptor env width.toNat height.toNat fourcc d = some imported
  present : s.imported = some imported
  size : s.width = width ∧ s.height = height
  format : s.fourcc = fourcc ∧ s.is10bit = (fourcc == .p010)
  strides : (s.hstride, s.vstride) =
    initialStrides (some imported) width.toNat height.toNat (fourcc == .p010) false

theorem createSurface_importedAs
    (created : createSurface env width height fourcc (some d) encoderInput = some s) :
    ∃ imported, ImportedAs env width height fourcc d imported s := by
  have c := createSurface_from created
  obtain ⟨imported, taken, present⟩ := c.imports d rfl
  have strides := c.strides
  rw [present] at strides
  refine ⟨imported, taken, present, ⟨c.columns, c.lines⟩, ⟨c.format, c.depth⟩, strides.trans ?_⟩
  -- An encoder's surface is padded like any other that is imported.
  unfold initialStrides
  simp

theorem ImportedAs.untouched (h : ImportedAs env width height fourcc d imported s₀)
    (same : Untouched s₀ s) : ImportedAs env width height fourcc d imported s := by
  obtain ⟨sameWidth, sameHeight, hstride, vstride, depth⟩ := layout_eq same.layout
  refine ⟨h.taken, same.imported.trans h.present, ⟨sameWidth.trans h.size.1,
    sameHeight.trans h.size.2⟩, ⟨same.format.trans h.format.1, depth.trans h.format.2⟩, ?_⟩
  rw [hstride, vstride]
  exact h.strides

/-- An image in one object is exported with the pitch and the offset that it was imported with. -/
theorem ImportedAs.contiguous_layout (h : ImportedAs env width height fourcc d imported s)
    (wide : 0 < width ∧ width ≤ rkMaxSize) (tall : 0 < height ∧ height ≤ rkMaxSize)
    (contiguous : imported.contiguous = true)
    (small : imported.pitch * height.toNat ≤ intMax) :
    toUint32 (s.exportedHstride * (sampleBytes s.is10bit : Nat)) = imported.pitch ∧
      toUint32 (s.exportedHstride * s.exportedVstride * (sampleBytes s.is10bit : Nat)) =
        imported.pitch * height.toNat := by
  have fits := importSurfaceDescriptor_some h.taken
  obtain ⟨multiple, wider, -⟩ := fits.contiguous contiguous
  obtain ⟨hstride, vstride⟩ := Prod.mk.inj (h.strides.trans (initialStrides_contiguous contiguous))
  have bytes := sampleBytes_pos (fourcc == .p010)
  have narrow : imported.pitch ≤ intMax :=
    (Nat.le_mul_of_pos_right _ (by omega)).trans small
  have whole : imported.pitch / sampleBytes (fourcc == .p010) * sampleBytes (fourcc == .p010) =
      imported.pitch := Nat.div_mul_cancel (Nat.dvd_of_mod_eq_zero multiple)
  have least : imported.pitch / sampleBytes (fourcc == .p010) ≤ intMax :=
    (Nat.div_le_self _ _).trans narrow
  have columns : s.exportedHstride = (imported.pitch / sampleBytes (fourcc == .p010) : Nat) := by
    have same : s.hstride = (imported.pitch / sampleBytes (fourcc == .p010) : Nat) :=
      hstride.trans (toInt_natCast least)
    rw [RKSurface.exportedHstride, if_neg (by omega), same]
  have lines : s.exportedVstride = (height.toNat : Nat) := by
    rw [RKSurface.exportedVstride, if_neg (by omega), vstride]
  rw [columns, lines, h.format.2]
  refine ⟨?_, ?_⟩
  · rw [← Nat.cast_mul, whole]
    exact toUint32_natCast narrow
  · rw [← Nat.cast_mul, ← Nat.cast_mul, Nat.mul_right_comm, whole]
    exact toUint32_natCast small

/-- The exported descriptor is that of the import. Planes that are not composed are in two layers,
but for those of RGB. -/
theorem ImportedAs.exported (h : ImportedAs env width height fourcc d imported s)
    (opens : env.Opens) (wide : 0 < width ∧ width ≤ rkMaxSize)
    (tall : 0 < height ∧ height ≤ rkMaxSize)
    (accepted : formatAccepted fourcc true width.toNat height.toNat = true)
    (undecoded : s.decoded = false)
    (small : imported.contiguous = true → imported.pitch * height.toNat ≤ intMax)
    (exported : exportResult s exportEnv composed = .ok d') :
    if composed = true ∨ (rgbDrmFormat fourcc).isSome = true then
      d'.image = d.image ∧ ∀ o ∈ d'.objects, 0 ≤ o.fd
    else d'.layers.length = 2 := by
  obtain ⟨image, drmFormat, isRgb⟩ := importSurfaceDescriptor_descriptor h.taken
  have fits := importSurfaceDescriptor_some h.taken
  unfold rkMaxSize at wide tall
  have columns : toUint32 s.width = width.toNat := by
    rw [h.size.1]
    unfold toUint32
    omega
  have lines : toUint32 s.height = height.toNat := by
    rw [h.size.2]
    unfold toUint32
    omega
  have active : s.activeBuffer = some imported.buf := by
    rw [RKSurface.activeBuffer, h.present]
  by_cases rgb : (rgbDrmFormat fourcc).isSome = true
  · rw [if_pos (.inr rgb), image]
    rw [rgb] at isRgb
    have one := fits.rgb isRgb
    obtain ⟨⟨buffer, found, open_, -⟩, rfl⟩ := exportResult_single undecoded
      (by rw [h.present, Option.filter_some, one]; rfl) exported
    obtain rfl := Option.some.inj (active.symm.trans found)
    have locals : (exportLocals s s.activeBuffer s.exportedHstride).importedRgb = some imported := by
      rw [exportLocals, h.present, Option.filter_some, if_pos isRgb]
    unfold singleDescriptor
    rw [locals]
    simp [VADRMPRIMESurfaceDescriptor.image, exportLocals, importedDescriptor, active, columns,
      lines, h.format.1, one, isRgb, fits.object, open_]
  · have yuv := Option.not_isSome_iff_eq_none.mp rgb
    have isYuv : imported.rgb = false := by rw [isRgb, yuv]; rfl
    have format := imported_format accepted yuv
    rw [yuv, Option.getD_none] at drmFormat
    by_cases two : imported.multiplane = true
    · obtain rfl := exportResult_multiplane undecoded
        (by rw [h.present, Option.filter_some, if_pos two]) exported
      cases composed with
      | false =>
        rw [if_neg (by simp [yuv])]
        unfold multiplaneDescriptor
        cases s.is10bit <;> rfl
      | true =>
        have either : fourcc = .nv12 ∨ fourcc = .p010 := by
          cases h10 : fourcc == .p010 <;> rw [h10] at format
          · exact .inl format
          · exact .inr format
        have opened := (importSurfaceDescriptor_yuv opens either h.taken).1
        rw [if_pos (.inl rfl), image]
        unfold multiplaneDescriptor
        rw [h.format.2, columns, lines]
        refine ⟨?_, ?_⟩
        · cases h10 : fourcc == .p010 <;> rw [h10] at format drmFormat <;>
            simp [VADRMPRIMESurfaceDescriptor.image, importedDescriptor, two, isYuv, drmFormat,
              imageLayers, format]
        · simp [opened.fd.1, (opened.chroma two).1]
    · have one := eq_false_of_ne_true two
      obtain ⟨⟨buffer, found, open_, -⟩, rfl⟩ := exportResult_single undecoded
        (by rw [h.present, Option.filter_some, if_neg two]) exported
      obtain rfl := Option.some.inj (active.symm.trans found)
      have contiguous : imported.contiguous = true := by
        rw [Imported.contiguous, isYuv, one]
        rfl
      have exact_ := h.contiguous_layout wide tall contiguous (small contiguous)
      have locals : (exportLocals s s.activeBuffer s.exportedHstride).importedRgb = none := by
        rw [exportLocals, h.present, Option.filter_some, isYuv]
        rfl
      unfold singleDescriptor
      rw [locals]
      simp only [exportLocals]
      rw [exact_.1, exact_.2]
      simp only [h.format.2, columns, lines, active]
      cases composed with
      | false =>
        rw [if_neg (by simp [yuv])]
        cases fourcc == .p010 <;> rfl
      | true =>
        rw [if_pos (.inl rfl), image]
        refine ⟨?_, ?_⟩
        · cases h10 : fourcc == .p010 <;> rw [h10] at format drmFormat <;>
            simp [VADRMPRIMESurfaceDescriptor.image, importedDescriptor, one, isYuv, drmFormat,
              imageLayers, format, fits.object]
        · simp [open_]

theorem initialStrides_image {imported' : Imported} (same : imported'.image = imported.image)
    (width height : Nat) (is10bit : Bool) :
    initialStrides (some imported') width height is10bit encoderInput =
      initialStrides (some imported) width height is10bit encoderInput := by
  have contiguous : imported'.contiguous = imported.contiguous :=
    (congrArg Imported.contiguous same :)
  have pitch : imported'.pitch = imported.pitch := (congrArg Imported.pitch same :)
  unfold initialStrides
  rw [Option.filter_some, Option.filter_some, contiguous]
  cases imported.contiguous <;> simp [pitch]

/-- Two surfaces have one image, each under descriptors of its own. -/
structure SameImage (s s' : RKSurface) : Prop where
  size : s'.width = s.width ∧ s'.height = s.height
  strides : s'.hstride = s.hstride ∧ s'.vstride = s.vstride
  format : s'.fourcc = s.fourcc ∧ s'.is10bit = s.is10bit
  imported : s'.imported.map Imported.image = s.imported.map Imported.image

/-- A surface of imported memory is exported, whenever that is, as the descriptor it was made of, up
to the numbers of the file descriptors, and another driver makes the same surface of it. Only NV12
and P010 in separate layers are refused. -/
theorem importedSurface_shared (opens : env.Opens) (ready : env'.Ready)
    (compiled : env.rga = true → env'.rga = true)
    (created : createSurface env width height fourcc (some d) encoderInput = some s₀)
    {actions : List SurfaceAction} {st : SurfaceState}
    (run : Transition.run surfaceStep (.init s₀) actions = some st)
    (small : ∀ imported, s₀.imported = some imported → imported.contiguous = true →
      imported.pitch * height.toNat ≤ intMax)
    (exported : exportResult st.surface exportEnv composed = .ok d') :
    ((∃ s', createSurface env' width height fourcc (some d') encoderInput' = some s') ↔
        composed = true ∨ (rgbDrmFormat fourcc).isSome = true) ∧
      ∀ s', createSurface env' width height fourcc (some d') encoderInput' = some s' →
        d'.image = d.image ∧ SameImage st.surface s' := by
  have c := createSurface_from created
  obtain ⟨imported, made⟩ := createSurface_importedAs created
  have unbegun := unbegun_run (createSurface_created created) run
  have untouched := unbegun.untouched (unbegun.idle (by rw [made.present]; rfl))
  have kept := made.untouched untouched
  have result := kept.exported opens c.wide c.tall c.accepted untouched.undecoded
    (small imported made.present) exported
  by_cases joined : composed = true ∨ (rgbDrmFormat fourcc).isSome = true
  · rw [if_pos joined] at result
    obtain ⟨imported', taken, same⟩ :=
      importSurfaceDescriptor_image ready compiled result.1 result.2 kept.taken
    refine ⟨iff_of_true (createSurface_ready ready c.wide c.tall c.accepted taken) joined,
      fun s' remade => ⟨result.1, ?_⟩⟩
    obtain ⟨other, made'⟩ := createSurface_importedAs remade
    obtain rfl := Option.some.inj (taken.symm.trans made'.taken)
    obtain ⟨hstride, vstride⟩ := Prod.mk.inj
      ((made'.strides.trans (initialStrides_image same _ _ _)).trans kept.strides.symm)
    refine ⟨⟨made'.size.1.trans kept.size.1.symm, made'.size.2.trans kept.size.2.symm⟩,
      ⟨hstride, vstride⟩, ⟨made'.format.1.trans kept.format.1.symm,
        made'.format.2.trans kept.format.2.symm⟩, ?_⟩
    rw [made'.present, kept.present, Option.map_some, Option.map_some, same]
  · rw [if_neg joined] at result
    have refused : ∀ s', createSurface env' width height fourcc (some d') encoderInput' ≠ some s' := by
      intro s' remade
      obtain ⟨other, made'⟩ := createSurface_importedAs remade
      obtain ⟨_, _, layer, _, _, t, -⟩ := importSurfaceDescriptor_takes made'.taken
      rw [t.layers] at result
      cases result
    exact ⟨iff_of_false (fun ⟨s', remade⟩ => refused s' remade) joined,
      fun s' remade => absurd remade (refused s')⟩

end

theorem importingCreate_ready : importingCreate.Ready :=
  ⟨fun _ _ => rfl, fun size => ⟨⟨0, 10, -1, size⟩, rfl, show (0 : Int) ≤ 10 by decide⟩⟩

/-- NV12 in one object goes to another driver and comes back as it was. -/
theorem importedSurface_shared_oneObject :
    ∃ s st d, createSurface importingCreate 4 2 .nv12 (some oneObject) false = some s ∧
      Transition.run surfaceStep (.init s) [.exportCheck 0] = some st ∧
      exportResult st.surface availableExport true = .ok d ∧ d.image = oneObject.image ∧
      ∃ s', createSurface importingCreate 4 2 .nv12 (some d) true = some s' ∧
        SameImage st.surface s' := by
  obtain ⟨s, st, d, created, run, exported, pitch⟩ : ∃ s st d,
      createSurface importingCreate 4 2 .nv12 (some oneObject) false = some s ∧
      Transition.run surfaceStep (.init s) [.exportCheck 0] = some st ∧
      exportResult st.surface availableExport true = .ok d ∧
      s.imported.map Imported.pitch = some 8 := ⟨_, _, _, rfl, rfl, rfl, rfl⟩
  have opens : importingCreate.Opens := by
    rintro object handle fd found
    obtain ⟨-, rfl⟩ := Prod.mk.inj (Option.some.inj found)
    decide
  have small : ∀ imported, s.imported = some imported → imported.contiguous = true →
      imported.pitch * (2 : Int).toNat ≤ intMax := by
    intro imported present _
    rw [present, Option.map_some, Option.some.injEq] at pitch
    rw [pitch]
    decide
  obtain ⟨shared, same⟩ := @importedSurface_shared _ _ _ _ _ _ _ _ _ true _ _ opens
    importingCreate_ready id created _ _ run small exported
  obtain ⟨s', made⟩ := shared.mpr (.inl rfl)
  exact ⟨s, st, d, created, run, exported, (same s' made).1, s', made, (same s' made).2⟩

/-! ## Memory of the driver -/

section

variable {env env' : CreateEnv} {exportEnv : ExportEnv} {width height : Int} {fourcc : Fourcc}
  {d : VADRMPRIMESurfaceDescriptor} {encoderInput encoderInput' composed : Bool}
  {s₀ s : RKSurface}

/-- The descriptor of a placeholder, with the strides that it was made with. -/
structure OwnExport (s : RKSurface) (composed : Bool) (hstride vstride : Nat)
    (d : VADRMPRIMESurfaceDescriptor) : Prop where
  strides : s.hstride = hstride ∧ s.vstride = vstride
  positive : 0 < hstride
  small : hstride ≤ intMax
  rows : vstride = roundUp 16 s.height.toNat
  wide : s.width.toNat ≤ hstride
  room : hstride * sampleBytes s.is10bit * (vstride + s.height.toNat / 2) ≤ s.privBuf.size
  fd : 0 ≤ s.privBuf.fd
  descriptor : d = ⟨if s.is10bit then .p010 else .nv12, s.width.toNat, s.height.toNat,
    [⟨s.privBuf.fd, s.privBuf.size, true⟩],
    imageLayers s.is10bit composed ⟨0, 0, hstride * sampleBytes s.is10bit⟩
      ⟨0, hstride * sampleBytes s.is10bit * vstride, hstride * sampleBytes s.is10bit⟩⟩

theorem exportResult_own
    (created : createSurface env width height fourcc none encoderInput = some s₀)
    (untouched : Untouched s₀ s) (exported : exportResult s exportEnv composed = .ok d) :
    ∃ hstride vstride, OwnExport s composed hstride vstride d := by
  have c := createSurface_from created
  have own := c.own rfl
  obtain ⟨sameWidth, sameHeight, sameHstride, sameVstride, sameDepth⟩ := layout_eq untouched.layout
  obtain ⟨alignment, size, unit, hstride, vstride, layout, fits, small⟩ :=
    createSurface_strides created (by rw [own]; rfl)
  obtain ⟨laid, product⟩ := (createSurface_created created).own own
  have none_ : s.imported = none := untouched.imported.trans own
  have wide := c.wide
  have tall := c.tall
  unfold rkMaxSize at wide tall
  have wider := le_roundUp unit.pos width.toNat
  have taller := le_roundUp (show 0 < 16 by decide) height.toNat
  have room := laid.room
  rw [hstride, vstride, c.lines, Int.toNat_natCast, Int.toNat_natCast, ← sameDepth,
    ← untouched.privBuf] at room
  rw [hstride, vstride, ← sameDepth] at product
  have exact_ : roundUp alignment width.toNat * roundUp 16 height.toNat * sampleBytes s.is10bit ≤
      intMax := by exact_mod_cast product
  have pitch : roundUp alignment width.toNat * sampleBytes s.is10bit ≤ intMax := by
    refine le_trans ?_ exact_
    rw [Nat.mul_right_comm]
    exact Nat.le_mul_of_pos_right _ (by omega)
  have active : s.activeBuffer = some s.privBuf := by
    rw [RKSurface.activeBuffer, none_, untouched.empty]
    rfl
  obtain ⟨⟨buffer, found, open_, -⟩, rfl⟩ := exportResult_single untouched.undecoded
    (by rw [none_]; rfl) exported
  obtain rfl := Option.some.inj (active.symm.trans found)
  have columns : s.exportedHstride = (roundUp alignment width.toNat : Nat) := by
    rw [RKSurface.exportedHstride, if_neg (by omega), sameHstride, hstride]
  have lines : s.exportedVstride = (roundUp 16 height.toNat : Nat) := by
    rw [RKSurface.exportedVstride, if_neg (by omega), sameVstride, vstride]
  have locals : (exportLocals s s.activeBuffer s.exportedHstride).importedRgb = none := by
    rw [exportLocals, none_]
    rfl
  refine ⟨roundUp alignment width.toNat, roundUp 16 height.toNat,
    ⟨sameHstride.trans hstride, sameVstride.trans vstride⟩, by omega,
    (Nat.le_mul_of_pos_right _ (sampleBytes_pos _)).trans pitch, ?_, ?_, ?_, open_, ?_⟩
  · rw [sameHeight, c.lines]
  · rw [sameWidth, c.columns]
    exact wider
  · rw [sameHeight, c.lines]
    exact room
  · have imageWidth : toUint32 s.width = s.width.toNat := by
      rw [sameWidth, c.columns]
      unfold toUint32
      omega
    have imageHeight : toUint32 s.height = s.height.toNat := by
      rw [sameHeight, c.lines]
      unfold toUint32
      omega
    unfold singleDescriptor
    rw [locals]
    simp only [exportLocals]
    rw [columns, lines, imageWidth, imageHeight, active, ← Nat.cast_mul, ← Nat.cast_mul,
      ← Nat.cast_mul, toUint32_natCast pitch, toUint32_natCast exact_, Nat.mul_right_comm]
    rfl

theorem OwnExport.layers {hstride vstride : Nat} (h : OwnExport s composed hstride vstride d) :
    d.layers = imageLayers s.is10bit composed ⟨0, 0, hstride * sampleBytes s.is10bit⟩
      ⟨0, hstride * sampleBytes s.is10bit * vstride, hstride * sampleBytes s.is10bit⟩ := by
  rw [h.descriptor]

theorem OwnExport.noRgb {hstride vstride : Nat} (h : OwnExport s composed hstride vstride d) :
    rgbDrmFormat d.fourcc = none := by
  rw [h.descriptor]
  cases s.is10bit <;> rfl

/-- An import of such a descriptor finds the chroma behind the rows of the picture. -/
theorem OwnExport.taken {hstride vstride : Nat} (h : OwnExport s composed hstride vstride d)
    {imported : Imported}
    (taken : importSurfaceDescriptor env s.width.toNat s.height.toNat d.fourcc d = some imported) :
    composed = true ∧ vstride = s.height.toNat ∧ imported.contiguous = true ∧
      imported.pitch = hstride * sampleBytes s.is10bit := by
  obtain ⟨image, -, isRgb⟩ := importSurfaceDescriptor_descriptor taken
  rw [h.noRgb] at isRgb
  have one : imported.multiplane = false := by
    by_contra two
    have objects := congrArg (fun d => d.objects.length) image
    rw [VADRMPRIMESurfaceDescriptor.image, h.descriptor] at objects
    simp [importedDescriptor, eq_true_of_ne_false two] at objects
  have layers : d.image.layers = _ := congrArg VADRMPRIMESurfaceDescriptor.layers image
  rw [show d.image.layers = d.layers from rfl, h.layers] at layers
  simp only [importedDescriptor, isRgb, one] at layers
  cases composed with
  | false => cases depth : s.is10bit <;> simp [imageLayers, depth] at layers
  | true =>
    have planes : hstride * sampleBytes s.is10bit = imported.pitch ∧
        hstride * sampleBytes s.is10bit * vstride = imported.pitch * s.height.toNat := by
      cases depth : s.is10bit <;> simp [imageLayers, depth] at layers ⊢ <;>
        exact ⟨layers.2.1, layers.2.2.1⟩
    refine ⟨rfl, ?_, ?_, planes.1.symm⟩
    · rw [← planes.1] at planes
      exact Nat.eq_of_mul_eq_mul_left (Nat.mul_pos h.positive (sampleBytes_pos _)) planes.2
    · rw [Imported.contiguous, isRgb, one]
      rfl

theorem OwnExport.import_iff {hstride vstride : Nat} (h : OwnExport s composed hstride vstride d)
    (ready : env.Ready) (tall : 0 < s.height ∧ s.height ≤ rkMaxSize) :
    (∃ imported, importSurfaceDescriptor env s.width.toNat s.height.toNat d.fourcc d =
        some imported) ↔ composed = true ∧ s.height % 16 = 0 := by
  unfold rkMaxSize at tall
  have bytes := sampleBytes_pos s.is10bit
  have multiple : vstride = s.height.toNat ↔ s.height % 16 = 0 := by
    rw [h.rows]
    unfold roundUp
    omega
  rw [← multiple]
  constructor
  · rintro ⟨imported, taken⟩
    obtain ⟨joined, rows, -⟩ := h.taken taken
    exact ⟨joined, rows⟩
  · rintro ⟨rfl, same⟩
    subst same
    have full := h.room
    have size : s.privBuf.size ≠ 0 := by
      have some_ : 0 < hstride * sampleBytes s.is10bit * (s.height.toNat + s.height.toNat / 2) :=
        Nat.mul_pos (Nat.mul_pos h.positive bytes) (by omega)
      omega
    have planes : importYuv s.width.toNat s.height.toNat s.is10bit
        ⟨s.privBuf.fd, s.privBuf.size, true⟩ none
        ⟨if s.is10bit then .p010 else .nv12, [⟨0, 0, hstride * sampleBytes s.is10bit⟩,
          ⟨0, hstride * sampleBytes s.is10bit * s.height.toNat, hstride * sampleBytes s.is10bit⟩]⟩ =
        some ⟨hstride * sampleBytes s.is10bit, hstride * sampleBytes s.is10bit, false⟩ := by
      rw [Nat.mul_add] at full
      unfold importYuv
      simp [h.wide, bytes, full]
    have valid : d.objects.all DescriptorObject.valid = true := by
      rw [h.descriptor]
      simp [DescriptorObject.valid, h.fd, size]
    have takes : Takes env.rga s.width.toNat s.height.toNat d.fourcc d
        ⟨s.privBuf.fd, s.privBuf.size, true⟩ none
        ⟨if s.is10bit then .p010 else .nv12, [⟨0, 0, hstride * sampleBytes s.is10bit⟩,
          ⟨0, hstride * sampleBytes s.is10bit * s.height.toNat, hstride * sampleBytes s.is10bit⟩]⟩
        ⟨hstride * sampleBytes s.is10bit, hstride * sampleBytes s.is10bit, false⟩ false := by
      refine ⟨rfl, ?_, ?_, valid, ?_, .inr ⟨h.noRgb, rfl, ?_⟩⟩
      · rw [h.descriptor]
        exact ⟨rfl, rfl⟩
      · rw [h.descriptor]
        rfl
      · rw [h.layers]
        cases s.is10bit <;> rfl
      · rw [h.descriptor]
        refine Eq.trans (congrArg (fun p010 => importYuv _ _ p010 _ _ _) ?_) planes
        cases s.is10bit <;> rfl
    rw [takes.imports]
    exact importBuffers_ready ready h.fd (by simp)

/-- A surface of the driver's memory that no picture was begun on is exported with the padding of
the decoder. Another driver makes a surface of it, with the strides of this one, if and only if its
planes are composed and its height needs no padding. -/
theorem ownSurface_shared (ready : env'.Ready)
    (created : createSurface env width height fourcc none encoderInput = some s₀)
    {actions : List SurfaceAction} {st : SurfaceState}
    (run : Transition.run surfaceStep (.init s₀) actions = some st)
    (unbegun : st.surface.fence = 0)
    (exported : exportResult st.surface exportEnv composed = .ok d) :
    ((∃ s', createSurface env' width height d.fourcc (some d) encoderInput' = some s') ↔
        composed = true ∧ height % 16 = 0) ∧
      ∀ s', createSurface env' width height d.fourcc (some d) encoderInput' = some s' →
        s'.hstride = st.surface.hstride ∧ s'.vstride = st.surface.vstride ∧
          s'.is10bit = st.surface.is10bit := by
  have c := createSurface_from created
  have untouched := (unbegun_run (createSurface_created created) run).untouched unbegun
  obtain ⟨sameWidth, sameHeight, -, -, depth⟩ := layout_eq untouched.layout
  obtain ⟨hstride, vstride, own⟩ := exportResult_own created untouched exported
  have columns : st.surface.width = width := sameWidth.trans c.columns
  have lines : st.surface.height = height := sameHeight.trans c.lines
  have iff_ := own.import_iff ready (lines ▸ c.tall)
  rw [columns, lines] at iff_
  have format : d.fourcc = if st.surface.is10bit then .p010 else .nv12 := by rw [own.descriptor]
  have accepted : formatAccepted d.fourcc true width.toNat height.toNat = true := by
    have before := c.accepted
    rw [format, depth.trans c.depth]
    cases fourcc <;> simp_all [formatAccepted]
  refine ⟨Iff.trans ⟨?_, ?_⟩ iff_, fun s' made => ?_⟩
  · rintro ⟨s', made⟩
    obtain ⟨imported, as⟩ := createSurface_importedAs made
    exact ⟨imported, as.taken⟩
  · rintro ⟨imported, taken⟩
    exact createSurface_ready ready c.wide c.tall accepted taken
  · obtain ⟨imported, as⟩ := createSurface_importedAs made
    have taken := as.taken
    rw [← columns, ← lines] at taken
    obtain ⟨-, rows, contiguous, pitch⟩ := own.taken taken
    have same : (d.fourcc == .p010) = st.surface.is10bit := by
      rw [format]
      cases st.surface.is10bit <;> rfl
    have strides := as.strides.trans (initialStrides_contiguous contiguous)
    rw [same, pitch, Nat.mul_div_cancel _ (sampleBytes_pos _), ← lines, ← rows,
      toInt_natCast own.small] at strides
    obtain ⟨hstride', vstride'⟩ := Prod.mk.inj strides
    exact ⟨hstride'.trans own.strides.1.symm, vstride'.trans own.strides.2.symm,
      as.format.2.trans same⟩

end

/-- A surface of 1920x1080, which the decoder pads to 1088 rows, is refused. -/
theorem ownSurface_shared_padded :
    ∃ s st d, createdSurface = some s ∧
      Transition.run surfaceStep (.init s) [.exportCheck 0] = some st ∧
      exportResult st.surface availableExport true = .ok d ∧
      ¬∃ s', createSurface importingCreate 1920 1080 d.fourcc (some d) false = some s' := by
  obtain ⟨s, st, d, created, run, exported, unbegun⟩ : ∃ s st d, createdSurface = some s ∧
      Transition.run surfaceStep (.init s) [.exportCheck 0] = some st ∧
      exportResult st.surface availableExport true = .ok d ∧ st.surface.fence = 0 :=
    ⟨_, _, _, rfl, rfl, rfl, rfl⟩
  refine ⟨s, st, d, created, run, exported, fun shared => ?_⟩
  have padded := ((ownSurface_shared importingCreate_ready created run unbegun exported).1.mp
    shared).2
  exact absurd padded (by decide)

end RockchipVaapi.Surface
