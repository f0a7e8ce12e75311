import RockchipVaapi.Misc.Custody
import RockchipVaapi.ObjectHeap.Heap
import RockchipVaapi.Surface.Attributes

/-!
# Creating many surfaces at once

`create_surfaces` makes one surface after the other and puts each into the heap. Whatever fails on
the way, the surface that is being made is taken apart, and those that are in the heap already are
removed again.
-/

namespace RockchipVaapi.Surface
open Custody
open ObjectHeap (RKObjectHeap insert remove)

/-! ## One surface -/

/-- What a surface can hold. -/
inductive Holding
  | memory
  | lock
  | cond
  | frame
  | backingBuf
  | importFd
  | importBuf
  | importChromaFd
  | importChromaBuf
  | decodePool
  | privGroup
  | privBuf
  | exportBuf
  deriving DecidableEq, Repr

/-- What the duplication, the two synchronisations and the import of an object answer. -/
structure ObjectEnv where
  dup : Int
  starts : Bool
  ends : Bool
  imports : Option Nat

/-- What one turn of the loop asks of the system. `grows` is the outcome of `realloc` in the
heap. -/
structure TurnEnv where
  calloc : Bool
  mutexInit : Bool
  condInit : Bool
  rga : Bool
  luma : ObjectEnv
  chroma : ObjectEnv
  group : Bool
  alloc : Allocator
  grows : Bool

/-- The arguments that the loop does not change. The size has been checked. -/
structure SurfaceRequest where
  width : Int
  height : Int
  width_pos : 0 < width
  height_pos : 0 < height
  fourcc : Fourcc
  imports : Option (Nat → VADRMPRIMESurfaceDescriptor)
  encoderInput : Bool

/-- `is_10bit`. -/
def SurfaceRequest.is10bit (request : SurfaceRequest) : Bool := request.fourcc == .p010

/-- What an import leaves on a surface (`surface.c:37-44`). -/
def importedHoldings : Option Imported → List Holding
  | none => []
  | some imported =>
    [.importBuf] ++ (if 0 ≤ imported.fd then [.importFd] else []) ++
      (if imported.multiplane then [.importChromaBuf] else []) ++
      (if 0 ≤ imported.chromaFd then [.importChromaFd] else [])

/-- What `surface_destroy` gives back (`surface.c:31-56`), in its order, of a surface with these
fields. -/
def surfaceHoldings (frame backingBuf decodePool exportBuf privBuf : Bool)
    (imported : Option Imported) : List Holding :=
  (if frame then [.frame] else []) ++ (if backingBuf then [.backingBuf] else []) ++
    importedHoldings imported ++ (if decodePool then [.decodePool] else []) ++
    (if privBuf then [.privBuf] else []) ++ (if exportBuf then [.exportBuf] else []) ++
    (if privBuf then [.privGroup] else []) ++ [.cond, .lock, .memory]

/-- `surface_destroy` of a surface that is not ready yet. -/
def destroyUnready (imported : Option Imported) : List (Event Holding) :=
  (surfaceHoldings false false false false false imported).map .release

/-- The planes and the objects that an import takes over. -/
structure ImportPlan where
  planes : ImportPlanes
  object : DescriptorObject
  chromaObject : Option DescriptorObject
  format : DrmFormat
  rgb : Bool

/-- The checks of `import_surface_descriptor` (`surface.c:74-146`). -/
def importPlan (rga : Bool) (width height : Nat) (fourcc : Fourcc)
    (descriptor : VADRMPRIMESurfaceDescriptor) : Except CreateError ImportPlan :=
  if rgbDrmFormat fourcc = none ∧ fourcc ≠ .nv12 ∧ fourcc ≠ .p010 then .error .attrNotSupported
  else if fourcc.rgb = true ∧ rga = false then .error .attrNotSupported
  else if descriptor.fourcc ≠ fourcc ∨ descriptor.width ≠ width ∨ descriptor.height ≠ height ∨
      descriptor.objects.all DescriptorObject.valid = false then .error .invalidParameter
  else
    let plan : Option ImportPlan :=
      match descriptor.layers, descriptor.objects, rgbDrmFormat fourcc with
      | [layer], [object], some format =>
        (importRgb width height format object layer).map fun planes =>
          ⟨planes, object, none, layer.drmFormat, true⟩
      | [layer], [object], none =>
        (importYuv width height (fourcc == .p010) object none layer).map fun planes =>
          ⟨planes, object, none, layer.drmFormat, false⟩
      | [layer], [object, chroma], none =>
        (importYuv width height (fourcc == .p010) object (some chroma) layer).map fun planes =>
          ⟨planes, object, some chroma, layer.drmFormat, false⟩
      | _, _, _ => none
    plan.elim (.error .invalidParameter) .ok

/-- The import of one object (`surface.c:148-169`, `surface.c:173-201`): the buffer and its file
descriptor. -/
def importObject (env : ObjectEnv) (fd buffer : Holding) :
    List (Event Holding) × Except CreateError (Nat × Int) :=
  if env.dup < 0 then ([], .error .allocationFailed)
  else if !env.starts || !env.ends then ([.take fd, .release fd], .error .invalidParameter)
  else
    match env.imports with
    | none => ([.take fd, .release fd], .error .allocationFailed)
    | some handle => ([.take fd, .take buffer], .ok (handle, env.dup))

/-- The fields that an import sets (`surface.c:203-217`). -/
def ImportPlan.imported (plan : ImportPlan) (luma : Nat × Int) (chromaFd : Int) : Imported where
  buf := ⟨luma.1, luma.2, 0, plan.object.size⟩
  fd := luma.2
  size := plan.object.size
  pitch := plan.planes.pitch
  chromaFd := chromaFd
  chromaSize := plan.chromaObject.elim 0 DescriptorObject.size
  chromaPitch := if plan.chromaObject.isSome then plan.planes.chromaPitch else 0
  drmFormat := plan.format
  rgb := plan.rgb
  multiplane := plan.chromaObject.isSome

/-- `import_surface_descriptor` (`surface.c:74-224`). The second object takes the first with it. -/
def importDescriptor (env : TurnEnv) (width height : Nat) (fourcc : Fourcc)
    (descriptor : VADRMPRIMESurfaceDescriptor) :
    List (Event Holding) × Except CreateError Imported :=
  match importPlan env.rga width height fourcc descriptor with
  | .error e => ([], .error e)
  | .ok plan =>
    match importObject env.luma .importFd .importBuf with
    | (events, .error e) => (events, .error e)
    | (events, .ok luma) =>
      match plan.chromaObject with
      | none => (events, .ok (plan.imported luma (-1)))
      | some _ =>
        match importObject env.chroma .importChromaFd .importChromaBuf with
        | (more, .error e) =>
          (events ++ more ++ [.release .importBuf, .release .importFd], .error e)
        | (more, .ok chroma) => (events ++ more, .ok (plan.imported luma chroma.2))

/-- The import of a turn, if there are descriptors. -/
def importTurn (env : TurnEnv) (request : SurfaceRequest) (turn : Nat) :
    List (Event Holding) × Except CreateError (Option Imported) :=
  match request.imports with
  | none => ([], .ok none)
  | some descriptors =>
    let (events, answer) := importDescriptor env request.width.toNat request.height.toNat
      request.fourcc (descriptors turn)
    (events, answer.map some)

/-- The placeholder (`surface.c:280-326`). -/
def placeholderTurn (env : TurnEnv) (request : SurfaceRequest) :
    List (Event Holding) × Option MppBuffer :=
  match rkSurfacePlaceholderSize request.width.toNat request.height.toNat request.is10bit with
  | none => ([], none)
  | some size =>
    if env.group then
      match env.alloc.get size with
      | none => ([.take .privGroup, .release .privGroup], none)
      | some buffer =>
        if 0 ≤ buffer.fd then ([.take .privGroup, .take .privBuf], some buffer)
        else
          ([.take .privGroup, .take .privBuf, .release .privBuf, .release .privGroup], none)
    else ([], none)

/-- A surface that is ready (`surface.c:254-262`, `surface.c:290-308`). -/
def newSurface (request : SurfaceRequest) (imported : Option Imported) (privBuf : MppBuffer) :
    RKSurface :=
  let strides := initialStrides imported request.width.toNat request.height.toNat request.is10bit
    request.encoderInput
  { width := request.width, height := request.height, width_pos := request.width_pos
    height_pos := request.height_pos, frame := none, backingBuf := none, decodePool := none
    hstride := strides.1, vstride := strides.2, privBuf := privBuf, stableExport := false
    exportBuf := none, exportFence := 0, exportHstride := 0, exportVstride := 0
    imported := imported, encoderInput := request.encoderInput
    fmt := ⟨if request.is10bit then .yuv420sp10bit else .yuv420sp, false⟩
    fourcc := request.fourcc, decoded := false, decodeFailed := false, h264FieldPending := false
    ctxId := 0, fence := 0 }

/-- One turn of the loop up to the heap (`surface.c:246-331`). -/
def createTurn (env : TurnEnv) (request : SurfaceRequest) (turn : Nat) :
    List (Event Holding) × Except CreateError RKSurface :=
  if !env.calloc then ([], .error .allocationFailed)
  else if !env.mutexInit then ([.take .memory, .release .memory], .error .allocationFailed)
  else if !env.condInit then
    ([.take .memory, .take .lock, .release .lock, .release .memory], .error .allocationFailed)
  else
    let built : List (Event Holding) := [.take .memory, .take .lock, .take .cond]
    match importTurn env request turn with
    | (events, .error e) => (built ++ events ++ destroyUnready none, .error e)
    | (events, .ok imported) =>
      match placeholderTurn env request with
      | (more, none) =>
        (built ++ events ++ more ++ destroyUnready imported, .error .allocationFailed)
      | (more, some privBuf) => (built ++ events ++ more, .ok (newSurface request imported privBuf))

/-! ## The loop -/

/-- A surface in the heap. `serial` tells the allocations apart. -/
structure SurfaceObject where
  serial : Nat
  surface : RKSurface

/-- What a surface of the heap holds. -/
def SurfaceObject.resources (o : SurfaceObject) : List (Nat × Holding) :=
  (surfaceHoldings o.surface.frame.isSome o.surface.backingBuf.isSome
    o.surface.decodePool.isSome o.surface.exportBuf.isSome true o.surface.imported).map
      (Prod.mk o.serial)

/-- `rk_object_unref` of the last reference. -/
def SurfaceObject.destroy (o : SurfaceObject) : List (Event (Nat × Holding)) :=
  o.resources.map .release

structure CreateState where
  heap : RKObjectHeap SurfaceObject
  ids : List UInt32
  events : List (Event (Nat × Holding))

/-- The loop (`surface.c:244-341`). `ids` is what was written to the caller's array, and with an
error the state is the one at `rollback`. -/
def createLoop (env : Nat → TurnEnv) (first : Nat) (request : SurfaceRequest) :
    Nat → CreateState → CreateState × Option CreateError
  | 0, st => (st, none)
  | n + 1, st =>
    let turn := st.ids.length
    let (events, answer) := createTurn (env turn) request turn
    let st := { st with events := st.events ++ events.map (Event.map (Prod.mk (first + turn))) }
    match answer with
    | .error e => (st, some e)
    | .ok surface =>
      let object : SurfaceObject := ⟨first + turn, surface⟩
      match insert st.heap object (env turn).grows with
      | (heap, none) =>
        ({ st with heap := heap, events := st.events ++ object.destroy }, some .allocationFailed)
      | (heap, some id) =>
        createLoop env first request n { st with heap := heap, ids := st.ids ++ [id] }

/-- The loop at `rollback` (`surface.c:342-350`). -/
def rollback (ids : List UInt32) (heap : RKObjectHeap SurfaceObject)
    (events : List (Event (Nat × Holding))) :
    RKObjectHeap SurfaceObject × List (Event (Nat × Holding)) :=
  match ids with
  | [] => (heap, events)
  | id :: ids =>
    match remove heap id with
    | (heap, none) => rollback ids heap events
    | (heap, some object) => rollback ids heap (events ++ object.destroy)

/-- What a call leaves: the status, the heap, the caller's array as far as it was written, and the
trace. -/
structure CreateResult where
  status : Except CreateError Unit
  heap : RKObjectHeap SurfaceObject
  ids : List UInt32
  events : List (Event (Nat × Holding))

/-- A call that fails before the loop. -/
def CreateResult.refused (heap : RKObjectHeap SurfaceObject) (e : CreateError) : CreateResult :=
  ⟨.error e, heap, [], []⟩

/-- The loop and what follows it. -/
def createAll (env : Nat → TurnEnv) (first : Nat) (request : SurfaceRequest) (n : Nat)
    (heap : RKObjectHeap SurfaceObject) : CreateResult :=
  match createLoop env first request n ⟨heap, [], []⟩ with
  | (st, none) => ⟨.ok (), st.heap, st.ids, st.events⟩
  | (st, some e) =>
    let (heap, events) := rollback st.ids st.heap st.events
    ⟨.error e, heap, st.ids, events⟩

/-- `create_surfaces` (`surface.c:226-352`). -/
def createSurfaces (env : Nat → TurnEnv) (first : Nat) (width height n : Int) (idsNull : Bool)
    (fourcc : Fourcc) (imports : Option (Nat → VADRMPRIMESurfaceDescriptor)) (encoderInput : Bool)
    (heap : RKObjectHeap SurfaceObject) : CreateResult :=
  if size : 0 < width ∧ 0 < height then
    if n < 0 ∨ (0 < n ∧ idsNull = true) then .refused heap .invalidParameter
    else if rkMaxSize < width ∨ rkMaxSize < height then .refused heap .resolutionNotSupported
    else if (fourcc = .i420 ∨ fourcc = .yv12 ∨ fourcc = .p010) ∧
        (width % 2 = 1 ∨ height % 2 = 1) then .refused heap .invalidParameter
    else
      createAll env first ⟨width, height, size.1, size.2, fourcc, imports, encoderInput⟩ n.toNat heap
  else .refused heap .invalidParameter

/-- `rk_CreateSurfaces2` (`surface.c:524-628`). `memory` has the descriptors at an address. -/
def rkCreateSurfaces2 (env : Nat → TurnEnv) (first : Nat) (format width height n : UInt32)
    (idsNull : Bool) (attribs : List VASurfaceAttrib)
    (memory : Nat → Nat → VADRMPRIMESurfaceDescriptor) (heap : RKObjectHeap SurfaceObject) :
    CreateResult :=
  match createSurfaces2Args format width height n attribs with
  | .error e => .refused heap e
  | .ok args =>
    createSurfaces env first args.width args.height args.n idsNull args.fourcc
      (args.imports.map memory) args.encoderInput heap

/-! ## The surface of a turn -/

/-- What the import of an object brings, if all of its steps succeed. -/
def ObjectEnv.answer (env : ObjectEnv) : Option (Nat × Int) :=
  if env.dup < 0 ∨ env.starts = false ∨ env.ends = false then none
  else env.imports.map fun handle => (handle, env.dup)

theorem importObject_answer {env : ObjectEnv} {fd buffer : Holding} {events : List (Event Holding)}
    {answer : Nat × Int} (made : importObject env fd buffer = (events, .ok answer)) :
    env.answer = some answer := by
  unfold importObject at made
  unfold ObjectEnv.answer
  split at made
  · cases made
  · rename_i opened
    split at made
    · cases made
    · rename_i synced
      cases imports : env.imports with
      | none =>
        rw [imports] at made
        cases made
      | some handle =>
        rw [imports] at made
        obtain rfl := Except.ok.inj (Prod.mk.inj made).2
        cases starts : env.starts
        · simp [starts] at synced
        · cases ends : env.ends
          · simp [ends] at synced
          · simp [opened]

theorem elim_map_ok {α β ε : Type} {x : Option α} {f : α → β} {e : ε} {b : β}
    (h : (x.map f).elim (.error e) .ok = (.ok b : Except ε β)) : ∃ a, x = some a ∧ f a = b := by
  cases x with
  | none => cases h
  | some a => exact ⟨a, rfl, Except.ok.inj h⟩

/-- The checks of an import are those of `importSurfaceDescriptor`, which goes on with the plan. -/
theorem importSurfaceDescriptor_plan (env : CreateEnv) {width height : Nat} {fourcc : Fourcc}
    {descriptor : VADRMPRIMESurfaceDescriptor} {plan : ImportPlan}
    (accepted : importPlan env.rga width height fourcc descriptor = .ok plan) :
    importSurfaceDescriptor env width height fourcc descriptor =
        importBuffers env plan.planes plan.object plan.chromaObject plan.format plan.rgb ∧
      plan.planes.multiplane = plan.chromaObject.isSome ∧
      descriptor.objects[0]? = some plan.object ∧
      ∀ chroma ∈ plan.chromaObject, descriptor.objects[1]? = some chroma := by
  unfold importPlan at accepted
  split at accepted
  · cases accepted
  · split at accepted
    · cases accepted
    · rename_i available
      split at accepted
      · cases accepted
      · rename_i valid
        dsimp only at accepted
        split at accepted
        · rename_i layer object format layers objects isRgb
          have rgb : fourcc.rgb = true := by
            rw [Fourcc.rgb, isRgb]
            rfl
          have rga : env.rga = true :=
            Bool.eq_true_of_not_eq_false fun known => available ⟨rgb, known⟩
          obtain ⟨planes, found, rfl⟩ := elim_map_ok accepted
          rw [importSurfaceDescriptor, if_neg valid, layers, objects, isRgb]
          simp only [rga, found]
          exact ⟨rfl, (importRgb_some found).2, rfl, fun _ mem => nomatch mem⟩
        · rename_i layer object layers objects isYuv
          obtain ⟨planes, found, rfl⟩ := elim_map_ok accepted
          rw [importSurfaceDescriptor, if_neg valid, layers, objects, isYuv]
          simp only [found]
          exact ⟨rfl, (importYuv_some found).1, rfl, fun _ mem => nomatch mem⟩
        · rename_i layer object chroma layers objects isYuv
          obtain ⟨planes, found, rfl⟩ := elim_map_ok accepted
          rw [importSurfaceDescriptor, if_neg valid, layers, objects, isYuv]
          simp only [found]
          exact ⟨rfl, (importYuv_some found).1, rfl, fun _ mem => mem⟩
        · cases accepted

/-- An import that succeeds sets the fields of `importSurfaceDescriptor`. -/
theorem importDescriptor_surface {env : TurnEnv} {width height : Nat} {fourcc : Fourcc}
    {descriptor : VADRMPRIMESurfaceDescriptor} {events : List (Event Holding)} {imported : Imported}
    {imports : DescriptorObject → Option (Nat × Int)}
    (made : importDescriptor env width height fourcc descriptor = (events, .ok imported))
    (luma : ∀ object, descriptor.objects[0]? = some object → imports object = env.luma.answer)
    (chroma : ∀ object, descriptor.objects[1]? = some object → imports object = env.chroma.answer) :
    importSurfaceDescriptor ⟨env.rga, imports, env.alloc⟩ width height fourcc descriptor =
      some imported := by
  unfold importDescriptor at made
  cases accepted : importPlan env.rga width height fourcc descriptor with
  | error e =>
    rw [accepted] at made
    cases made
  | ok plan =>
    rw [accepted] at made
    obtain ⟨same, multiplane, first, second⟩ := importSurfaceDescriptor_plan
      ⟨env.rga, imports, env.alloc⟩ accepted
    rw [same]
    unfold importBuffers
    dsimp only at made ⊢
    rw [luma _ first]
    split at made
    · cases made
    · rename_i lumaEvents answer lumaMade
      rw [importObject_answer lumaMade]
      cases planned : plan.chromaObject with
      | none =>
        rw [planned] at made multiplane
        obtain rfl := Except.ok.inj (Prod.mk.inj made).2
        simp [ImportPlan.imported, planned, multiplane]
      | some object =>
        rw [planned] at made multiplane
        dsimp only at made
        split at made
        · cases made
        · rename_i chromaEvents chromaAnswer chromaMade
          obtain rfl := Except.ok.inj (Prod.mk.inj made).2
          dsimp only
          rw [chroma object (second object planned), importObject_answer chromaMade]
          simp [ImportPlan.imported, planned, multiplane]

theorem placeholderTurn_surface {env : TurnEnv} {request : SurfaceRequest}
    {events : List (Event Holding)} {buffer : MppBuffer}
    {imports : DescriptorObject → Option (Nat × Int)}
    (made : placeholderTurn env request = (events, some buffer)) :
    placeholder ⟨env.rga, imports, env.alloc⟩ request.width.toNat request.height.toNat
      request.is10bit = some buffer := by
  unfold placeholderTurn at made
  unfold placeholder
  cases sized : rkSurfacePlaceholderSize request.width.toNat request.height.toNat request.is10bit with
  | none =>
    rw [sized] at made
    cases made
  | some size =>
    rw [sized] at made
    dsimp only [Option.bind_some] at made ⊢
    split at made
    · cases got : env.alloc.get size with
      | none =>
        rw [got] at made
        cases made
      | some buffer' =>
        rw [got] at made
        dsimp only at made
        split at made
        · rename_i opened
          obtain rfl := Option.some.inj (Prod.mk.inj made).2
          exact Option.filter_some_pos (decide_eq_true opened)
        · cases made
    · cases made

/-- A surface that a turn makes is one of `createSurface`, for answers like those of the turn. -/
theorem createTurn_surface {env : TurnEnv} {request : SurfaceRequest} {turn : Nat}
    {events : List (Event Holding)} {s : RKSurface}
    {imports : DescriptorObject → Option (Nat × Int)}
    (made : createTurn env request turn = (events, .ok s))
    (bounded : request.width ≤ rkMaxSize ∧ request.height ≤ rkMaxSize)
    (accepted : formatAccepted request.fourcc request.imports.isSome request.width.toNat
      request.height.toNat = true)
    (luma : ∀ descriptors, request.imports = some descriptors → ∀ object,
      (descriptors turn).objects[0]? = some object → imports object = env.luma.answer)
    (chroma : ∀ descriptors, request.imports = some descriptors → ∀ object,
      (descriptors turn).objects[1]? = some object → imports object = env.chroma.answer) :
    createSurface ⟨env.rga, imports, env.alloc⟩ request.width request.height request.fourcc
      (request.imports.map fun descriptors => descriptors turn) request.encoderInput = some s := by
  unfold createTurn at made
  split at made
  · cases made
  · split at made
    · cases made
    · split at made
      · cases made
      · dsimp only at made
        split at made
        · cases made
        · rename_i importEvents imported importMade
          split at made
          · cases made
          · rename_i moreEvents privBuf placed
            obtain rfl := Except.ok.inj (Prod.mk.inj made).2
            have buffer : placeholder ⟨env.rga, imports, env.alloc⟩ request.width.toNat
                request.height.toNat (request.fourcc == .p010) = some privBuf :=
              placeholderTurn_surface placed
            unfold createSurface
            rw [dif_pos ⟨⟨request.width_pos, bounded.1⟩, request.height_pos, bounded.2⟩,
              Option.isSome_map, if_pos accepted]
            unfold importTurn at importMade
            cases asked : request.imports with
            | none =>
              rw [asked] at importMade
              obtain rfl := Except.ok.inj (Prod.mk.inj importMade).2
              simp only [Option.map_none, buffer]
              rfl
            | some descriptors =>
              rw [asked] at importMade
              dsimp only at importMade
              cases answer : importDescriptor env request.width.toNat request.height.toNat
                  request.fourcc (descriptors turn) with
              | mk taken result =>
                rw [answer] at importMade
                cases result with
                | error e => cases importMade
                | ok imported' =>
                  obtain rfl := Except.ok.inj (Prod.mk.inj importMade).2
                  have brought := importDescriptor_surface answer (luma descriptors asked)
                    (chroma descriptors asked)
                  simp only [Option.map_some, brought, buffer]
                  rfl

end RockchipVaapi.Surface
