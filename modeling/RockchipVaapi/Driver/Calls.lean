import RockchipVaapi.Driver.Rules

/-!
# The entry points of the driver

What the entry points of `driver_vtable` do with objects. Everything else they look at, the data of
an object among it, is a `branch`. A lock around several operations is not modelled: their order is
left open to other threads, which allows more than the code does.
-/

namespace RockchipVaapi.Driver
open References

attribute [local simp] unrefOpt wp_done wp_unref wp_unref_end wp_branch Token.Spent Layout.Alive
  Multiset.erase_cons_head Multiset.erase_cons_tail_of_mem

/-- What a call does that leaves nothing behind. -/
def Serves (m : Program Unit) : Prop :=
  layout.wp 4 m (fun _ h => h = {.right .license}) {.right .license}

/-! ## One object -/

/-- Look an object up, work with it, and release it on every path. -/
def use (heap : Heap) (id : UInt32) : Program Unit := do
  let some o ← acquire heap id | return
  unref o

/-- Take an object out of its heap, and release it. -/
def destroyId (heap : Heap) (id : UInt32) : Program Unit := do
  let some o ← remove heap id | return
  unref o

/-- `rk_QueryConfigAttributes` (`rockchip_drv_video.c:380-406`) -/
def rkQueryConfigAttributes (id : UInt32) : Program Unit := use .config id

/-- `rk_QuerySurfaceAttrs` (`rockchip_drv_video.c:486-571`) -/
def rkQuerySurfaceAttrs (id : UInt32) : Program Unit := use .config id

/-- `rk_SyncSurface`, `rk_SyncSurface2` (`surface.c:627-692`) -/
def rkSyncSurface (id : UInt32) : Program Unit := use .surface id

/-- `rk_QuerySurfaceStatus` (`surface.c:694-708`) -/
def rkQuerySurfaceStatus (id : UInt32) : Program Unit := use .surface id

/-- `rk_BufferSetNumElements` (`buffer.c:183-215`) -/
def rkBufferSetNumElements (id : UInt32) : Program Unit := use .buffer id

/-- `rk_MapBuffer` (`buffer.c:217-260`) -/
def rkMapBuffer (id : UInt32) : Program Unit := use .buffer id

/-- `rk_UnmapBuffer` (`buffer.c:285-304`) -/
def rkUnmapBuffer (id : UInt32) : Program Unit := use .buffer id

/-- `rk_buffer_acquire_handle` (`buffer.c:306-354`) -/
def rkBufferAcquireHandle (id : UInt32) : Program Unit := use .buffer id

/-- `rk_buffer_release_handle` (`buffer.c:356-368`) -/
def rkBufferReleaseHandle (id : UInt32) : Program Unit := use .buffer id

/-- `rk_BufferInfo` (`buffer.c:383-399`) -/
def rkBufferInfo (id : UInt32) : Program Unit := use .buffer id

/-- `rk_SyncBuffer` (`rockchip_drv_video.c:602-618`) -/
def rkSyncBuffer (id : UInt32) : Program Unit := use .buffer id

/-- `rk_DestroyConfig` (`rockchip_drv_video.c:369-378`) -/
def rkDestroyConfig (id : UInt32) : Program Unit := destroyId .config id

/-- `rk_DestroyContext` (`context.c:267-277`) -/
def rkDestroyContext (id : UInt32) : Program Unit := destroyId .context id

/-- `rk_DestroyBuffer` (`buffer.c:370-381`) -/
def rkDestroyBuffer (id : UInt32) : Program Unit := destroyId .buffer id

/-- `rk_DestroySurfaces` (`surface.c:508-521`) -/
def rkDestroySurfaces : List UInt32 → Program Unit
  | [] => return
  | id :: ids => do
    destroyId .surface id
    rkDestroySurfaces ids

/-- `rk_ExportSurfaceHandle` (`export.c:19-305`): the surface is synchronised where its picture is
not there yet, and released on every path. -/
def rkExportSurfaceHandle (id : UInt32) : Program Unit := do
  let some s ← acquire .surface id | return
  if ← branch then rkSyncSurface id
  unref s

theorem wp_use {heap : Heap} {id : UInt32} {Q : Unit → Multiset Held → Prop} {h : Multiset Held}
    (post : Q () h) : layout.wp 4 (use heap id) Q h := by
  unfold use
  rw [wp_acquire]
  refine ⟨Layout.wp_pure () post, fun o _ _ => ?_⟩
  rw [wp_unref_end]
  refine ⟨by simp, by simp, Layout.wp_pure () ?_⟩
  simpa using post

theorem wp_destroyId {heap : Heap} {id : UInt32} {Q : Unit → Multiset Held → Prop}
    {h : Multiset Held} (post : Q () h) : layout.wp 4 (destroyId heap id) Q h := by
  unfold destroyId
  rw [wp_remove]
  refine ⟨Layout.wp_pure () post, fun o _ => ?_⟩
  rw [wp_unref_end]
  refine ⟨by simp, by simp, Layout.wp_pure () ?_⟩
  simpa using post

theorem wp_destroyId_done {heap : Heap} {id : UInt32} {h : Multiset Held}
    (rest : .right .license ∈ h ∧ ∀ x ∈ h.erase (.right .license), x.Spent) :
    layout.wp 4 (destroyId heap id) (fun _ h => h = {.right .license}) h := by
  unfold destroyId
  rw [wp_remove]
  refine ⟨wp_done.mpr rest, fun o _ => ?_⟩
  rw [wp_unref_end]
  refine ⟨by simp, by simp, wp_done.mpr ?_⟩
  simpa using rest

theorem serves_use (heap : Heap) (id : UInt32) : Serves (use heap id) := wp_use rfl

theorem serves_destroyId (heap : Heap) (id : UInt32) : Serves (destroyId heap id) :=
  wp_destroyId rfl

theorem serves_rkDestroySurfaces (ids : List UInt32) : Serves (rkDestroySurfaces ids) := by
  induction ids with
  | nil => exact Layout.wp_pure () rfl
  | cons id ids ih => exact Layout.wp_bind (wp_destroyId ih)

theorem serves_rkExportSurfaceHandle (id : UInt32) : Serves (rkExportSurfaceHandle id) := by
  unfold Serves rkExportSurfaceHandle
  rw [wp_acquire]
  refine ⟨by simp, fun s _ _ => ?_⟩
  rw [wp_branch]
  refine ⟨by simp, Layout.wp_bind (wp_use ?_)⟩
  simp

/-! ## Configurations and contexts -/

/-- `rk_CreateConfig` (`rockchip_drv_video.c:288-367`) -/
def rkCreateConfig : Program Unit := do
  if ← branch then return
  let some config ← new .config | return
  if (← insert .config config).isNone then
    unref config

/-- The render targets of a context (`context.c:132-147`). -/
def addTargets (c : Obj) : List UInt32 → Program Bool
  | [] => return true
  | id :: ids => do
    let some s ← acquire .surface id | return false
    push .targets c s
    addTargets c ids

/-- `rk_CreateContext` (`context.c:61-265`): a decoder starts its worker before it is in the heap. -/
def rkCreateContext (configId : UInt32) (isEncoder : Bool) (targets : List UInt32) :
    Program Unit := do
  if ← branch then return
  let some config ← acquire .config configId | return
  unref config
  if ← branch then return
  let some c ← new (if isEncoder then .encoder else .decoder) | return
  if ← branch then
    unref c
    return
  if !(← addTargets c targets) then
    unref c
    return
  if ← branch then
    unref c
    return
  if !isEncoder then
    if !(← lend c) then
      unref c
      return
  if (← insert .context c).isNone then
    unref c

theorem serves_rkCreateConfig : Serves rkCreateConfig := by
  unfold Serves rkCreateConfig
  rw [wp_branch]
  refine ⟨?_, by simp⟩
  simp only [Bool.false_eq_true, if_false]
  rw [wp_new .config _ (by simp)]
  refine ⟨by simp, fun config kind => ?_⟩
  simp only [blanks_plain (.inl kind), zero_add]
  rw [wp_insert]
  simp [kind, Kind.heap]

theorem wp_addTargets {c : Obj} (kind : c.kind.heap = some .context) (ids : List UInt32)
    {Q : Bool → Multiset Held → Prop} {h : Multiset Held} (held : .ref c ∈ h)
    (post : ∀ b, Q b h) : layout.wp 4 (addTargets c ids) Q h := by
  induction ids with
  | nil => exact Layout.wp_pure _ (post _)
  | cons id ids ih =>
    unfold addTargets
    rw [wp_acquire]
    refine ⟨Layout.wp_pure _ (post _), fun s surface _ => ?_⟩
    simp only
    rw [wp_push (of_context kind ⟨rfl, rfl⟩) rfl]
    refine ⟨.inl (.inl (by simp [held])), ?_, by simp, ?_⟩
    · exact heap_surface.mp surface
    · simpa using ih

theorem serves_rkCreateContext (configId : UInt32) (isEncoder : Bool) (targets : List UInt32) :
    Serves (rkCreateContext configId isEncoder targets) := by
  unfold Serves rkCreateContext
  rw [wp_branch]
  refine ⟨?_, by simp⟩
  simp only [Bool.false_eq_true, if_false]
  rw [wp_acquire]
  refine ⟨by simp, fun config _ _ => ?_⟩
  simp
  rw [wp_new _ _ (by simp)]
  refine ⟨by simp, fun c kind => ?_⟩
  have context : c.kind.heap = some .context := by
    rw [kind]
    cases isEncoder <;> rfl
  simp only [blanks_plain (.inr (.inl context)), zero_add]
  rw [wp_branch]
  refine ⟨?_, by simp⟩
  simp only [Bool.false_eq_true, if_false]
  refine Layout.wp_bind (wp_addTargets context targets (by simp) fun added => ?_)
  cases added
  · simp
  · cases isEncoder
    · simp [wp_lend, wp_insert, kind, Kind.heap]
    · simp [wp_insert, context]

/-! ## Surfaces -/

/-- The surfaces that were made so far go again (`surface.c:342-350`). -/
def rollback : List UInt32 → Program Unit
  | [] => return
  | id :: ids => do
    destroyId .surface id
    rollback ids

/-- `create_surfaces` (`surface.c:226-352`), with `n` surfaces to go. -/
def createSurfaces : Nat → List UInt32 → Program Unit
  | 0, _ => return
  | n + 1, ids => do
    let some s ← new .surface | rollback ids
    if ← branch then
      unref s
      rollback ids
      return
    match ← insert .surface s with
    | some (.slot _ id) => createSurfaces n (ids ++ [id])
    | _ =>
      unref s
      rollback ids

theorem wp_rollback (ids : List UInt32) {Q : Unit → Multiset Held → Prop} {h : Multiset Held}
    (post : Q () h) : layout.wp 4 (rollback ids) Q h := by
  induction ids with
  | nil => exact Layout.wp_pure () post
  | cons id ids ih => exact Layout.wp_bind (wp_destroyId ih)

theorem serves_createSurfaces (n : Nat) (ids : List UInt32) : Serves (createSurfaces n ids) := by
  induction n generalizing ids with
  | zero => exact Layout.wp_pure () rfl
  | succ n ih =>
    unfold Serves createSurfaces
    rw [wp_new _ _ (by simp)]
    refine ⟨wp_rollback ids rfl, fun s kind => ?_⟩
    simp only [blanks_plain (.inr (.inr (.inl kind))), zero_add]
    rw [wp_branch]
    refine ⟨?_, ?_⟩
    · simp only [Bool.false_eq_true, if_false]
      rw [wp_insert]
      refine ⟨heap_surface.mpr kind, by simp, by simp, ?_, fun id => ?_⟩
      · rw [wp_unref]
        refine ⟨by simp, by simp, wp_rollback ids ?_⟩
        simp
      · simpa using wp_spent (x := .right (.bound (.slot .surface id) s)) trivial (ih (ids ++ [id]))
    · simp only [if_true]
      rw [wp_unref]
      refine ⟨by simp, by simp, Layout.wp_bind (wp_rollback ids ?_)⟩
      simp

/-! ## Buffers and images -/

/-- `rk_CreateBuffer` (`buffer.c:134-181`) -/
def rkCreateBuffer : Program (Option UInt32) := do
  if ← branch then return none
  let some buffer ← new .buffer | return none
  if ← branch then
    unref buffer
    return none
  match ← insert .buffer buffer with
  | some (.slot _ id) => return some id
  | _ =>
    unref buffer
    return none

/-- `rk_CreateImage` (`buffer.c:436-540`) -/
def rkCreateImage : Program Unit := do
  if ← branch then return
  let some bufferId ← rkCreateBuffer | return
  let some buffer ← acquire .buffer bufferId | rkDestroyBuffer bufferId
  let some image ← new .image
    | unref buffer
      rkDestroyBuffer bufferId
  set .imageBuffer image buffer
  if (← insert .image image).isNone then
    unref image
    rkDestroyBuffer bufferId

/-- `rk_DeriveImage` (`buffer.c:550-710`): the surface goes to the buffer, and the buffer to the
image. -/
def rkDeriveImage (surfaceId : UInt32) : Program Unit := do
  let some surface ← acquire .surface surfaceId | return
  if ← branch then
    rkSyncSurface surfaceId
  if ← branch then
    unref surface
    return
  let some bufferId ← rkCreateBuffer | unref surface
  let some buffer ← acquire .buffer bufferId
    | rkDestroyBuffer bufferId
      unref surface
  let some image ← new .image
    | unref buffer
      rkDestroyBuffer bufferId
      unref surface
  set .derivedSurface buffer surface
  set .imageBuffer image buffer
  if (← insert .image image).isNone then
    unref image
    rkDestroyBuffer bufferId

/-- `rk_DestroyImage` (`buffer.c:712-727`), with `image->buffer_id`. -/
def rkDestroyImage (id bufferId : UInt32) : Program Unit := do
  let some image ← remove .image id | return
  unrefOpt (← remove .buffer bufferId)
  unref image

/-- `rk_GetImage`, `rk_PutImage` (`surface.c:724-844`, `buffer.c:752-870`): a surface, and an image
whose buffer is used for as long as the image is held. -/
def transferImage (surfaceId imageId : UInt32) : Program Unit := do
  let surface ← acquire .surface surfaceId
  let some image ← acquire .image imageId | unrefOpt surface
  let some _buffer ← peek .imageBuffer image
    | unrefOpt surface
      unref image
  unref image
  unrefOpt surface

def rkGetImage (surfaceId imageId : UInt32) : Program Unit := transferImage surfaceId imageId

def rkPutImage (surfaceId imageId : UInt32) : Program Unit := transferImage surfaceId imageId

/-- A new buffer in the heap: its maker has the right to make it a derived one. -/
theorem wp_rkCreateBuffer {α : Type} {k : Option UInt32 → Program α}
    {Q : α → Multiset Held → Prop} {h : Multiset Held} (license : .right .license ∈ h)
    (none : layout.wp 4 (k none) Q h)
    (some : ∀ b id, b.kind = .buffer → layout.wp 4 (k (some id)) Q
      (.right (.bound (.slot .buffer id) b) ::ₘ .right (.blank (.field .derivedSurface b)) ::ₘ h)) :
    layout.wp 4 (rkCreateBuffer >>= k) Q h := by
  refine Layout.wp_bind ?_
  have nothing (b : Obj) : layout.wp 4 (k Option.none) Q
      (.right (.blank (.field .derivedSurface b)) ::ₘ h) :=
    wp_spent (by trivial) none
  unfold rkCreateBuffer
  rw [wp_branch]
  refine ⟨?_, Layout.wp_pure _ none⟩
  simp only [Bool.false_eq_true, if_false]
  rw [wp_new _ _ (by simp)]
  refine ⟨Layout.wp_pure _ none, fun b kind => ?_⟩
  simp only [blanks_once (o := b) (f := .derivedSurface) (by simp [kind]), Multiset.singleton_add]
  rw [wp_branch]
  refine ⟨?_, ?_⟩
  · simp only [Bool.false_eq_true, if_false]
    rw [wp_insert]
    refine ⟨by rw [kind]; rfl, by simp [license], by simp, ?_, fun id => ?_⟩
    · rw [wp_unref]
      refine ⟨by simp, by simp, Layout.wp_pure _ ?_⟩
      simpa using nothing b
    · refine Layout.wp_pure _ ?_
      simpa using some b id kind
  · simp only [if_true]
    rw [wp_unref]
    refine ⟨by simp, by simp, Layout.wp_pure _ ?_⟩
    simpa using nothing b

theorem serves_rkCreateImage : Serves rkCreateImage := by
  unfold Serves rkCreateImage
  rw [wp_branch]
  refine ⟨?_, by simp⟩
  simp only [Bool.false_eq_true, if_false]
  refine wp_rkCreateBuffer (by simp) (by simp) fun b id kind => ?_
  simp only
  rw [wp_acquire]
  refine ⟨wp_destroyId_done (by simp), fun buffer heap same => ?_⟩
  obtain rfl := same b (by simp)
  rw [wp_new _ _ (by simp)]
  refine ⟨?_, fun image imageKind => ?_⟩
  · simp only [wp_unref]
    exact ⟨by simp, by simp, wp_destroyId_done (by simp)⟩
  · simp only [blanks_once (o := image) (f := .imageBuffer) (by simp [imageKind]),
      Multiset.singleton_add]
    refine wp_set (by rw [imageKind]; rfl) _ (.inl (by simp)) kind (by simp) (by simp) ?_
    rw [wp_insert]
    refine ⟨by rw [imageKind]; rfl, by simp, by simp, ?_, fun id' => by simp⟩
    simp only [Option.isNone_none, if_true, wp_unref]
    exact ⟨by simp, by simp, wp_destroyId_done (by simp)⟩

theorem serves_rkDeriveImage (surfaceId : UInt32) : Serves (rkDeriveImage surfaceId) := by
  unfold Serves rkDeriveImage
  rw [wp_acquire]
  refine ⟨by simp, fun s surface _ => ?_⟩
  have surface := heap_surface.mp surface
  -- whether the surface is synchronised first makes no difference
  rw [wp_branch]
  suffices rest : layout.wp 4 (do
      if ← branch then
        unref s
        return
      let some bufferId ← rkCreateBuffer | unref s
      let some buffer ← acquire .buffer bufferId
        | rkDestroyBuffer bufferId
          unref s
      let some image ← new .image
        | unref buffer
          rkDestroyBuffer bufferId
          unref s
      set .derivedSurface buffer s
      set .imageBuffer image buffer
      if (← insert .image image).isNone then
        unref image
        rkDestroyBuffer bufferId) (fun _ h => h = {.right .license}) (.ref s ::ₘ {.right .license}) from
    ⟨rest, Layout.wp_bind (wp_use rest)⟩
  rw [wp_branch]
  refine ⟨?_, by simp⟩
  simp only [Bool.false_eq_true, if_false]
  refine wp_rkCreateBuffer (by simp) (by simp) fun b id kind => ?_
  simp only
  rw [wp_acquire]
  refine ⟨Layout.wp_bind (wp_destroyId (by simp)), fun buffer heap same => ?_⟩
  obtain rfl := same b (by simp)
  rw [wp_new _ _ (by simp)]
  refine ⟨?_, fun image imageKind => ?_⟩
  · simp only [wp_unref]
    exact ⟨by simp, by simp, Layout.wp_bind (wp_destroyId (by simp))⟩
  · simp only [blanks_once (o := image) (f := .imageBuffer) (by simp [imageKind]),
      Multiset.singleton_add]
    refine wp_set (by rw [kind]; rfl) _ (.inl (by simp)) surface (by simp) (by simp) ?_
    refine wp_set (by rw [imageKind]; rfl) _ (.inl (by simp)) kind (by simp) (by simp) ?_
    rw [wp_insert]
    refine ⟨by rw [imageKind]; rfl, by simp, by simp, ?_, fun id' => by simp⟩
    simp only [Option.isNone_none, if_true, wp_unref]
    exact ⟨by simp, by simp, wp_destroyId_done (by simp)⟩

theorem serves_rkDestroyImage (id bufferId : UInt32) : Serves (rkDestroyImage id bufferId) := by
  unfold Serves rkDestroyImage
  rw [wp_remove]
  refine ⟨by simp, fun image _ => ?_⟩
  simp only
  rw [wp_remove]
  refine ⟨by simp, fun buffer _ => by simp⟩

theorem serves_transferImage (surfaceId imageId : UInt32) :
    Serves (transferImage surfaceId imageId) := by
  unfold Serves transferImage
  rw [wp_acquire]
  refine ⟨?_, fun s _ _ => ?_⟩ <;> rw [wp_acquire]
  · refine ⟨by simp, fun image _ _ => ?_⟩
    refine wp_peek rfl _ (.inl (by simp)) (by simp) fun b _ => by simp
  · refine ⟨by simp, fun image _ _ => ?_⟩
    refine wp_peek rfl _ (.inl (by simp)) (by simp) fun b _ => by simp

/-! ## Pictures -/

/-- `rk_BeginPicture` (`context.c:279-382`): an encoder takes one surface at a time; a decoder lets
go of the previous one, and the surface of the pool of its previous picture. -/
def rkBeginPicture (ctxId renderTarget : UInt32) : Program Unit := do
  let some c ← acquire .context ctxId | return
  let some s ← acquire .surface renderTarget | unref c
  if c.kind == .encoder then
    if ← branch then
      unref s
      unref c
      return
    if ← offer .renderSurface c s then
      unref c
    else
      unref s
      unref c
  else
    if ← branch then
      unref s
      unref c
      return
    let oldPool ← if ← branch then pure none else swap .surfacePool s none
    let previous ← swap .renderSurface c (some s)
    unrefOpt oldPool
    unrefOpt previous
    unref c

/-- The loop of `rk_RenderPicture`: an encoder stops at the first error. -/
def renderBuffers (isEncoder : Bool) : List UInt32 → Program Unit
  | [] => return
  | id :: ids => do
    match ← acquire .buffer id with
    | none => if isEncoder then return
    | some b =>
      unref b
      if isEncoder then
        if ← branch then return
    renderBuffers isEncoder ids

/-- `rk_RenderPicture` (`context.c:411-488`) -/
def rkRenderPicture (ctxId : UInt32) (ids : List UInt32) : Program Unit := do
  let some c ← acquire .context ctxId | return
  if ← branch then
    unref c
    return
  renderBuffers (c.kind == .encoder) ids
  unref c

/-- A loop over the pending buffers, which may stop at any of them. -/
def scan : List UInt32 → Program Unit
  | [] => return
  | id :: ids => do
    unrefOpt (← acquire .buffer id)
    if ← branch then return
    scan ids

/-- `decode_job_create` (`mpp_dec.c:787-805`), for the surface that is rendered to. -/
def decodeJobCreate (s : Obj) : Program (Option Obj) := do
  let some job ← new .job | return none
  if ← ref s then
    set .jobSurface job s
    return some job
  unref job
  return none

inductive Coding
  | avc
  | hevc
  | vp9
  deriving DecidableEq, Repr

/-- `rk_mpp_dec_build_job` (`mpp_dec.c:1564-1572`) with the builders of the three codings: their
loops over the pending buffers, and the job at the end. -/
def buildJob (coding : Coding) (s : Obj) (pending : List UInt32) : Program (Option Obj) := do
  match coding with
  | .avc =>
    scan pending
    scan pending
    if ← branch then return none
    scan pending
    if ← branch then return none
    decodeJobCreate s
  | .hevc =>
    if ← branch then return none
    scan pending
    if ← branch then return none
    scan pending
    if ← branch then return none
    let some job ← decodeJobCreate s | return none
    if ← branch then
      unref job
      return none
    return some job
  | .vp9 =>
    scan pending
    if ← branch then return none
    decodeJobCreate s

/-- `rk_EndPicture` (`context.c:490-560`) with `rk_mpp_enc_encode`: the picture lock keeps the
surface in its field until the end of the picture, so it is taken out at once here. -/
def rkEndPicture (coding : Coding) (ctxId codedId : UInt32) (pending : List UInt32) :
    Program Unit := do
  let some c ← acquire .context ctxId | return
  if ← branch then
    unref c
    return
  let some s ← swap .renderSurface c none | unref c
  if c.kind == .encoder then
    if ← branch then unrefOpt (← acquire .buffer codedId)
    unref s
    unref c
  else
    let job ← buildJob coding s pending
    unref s
    match job with
    | none => unref c
    | some job =>
      if ← branch then
        unref job
      else
        push .jobs c job
      unref c

theorem serves_rkBeginPicture (ctxId renderTarget : UInt32) :
    Serves (rkBeginPicture ctxId renderTarget) := by
  unfold Serves rkBeginPicture
  rw [wp_acquire]
  refine ⟨by simp, fun c context _ => ?_⟩
  simp only
  rw [wp_acquire]
  refine ⟨by simp, fun s surface _ => ?_⟩
  have kind := heap_surface.mp surface
  simp only
  split
  · rw [wp_branch]
    refine ⟨?_, by simp⟩
    simp only [Bool.false_eq_true, if_false]
    rw [wp_offer (of_context context ⟨rfl, rfl⟩) rfl]
    simp [kind, Field.refersTo]
  · rw [wp_branch]
    refine ⟨?_, by simp⟩
    simp only [Bool.false_eq_true, if_false]
    rw [wp_branch]
    refine ⟨?_, ?_⟩
    · simp only [Bool.false_eq_true, if_false]
      rw [wp_swap_none (by rw [kind]; rfl) (by simp) rfl]
      refine ⟨by simp, ?_, fun pool _ => ?_⟩
      · rw [wp_swap_some (of_context context ⟨rfl, rfl⟩) (by simp) rfl]
        simp [kind, Field.refersTo]
      · rw [wp_swap_some (of_context context ⟨rfl, rfl⟩) (by simp) rfl]
        simp [kind, Field.refersTo]
    · simp only [if_true, Prog.pure_bind]
      rw [wp_swap_some (of_context context ⟨rfl, rfl⟩) (by simp) rfl]
      simp [kind, Field.refersTo]

theorem wp_renderBuffers (isEncoder : Bool) (ids : List UInt32) {Q : Unit → Multiset Held → Prop}
    {h : Multiset Held} (post : Q () h) : layout.wp 4 (renderBuffers isEncoder ids) Q h := by
  induction ids with
  | nil => exact Layout.wp_pure () post
  | cons id ids ih =>
    unfold renderBuffers
    rw [wp_acquire]
    refine ⟨?_, fun b _ _ => ?_⟩
    · cases isEncoder
      · exact ih
      · exact Layout.wp_pure () post
    · simp only [wp_unref]
      refine ⟨by simp, by simp, ?_⟩
      rw [Multiset.erase_cons_head]
      cases isEncoder
      · exact ih
      · simp only [if_true, wp_branch]
        exact ⟨ih, Layout.wp_pure () post⟩

theorem serves_rkRenderPicture (ctxId : UInt32) (ids : List UInt32) :
    Serves (rkRenderPicture ctxId ids) := by
  unfold Serves rkRenderPicture
  rw [wp_acquire]
  refine ⟨by simp, fun c _ _ => ?_⟩
  simp only
  rw [wp_branch]
  exact ⟨Layout.wp_bind (wp_renderBuffers _ ids (by simp)), by simp⟩

theorem wp_scan (ids : List UInt32) {Q : Unit → Multiset Held → Prop} {h : Multiset Held}
    (post : Q () h) : layout.wp 4 (scan ids) Q h := by
  induction ids with
  | nil => exact Layout.wp_pure () post
  | cons id ids ih =>
    have rest : layout.wp 4 (do
        if ← branch then return
        scan ids) Q h := by
      rw [wp_branch]
      exact ⟨ih, Layout.wp_pure () post⟩
    unfold scan
    rw [wp_acquire]
    refine ⟨rest, fun b _ _ => ?_⟩
    simp only [unrefOpt, wp_unref]
    refine ⟨by simp, by simp, ?_⟩
    rw [Multiset.erase_cons_head]
    exact rest

/-- A job for a surface that is held: it has a reference of its own. -/
theorem wp_decodeJobCreate {s : Obj} (surface : s.kind = .surface) {h : Multiset Held}
    (held : .ref s ∈ h) {Q : Option Obj → Multiset Held → Prop} (none : Q none h)
    (some : ∀ job, job.kind = .job → layout.wp 4 (pure (some job)) Q (.ref job ::ₘ h)) :
    layout.wp 4 (decodeJobCreate s) Q h := by
  unfold decodeJobCreate
  rw [wp_new _ _ (by simp)]
  refine ⟨Layout.wp_pure _ none, fun job kind => ?_⟩
  simp only [blanks_once (o := job) (f := .jobSurface) (by simp [kind]), Multiset.singleton_add]
  rw [wp_ref]
  refine ⟨by simp [held], by simp, ?_, ?_⟩
  · simp only [Bool.false_eq_true, if_false, wp_unref]
    refine ⟨by simp, by simp, ?_⟩
    rw [Multiset.erase_cons_head]
    exact wp_spent (by trivial) (Layout.wp_pure _ none)
  · simp only [if_true]
    refine wp_set (by rw [kind]; rfl) _ (.inl (by simp)) surface (by simp) (by simp) ?_
    simp
    exact wp_spent (by trivial) (some job kind)

theorem wp_buildJob (coding : Coding) {s : Obj} (surface : s.kind = .surface) (pending : List UInt32)
    {h : Multiset Held} (held : .ref s ∈ h) {Q : Option Obj → Multiset Held → Prop}
    (none : Q none h)
    (some : ∀ job, job.kind = .job → layout.wp 4 (pure (some job)) Q (.ref job ::ₘ h)) :
    layout.wp 4 (buildJob coding s pending) Q h := by
  have nothing : layout.wp 4 (pure Option.none) Q h := Layout.wp_pure _ none
  unfold buildJob
  cases coding with
  | avc =>
    refine Layout.wp_bind (wp_scan pending (Layout.wp_bind (wp_scan pending ?_)))
    rw [wp_branch]
    refine ⟨Layout.wp_bind (wp_scan pending ?_), nothing⟩
    rw [wp_branch]
    exact ⟨wp_decodeJobCreate surface held none some, nothing⟩
  | hevc =>
    simp only [wp_branch]
    refine ⟨Layout.wp_bind (wp_scan pending ?_), nothing⟩
    rw [wp_branch]
    refine ⟨Layout.wp_bind (wp_scan pending ?_), nothing⟩
    rw [wp_branch]
    refine ⟨Layout.wp_bind (wp_decodeJobCreate surface held nothing fun job kind => ?_), nothing⟩
    refine Layout.wp_pure _ ?_
    simp only
    rw [wp_branch]
    refine ⟨some job kind, ?_⟩
    simp only [if_true, wp_unref]
    refine ⟨by simp, by simp, ?_⟩
    rw [Multiset.erase_cons_head]
    exact nothing
  | vp9 =>
    refine Layout.wp_bind (wp_scan pending ?_)
    rw [wp_branch]
    exact ⟨wp_decodeJobCreate surface held none some, nothing⟩

theorem serves_rkEndPicture (coding : Coding) (ctxId codedId : UInt32) (pending : List UInt32) :
    Serves (rkEndPicture coding ctxId codedId pending) := by
  unfold Serves rkEndPicture
  rw [wp_acquire]
  refine ⟨by simp, fun c context _ => ?_⟩
  simp only
  rw [wp_branch]
  refine ⟨?_, by simp⟩
  simp only [Bool.false_eq_true, if_false]
  rw [wp_swap_none (of_context context ⟨rfl, rfl⟩) (by simp) rfl]
  refine ⟨by simp, by simp, fun s surface => ?_⟩
  simp only
  split
  · rw [wp_branch]
    refine ⟨by simp, ?_⟩
    simp only [if_true]
    rw [wp_acquire]
    exact ⟨by simp, fun b _ _ => by simp⟩
  · rename_i decoder
    have jobs : Field.of .jobs c.kind = true := by
      revert context decoder
      cases c.kind <;> simp [Kind.heap, Field.of]
    refine Layout.wp_bind (wp_buildJob coding surface pending (by simp) (by simp) ?_)
    intro job kind
    refine Layout.wp_pure _ ?_
    simp only [wp_unref]
    refine ⟨by simp, by simp, ?_⟩
    simp only [wp_branch]
    refine ⟨?_, by simp⟩
    simp only [Bool.false_eq_true, if_false]
    rw [wp_push jobs rfl]
    simp [kind, Field.refersTo]

end RockchipVaapi.Driver
