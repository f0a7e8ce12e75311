import RockchipVaapi.Misc.Transition
import RockchipVaapi.Surface.Create
import RockchipVaapi.Surface.Enclose

/-!
# One surface and its threads

The application begins pictures on a surface and exports it, decode workers bind frames to it.
Each step is one section under the surface's lock. The calls of `assign_mpp_frame` and of
`rk_ExportSurfaceHandle` that are between two of their sections are part of the state.
-/

namespace RockchipVaapi.Surface

/-- A call of `assign_mpp_frame` after its first section, or after its second. `permanent` is
whether the second section found the surface to be permanent storage. -/
inductive AssignCall
  | measured (d : Delivery) (g : FrameGeometry)
  | prepared (frame : MppFrame) (output : FrameOutput) (permanent : Bool)
  | failing

/-- A call of `rk_ExportSurfaceHandle` after its first section. -/
inductive ExportCall
  | syncing
  | synced
  deriving DecidableEq, Repr

/-- A surface with the calls in progress, those of `assign_mpp_frame` by the fence of the route:
only the worker of the context that began the picture has routes with its fence, and it makes one
call at a time. History are `established`, the pitches and offsets that the first export of the
permanent storage returned, `pixels`, the frame whose picture was copied into `priv_buf` last, and
`lastOutput`. -/
structure SurfaceState where
  surface : RKSurface
  calls : Nat → Option AssignCall
  exports : Nat → Option ExportCall
  established : Option (List (Nat × Nat))
  pixels : Option MppFrame
  lastOutput : Option FrameOutput

def SurfaceState.init (s : RKSurface) : SurfaceState :=
  ⟨s, fun _ => none, fun _ => none, none, none, none⟩

inductive SurfaceAction
  /-- `rk_BeginPicture` of a decoder context. -/
  | begin (ctxId : Nat) (avc : Bool)
  /-- The field flag of `rk_EndPicture`. -/
  | markField (fence : Nat) (field : Bool)
  /-- `complete_surface_ref` for a picture without a frame of its own. -/
  | complete (fence : Nat) (success : Bool)
  /-- `rk_mpp_dec_fail_surface`. -/
  | fail (fence : Nat)
  /-- A frame comes for the route of a fence. -/
  | arrive (fence : Nat) (d : Delivery)
  | prepare (fence : Nat) (env : AssignEnv)
  /-- The last section of `assign_mpp_frame`. -/
  | finish (fence : Nat)
  | exportCheck (thread : Nat)
  | exportSync (thread : Nat)
  | exportBuffer (thread : Nat) (env : ExportEnv) (composed : Bool)

/-- What the second section of an export and the rest of the call return. -/
def exportResult (s : RKSurface) (env : ExportEnv) (composed : Bool) :
    Except VAStatus VADRMPRIMESurfaceDescriptor :=
  (exportSection s env).2.bind (describe env.dups composed)

/-- `f` with another value at `k`. -/
def setAt {α : Type} (f : Nat → α) (k : Nat) (value : α) : Nat → α :=
  fun k' => if k' = k then value else f k'

@[simp] theorem setAt_self {α : Type} (f : Nat → α) (k : Nat) (value : α) :
    setAt f k value k = value := if_pos rfl

theorem setAt_ne {α : Type} (f : Nat → α) {k k' : Nat} (value : α) (h : k' ≠ k) :
    setAt f k value k' = f k' := if_neg h

namespace SurfaceState

def setCall (st : SurfaceState) (fence : Nat) (call : Option AssignCall) : SurfaceState :=
  { st with calls := setAt st.calls fence call }

def setExport (st : SurfaceState) (thread : Nat) (call : Option ExportCall) : SurfaceState :=
  { st with exports := setAt st.exports thread call }

/-- The first section of `assign_mpp_frame` and the checks of the frame's flags. -/
def arrive (st : SurfaceState) (fence : Nat) (d : Delivery) : SurfaceState :=
  if st.surface.fence ≠ fence then st
  else if d.frame.errinfo ≠ 0 ∨ d.frame.discard ≠ 0 then st.setCall fence (some .failing)
  else
    st.setCall fence
      (some (.measured d (frameGeometry d.frame st.surface.width st.surface.height)))

/-- The second section. What a copy that fails leaves in `priv_buf` is not known, but only a call
with the current fence comes to copy. -/
def prepare (st : SurfaceState) (fence : Nat) (d : Delivery) (g : FrameGeometry) (env : AssignEnv) :
    SurfaceState :=
  match Surface.prepare d env fence g st.surface with
  | none =>
    { st with
      calls := setAt st.calls fence (some .failing)
      pixels := if st.surface.fence = fence then none else st.pixels }
  | some output =>
    { st with
      calls := setAt st.calls fence (some (.prepared d.frame output st.surface.stableExport))
      pixels := if output.stableExportCopy then some d.frame else st.pixels }

/-- The last section. -/
def finish (st : SurfaceState) (fence : Nat) : AssignCall → Option SurfaceState
  | .measured _ _ => none
  | .failing =>
    some { st with
      surface := completeSurfaceRef st.surface fence false
      calls := setAt st.calls fence none }
  | .prepared _ output _ =>
    if st.surface.fence ≠ fence then some (st.setCall fence none)
    else
      some { st with
        surface := publish st.surface output
        calls := setAt st.calls fence none
        lastOutput := some output }

/-- The second section of an export, and its end. -/
def exportBuffer (st : SurfaceState) (thread : Nat) (env : ExportEnv) (composed : Bool) :
    SurfaceState :=
  { st with
    surface := (exportSection st.surface env).1
    exports := setAt st.exports thread none
    established :=
      match st.established, exportResult st.surface env composed with
      | some geometry, _ => some geometry
      | none, .error _ => none
      | none, .ok d =>
        if st.surface.isPlaceholder && (exportSection st.surface env).1.stableExport then
          some d.geometry
        else none }

end SurfaceState

/-- The step relation. A context has an id other than zero, and a fence that was handed out is not
zero either. Imported surfaces are not decoded to. -/
def surfaceStep (st : SurfaceState) : SurfaceAction → Option SurfaceState
  | .begin ctxId avc =>
    if st.surface.imported.isSome ∨ ctxId = 0 then none
    else some { st with surface := beginPicture st.surface ctxId avc }
  | .markField fence field => some { st with surface := markField st.surface fence field }
  | .complete fence success =>
    if fence = 0 then none
    else some { st with surface := completeSurfaceRef st.surface fence success }
  | .fail fence => some { st with surface := rkMppDecFailSurface st.surface fence }
  | .arrive fence d =>
    if fence = 0 ∨ (st.calls fence).isSome then none else some (st.arrive fence d)
  | .prepare fence env =>
    match st.calls fence with
    | some (.measured d g) => some (st.prepare fence d g env)
    | _ => none
  | .finish fence => (st.calls fence).bind (st.finish fence)
  | .exportCheck thread =>
    if (st.exports thread).isSome then none
    else some (st.setExport thread (some (if st.surface.needsSync then .syncing else .synced)))
  | .exportSync thread =>
    if st.exports thread = some .syncing then
      match rkSyncSurface st.surface with
      | none => none
      | some (.error _) => some (st.setExport thread none)
      | some (.ok _) => some (st.setExport thread (some .synced))
    else none
  | .exportBuffer thread env composed =>
    if st.exports thread = some .synced then some (st.exportBuffer thread env composed) else none

/-- The picture begun makes a fence other than that of any call in progress: a call does not last
for the 2 ^ 64 pictures after which a fence comes back. -/
def freshFence (st : SurfaceState) : SurfaceAction → Bool
  | .begin ctxId avc =>
    let fence := (beginPicture st.surface ctxId avc).fence
    fence == st.surface.fence || (st.calls fence).isNone
  | _ => true

theorem freshFence_begin {st : SurfaceState} {ctxId fence : Nat} {avc : Bool} {call : AssignCall}
    (fresh : freshFence st (.begin ctxId avc) = true) (here : st.calls fence = some call)
    (current : (beginPicture st.surface ctxId avc).fence = fence) : st.surface.fence = fence := by
  simp only [freshFence, current, here, Option.isNone_some, Bool.or_false, beq_iff_eq] at fresh
  exact fresh.symm

/-! ## What a step does -/

/-- The steps by what they change. `settle` and `failed` write no more than the verdict, `idle`
leaves the surface alone, and `giveUp` ends a call or makes it fail. -/
inductive SurfaceMove (st : SurfaceState) : SurfaceAction → SurfaceState → Prop
  | begin {ctxId : Nat} {avc : Bool} (own : st.surface.imported = none) (issued : ctxId ≠ 0) :
    SurfaceMove st (.begin ctxId avc) { st with surface := beginPicture st.surface ctxId avc }
  | settle {a : SurfaceAction} {decoded decodeFailed pending : Bool}
    (kind : (∃ fence field, a = .markField fence field) ∨
      (∃ fence success, a = .complete fence success) ∨ ∃ fence, a = .fail fence)
    (shown : decoded = true → st.surface.decoded = true ∨ st.surface.fence ≠ 0) :
    SurfaceMove st a { st with surface := st.surface.settle decoded decodeFailed pending }
  | idle {a : SurfaceAction} {exports : Nat → Option ExportCall}
    (kind : (∃ fence d, a = .arrive fence d) ∨ (∃ thread, a = .exportCheck thread) ∨
      ∃ thread, a = .exportSync thread) : SurfaceMove st a { st with exports := exports }
  | measure {fence : Nat} {d : Delivery} (current : st.surface.fence = fence) (issued : fence ≠ 0) :
    SurfaceMove st (.arrive fence d)
      (st.setCall fence (some (.measured d (frameGeometry d.frame st.surface.width
        st.surface.height))))
  | giveUp {a : SurfaceAction} {fence : Nat} {call : Option AssignCall} {pixels : Option MppFrame}
    (call_none : call = none ∨ call = some .failing)
    (kind : (∃ d, a = .arrive fence d) ∨ (∃ env, a = .prepare fence env) ∨
      a = .finish fence ∧ st.surface.fence ≠ fence)
    (kept : pixels = st.pixels ∨
      st.surface.fence = fence ∧ ∃ d g, st.calls fence = some (.measured d g)) :
    SurfaceMove st a { st with calls := setAt st.calls fence call, pixels := pixels }
  | prepare {fence : Nat} {d : Delivery} {g : FrameGeometry} {env : AssignEnv}
    {output : FrameOutput} (call : st.calls fence = some (.measured d g))
    (prepared : prepare d env fence g st.surface = some output) :
    SurfaceMove st (.prepare fence env)
      { st with
        calls := setAt st.calls fence (some (.prepared d.frame output st.surface.stableExport))
        pixels := if output.stableExportCopy then some d.frame else st.pixels }
  | failed {fence : Nat} (call : st.calls fence = some .failing) :
    SurfaceMove st (.finish fence)
      { st with
        surface := completeSurfaceRef st.surface fence false
        calls := setAt st.calls fence none }
  | publish {fence : Nat} {frame : MppFrame} {output : FrameOutput} {permanent : Bool}
    (call : st.calls fence = some (.prepared frame output permanent))
    (current : st.surface.fence = fence) :
    SurfaceMove st (.finish fence)
      { st with
        surface := publish st.surface output
        calls := setAt st.calls fence none
        lastOutput := some output }
  | exported {thread : Nat} {env : ExportEnv} {composed : Bool} :
    SurfaceMove st (.exportBuffer thread env composed) (st.exportBuffer thread env composed)

theorem surfaceStep_move {st st' : SurfaceState} {a : SurfaceAction}
    (h : surfaceStep st a = some st') : SurfaceMove st a st' := by
  cases a with
  | begin ctxId avc =>
    simp only [surfaceStep] at h
    split at h
    · cases h
    · rename_i accepted
      obtain rfl := Option.some.inj h
      rw [not_or, Option.not_isSome_iff_eq_none] at accepted
      exact .begin accepted.1 accepted.2
  | markField fence field =>
    obtain rfl := Option.some.inj h
    obtain ⟨pending, same⟩ := markField_settle st.surface fence field
    rw [same]
    exact .settle (.inl ⟨fence, field, rfl⟩) .inl
  | complete fence success =>
    simp only [surfaceStep] at h
    split at h
    · cases h
    · rename_i issued
      obtain rfl := Option.some.inj h
      obtain ⟨decoded, failed, pending, same, shown⟩ :=
        completeSurfaceRef_settle st.surface fence success
      rw [same]
      refine .settle (.inr (.inl ⟨fence, success, rfl⟩)) fun h => ?_
      exact (shown h).imp_right fun ⟨current, _⟩ => current ▸ issued
  | fail fence =>
    obtain rfl := Option.some.inj h
    obtain ⟨failed, same⟩ := rkMppDecFailSurface_settle st.surface fence
    rw [same]
    exact .settle (.inr (.inr ⟨fence, rfl⟩)) .inl
  | arrive fence d =>
    simp only [surfaceStep] at h
    split at h
    · cases h
    · rename_i free
      rw [not_or] at free
      obtain rfl := Option.some.inj h
      unfold SurfaceState.arrive
      split
      · exact .idle (.inl ⟨fence, d, rfl⟩)
      · rename_i current
        split
        · exact .giveUp (.inr rfl) (.inl ⟨d, rfl⟩) (.inl rfl)
        · exact .measure (not_not.mp current) free.1
  | prepare fence env =>
    simp only [surfaceStep] at h
    split at h
    · rename_i d g call
      obtain rfl := Option.some.inj h
      unfold SurfaceState.prepare
      split
      · refine .giveUp (.inr rfl) (.inr (.inl ⟨env, rfl⟩)) ?_
        by_cases current : st.surface.fence = fence
        · exact .inr ⟨current, d, g, call⟩
        · exact .inl (if_neg current)
      · rename_i output prepared
        exact .prepare call prepared
    · cases h
  | finish fence =>
    obtain ⟨call, found, h⟩ := Option.bind_eq_some_iff.mp h
    cases call with
    | measured d g => cases h
    | failing =>
      obtain rfl := Option.some.inj h
      exact .failed found
    | prepared frame output permanent =>
      simp only [SurfaceState.finish] at h
      split at h
      · rename_i canceled
        obtain rfl := Option.some.inj h
        exact .giveUp (.inl rfl) (.inr (.inr ⟨rfl, canceled⟩)) (.inl rfl)
      · rename_i current
        obtain rfl := Option.some.inj h
        exact .publish found (not_not.mp current)
  | exportCheck thread =>
    simp only [surfaceStep] at h
    split at h
    · cases h
    · obtain rfl := Option.some.inj h
      exact .idle (.inr (.inl ⟨thread, rfl⟩))
  | exportSync thread =>
    simp only [surfaceStep] at h
    split at h
    · split at h
      · cases h
      · obtain rfl := Option.some.inj h
        exact .idle (.inr (.inr ⟨thread, rfl⟩))
      · obtain rfl := Option.some.inj h
        exact .idle (.inr (.inr ⟨thread, rfl⟩))
    · cases h
  | exportBuffer thread env composed =>
    simp only [surfaceStep] at h
    split at h
    · obtain rfl := Option.some.inj h
      exact .exported
    · cases h

/-! ## What the second section makes of a frame -/

section

variable {d : Delivery} {env : AssignEnv} {fence : Nat} {g : FrameGeometry} {s : RKSurface}
  {output : FrameOutput}

/-- An output that was copied into permanent storage keeps the layout of the storage. -/
structure Copied (frame : MppFrame) (fence : Nat) (g : FrameGeometry) (s : RKSurface)
    (output : FrameOutput) : Prop where
  current : s.fence = fence
  fmt : output.fmt = frame.fmt
  height : output.height = frame.height
  storedFrame : output.storedFrame = none
  backing : output.backing = none
  hstride : output.hstride = s.hstride
  vstride : output.vstride = s.vstride
  positive : 0 < s.hstride ∧ 0 < s.vstride
  tall : g.frameH.toNat ≤ s.vstride.toNat
  room : ∃ size, layoutSize output.fmt.is10bit s.hstride.toNat s.vstride.toNat = some size ∧
    size ≤ s.privBuf.size

theorem rkSurfaceCopyToStableExport_copied {source : Option MppBuffer}
    {width height sourceStride sourceVerticalStride : Nat} {is10bit repacks : Bool}
    {stride verticalStride : Int}
    (h : rkSurfaceCopyToStableExport s source width height sourceStride sourceVerticalStride
      is10bit fence repacks = .copied stride verticalStride) :
    stride = s.hstride ∧ verticalStride = s.vstride ∧ s.stableExport = true ∧ s.fence = fence ∧
      0 < s.hstride ∧ 0 < s.vstride ∧
      rkRepack is10bit source (some s.privBuf) width height sourceStride sourceVerticalStride
        s.hstride.toNat s.vstride.toNat repacks = true := by
  unfold rkSurfaceCopyToStableExport at h
  split at h
  · cases h
  · rename_i stable
    split at h
    · cases h
    · rename_i valid
      simp only [not_or, Int.not_le, not_not] at valid
      obtain ⟨-, -, -, hstride, vstride, current⟩ := valid
      split at h
      · rename_i done
        obtain ⟨rfl, rfl⟩ := CopyResult.copied.inj h
        exact ⟨rfl, rfl, Bool.not_eq_false _ ▸ stable, current, hstride, vstride, done⟩
      · cases h

/-- The second section copies the picture if, and only if, the surface is permanent storage. -/
theorem prepare_copied (h : prepare d env fence g s = some output) :
    s.stableExport = output.stableExportCopy ∧
      (output.stableExportCopy = true → Copied d.frame fence g s output) := by
  obtain ⟨first, check, h⟩ := Option.bind_eq_some_iff.mp h
  obtain ⟨second, copy, kept⟩ := Option.bind_eq_some_iff.mp h
  have checked := checkFrame_some check
  have layout := retain_layout kept
  unfold copySection at copy
  split at copy
  · cases copy
  · rename_i answer
    obtain rfl := Option.some.inj copy
    have uncopied : output.stableExportCopy = false := by
      rw [layout.2.2.2.2.2, checked.uncopied]
    have unchanged : copySection s env fence g first = some first := by
      unfold copySection
      rw [answer]
    obtain ⟨-, unstable⟩ := copySection_uncopied unchanged checked.uncopied
    rw [uncopied, unstable]
    exact ⟨rfl, fun h => by cases h⟩
  · rename_i stride verticalStride answer
    obtain rfl := Option.some.inj copy
    obtain ⟨rfl, rfl, stable, current, hstride, vstride, done⟩ :=
      rkSurfaceCopyToStableExport_copied answer
    obtain ⟨-, tall, buffer, size, same, fits, room⟩ := rkRepack_true done
    obtain rfl := Option.some.inj same
    have depth : first.converted10bit = d.frame.fmt.is10bit := by
      rcases checked.picture with ⟨nv12, -, plain, -⟩ | ⟨nv15, -, converted, -⟩
      · rw [plain, MppFrameFormat.is10bit, linearNv12_not15 nv12]
      · rw [converted, MppFrameFormat.is10bit, nv15]
    have same : output = { first with
        storedFrame := none, backing := none, hstride := s.hstride, vstride := s.vstride
        stableExportCopy := true } := by
      rcases retain_cases kept with ⟨same, -⟩ | ⟨pool, -, uncopied, -⟩
      · exact same
      · cases uncopied
    subst same
    refine ⟨stable, fun _ => ⟨current, checked.fmt, checked.height, rfl, rfl, rfl, rfl,
      ⟨hstride, vstride⟩, tall, size, ?_, room⟩⟩
    show layoutSize first.fmt.is10bit _ _ = some size
    rw [checked.fmt, ← depth]
    exact fits

end

/-! ## A surface to try -/

/-- Memory that is always there, in the size that is asked for. -/
def ampleMemory : Allocator where
  get size := some ⟨0, 10, -1, size⟩
  size_le := by
    intro size buffer h
    rw [← Option.some.inj h]

def plainCreate : CreateEnv := ⟨true, fun _ => none, ampleMemory⟩

/-- A surface for the frames of `strideDelivery`. -/
def createdSurface : Option RKSurface := createSurface plainCreate 1920 1080 .nv12 none false

def availableExport : ExportEnv := ⟨ampleMemory, true, true⟩

end RockchipVaapi.Surface
