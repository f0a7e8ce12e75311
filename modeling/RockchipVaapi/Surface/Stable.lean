import RockchipVaapi.Surface.System

/-!
# Permanent storage

An application that exports a surface before its first picture keeps the placeholder, so every
later picture is copied into it. A frame that passed the copy before the export had marked the
surface is still published as it is.
-/

namespace RockchipVaapi.Surface

/-- The pitches and offsets of the planes in permanent storage. -/
def RKSurface.storage (s : RKSurface) : List (Nat × Nat) :=
  let bytes : Int := sampleBytes s.is10bit
  let pitch := toUint32 (s.exportedHstride * bytes)
  [(0, pitch), (toUint32 (s.exportedHstride * s.exportedVstride * bytes), pitch)]

/-- What the application can rely on once an export has returned the placeholder as permanent
storage: a frame is published by a copy into `priv_buf`, and every later export returns it. -/
structure StorageLaw (privBuf : MppBuffer) (st : SurfaceState) (a : SurfaceAction)
    (st' : SurfaceState) : Prop where
  published : ∀ fence frame output permanent, a = .finish fence →
    st.calls fence = some (.prepared frame output permanent) → st.surface.fence = fence →
    st.established.isSome = true →
    st'.surface.frame = none ∧ st'.surface.backingBuf = none ∧ st'.pixels = some frame
  exported : ∀ thread env composed d geometry, a = .exportBuffer thread env composed →
    exportResult st.surface env composed = .ok d → st.established = some geometry →
    d.objects = [⟨privBuf.fd, privBuf.size, true⟩] ∧ d.geometry = geometry

/-- The order and the inputs that keep the storage: a frame that is published on permanent storage
came to its copy after the surface had been marked, and has the bit depth of the surface; an export
of permanent storage does not have to repack it. -/
def keepsStorage (st : SurfaceState) : SurfaceAction → Bool
  | .finish fence =>
    match st.calls fence with
    | some (.prepared frame _ permanent) =>
      !st.surface.stableExport || st.surface.fence != fence ||
        permanent && frame.fmt.is10bit == st.surface.is10bit
    | _ => true
  | .exportBuffer _ _ _ => !st.surface.stableExport || !st.surface.needsRepack
  | a => freshFence st a

theorem keepsStorage_finish {st : SurfaceState} {fence : Nat} {frame : MppFrame}
    {output : FrameOutput} {permanent : Bool} (ok : keepsStorage st (.finish fence) = true)
    (call : st.calls fence = some (.prepared frame output permanent))
    (current : st.surface.fence = fence) (stable : st.surface.stableExport = true) :
    permanent = true ∧ frame.fmt.is10bit = st.surface.is10bit := by
  simpa [keepsStorage, call, current, stable] using ok

theorem keepsStorage_export {st : SurfaceState} {thread : Nat} {env : ExportEnv} {composed : Bool}
    (ok : keepsStorage st (.exportBuffer thread env composed) = true)
    (stable : st.surface.stableExport = true) : st.surface.needsRepack = false := by
  simpa [keepsStorage, stable] using ok

/-! ## Exports of permanent storage -/

section

variable {s : RKSurface} {env : ExportEnv} {composed : Bool} {d : VADRMPRIMESurfaceDescriptor}

theorem markStable_stable (s : RKSurface) :
    (markStable s).stableExport = (s.stableExport || s.isPlaceholder && !s.encoderInput) := by
  unfold markStable
  split
  · rename_i marked
    rw [marked, Bool.or_true]
  · rename_i unmarked
    rw [eq_false_of_ne_true unmarked, Bool.or_false]

theorem exportResult_stored (own : s.imported = none) (empty : s.holdsPicture = false)
    (unpacked : s.needsRepack = false) (h : exportResult s env composed = .ok d) :
    d = singleDescriptor (exportLocals s (some s.privBuf) s.exportedHstride) composed := by
  have active : s.activeBuffer = some s.privBuf := by
    rw [RKSurface.activeBuffer, own, empty]
    rfl
  unfold exportResult exportSection at h
  rw [own, unpacked, active] at h
  simp only [Option.filter_none, Bool.false_eq_true, if_false, Except.bind, describe] at h
  split at h
  · cases h
  · split at h
    · cases h
    · exact (Except.ok.inj h).symm

theorem stored_objects (composed : Bool) (own : s.imported = none) :
    (singleDescriptor (exportLocals s (some s.privBuf) s.exportedHstride) composed).objects =
        [⟨s.privBuf.fd, s.privBuf.size, true⟩] ∧
      (singleDescriptor (exportLocals s (some s.privBuf) s.exportedHstride) composed).geometry =
        s.storage := by
  unfold singleDescriptor exportLocals
  rw [own]
  refine ⟨rfl, ?_⟩
  simp only [Option.filter_none, VADRMPRIMESurfaceDescriptor.geometry,
    VADRMPRIMESurfaceDescriptor.planes, imageLayers_planes]
  rfl

theorem isPlaceholder_empty (h : s.isPlaceholder = true) :
    s.imported = none ∧ s.holdsPicture = false ∧ s.needsRepack = false := by
  simp only [RKSurface.isPlaceholder, Bool.and_eq_true, Bool.not_eq_true',
    Option.isNone_iff_eq_none] at h
  obtain ⟨⟨undecoded, own⟩, empty⟩ := h
  refine ⟨own, empty, ?_⟩
  rw [RKSurface.needsRepack, undecoded]
  rfl

theorem holdsPicture_false : s.holdsPicture = false ↔ s.frame = none ∧ s.backingBuf = none := by
  simp [RKSurface.holdsPicture, and_comm]

end

/-! ## The invariant -/

/-- What an output that was copied tells about the surface. -/
structure ReadyCopy (st : SurfaceState) (fence : Nat) (frame : MppFrame) (output : FrameOutput) :
    Prop where
  stable : st.surface.stableExport = true
  fmt : output.fmt = frame.fmt
  empty : output.storedFrame = none ∧ output.backing = none
  hstride : output.hstride = st.surface.hstride
  vstride : output.vstride = st.surface.vstride
  positive : 0 < output.hstride ∧ 0 < output.vstride
  pixels : st.surface.fence = fence → st.pixels = some frame

structure StorageInv (privBuf : MppBuffer) (st : SurfaceState) : Prop where
  privBuf : st.surface.privBuf = privBuf
  empty : st.surface.stableExport = true →
    st.surface.imported = none ∧ st.surface.frame = none ∧ st.surface.backingBuf = none
  ready : ∀ fence frame output, st.calls fence = some (.prepared frame output true) →
    ReadyCopy st fence frame output
  established : ∀ geometry, st.established = some geometry →
    st.surface.stableExport = true ∧ st.surface.storage = geometry

section

variable {st st' : SurfaceState} {privBuf : MppBuffer} {fence : Nat} {frame : MppFrame}
  {output : FrameOutput}

/-- A call is left as it is by a step that leaves the storage, and the picture in it while the
fence stays the same. -/
theorem ReadyCopy.keep (h : ReadyCopy st fence frame output)
    (stable : st.surface.stableExport = true → st'.surface.stableExport = true)
    (hstride : st'.surface.hstride = st.surface.hstride)
    (vstride : st'.surface.vstride = st.surface.vstride)
    (pixels : st'.surface.fence = fence → st.surface.fence = fence ∧ st'.pixels = st.pixels) :
    ReadyCopy st' fence frame output where
  stable := stable h.stable
  fmt := h.fmt
  empty := h.empty
  hstride := h.hstride.trans hstride.symm
  vstride := h.vstride.trans vstride.symm
  positive := h.positive
  pixels := fun current => (pixels current).2.trans (h.pixels (pixels current).1)

/-- The rest of the invariant, where the surface keeps its storage. -/
theorem StorageInv.keep (h : StorageInv privBuf st) (same : st'.surface.privBuf = st.surface.privBuf)
    (stable : st'.surface.stableExport = st.surface.stableExport)
    (imported : st'.surface.imported = st.surface.imported)
    (empty : st.surface.stableExport = true →
      st.surface.frame = none ∧ st.surface.backingBuf = none →
      st'.surface.frame = none ∧ st'.surface.backingBuf = none)
    (storage : st.surface.stableExport = true → st'.surface.storage = st.surface.storage)
    (established : st'.established = st.established)
    (ready : ∀ fence frame output, st'.calls fence = some (.prepared frame output true) →
      ReadyCopy st' fence frame output) : StorageInv privBuf st' where
  privBuf := same.trans h.privBuf
  empty := by
    intro marked
    rw [stable] at marked
    obtain ⟨own, none_held⟩ := h.empty marked
    exact ⟨imported.trans own, empty marked none_held⟩
  ready := ready
  established := by
    intro geometry here
    rw [established] at here
    obtain ⟨marked, same⟩ := h.established geometry here
    exact ⟨stable.trans marked, (storage marked).trans same⟩

theorem storageInv_begin (h : StorageInv privBuf st) {ctxId : Nat} {avc : Bool}
    (fresh : freshFence st (.begin ctxId avc) = true) :
    StorageInv privBuf { st with surface := beginPicture st.surface ctxId avc } := by
  have other : ∀ {fence : Nat} {call : AssignCall}, st.calls fence = some call →
      (beginPicture st.surface ctxId avc).fence = fence → st.surface.fence = fence :=
    freshFence_begin fresh
  rcases beginPicture_cases st.surface ctxId avc with ⟨same, -⟩ | same
  · rw [same] at other ⊢
    refine h.keep rfl rfl rfl (fun _ held => held) (fun _ => rfl) rfl fun fence frame output call => ?_
    exact (h.ready fence frame output call).keep id rfl rfl fun current => ⟨other call current, rfl⟩
  · rw [same] at other ⊢
    refine h.keep rfl rfl rfl (fun _ _ => ⟨rfl, rfl⟩) (fun _ => rfl) rfl
      fun fence frame output call => ?_
    exact (h.ready fence frame output call).keep id rfl rfl fun current => ⟨other call current, rfl⟩

/-- A step that writes no more of the surface than a verdict, and adds no copied output. -/
theorem StorageInv.settled (h : StorageInv privBuf st) {decoded decodeFailed pending : Bool}
    (surface : st'.surface = st.surface.settle decoded decodeFailed pending)
    (established : st'.established = st.established)
    (calls : ∀ fence frame output, st'.calls fence = some (.prepared frame output true) →
      st.calls fence = some (.prepared frame output true) ∧
        (st.surface.fence = fence → st'.pixels = st.pixels)) : StorageInv privBuf st' := by
  refine h.keep (by rw [surface]; rfl) (by rw [surface]; rfl) (by rw [surface]; rfl) ?_ ?_
    established fun fence frame output call => ?_
  · intro _ held
    rw [surface]
    exact held
  · intro _
    rw [surface]
    rfl
  · obtain ⟨before, pixels⟩ := calls fence frame output call
    refine (h.ready fence frame output before).keep ?_ (by rw [surface]; rfl) (by rw [surface]; rfl)
      fun current => ?_
    · rw [surface]
      exact id
    · rw [surface] at current
      exact ⟨current, pixels current⟩

/-- A call that is over or fails was not a copied output. -/
theorem setAt_prepared {calls : Nat → Option AssignCall} {k fence : Nat} {call : Option AssignCall}
    {frame : MppFrame} {output : FrameOutput} {permanent : Bool}
    (other : ∀ frame output permanent, call ≠ some (.prepared frame output permanent))
    (h : setAt calls k call fence = some (.prepared frame output permanent)) :
    fence ≠ k ∧ calls fence = some (.prepared frame output permanent) := by
  by_cases same : fence = k
  · rw [same, setAt_self] at h
    exact absurd h (other _ _ _)
  · rw [setAt_ne _ _ same] at h
    exact ⟨same, h⟩

theorem storageInv_prepare (h : StorageInv privBuf st) {d : Delivery} {g : FrameGeometry}
    {env : AssignEnv} (prepared : prepare d env fence g st.surface = some output) :
    StorageInv privBuf
      { st with
        calls := setAt st.calls fence (some (.prepared d.frame output st.surface.stableExport))
        pixels := if output.stableExportCopy then some d.frame else st.pixels } := by
  obtain ⟨stable, copied⟩ := prepare_copied prepared
  refine h.keep rfl rfl rfl (fun _ held => held) (fun _ => rfl) rfl fun fence' frame output' call => ?_
  have call : setAt st.calls fence (some (.prepared d.frame output st.surface.stableExport)) fence' =
      some (.prepared frame output' true) := call
  by_cases same : fence' = fence
  · subst same
    rw [setAt_self] at call
    obtain ⟨rfl, rfl, marked⟩ := AssignCall.prepared.inj (Option.some.inj call)
    rw [stable] at marked
    obtain ⟨-, fmt, -, storedFrame, backing, hstride, vstride, positive, -⟩ := copied marked
    refine ⟨stable.trans marked, fmt, ⟨storedFrame, backing⟩, hstride, vstride, ?_, fun _ => ?_⟩
    · rw [hstride, vstride]
      exact positive
    · exact if_pos marked
  · rw [setAt_ne _ _ same] at call
    refine (h.ready fence' frame output' call).keep id rfl rfl fun current => ⟨current, ?_⟩
    -- the copy is made under its own fence only
    cases copy : output.stableExportCopy with
    | false => rfl
    | true => exact absurd (current.symm.trans (copied copy).current) same

theorem StorageInv.unmarked (h : StorageInv privBuf st) (same : st'.surface.privBuf = privBuf)
    (unmarked : st.surface.stableExport = false) (stable : st'.surface.stableExport = false)
    (established : st'.established = st.established)
    (calls : ∀ fence frame output, st'.calls fence = some (.prepared frame output true) →
      st.calls fence = some (.prepared frame output true)) : StorageInv privBuf st' where
  privBuf := same
  empty := fun marked => absurd (stable.symm.trans marked) Bool.false_ne_true
  ready := fun fence frame output call =>
    absurd (unmarked.symm.trans (h.ready fence frame output (calls _ _ _ call)).stable)
      Bool.false_ne_true
  established := fun geometry here =>
    absurd (unmarked.symm.trans (h.established geometry (established.symm.trans here)).1)
      Bool.false_ne_true

theorem publish_storage {s : RKSurface} (hstride : output.hstride = s.hstride)
    (vstride : output.vstride = s.vstride) (positive : 0 < output.hstride ∧ 0 < output.vstride)
    (depth : output.fmt.is10bit = s.is10bit) : (publish s output).storage = s.storage := by
  have stride : (publish s output).hstride = s.hstride := (if_pos positive.1).trans hstride
  have rows : (publish s output).vstride = s.vstride := (if_pos positive.2).trans vstride
  have same : (publish s output).is10bit = s.is10bit := depth
  rw [hstride, vstride] at positive
  unfold RKSurface.storage RKSurface.exportedHstride RKSurface.exportedVstride
  rw [stride, rows, same, if_neg (by omega), if_neg (by omega), if_neg (by omega), if_neg (by omega)]

theorem storageInv_publish (h : StorageInv privBuf st) {permanent : Bool}
    (call : st.calls fence = some (.prepared frame output permanent))
    (current : st.surface.fence = fence)
    (ordered : st.surface.stableExport = true →
      permanent = true ∧ frame.fmt.is10bit = st.surface.is10bit) :
    StorageInv privBuf
      { st with
        surface := publish st.surface output
        calls := setAt st.calls fence none
        lastOutput := some output } := by
  have others : ∀ fence' frame' output', setAt st.calls fence none fence' =
      some (.prepared frame' output' true) → fence' ≠ fence ∧
        st.calls fence' = some (.prepared frame' output' true) :=
    fun _ _ _ call => setAt_prepared (by simp) call
  cases stable : st.surface.stableExport with
  | false => exact h.unmarked h.privBuf stable stable rfl fun _ _ _ call => (others _ _ _ call).2
  | true =>
    obtain ⟨rfl, depth⟩ := ordered stable
    have copy := h.ready fence frame output call
    have stride : (publish st.surface output).hstride = st.surface.hstride :=
      (if_pos copy.positive.1).trans copy.hstride
    have rows : (publish st.surface output).vstride = st.surface.vstride :=
      (if_pos copy.positive.2).trans copy.vstride
    refine h.keep rfl rfl rfl (fun _ _ => copy.empty) ?_ rfl fun fence' frame' output' call' => ?_
    · intro _
      exact publish_storage copy.hstride copy.vstride copy.positive (copy.fmt ▸ depth)
    · obtain ⟨other, before⟩ := others fence' frame' output' call'
      exact (h.ready fence' frame' output' before).keep id stride rows fun current' =>
        absurd (current'.symm.trans current) other

theorem exportBuffer_established {thread : Nat} {env : ExportEnv} {composed : Bool}
    {geometry : List (Nat × Nat)}
    (h : (st.exportBuffer thread env composed).established = some geometry) :
    st.established = some geometry ∨ st.surface.isPlaceholder = true ∧
      (exportSection st.surface env).1.stableExport = true ∧
      ∃ d, exportResult st.surface env composed = .ok d ∧ d.geometry = geometry := by
  simp only [SurfaceState.exportBuffer] at h
  split at h
  · rename_i known
    exact .inl (known.trans h)
  · cases h
  · rename_i d _ result
    split at h
    · rename_i first
      rw [Bool.and_eq_true] at first
      exact .inr ⟨first.1, first.2, d, result, Option.some.inj h⟩
    · cases h

theorem storageInv_export (h : StorageInv privBuf st) (thread : Nat) (env : ExportEnv)
    (composed : Bool) : StorageInv privBuf (st.exportBuffer thread env composed) := by
  obtain ⟨same, stable⟩ := exportSection_decoding st.surface env
  rw [markStable_stable] at stable
  have samePriv : (exportSection st.surface env).1.privBuf = st.surface.privBuf :=
    (congrArg RKSurface.privBuf same :)
  have imported : (exportSection st.surface env).1.imported = st.surface.imported :=
    (congrArg RKSurface.imported same :)
  have held : (exportSection st.surface env).1.frame = st.surface.frame ∧
      (exportSection st.surface env).1.backingBuf = st.surface.backingBuf :=
    ⟨(congrArg RKSurface.frame same :), (congrArg RKSurface.backingBuf same :)⟩
  have storage : (exportSection st.surface env).1.storage = st.surface.storage :=
    (congrArg RKSurface.storage same :)
  refine ⟨samePriv.trans h.privBuf, ?_, ?_, ?_⟩
  · intro marked
    have empty : st.surface.imported = none ∧ st.surface.frame = none ∧
        st.surface.backingBuf = none := by
      rcases Bool.or_eq_true_iff.mp (stable.symm.trans marked) with before | now
      · exact h.empty before
      · obtain ⟨own, empty, -⟩ := isPlaceholder_empty (Bool.and_eq_true_iff.mp now).1
        exact ⟨own, holdsPicture_false.mp empty⟩
    exact ⟨imported.trans empty.1, held.1.trans empty.2.1, held.2.trans empty.2.2⟩
  · intro fence frame output call
    refine (h.ready fence frame output call).keep ?_ (congrArg RKSurface.hstride same :)
      (congrArg RKSurface.vstride same :) fun current => ⟨?_, rfl⟩
    · intro before
      exact stable.trans (by rw [before, Bool.true_or])
    · exact (congrArg RKSurface.fence same :).symm.trans current
  · intro geometry here
    rcases exportBuffer_established here with before | ⟨placeholder, marked, d, result, rfl⟩
    · obtain ⟨marked, known⟩ := h.established geometry before
      exact ⟨stable.trans (by rw [marked, Bool.true_or]), storage.trans known⟩
    · obtain ⟨own, empty, unpacked⟩ := isPlaceholder_empty placeholder
      refine ⟨marked, storage.trans ?_⟩
      rw [exportResult_stored own empty unpacked result, (stored_objects composed own).2]

theorem storageInv_step (h : StorageInv privBuf st) {a : SurfaceAction} (ok : keepsStorage st a = true)
    (move : SurfaceMove st a st') : StorageInv privBuf st' := by
  cases move with
  | begin own issued => exact storageInv_begin h ok
  | settle kind shown => exact h.settled rfl rfl fun _ _ _ call => ⟨call, fun _ => rfl⟩
  | idle kind =>
    refine h.settled (?_ : _ = st.surface.settle st.surface.decoded st.surface.decodeFailed
      st.surface.h264FieldPending) rfl fun _ _ _ call => ⟨call, fun _ => rfl⟩
    rfl
  | measure current issued =>
    refine h.settled rfl rfl fun fence frame output call => ?_
    exact ⟨(setAt_prepared (by simp) call).2, fun _ => rfl⟩
  | giveUp call_none kind kept =>
    refine h.settled rfl rfl fun fence frame output call => ?_
    obtain ⟨other, before⟩ := setAt_prepared (by rcases call_none with rfl | rfl <;> simp) call
    refine ⟨before, fun current => ?_⟩
    rcases kept with same | ⟨own, -⟩
    · exact same
    · exact absurd (current.symm.trans own) other
  | prepare call prepared => exact storageInv_prepare h prepared
  | failed call =>
    obtain ⟨decoded, failed, pending, same, -⟩ := completeSurfaceRef_settle st.surface _ false
    refine h.settled same rfl fun fence frame output call => ?_
    exact ⟨(setAt_prepared (by simp) call).2, fun _ => rfl⟩
  | publish call current =>
    exact storageInv_publish h call current (keepsStorage_finish ok call current)
  | exported => exact storageInv_export h _ _ _

theorem storageLaw_step (h : StorageInv privBuf st) {a : SurfaceAction}
    (ok : keepsStorage st a = true) (hstep : surfaceStep st a = some st') :
    StorageLaw privBuf st a st' where
  published := by
    rintro fence frame output permanent rfl call current established
    obtain ⟨geometry, known⟩ := Option.isSome_iff_exists.mp established
    have stable := (h.established geometry known).1
    obtain ⟨rfl, -⟩ := keepsStorage_finish ok call current stable
    have copy := h.ready fence frame output call
    simp only [surfaceStep, call, Option.bind_some, SurfaceState.finish, current, ne_eq,
      not_true_eq_false, if_false, Option.some.injEq] at hstep
    subst hstep
    exact ⟨copy.empty.1, copy.empty.2, copy.pixels current⟩
  exported := by
    rintro thread env composed d geometry rfl result known
    obtain ⟨stable, rfl⟩ := h.established geometry known
    obtain ⟨own, empty⟩ := h.empty stable
    have unpacked := keepsStorage_export ok stable
    rw [exportResult_stored own (holdsPicture_false.mpr empty) unpacked result]
    obtain ⟨objects, planes⟩ := stored_objects composed own
    exact ⟨objects.trans (by rw [h.privBuf]), planes⟩

end

/-! ## Whole runs -/

open Transition

section

variable {env : CreateEnv} {width height : Int} {fourcc : Fourcc}
  {descriptor : Option VADRMPRIMESurfaceDescriptor} {encoderInput : Bool} {s : RKSurface}

theorem storageInv_init (unmarked : s.stableExport = false) : StorageInv s.privBuf (.init s) where
  privBuf := rfl
  empty := fun marked => absurd (unmarked.symm.trans marked) Bool.false_ne_true
  ready := fun _ _ _ call => by cases call
  established := fun _ known => by cases known

/-- From the creation of a surface on, whatever the threads do in whatever order: once an export
has returned the placeholder as permanent storage, frames are published by a copy into it, and
every later export returns it with the same pitches and offsets. -/
theorem stableExport_kept {as : List SurfaceAction} {a : SurfaceAction} {st st' : SurfaceState}
    (created : createSurface env width height fourcc descriptor encoderInput = some s)
    (hrun : run surfaceStep (.init s) as = some st)
    (meets : Throughout surfaceStep (fun st a => keepsStorage st a = true) (.init s) (as ++ [a]))
    (hstep : surfaceStep st a = some st') : StorageLaw s.privBuf st a st' := by
  have inv : StorageInv s.privBuf st :=
    run_invariant (fun _ _ _ inv ok step => storageInv_step inv ok (surfaceStep_move step)) as _ _
      (storageInv_init (createSurface_fresh created).1) meets.front hrun
  exact storageLaw_step inv (meets.rest hrun).1 hstep

end

/-! ## An export between the copy and the publication -/

/-- The application looks at the surface, begins a picture and exports; the frame is past its copy
when the export marks the surface. -/
def raceRun : List SurfaceAction :=
  [.exportCheck 0, .begin 1 false, .arrive 1 (strideDelivery 1920), .prepare 1 plainEnv,
    .exportBuffer 0 availableExport false]

/-- The application exports first. -/
def exportFirst : List SurfaceAction :=
  [.exportCheck 0, .exportBuffer 0 availableExport false, .begin 1 false,
    .arrive 1 (strideDelivery 1920), .prepare 1 plainEnv]

theorem stableExport_kept_first :
    ∃ s st st', createdSurface = some s ∧ run surfaceStep (.init s) exportFirst = some st ∧
      surfaceStep st (.finish 1) = some st' ∧ st.established.isSome = true ∧
      StorageLaw s.privBuf st (.finish 1) st' := by
  obtain ⟨s, st, st', created, hrun, hstep, keeps, established⟩ : ∃ s st st',
      createdSurface = some s ∧ run surfaceStep (.init s) exportFirst = some st ∧
        surfaceStep st (.finish 1) = some st' ∧
        check surfaceStep keepsStorage (.init s) (exportFirst ++ [.finish 1]) = true ∧
        st.established.isSome = true :=
    ⟨_, _, _, rfl, rfl, rfl, rfl, rfl⟩
  exact ⟨s, st, st', created, hrun, hstep, established,
    stableExport_kept created hrun (throughout_of_check keeps) hstep⟩

/-- The frame stays on the surface, and the placeholder that the application holds stays empty. -/
theorem exportAfterCopy_abandoned :
    ∃ s st st', createdSurface = some s ∧ run surfaceStep (.init s) raceRun = some st ∧
      surfaceStep st (.finish 1) = some st' ∧ ¬ StorageLaw s.privBuf st (.finish 1) st' := by
  obtain ⟨s, st, st', created, hrun, hstep, frame, output, call, current, established, shown⟩ :
      ∃ s st st', createdSurface = some s ∧ run surfaceStep (.init s) raceRun = some st ∧
        surfaceStep st (.finish 1) = some st' ∧ ∃ frame output,
        st.calls 1 = some (.prepared frame output false) ∧ st.surface.fence = 1 ∧
        st.established.isSome = true ∧ st'.surface.frame = some frame :=
    ⟨_, _, _, rfl, rfl, rfl, _, _, rfl, rfl, rfl, rfl⟩
  refine ⟨s, st, st', created, hrun, hstep, fun law => ?_⟩
  obtain ⟨empty, -⟩ := law.published 1 frame output false rfl call current established
  rw [shown] at empty
  cases empty

end RockchipVaapi.Surface
