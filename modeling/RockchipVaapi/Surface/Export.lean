import RockchipVaapi.Surface.Convert

/-!
# Export

`rk_ExportSurfaceHandle` looks at the surface in two sections under its lock. The first decides
whether to wait for the decoder; the second chooses the buffer, marks a placeholder as permanent
storage, and repacks a pitch that cannot be imported. The descriptor is built from what the second
section read.
-/

namespace RockchipVaapi.Surface

/-- The failures of an export. -/
inductive VAStatus
  | invalidSurface
  | operationFailed
  | allocationFailed
  | decodingError
  deriving DecidableEq, Repr

/-- An object of a descriptor. Of an exported one, `fd` is the descriptor that was duplicated. -/
structure DescriptorObject where
  fd : Int
  size : Nat
  linear : Bool
  deriving DecidableEq, Repr

structure DescriptorPlane where
  object : Nat
  offset : Nat
  pitch : Nat
  deriving DecidableEq, Repr

structure DescriptorLayer where
  drmFormat : DrmFormat
  planes : List DescriptorPlane
  deriving DecidableEq, Repr

structure VADRMPRIMESurfaceDescriptor where
  fourcc : Fourcc
  width : Nat
  height : Nat
  objects : List DescriptorObject
  layers : List DescriptorLayer
  deriving DecidableEq, Repr

/-- What an export asks of MPP, the RGA and the kernel. -/
structure ExportEnv where
  alloc : Allocator
  repacks : Bool
  dups : Bool

/-- `UINT32_MAX`. -/
def uint32Max : Nat := 2 ^ 32 - 1

/-- `DRM_LINEAR_NV12_PITCH_ALIGNMENT`. -/
def drmLinearNv12PitchAlignment : Int := 64

/-- The locals that the second section leaves for the descriptor of a surface in one object. -/
structure ExportLocals where
  fd : Int
  objectSize : Nat
  hstride : Int
  vstride : Int
  width : Int
  height : Int
  is10bit : Bool
  importedRgb : Option Imported
  fourcc : Fourcc
  deriving DecidableEq, Repr

/-- What the second section finds: two imported objects, or one object. -/
inductive Exportable
  | multiplane (imported : Imported) (is10bit : Bool) (width height : Int)
  | single (locals : ExportLocals)
  deriving DecidableEq, Repr

/-! ## The sections -/

/-- The first section (`export.c:42-44`). -/
def RKSurface.needsSync (s : RKSurface) : Bool := !s.decoded && s.ctxId != 0

/-- `sync_surface_timeout` (`surface.c:647-660`), where it does not have to wait. -/
def rkSyncSurface (s : RKSurface) : Option (Except VAStatus Unit) :=
  if s.decodeFailed then some (.error .decodingError)
  else if s.decoded || s.ctxId == 0 then some (.ok ())
  else none

def RKSurface.activeBuffer (s : RKSurface) : Option MppBuffer :=
  match s.imported with
  | some imported => some imported.buf
  | none => if s.holdsPicture then s.boundBuffer else some s.privBuf

def RKSurface.isPlaceholder (s : RKSurface) : Bool :=
  !s.decoded && s.imported.isNone && !s.holdsPicture

/-- `surface->hstride ? surface->hstride : surface->width`. -/
def RKSurface.exportedHstride (s : RKSurface) : Int := if s.hstride = 0 then s.width else s.hstride

def RKSurface.exportedVstride (s : RKSurface) : Int := if s.vstride = 0 then s.height else s.vstride

/-- A placeholder becomes the permanent storage of the surface (`export.c:135-141`). -/
def markStable (s : RKSurface) : RKSurface :=
  if s.isPlaceholder && !s.encoderInput then { s with stableExport := true } else s

/-- The buffer for a repacked picture, with room for `alignedSize` bytes (`export.c:157-173`). -/
def exportAllocation (s : RKSurface) (alloc : Allocator) (alignedHstride vstride : Int)
    (alignedSize : Nat) : Option (RKSurface × MppBuffer) :=
  let replacement := (alloc.get alignedSize).map fun buffer =>
    ({ s with
        exportBuf := some buffer, exportHstride := alignedHstride, exportVstride := vstride
        exportFence := 0 }, buffer)
  match s.exportBuf with
  | none => replacement
  | some buffer =>
    if s.exportHstride = alignedHstride ∧ s.exportVstride = vstride ∧
        alignedSize ≤ buffer.size then some (s, buffer)
    else replacement

/-- The repacking of a pitch that cannot be imported (`export.c:148-194`). -/
def repackForExport (s : RKSurface) (env : ExportEnv) (hstride vstride : Int) :
    RKSurface × Except VAStatus (MppBuffer × Int) :=
  let alignedHstride := toInt ((hstride + drmLinearNv12PitchAlignment - 1) /
    drmLinearNv12PitchAlignment * drmLinearNv12PitchAlignment)
  let layout :=
    if s.width ≤ alignedHstride ∧ s.height ≤ vstride then
      rkNv12LayoutSize alignedHstride.toNat vstride.toNat
    else none
  match layout with
  | none => (s, .error .invalidSurface)
  | some alignedSize =>
    match exportAllocation s env.alloc alignedHstride vstride alignedSize with
    | none => (s, .error .operationFailed)
    | some (s', buffer) =>
      if s'.exportFence ≠ s'.fence ∧
          rkRepackNv12 s.activeBuffer (some buffer) s.width.toNat s.height.toNat
            hstride.toNat vstride.toNat alignedHstride.toNat vstride.toNat
            env.repacks = false then
        (s', .error .operationFailed)
      else ({ s' with exportFence := s'.fence }, .ok (buffer, alignedHstride))

/-- The locals of a surface in one object, with the buffer and the stride to export. -/
def exportLocals (s : RKSurface) (buffer : Option MppBuffer) (hstride : Int) : ExportLocals where
  fd := (buffer.map MppBuffer.fd).getD (-1)
  objectSize := (buffer.map MppBuffer.size).getD 0
  hstride := hstride
  vstride := s.exportedVstride
  width := s.width
  height := s.height
  is10bit := s.is10bit
  importedRgb := s.imported.filter Imported.rgb
  fourcc := s.fourcc

/-- The picture has to be repacked before it is exported. -/
def RKSurface.needsRepack (s : RKSurface) : Bool :=
  s.decoded && s.imported.isNone && !s.is10bit &&
    s.exportedHstride % drmLinearNv12PitchAlignment != 0

/-- The second section (`export.c:53-198`). -/
def exportSection (s : RKSurface) (env : ExportEnv) : RKSurface × Except VAStatus Exportable :=
  match s.imported.filter Imported.multiplane with
  | some imported => (s, .ok (.multiplane imported s.is10bit s.width s.height))
  | none =>
    let marked := markStable s
    if s.needsRepack then
      match repackForExport marked env s.exportedHstride s.exportedVstride with
      | (s', .error status) => (s', .error status)
      | (s', .ok (buffer, hstride)) => (s', .ok (.single (exportLocals s (some buffer) hstride)))
    else (marked, .ok (.single (exportLocals s s.activeBuffer s.exportedHstride)))

/-! ## The descriptor -/

/-- The two planes of an image as one layer or as two (`export.c:243-304`). -/
def imageLayers (is10bit composed : Bool) (luma chroma : DescriptorPlane) : List DescriptorLayer :=
  match is10bit, composed with
  | false, true => [⟨.nv12, [luma, chroma]⟩]
  | true, true => [⟨.p010, [luma, chroma]⟩]
  | false, false => [⟨.r8, [luma]⟩, ⟨.gr88, [chroma]⟩]
  | true, false => [⟨.r16, [luma]⟩, ⟨.gr1616, [chroma]⟩]

/-- The descriptor of a surface in one object (`export.c:222-304`). -/
def singleDescriptor (l : ExportLocals) (composed : Bool) : VADRMPRIMESurfaceDescriptor :=
  let objects : List DescriptorObject := [⟨l.fd, l.objectSize, true⟩]
  match l.importedRgb with
  | some imported =>
    ⟨l.fourcc, toUint32 l.width, toUint32 l.height, objects,
      [⟨imported.drmFormat, [⟨0, 0, imported.pitch⟩]⟩]⟩
  | none =>
    let bytes : Int := sampleBytes l.is10bit
    let pitch := toUint32 (l.hstride * bytes)
    ⟨if l.is10bit then .p010 else .nv12, toUint32 l.width, toUint32 l.height, objects,
      imageLayers l.is10bit composed ⟨0, 0, pitch⟩
        ⟨0, toUint32 (l.hstride * l.vstride * bytes), pitch⟩⟩

/-- The descriptor of an image in two imported objects (`export.c:80-113`). -/
def multiplaneDescriptor (imported : Imported) (is10bit : Bool) (width height : Int)
    (composed : Bool) : VADRMPRIMESurfaceDescriptor :=
  ⟨if is10bit then .p010 else .nv12, toUint32 width, toUint32 height,
    [⟨imported.fd, imported.size, true⟩, ⟨imported.chromaFd, imported.chromaSize, true⟩],
    imageLayers is10bit composed ⟨0, 0, imported.pitch⟩ ⟨1, 0, imported.chromaPitch⟩⟩

/-- The end of `rk_ExportSurfaceHandle`, without the lock. -/
def describe (dups composed : Bool) : Exportable → Except VAStatus VADRMPRIMESurfaceDescriptor
  | .multiplane imported is10bit width height =>
    if dups = false ∨ uint32Max < imported.size ∨ uint32Max < imported.chromaSize then
      .error .allocationFailed
    else .ok (multiplaneDescriptor imported is10bit width height composed)
  | .single locals =>
    if locals.fd < 0 ∨ locals.objectSize = 0 ∨ uint32Max < locals.objectSize then
      .error .invalidSurface
    else if dups = false then .error .allocationFailed
    else .ok (singleDescriptor locals composed)

namespace VADRMPRIMESurfaceDescriptor

/-- The planes of all layers, luma first. -/
def planes (d : VADRMPRIMESurfaceDescriptor) : List DescriptorPlane :=
  d.layers.flatMap DescriptorLayer.planes

/-- The pitches and offsets. -/
def geometry (d : VADRMPRIMESurfaceDescriptor) : List (Nat × Nat) :=
  d.planes.map fun plane => (plane.offset, plane.pitch)

/-- The object of each plane, with the rows that the plane has in it. -/
def regions (d : VADRMPRIMESurfaceDescriptor) : List (Nat × Plane) :=
  List.zipWith (fun plane rows => (plane.object, ⟨plane.offset, plane.pitch, rows⟩)) d.planes
    [d.height, d.height / 2]

end VADRMPRIMESurfaceDescriptor

/-! ## What an export leaves alone -/

/-- The surface without what only exports write. -/
def RKSurface.decoding (s : RKSurface) : RKSurface :=
  { s with
    stableExport := false, exportBuf := none, exportFence := 0, exportHstride := 0
    exportVstride := 0 }

theorem markStable_decoding (s : RKSurface) : (markStable s).decoding = s.decoding := by
  unfold markStable
  split <;> rfl

theorem exportAllocation_some {s s' : RKSurface} {alloc : Allocator} {hstride vstride : Int}
    {size : Nat} {buffer : MppBuffer}
    (h : exportAllocation s alloc hstride vstride size = some (s', buffer)) :
    s'.decoding = s.decoding ∧ s'.stableExport = s.stableExport ∧ s'.exportBuf = some buffer ∧
      s'.exportHstride = hstride ∧ s'.exportVstride = vstride ∧ size ≤ buffer.size ∧
      (s' = s ∨ s'.exportFence = 0) := by
  have replaced : (alloc.get size).map (fun buffer =>
      ({ s with
          exportBuf := some buffer, exportHstride := hstride, exportVstride := vstride
          exportFence := 0 }, buffer)) = some (s', buffer) →
      s'.decoding = s.decoding ∧ s'.stableExport = s.stableExport ∧ s'.exportBuf = some buffer ∧
        s'.exportHstride = hstride ∧ s'.exportVstride = vstride ∧ size ≤ buffer.size ∧
        (s' = s ∨ s'.exportFence = 0) := by
    intro h
    obtain ⟨allocated, got, same⟩ := Option.map_eq_some_iff.mp h
    obtain ⟨rfl, rfl⟩ := Prod.mk.inj same
    exact ⟨rfl, rfl, rfl, rfl, rfl, alloc.size_le got, .inr rfl⟩
  unfold exportAllocation at h
  simp only at h
  split at h
  · exact replaced h
  · rename_i cached present
    split at h
    · rename_i fits
      obtain ⟨rfl, rfl⟩ := Prod.mk.inj (Option.some.inj h)
      exact ⟨rfl, rfl, present, fits.1, fits.2.1, fits.2.2, .inl rfl⟩
    · exact replaced h

theorem repackForExport_decoding (s : RKSurface) (env : ExportEnv) (hstride vstride : Int) :
    (repackForExport s env hstride vstride).1.decoding = s.decoding ∧
      (repackForExport s env hstride vstride).1.stableExport = s.stableExport := by
  unfold repackForExport
  simp only
  split
  · exact ⟨rfl, rfl⟩
  · split
    · exact ⟨rfl, rfl⟩
    · rename_i allocated
      obtain ⟨same, stable, -⟩ := exportAllocation_some allocated
      split <;> exact ⟨same, stable⟩

/-- An export writes nothing that decoding reads, and marks a placeholder. -/
theorem exportSection_decoding (s : RKSurface) (env : ExportEnv) :
    (exportSection s env).1.decoding = s.decoding ∧
      (exportSection s env).1.stableExport = (markStable s).stableExport := by
  unfold exportSection
  split
  · rename_i imported multiplane
    have present : s.imported = some imported := (Option.filter_eq_some_iff.mp multiplane).1
    refine ⟨rfl, ?_⟩
    rw [markStable, RKSurface.isPlaceholder, present]
    simp
  · have marked := markStable_decoding s
    have repacked := repackForExport_decoding (markStable s) env s.exportedHstride s.exportedVstride
    simp only
    split
    · split
      · rename_i result
        rw [result] at repacked
        exact ⟨repacked.1.trans marked, repacked.2⟩
      · rename_i result
        rw [result] at repacked
        exact ⟨repacked.1.trans marked, repacked.2⟩
    · exact ⟨marked, rfl⟩

theorem imageLayers_planes (is10bit composed : Bool) (luma chroma : DescriptorPlane) :
    (imageLayers is10bit composed luma chroma).flatMap DescriptorLayer.planes = [luma, chroma] := by
  cases is10bit <;> cases composed <;> rfl

end RockchipVaapi.Surface
