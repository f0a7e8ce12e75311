import RockchipVaapi.Surface.ImageRoundTrip

/-!
# Imports in one object and in two

A surface that is imported in two objects is copied into the placeholder before it is read; one that
is imported in one object is read where it is. What an image gets of them depends on the samples
alone, not on the pitches.
-/

namespace RockchipVaapi.Surface
open Memory

/-! ## Normalising -/

/-- What the CPU gets of the two objects and of the placeholder. -/
structure NormalizeAccess where
  luma : CpuAccess
  chroma : CpuAccess
  target : CpuAccess
  deriving DecidableEq, Repr

/-- The checks of `rk_surface_normalize_multiplane_import` (`surface.c:356-376`): the import, and the
pitch and the size of the copy. -/
def normalizeTarget (s : RKSurface) : Option (Imported × Nat × Nat) :=
  match s.imported.filter Imported.multiplane with
  | none => none
  | some imported =>
    let pitch := toUint32 s.hstride * sampleBytes s.is10bit
    if imported.fd < 0 ∨ imported.chromaFd < 0 ∨ s.hstride < s.width ∨ s.vstride < s.height ∨
        imported.pitch < s.rowBytes ∨ imported.chromaPitch < s.rowBytes then none
    else
      ((rkNv12LayoutSize pitch (toUint32 s.vstride)).filter
        fun size => decide (size ≤ s.privBuf.size)).map fun size => (imported, pitch, size)

/-- The rows of both objects in the placeholder (`surface.c:391-405`). -/
def normalizeRows (s : RKSurface) (imported : Imported) (y uv priv : Bytes) (pitch size : Nat) :
    Bytes :=
  forLoop (copyRow (pitch * toUint32 s.vstride) pitch uv 0 imported.chromaPitch s.rowBytes)
    (s.height.toNat / 2)
    (forLoop (copyRow 0 pitch y 0 imported.pitch s.rowBytes) s.height.toNat (memset priv 0 size))

/-- `rk_surface_normalize_multiplane_import` (`surface.c:354-428`): what it returns, and the bytes of
the placeholder. -/
def rkSurfaceNormalizeMultiplaneImport (access : NormalizeAccess) (s : RKSurface)
    (y uv priv : Bytes) : Bool × Bytes :=
  match normalizeTarget s with
  | none => (false, priv)
  | some (imported, pitch, size) =>
    let yStarted := access.luma.starts
    let uvStarted := yStarted && access.chroma.starts
    let destinationStarted := uvStarted && decide (0 ≤ s.privBuf.fd) && access.target.starts
    let copied := destinationStarted && access.luma.mapped && access.chroma.mapped &&
      access.target.mapped
    let syncOk := (!destinationStarted || access.target.ends) &&
      (!uvStarted || access.chroma.ends) && (!yStarted || access.luma.ends)
    (copied && syncOk, if copied then normalizeRows s imported y uv priv pitch size else priv)

/-- `rk_GetImage` with its first step, which normalises an import in two objects
(`surface.c:744-746`); `uv` is the memory of the second one. -/
def rkGetImageNormalized (access : CpuAccess) (normalize : NormalizeAccess) (s : RKSurface)
    (image : RKImage) (source : Rect) (m : PictureMemory) (uv dst : Bytes) :
    Except VAStatus Unit × Bytes :=
  let normalized :=
    if s.imported.any Imported.multiplane then
      rkSurfaceNormalizeMultiplaneImport normalize s m.imported uv m.priv
    else (true, m.priv)
  rkGetImage access normalized.1 s image source { m with priv := normalized.2 } dst

def NormalizeAccess.granted : NormalizeAccess := ⟨.granted, .granted, .granted⟩

/-! ## The copy -/

section

variable {s : RKSurface} {imported : Imported} {y uv priv : Bytes} {pitch size row column : Nat}

/-- Normalising clears what was there. -/
theorem normalizeRows_again (wide : s.rowBytes ≤ pitch) (y uv priv : Bytes) :
    normalizeRows s imported y uv (normalizeRows s imported y uv priv pitch size) pitch size =
      normalizeRows s imported y uv priv pitch size := by
  have luma (k : Nat) (_ : k < s.height.toNat) :=
    copyRow_sets 0 pitch y 0 imported.pitch s.rowBytes k
  have chroma (k : Nat) (_ : k < s.height.toNat / 2) :=
    copyRow_sets (pitch * toUint32 s.vstride) pitch uv 0 imported.chromaPitch s.rowBytes k
  funext i
  refine forLoop_start chroma (fun _ _ => inRow_apart wide) fun noChroma => ?_
  refine forLoop_start luma (fun _ _ => inRow_apart wide) fun noLuma => ?_
  unfold memset
  split
  · rfl
  · rename_i outside
    rw [normalizeRows, forLoop_outside chroma noChroma, forLoop_outside luma noLuma, memset,
      if_neg outside]

theorem normalizeRows_luma (wide : s.rowBytes ≤ pitch) (tall : s.height.toNat ≤ toUint32 s.vstride)
    (small : row < s.height.toNat) (inside : column < s.rowBytes) :
    normalizeRows s imported y uv priv pitch size (row * pitch + column) =
      y (row * imported.pitch + column) := by
  have below : row * pitch + column < pitch * toUint32 s.vstride := by
    have last : row * pitch + pitch ≤ toUint32 s.vstride * pitch := by
      rw [← Nat.succ_mul]
      exact Nat.mul_le_mul_right pitch (by omega)
    rw [Nat.mul_comm pitch]
    omega
  have luma := copyRow_apply 0 0 imported.pitch y (memset priv 0 size) wide small inside
  rw [Nat.zero_add, Nat.zero_add] at luma
  unfold normalizeRows
  rw [forLoop_outside (fun k _ => copyRow_sets _ pitch uv _ _ _ k)]
  · exact luma
  · rintro k - ⟨from_here, -⟩
    omega

theorem normalizeRows_chroma (wide : s.rowBytes ≤ pitch) (small : row < s.height.toNat / 2)
    (inside : column < s.rowBytes) :
    normalizeRows s imported y uv priv pitch size
        (pitch * toUint32 s.vstride + row * pitch + column) =
      uv (row * imported.chromaPitch + column) := by
  unfold normalizeRows
  rw [copyRow_apply _ _ _ _ _ wide small inside, Nat.zero_add]

theorem normalizeTarget_some (h : normalizeTarget s = some (imported, pitch, size)) :
    s.imported = some imported ∧ imported.multiplane = true ∧
      pitch = toUint32 s.hstride * sampleBytes s.is10bit ∧ s.width ≤ s.hstride ∧
      s.height ≤ s.vstride ∧ s.rowBytes ≤ imported.pitch ∧ s.rowBytes ≤ imported.chromaPitch ∧
      rkNv12LayoutSize pitch (toUint32 s.vstride) = some size ∧ size ≤ s.privBuf.size := by
  unfold normalizeTarget at h
  split at h
  · cases h
  · rename_i found there
    obtain ⟨there, two⟩ := Option.filter_eq_some_iff.mp there
    dsimp only at h
    split at h
    · cases h
    · rename_i valid
      simp only [not_or, Int.not_lt, Nat.not_lt] at valid
      obtain ⟨size', layout, same⟩ := Option.map_eq_some_iff.mp h
      obtain ⟨rfl, rfl, rfl⟩ : found = imported ∧ _ = pitch ∧ size' = size := by
        simpa only [Prod.mk.injEq] using same
      obtain ⟨layout, room⟩ := Option.filter_eq_some_iff.mp layout
      exact ⟨there, two, rfl, valid.2.2.1, valid.2.2.2.1, valid.2.2.2.2.1, valid.2.2.2.2.2, layout,
        of_decide_eq_true room⟩

/-- Normalising an import again leaves the placeholder as it is. -/
theorem rkSurfaceNormalizeMultiplaneImport_again (access : NormalizeAccess)
    (small : toUint32 s.hstride = s.hstride.toNat) (y uv priv : Bytes) :
    (rkSurfaceNormalizeMultiplaneImport access s y uv
        (rkSurfaceNormalizeMultiplaneImport access s y uv priv).2).2 =
      (rkSurfaceNormalizeMultiplaneImport access s y uv priv).2 := by
  unfold rkSurfaceNormalizeMultiplaneImport
  cases target : normalizeTarget s with
  | none => rfl
  | some found =>
    obtain ⟨imported, pitch, size⟩ := found
    obtain ⟨-, -, rfl, wide, -⟩ := normalizeTarget_some target
    have row : s.rowBytes ≤ toUint32 s.hstride * sampleBytes s.is10bit := by
      rw [small]
      exact Nat.mul_le_mul_right _ (Int.toNat_le_toNat wide)
    dsimp only
    split
    · exact normalizeRows_again row y uv priv
    · rfl

end

/-! ## Imported surfaces -/

/-- Descriptors that are duplicated are open. -/
def CreateEnv.Opens (env : CreateEnv) : Prop :=
  ∀ object handle fd, env.imports object = some (handle, fd) → 0 ≤ fd

/-- What an import of NV12 or P010 leaves, beside what `ImportFits` says. -/
structure ImportedYuv (width height : Nat) (p010 : Bool) (imported : Imported) : Prop where
  fits : ImportFits width height p010 imported
  yuv : imported.rgb = false
  fd : 0 ≤ imported.fd ∧ imported.buf.fd = imported.fd
  wide : width * sampleBytes p010 ≤ imported.pitch
  chroma : imported.multiplane = true →
    0 ≤ imported.chromaFd ∧ width * sampleBytes p010 ≤ imported.chromaPitch

section

variable {env : CreateEnv} {width height : Nat} {fourcc : Fourcc} {encoderInput : Bool}
  {descriptor : VADRMPRIMESurfaceDescriptor} {s : RKSurface} {imported : Imported}

theorem mul_sampleBytes_le {pitch : Nat} {p010 : Bool} (wide : width ≤ pitch / sampleBytes p010) :
    width * sampleBytes p010 ≤ pitch :=
  (Nat.mul_le_mul_right _ wide).trans (Nat.div_mul_le_self _ _)

theorem importYuv_wide {p010 : Bool} {object : DescriptorObject}
    {chromaObject : Option DescriptorObject} {layer : DescriptorLayer} {planes : ImportPlanes}
    (h : importYuv width height p010 object chromaObject layer = some planes) :
    width * sampleBytes p010 ≤ planes.pitch ∧ width * sampleBytes p010 ≤ planes.chromaPitch := by
  unfold importYuv at h
  simp only at h
  split at h
  · obtain ⟨⟨-, -, -, -, -, -, -, -, wide, chromaWide, -⟩, made⟩ :=
      Option.ite_none_right_eq_some.mp h
    obtain rfl := Option.some.inj made
    exact ⟨mul_sampleBytes_le wide, mul_sampleBytes_le chromaWide⟩
  · cases h

theorem importBuffers_fd (opens : env.Opens) {planes : ImportPlanes} {object : DescriptorObject}
    {chromaObject : Option DescriptorObject} {format : DrmFormat} {rgb : Bool}
    (h : importBuffers env planes object chromaObject format rgb = some imported) :
    0 ≤ imported.fd ∧ imported.buf.fd = imported.fd ∧
      (chromaObject.isSome → 0 ≤ imported.chromaFd) := by
  unfold importBuffers at h
  split at h
  · cases h
  · rename_i handle fd found
    cases chromaObject with
    | none =>
      rw [← Option.some.inj h]
      exact ⟨opens object handle fd found, rfl, fun no => by cases no⟩
    | some chroma =>
      obtain ⟨⟨handle', fd'⟩, found', rfl⟩ := Option.map_eq_some_iff.mp h
      exact ⟨opens object handle fd found, rfl, fun _ => opens chroma handle' fd' found'⟩

/-- An import of NV12 or P010 has as many memories as the descriptor has objects. -/
theorem importSurfaceDescriptor_yuv (opens : env.Opens) (yuv : fourcc = .nv12 ∨ fourcc = .p010)
    (h : importSurfaceDescriptor env width height fourcc descriptor = some imported) :
    ImportedYuv width height (fourcc == .p010) imported ∧
      (imported.multiplane = true ↔ descriptor.objects.length = 2) ∧
      imported.size ∈ descriptor.objects.map DescriptorObject.size := by
  have fits := importSurfaceDescriptor_some h
  have noRgb : rgbDrmFormat fourcc = none := by rcases yuv with rfl | rfl <;> rfl
  rcases importSurfaceDescriptor_cases h with
    ⟨_, _, _, _, isRgb, -⟩ | ⟨layer, object, chromaObject, planes, -, objects, found, taken⟩
  · rw [noRgb] at isRgb
    cases isRgb
  · obtain ⟨two, -⟩ := importYuv_some found
    obtain ⟨wide, chromaWide⟩ := importYuv_wide found
    obtain ⟨-, size, pitch, rgb, multiplane, chromaPitch, -⟩ := importBuffers_some taken
    obtain ⟨fd, buf, chromaFd⟩ := importBuffers_fd opens taken
    refine ⟨⟨fits, rgb, ⟨fd, buf⟩, pitch ▸ wide, fun double => ?_⟩, ?_, ?_⟩
    · rw [multiplane] at double
      rw [chromaPitch double]
      exact ⟨chromaFd (two.symm.trans double), chromaWide⟩
    · rw [multiplane, two, objects]
      cases chromaObject <;> simp
    · rw [objects, size]
      exact List.mem_cons_self

/-- An imported surface. -/
theorem createSurface_imports
    (created : createSurface env width height fourcc (some descriptor) encoderInput = some s) :
    ∃ imported, importSurfaceDescriptor env width height fourcc descriptor = some imported ∧
      placeholder env width height (fourcc == .p010) = some s.privBuf ∧
      s.imported = some imported ∧ s.width = width ∧ s.height = height ∧ s.fourcc = fourcc ∧
      s.is10bit = (fourcc == .p010) ∧ (0 < width ∧ width ≤ 8192) ∧ (0 < height ∧ height ≤ 8192) ∧
      (s.hstride, s.vstride) =
        initialStrides (some imported) width height (fourcc == .p010) encoderInput := by
  have c := createSurface_from created
  have wide := c.wide
  have tall := c.tall
  unfold rkMaxSize at wide tall
  obtain ⟨imported, accepted, same⟩ := c.imports descriptor rfl
  have strides := c.strides
  rw [same] at strides
  exact ⟨imported, accepted, c.buffer, same, c.columns, c.lines, c.format, c.depth, by omega,
    by omega, strides⟩

end

/-! ## Reading -/

/-- `rk_GetImage` accepts an image for a picture of this format and size. -/
structure Readable (fourcc : Fourcc) (width height : Nat) (image : RKImage) (source : Rect) :
    Prop where
  format : image.fourcc = fourcc
  whole : source = .whole width height
  large : width ≤ image.width ∧ height ≤ image.height
  valid : imageLayoutValid image width height (width * sampleBytes (fourcc == .p010)) = true

/-- A surface of a size and a format, as far as `rk_GetImage` compares the image with it. -/
structure Shaped (fourcc : Fourcc) (width height : Nat) (s : RKSurface) : Prop where
  columns : s.width = width
  lines : s.height = height
  small : width ≤ 8192 ∧ height ≤ 8192
  format : s.fourcc = fourcc
  depth : s.is10bit = (fourcc == .p010)

section

variable {fourcc : Fourcc} {width height : Nat} {s s' : RKSurface} {image : RKImage} {source : Rect}

theorem Shaped.rowBytes (h : Shaped fourcc width height s) :
    s.rowBytes = width * sampleBytes (fourcc == .p010) := by
  rw [RKSurface.rowBytes, h.columns, h.depth, Int.toNat_natCast]

theorem Shaped.readable_iff (h : Shaped fourcc width height s) :
    Readable fourcc width height image source ↔ getsFullFrame s image source = true ∧
      image.fourcc = s.fourcc ∧
      imageLayoutValid image s.width.toNat s.height.toNat s.rowBytes = true := by
  have columns : toUint32 s.width = width := by
    rw [h.columns]
    exact toUint32_natCast (h.small.1.trans (by decide))
  have lines : toUint32 s.height = height := by
    rw [h.lines]
    exact toUint32_natCast (h.small.2.trans (by decide))
  have full : getsFullFrame s image source = true ↔ source = .whole width height ∧
      width ≤ image.width ∧ height ≤ image.height := by
    obtain ⟨x, y, w, l⟩ := source
    simp only [getsFullFrame, columns, lines, Rect.whole, Bool.and_eq_true, beq_iff_eq,
      decide_eq_true_eq, Rect.mk.injEq]
    constructor
    · rintro ⟨⟨⟨⟨⟨rfl, rfl⟩, rfl⟩, rfl⟩, wide⟩, tall⟩
      exact ⟨⟨rfl, rfl, rfl, rfl⟩, wide, tall⟩
    · rintro ⟨⟨rfl, rfl, rfl, rfl⟩, wide, tall⟩
      exact ⟨⟨⟨⟨⟨rfl, rfl⟩, rfl⟩, rfl⟩, wide⟩, tall⟩
  rw [full, h.format, h.rowBytes, h.columns, h.lines, Int.toNat_natCast, Int.toNat_natCast]
  constructor
  · rintro ⟨format, whole, large, valid⟩
    exact ⟨⟨whole, large⟩, format, valid⟩
  · rintro ⟨⟨whole, large⟩, format, valid⟩
    exact ⟨format, whole, large, valid⟩

/-- The buffer that is read has room for the picture. -/
structure ReadsFrom (s : RKSurface) (buffer : MppBuffer) : Prop where
  found : s.readBuffer = some buffer
  plain : s.imported.any Imported.rgb = false
  row : s.rowBytes ≤ s.exportedHstride.toNat * sampleBytes s.is10bit
  layout : ∃ size, rkNv12LayoutSize (s.exportedHstride.toNat * sampleBytes s.is10bit)
    s.exportedVstride.toNat = some size ∧ size ≤ buffer.size
  fd : 0 ≤ buffer.fd

theorem rkGetImage_readable {buffer : MppBuffer} {normalizes : Bool}
    (shaped : Shaped fourcc width height s) (semi : fourcc.planar = false)
    (reads : ReadsFrom s buffer)
    (normalized : s.imported.any Imported.multiplane = true → normalizes = true)
    (readable : Readable fourcc width height image source) (m : PictureMemory) (dst : Bytes) :
    rkGetImage .granted normalizes s image source m dst =
      (.ok (), getRows s image (s.readBytes m) dst
        (s.exportedHstride.toNat * sampleBytes s.is10bit)) := by
  obtain ⟨full, format, valid⟩ := shaped.readable_iff.mp readable
  obtain ⟨size, layout, room⟩ := reads.layout
  have fd := reads.fd
  have row := reads.row
  have normal : ¬(s.imported.any Imported.multiplane = true ∧ normalizes = false) := by
    rintro ⟨two, failed⟩
    rw [normalized two] at failed
    cases failed
  unfold rkGetImage
  rw [reads.found]
  dsimp only
  rw [if_neg (by rw [full, not_or]; exact ⟨normal, fun no => by cases no⟩), layout]
  dsimp only
  rw [if_neg]
  · rfl
  · rw [reads.plain, format, valid, shaped.format, semi]
    simp only [CpuAccess.granted, Bool.false_eq_true, ne_eq, not_true_eq_false, false_and, false_or,
      Bool.true_eq_false, or_false]
    omega

theorem rkGetImage_unreadable (shaped : Shaped fourcc width height s) (access : CpuAccess)
    (normalizes : Bool) (unreadable : ¬Readable fourcc width height image source)
    (m : PictureMemory) (dst : Bytes) :
    (rkGetImage access normalizes s image source m dst).1 = .error .operationFailed := by
  rw [shaped.readable_iff] at unreadable
  unfold rkGetImage
  split
  · rfl
  · split
    · rfl
    · rename_i full
      rw [not_or, Bool.not_eq_false] at full
      dsimp only
      split
      · rfl
      · rw [if_pos]
        by_cases format : image.fourcc = s.fourcc
        · have invalid : imageLayoutValid image s.width.toNat s.height.toNat s.rowBytes = false :=
            eq_false_of_ne_true fun valid => unreadable ⟨full.2, format, valid⟩
          simp only [invalid, true_or, or_true]
        · exact .inr (.inl format)

/-- An image gets the same of two surfaces with the same samples. -/
theorem getRows_agree {src src' dst dst' : Bytes} {pitch pitch' : Nat}
    (semi : image.fourcc.planar = false) (lines : s'.height = s.height)
    (row : s'.rowBytes = s.rowBytes)
    (luma : ∀ r < s.height.toNat, ∀ c < s.rowBytes, src (r * pitch + c) = src' (r * pitch' + c))
    (chroma : ∀ r < s.height.toNat / 2, ∀ c < s.rowBytes,
      src (pitch * s.exportedVstride.toNat + r * pitch + c) =
        src' (pitch' * s'.exportedVstride.toNat + r * pitch' + c)) :
    ∀ i < image.capacity, getRows s image src dst pitch i = getRows s' image src' dst' pitch' i := by
  unfold getRows lumaBytes
  rw [semi, lines, row]
  simp only [Bool.false_eq_true, if_false]
  refine forLoop_agree (fun r small m m' agree => copyRow_agree _ _ (chroma r small) agree) ?_
  refine forLoop_agree (fun r small m m' agree => copyRow_agree _ _ (fun c inside => ?_) agree) ?_
  · rw [Nat.zero_add, Nat.zero_add]
    exact luma r small c inside
  · intro i small
    rw [memset_apply small, memset_apply small]

end

/-! ## Imports that are read -/

section

variable {env : CreateEnv} {fourcc : Fourcc} {width height : Nat} {encoderInput : Bool}
  {descriptor : VADRMPRIMESurfaceDescriptor} {s : RKSurface} {imported : Imported}

theorem toInt_natCast {n : Nat} (h : n ≤ intMax) : toInt (n : Int) = n := by
  unfold intMax at h
  unfold toInt
  rw [Int.bmod_def]
  omega

theorem createSurface_shaped
    (created : createSurface env width height fourcc (some descriptor) encoderInput = some s) :
    Shaped fourcc width height s := by
  obtain ⟨_, -, -, -, columns, lines, format, depth, ⟨-, narrow⟩, ⟨-, short⟩, -⟩ :=
    createSurface_imports created
  exact ⟨columns, lines, ⟨narrow, short⟩, format, depth⟩

/-- An import in one object is read where it is. -/
structure ReadInPlace (height : Nat) (s : RKSurface) (imported : Imported) : Prop where
  reads : ReadsFrom s imported.buf
  plain : s.imported.any Imported.multiplane = false
  bytes : ∀ m : PictureMemory, s.readBytes m = m.imported
  pitch : s.exportedHstride.toNat * sampleBytes s.is10bit = imported.pitch
  rows : s.exportedVstride.toNat = height

theorem createSurface_readInPlace (opens : env.Opens) (yuv : fourcc = .nv12 ∨ fourcc = .p010)
    (even : height % 2 = 0) (single : descriptor.objects.length = 1)
    (sizes : ∀ object ∈ descriptor.objects, object.size ≤ uint32Max)
    (created : createSurface env width height fourcc (some descriptor) encoderInput = some s)
    (there : s.imported = some imported) : ReadInPlace height s imported := by
  have shaped := createSurface_shaped created
  obtain ⟨found, accepted, -, present, -, -, -, depth, ⟨some_columns, -⟩, ⟨some_lines, -⟩, strides⟩ :=
    createSurface_imports created
  obtain rfl := Option.some.inj (there.symm.trans present)
  obtain ⟨import_, double, size⟩ := importSurfaceDescriptor_yuv opens yuv accepted
  have one : imported.multiplane = false := by
    rw [← Bool.not_eq_true, double, single]
    decide
  have contiguous : imported.contiguous = true := by
    rw [Imported.contiguous, import_.yuv, one]
    rfl
  obtain ⟨multiple, -, room⟩ := import_.fits.contiguous contiguous
  obtain ⟨object, mem, same⟩ := List.mem_map.mp size
  have small : imported.size ≤ uint32Max := same ▸ sizes object mem
  have bytes := sampleBytes_pos (fourcc == .p010)
  have wide := import_.wide
  have pitchPos : 0 < imported.pitch := (Nat.mul_pos some_columns bytes).trans_le wide
  -- two rows of luma and one of chroma, so the pitch is an `int`
  have three : imported.pitch * 2 + imported.pitch * 1 ≤ imported.size :=
    (Nat.add_le_add (Nat.mul_le_mul_left _ (by omega)) (Nat.mul_le_mul_left _ (by omega))).trans room
  have pitchSmall : imported.pitch ≤ intMax := by
    unfold uint32Max at small
    unfold intMax
    omega
  rw [initialStrides_contiguous contiguous] at strides
  obtain ⟨hstride, vstride⟩ := Prod.mk.inj strides
  rw [toInt_natCast ((Nat.div_le_self _ _).trans pitchSmall)] at hstride
  have positive : 0 < imported.pitch / sampleBytes (fourcc == .p010) :=
    Nat.div_pos ((Nat.le_mul_of_pos_left _ some_columns).trans wide) bytes
  have exported : s.exportedHstride = ((imported.pitch / sampleBytes (fourcc == .p010) : Nat) : Int) := by
    rw [RKSurface.exportedHstride, hstride, if_neg (by omega)]
  have rows : s.exportedVstride = (height : Int) := by
    rw [RKSurface.exportedVstride, vstride, if_neg (by omega)]
  have pitch : s.exportedHstride.toNat * sampleBytes s.is10bit = imported.pitch := by
    rw [exported, depth, Int.toNat_natCast, Nat.div_mul_cancel (Nat.dvd_of_mod_eq_zero multiple)]
  refine ⟨⟨?_, ?_, ?_, ?_, ?_⟩, ?_, ?_, pitch, ?_⟩
  · rw [RKSurface.readBuffer, there]
    dsimp only
    rw [one, if_neg Bool.false_ne_true]
  · rw [there]
    exact import_.yuv
  · rw [pitch, shaped.rowBytes]
    exact wide
  · refine ⟨imported.pitch * height + imported.pitch * (height / 2), ?_, ?_⟩
    · rw [pitch, rows, Int.toNat_natCast]
      refine rkNv12LayoutSize_eq pitchPos some_lines even ?_
      refine room.trans (small.trans ?_)
      decide
    · rw [import_.fits.object]
      exact room
  · rw [import_.fd.2]
    exact import_.fd.1
  · rw [there]
    exact one
  · intro m
    rw [RKSurface.readBytes, there, Option.any_some, one, if_neg Bool.false_ne_true,
      RKSurface.activeBytes, there]
  · rw [rows, Int.toNat_natCast]

/-- An import in two objects is read from the placeholder, where normalising puts it. -/
structure ReadNormalized (s : RKSurface) (imported : Imported) : Prop where
  reads : ReadsFrom s s.privBuf
  double : s.imported.any Imported.multiplane = true
  bytes : ∀ m : PictureMemory, s.readBytes m = m.priv
  hstride : toUint32 s.hstride = s.exportedHstride.toNat ∧ s.exportedHstride = s.hstride
  vstride : toUint32 s.vstride = s.exportedVstride.toNat
  tall : s.height.toNat ≤ s.exportedVstride.toNat
  target : ∃ size, normalizeTarget s =
    some (imported, s.exportedHstride.toNat * sampleBytes s.is10bit, size)

theorem createSurface_readNormalized (opens : env.Opens) (yuv : fourcc = .nv12 ∨ fourcc = .p010)
    (two : descriptor.objects.length = 2)
    (created : createSurface env width height fourcc (some descriptor) encoderInput = some s)
    (there : s.imported = some imported) : ReadNormalized s imported := by
  have shaped := createSurface_shaped created
  obtain ⟨found, accepted, made, present, columns, lines, -, depth, ⟨some_columns, narrow⟩,
    ⟨some_lines, short⟩, strides⟩ := createSurface_imports created
  obtain rfl := Option.some.inj (there.symm.trans present)
  obtain ⟨import_, double, -⟩ := importSurfaceDescriptor_yuv opens yuv accepted
  have multiplane := double.mpr two
  obtain ⟨chromaFd, chromaWide⟩ := import_.chroma multiplane
  have strided : initialStrides (some imported) width height (fourcc == .p010) encoderInput =
      (((roundUp 16 width : Nat) : Int), ((roundUp 16 height : Nat) : Int)) := by
    unfold initialStrides
    rw [Option.filter_some, Imported.contiguous, multiplane, Bool.not_true, Bool.and_false,
      if_neg Bool.false_ne_true, Option.isNone_some, Bool.false_and, Bool.false_and,
      if_neg Bool.false_ne_true]
  rw [strided] at strides
  obtain ⟨hstride, vstride⟩ := Prod.mk.inj strides
  obtain ⟨total, asked, enough⟩ := placeholder_some made
  have room := (rkSurfacePlaceholderSize_some asked (show 16 ∣ 256 by decide) fun _ => rfl).trans
    enough
  have fd : 0 ≤ s.privBuf.fd := by
    have := (Option.filter_eq_some_iff.mp made).2
    simpa using this
  have wider := le_roundUp (show 0 < 16 by omega) width
  have taller := le_roundUp (show 0 < 16 by omega) height
  have widest := roundUp_lt (show 0 < 16 by omega) width
  have tallest := roundUp_lt (show 0 < 16 by omega) height
  have even := roundUp_mod 16 height
  generalize roundUp 16 width = columns' at *
  generalize roundUp 16 height = rows' at *
  have bytes : 0 < sampleBytes (fourcc == .p010) ∧ sampleBytes (fourcc == .p010) ≤ 2 := by
    cases fourcc == .p010 <;> decide
  have exportedH : s.exportedHstride = (columns' : Int) := by
    rw [RKSurface.exportedHstride, hstride, if_neg (by omega)]
  have exportedV : s.exportedVstride = (rows' : Int) := by
    rw [RKSurface.exportedVstride, vstride, if_neg (by omega)]
  have unsignedH : toUint32 s.hstride = columns' := by
    rw [hstride]
    exact toUint32_natCast (show columns' ≤ intMax by unfold intMax; omega)
  have unsignedV : toUint32 s.vstride = rows' := by
    rw [vstride]
    exact toUint32_natCast (show rows' ≤ intMax by unfold intMax; omega)
  have product : columns' * sampleBytes (fourcc == .p010) * rows' ≤ 8207 * 2 * 8207 :=
    Nat.mul_le_mul (Nat.mul_le_mul (by omega) bytes.2) (by omega)
  have half : columns' * sampleBytes (fourcc == .p010) * (rows' / 2) ≤
      columns' * sampleBytes (fourcc == .p010) * rows' :=
    Nat.mul_le_mul_left _ (Nat.div_le_self _ _)
  have limit : sizeMax = 18446744073709551615 := rfl
  have layout : rkNv12LayoutSize (columns' * sampleBytes (fourcc == .p010)) rows' =
      some (columns' * sampleBytes (fourcc == .p010) * rows' +
        columns' * sampleBytes (fourcc == .p010) * (rows' / 2)) :=
    rkNv12LayoutSize_eq (Nat.mul_pos (by omega) bytes.1) (by omega) (by omega) (by omega)
  refine ⟨⟨?_, ?_, ?_, ?_, fd⟩, ?_, ?_, ⟨?_, ?_⟩, ?_, ?_, ?_⟩
  · rw [RKSurface.readBuffer, there]
    dsimp only
    rw [multiplane, if_pos rfl]
  · rw [there]
    exact import_.yuv
  · rw [shaped.rowBytes, exportedH, depth, Int.toNat_natCast]
    exact Nat.mul_le_mul_right _ wider
  · refine ⟨_, ?_, room⟩
    rw [exportedH, exportedV, depth, Int.toNat_natCast, Int.toNat_natCast]
    exact layout
  · rw [there]
    exact multiplane
  · intro m
    rw [RKSurface.readBytes, there, Option.any_some, multiplane, if_pos rfl]
  · rw [unsignedH, exportedH, Int.toNat_natCast]
  · rw [exportedH, hstride]
  · rw [unsignedV, exportedV, Int.toNat_natCast]
  · rw [lines, exportedV, Int.toNat_natCast, Int.toNat_natCast]
    exact taller
  · refine ⟨columns' * sampleBytes (fourcc == .p010) * rows' +
      columns' * sampleBytes (fourcc == .p010) * (rows' / 2), ?_⟩
    unfold normalizeTarget
    rw [there, Option.filter_some, if_pos multiplane]
    dsimp only
    rw [if_neg, unsignedH, unsignedV, depth, layout, Option.filter_some,
      if_pos (decide_eq_true room), Option.map_some, exportedH, Int.toNat_natCast]
    rw [shaped.rowBytes, hstride, vstride, columns, lines]
    have lumaFd := import_.fd.1
    have lumaWide := import_.wide
    omega

end

/-! ## The same samples -/

/-- Two imports hold the same visible samples. -/
structure SameImport (width height : Nat) (p010 : Bool) (one two : Imported) (m y uv : Bytes) :
    Prop where
  luma : ∀ row < height, ∀ column < width * sampleBytes p010,
    m (row * one.pitch + column) = y (row * two.pitch + column)
  chroma : ∀ row < height / 2, ∀ column < width * sampleBytes p010,
    m (one.pitch * height + row * one.pitch + column) = uv (row * two.chromaPitch + column)

section

variable {fourcc : Fourcc} {width height : Nat} {s : RKSurface} {imported : Imported}
  {image : RKImage} {source : Rect}

/-- An image of the size of the surface has room for its picture. -/
theorem rkCreateImage_readable {allocates : Bool}
    (created : rkCreateImage allocates fourcc width height = some image) :
    Readable fourcc width height image (.whole width height) := by
  have laid := rkCreateImage_laid created
  exact ⟨laid.format, rfl, ⟨laid.columns.ge, laid.lines.ge⟩, laid.valid le_rfl le_rfl⟩

theorem ReadNormalized.normalized (reads : ReadNormalized s imported) (y uv priv : Bytes) :
    ∃ size, rkSurfaceNormalizeMultiplaneImport .granted s y uv priv =
      (true, normalizeRows s imported y uv priv
        (s.exportedHstride.toNat * sampleBytes s.is10bit) size) := by
  obtain ⟨size, target⟩ := reads.target
  refine ⟨size, ?_⟩
  unfold rkSurfaceNormalizeMultiplaneImport
  rw [target]
  simp only [NormalizeAccess.granted, CpuAccess.granted, decide_eq_true reads.reads.fd,
    Bool.and_self, Bool.or_true, if_true]

theorem getImage_inPlace (shaped : Shaped fourcc width height s) (semi : fourcc.planar = false)
    (reads : ReadInPlace height s imported) (readable : Readable fourcc width height image source)
    (normalize : NormalizeAccess) (m : PictureMemory) (uv dst : Bytes) :
    rkGetImageNormalized .granted normalize s image source m uv dst =
      (.ok (), getRows s image m.imported dst imported.pitch) := by
  unfold rkGetImageNormalized
  rw [reads.plain, if_neg Bool.false_ne_true]
  dsimp only
  rw [rkGetImage_readable shaped semi reads.reads (fun _ => rfl) readable, reads.bytes, reads.pitch]

theorem getImage_normalized (shaped : Shaped fourcc width height s) (semi : fourcc.planar = false)
    (reads : ReadNormalized s imported) (readable : Readable fourcc width height image source)
    (m : PictureMemory) (uv dst : Bytes) :
    ∃ size, rkGetImageNormalized .granted .granted s image source m uv dst =
      (.ok (), getRows s image
        (normalizeRows s imported m.imported uv m.priv
          (s.exportedHstride.toNat * sampleBytes s.is10bit) size) dst
        (s.exportedHstride.toNat * sampleBytes s.is10bit)) := by
  obtain ⟨size, done⟩ := reads.normalized m.imported uv m.priv
  refine ⟨size, ?_⟩
  unfold rkGetImageNormalized
  rw [reads.double, if_pos rfl, done]
  dsimp only
  rw [rkGetImage_readable shaped semi reads.reads (fun _ => rfl) readable, reads.bytes]

/-- What is read from the two kinds of import. -/
theorem getImage_same {s' : RKSurface} {imported' : Imported}
    (shaped : Shaped fourcc width height s) (shaped' : Shaped fourcc width height s')
    (semi : fourcc.planar = false) (reads : ReadInPlace height s imported)
    (reads' : ReadNormalized s' imported') (readable : Readable fourcc width height image source)
    {m m' : PictureMemory} {uv uv' : Bytes}
    (same : SameImport width height (fourcc == .p010) imported imported' m.imported m'.imported uv')
    (normalize : NormalizeAccess) (dst dst' : Bytes) :
    ∀ i < image.capacity,
      (rkGetImageNormalized .granted normalize s image source m uv dst).2 i =
        (rkGetImageNormalized .granted .granted s' image source m' uv' dst').2 i := by
  obtain ⟨size, second⟩ := getImage_normalized shaped' semi reads' readable m' uv' dst'
  rw [getImage_inPlace shaped semi reads readable, second]
  have row := shaped.rowBytes
  have row' := shaped'.rowBytes
  have wide := reads'.reads.row
  have lines : s.height.toNat = height := by rw [shaped.lines, Int.toNat_natCast]
  have lines' : s'.height.toNat = height := by rw [shaped'.lines, Int.toNat_natCast]
  refine getRows_agree (by rw [readable.format]; exact semi) (shaped'.lines.trans shaped.lines.symm)
    (row'.trans row.symm) (fun r small c inside => ?_) fun r small c inside => ?_
  · rw [lines] at small
    rw [row] at inside
    rw [normalizeRows_luma wide (by rw [reads'.vstride]; exact reads'.tall) (by omega) (by omega)]
    exact same.luma r small c inside
  · rw [lines] at small
    rw [row] at inside
    rw [reads.rows, ← reads'.vstride, normalizeRows_chroma wide (by omega) (by omega)]
    exact same.chroma r small c inside

end

/-- An import in one object and one in two that hold the same samples are read alike, and
normalising again changes nothing. -/
theorem imports_read_same {env env' : CreateEnv} {fourcc : Fourcc} {width height : Nat}
    {encoderInput encoderInput' : Bool} {one two : VADRMPRIMESurfaceDescriptor} {s s' : RKSurface}
    {imported imported' : Imported} (yuv : fourcc = .nv12 ∨ fourcc = .p010)
    (even : height % 2 = 0) (opens : env.Opens) (opens' : env'.Opens)
    (single : one.objects.length = 1) (double : two.objects.length = 2)
    (sizes : ∀ object ∈ one.objects, object.size ≤ uint32Max)
    (created : createSurface env width height fourcc (some one) encoderInput = some s)
    (created' : createSurface env' width height fourcc (some two) encoderInput' = some s')
    (there : s.imported = some imported) (there' : s'.imported = some imported') :
    (∀ image source m m' uv uv' dst dst',
      SameImport width height (fourcc == .p010) imported imported' (m : PictureMemory).imported
          (m' : PictureMemory).imported uv' →
        let first := rkGetImageNormalized .granted .granted s image source m uv dst
        let second := rkGetImageNormalized .granted .granted s' image source m' uv' dst'
        (first.1 = .ok () ↔ Readable fourcc width height image source) ∧
          (second.1 = .ok () ↔ Readable fourcc width height image source) ∧
          (Readable fourcc width height image source →
            ∀ i < image.capacity, first.2 i = second.2 i)) ∧
      (∀ image, rkCreateImage true fourcc width height = some image →
        Readable fourcc width height image (.whole width height)) ∧
      ∀ access y uv priv,
        (rkSurfaceNormalizeMultiplaneImport access s' y uv
            (rkSurfaceNormalizeMultiplaneImport access s' y uv priv).2).2 =
          (rkSurfaceNormalizeMultiplaneImport access s' y uv priv).2 := by
  have semi : fourcc.planar = false := by rcases yuv with rfl | rfl <;> rfl
  have shaped := createSurface_shaped created
  have shaped' := createSurface_shaped created'
  have reads := createSurface_readInPlace opens yuv even single sizes created there
  have reads' := createSurface_readNormalized opens' yuv double created' there'
  have refused {s : RKSurface} (shaped : Shaped fourcc width height s) {image : RKImage}
      {source : Rect} (unreadable : ¬Readable fourcc width height image source) (m : PictureMemory)
      (uv dst : Bytes) :
      (rkGetImageNormalized .granted .granted s image source m uv dst).1 ≠ .ok () := by
    rw [rkGetImageNormalized, rkGetImage_unreadable shaped _ _ unreadable]
    exact fun no => by cases no
  refine ⟨fun image source m m' uv uv' dst dst' same => ⟨?_, ?_, fun readable => ?_⟩,
    fun image made => rkCreateImage_readable made,
    fun access y uv priv => rkSurfaceNormalizeMultiplaneImport_again access ?_ y uv priv⟩
  · refine ⟨fun ok => not_not.mp fun no => refused shaped no m uv dst ok, fun readable => ?_⟩
    rw [getImage_inPlace shaped semi reads readable]
  · refine ⟨fun ok => not_not.mp fun no => refused shaped' no m' uv' dst' ok, fun readable => ?_⟩
    obtain ⟨size, done⟩ := getImage_normalized shaped' semi reads' readable m' uv' dst'
    rw [done]
  · exact getImage_same shaped shaped' semi reads reads' readable same .granted dst dst'
  · rw [reads'.hstride.1, reads'.hstride.2]

/-- Objects are imported under the number of their descriptor. -/
def importingCreate : CreateEnv := ⟨true, fun object => some (object.fd.toNat, 20), ampleMemory⟩

def oneObject : VADRMPRIMESurfaceDescriptor :=
  ⟨.nv12, 4, 2, [⟨11, 24, true⟩], [⟨.nv12, [⟨0, 0, 8⟩, ⟨0, 16, 8⟩]⟩]⟩

def twoObjects : VADRMPRIMESurfaceDescriptor :=
  ⟨.nv12, 4, 2, [⟨12, 8, true⟩, ⟨13, 16, true⟩], [⟨.nv12, [⟨0, 0, 4⟩, ⟨1, 0, 16⟩]⟩]⟩

/-- Rows that are 8 bytes apart, and the same ones 4 and 16 bytes apart. -/
theorem imports_read_same_narrow :
    ∃ s s', createSurface importingCreate 4 2 .nv12 (some oneObject) false = some s ∧
      createSurface importingCreate 4 2 .nv12 (some twoObjects) false = some s' ∧
      ∃ image, rkCreateImage true .nv12 4 2 = some image ∧
        ∀ (pixels dst dst' : Bytes), ∀ i < image.capacity,
          let first := rkGetImageNormalized .granted .granted s image (.whole 4 2)
            ⟨pixels, dst, dst, dst⟩ dst dst
          let second := rkGetImageNormalized .granted .granted s' image (.whole 4 2)
            ⟨fun i => pixels (i / 4 * 8 + i % 4), dst', dst', dst'⟩
            (fun i => pixels (16 + i / 16 * 8 + i % 16)) dst'
          first.2 i = second.2 i := by
  have opens : importingCreate.Opens := by
    rintro object handle fd found
    obtain ⟨-, rfl⟩ := Prod.mk.inj (Option.some.inj found)
    decide
  refine ⟨_, _, rfl, rfl, _, rfl, fun pixels dst dst' => ?_⟩
  obtain ⟨read, made, -⟩ := @imports_read_same importingCreate importingCreate .nv12 4 2 false false
    oneObject twoObjects _ _ _ _ (.inl rfl) rfl opens opens rfl rfl (by decide) rfl rfl rfl rfl
  refine (read _ _ _ _ _ _ _ _ ⟨fun row small column inside => ?_,
    fun row small column inside => ?_⟩).2.2 (made _ rfl)
  · show pixels (row * 8 + column) = pixels ((row * 4 + column) / 4 * 8 + (row * 4 + column) % 4)
    change column < 4 at inside
    congr 1
    omega
  · show pixels (8 * 2 + row * 8 + column) =
      pixels (16 + (row * 16 + column) / 16 * 8 + (row * 16 + column) % 16)
    change column < 4 at inside
    congr 1
    omega

end RockchipVaapi.Surface
