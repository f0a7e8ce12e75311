import RockchipVaapi.Surface.System

/-!
# Exported planes and their objects

The strides of a surface stay when its picture is gone, and an export that has no picture falls
back on the placeholder without looking at the layout again. As long as the placeholder has room
for what was shown last, every plane of a descriptor lies in its object.
-/

namespace RockchipVaapi.Surface

/-! ## Descriptors -/

/-- Every plane lies in the object that it refers to, and planes of one object are apart. -/
structure VADRMPRIMESurfaceDescriptor.Inside (d : VADRMPRIMESurfaceDescriptor) : Prop where
  planes : ∀ region ∈ d.regions, ∃ object, d.objects[region.1]? = some object ∧
    region.2.Inside object.size
  apart : d.regions.Pairwise fun p q => p.1 = q.1 → p.2.Apart q.2

/-- The pitches and the offsets are the products of the strides, and no product exceeds `int`. -/
def ExportLocals.Exact (l : ExportLocals) (d : VADRMPRIMESurfaceDescriptor) : Prop :=
  ∃ hstride vstride : Nat, l.hstride = hstride ∧ l.vstride = vstride ∧
    hstride * vstride * sampleBytes l.is10bit ≤ intMax ∧
    d.geometry = [(0, hstride * sampleBytes l.is10bit),
      (hstride * vstride * sampleBytes l.is10bit, hstride * sampleBytes l.is10bit)]

/-- A picture with these strides and rows, from its first row to the last one of its chroma, takes
no more than `size` bytes. -/
structure Laid (hstride vstride height : Int) (bytes size : Nat) : Prop where
  hstride_pos : 0 < hstride
  vstride_pos : 0 < vstride
  tall : height ≤ vstride
  room : hstride.toNat * bytes * (vstride.toNat + height.toNat / 2) ≤ size

theorem Laid.of_layoutSize {hstride vstride height : Int} {is10bit : Bool} {size total : Nat}
    (wide : 0 < hstride) (long : 0 < vstride) (tall : height ≤ vstride)
    (layout : layoutSize is10bit hstride.toNat vstride.toNat = some total) (fits : total ≤ size) :
    Laid hstride vstride height (sampleBytes is10bit) size := by
  obtain ⟨-, -, -, same⟩ := layoutSize_some layout
  refine ⟨wide, long, tall, ?_⟩
  have rows : height.toNat / 2 ≤ vstride.toNat / 2 := Nat.div_le_div_right (by omega)
  have half := Nat.mul_le_mul_left (hstride.toNat * sampleBytes is10bit) rows
  rw [Nat.mul_add]
  omega

theorem toUint32_natCast {n : Nat} (h : n ≤ intMax) : toUint32 (n : Int) = n := by
  unfold toUint32
  unfold intMax at h
  omega

theorem sampleBytes_pos (is10bit : Bool) : 0 < sampleBytes is10bit := by cases is10bit <;> decide

section

variable {l : ExportLocals} {composed : Bool}

/-- The descriptor of an image in one object. -/
theorem singleDescriptor_inside (plain : l.importedRgb = none) (height : 0 ≤ l.height)
    (laid : Laid l.hstride l.vstride l.height (sampleBytes l.is10bit) l.objectSize)
    (small : l.hstride * l.vstride * (sampleBytes l.is10bit : Nat) ≤ intMax) :
    (singleDescriptor l composed).Inside ∧ l.Exact (singleDescriptor l composed) := by
  obtain ⟨wide, long, tall, room⟩ := laid
  obtain ⟨hstride, strideEq⟩ := Int.eq_ofNat_of_zero_le wide.le
  obtain ⟨vstride, rowsEq⟩ := Int.eq_ofNat_of_zero_le long.le
  obtain ⟨rows, heightEq⟩ := Int.eq_ofNat_of_zero_le height
  rw [strideEq] at wide small room
  rw [rowsEq] at long small room tall
  rw [heightEq] at room tall
  simp only [Int.toNat_natCast] at room
  generalize bytesEq : sampleBytes l.is10bit = bytes at room small
  have bytesPos : 0 < bytes := bytesEq ▸ sampleBytes_pos l.is10bit
  have product : hstride * vstride * bytes ≤ intMax := by exact_mod_cast small
  have wide' : 0 < hstride := by exact_mod_cast wide
  have long' : 0 < vstride := by exact_mod_cast long
  have tall' : rows ≤ vstride := by exact_mod_cast tall
  have rowProduct : hstride * bytes * vstride ≤ intMax := by
    rw [Nat.mul_right_comm]
    exact product
  have pitchSmall : hstride * bytes ≤ intMax :=
    (Nat.le_mul_of_pos_right _ long').trans rowProduct
  have rowsSmall : rows ≤ intMax :=
    tall'.trans ((Nat.le_mul_of_pos_left _ (Nat.mul_pos wide' bytesPos)).trans rowProduct)
  have pitch : toUint32 (l.hstride * (bytes : Int)) = hstride * bytes := by
    rw [strideEq]
    exact_mod_cast toUint32_natCast pitchSmall
  have offset : toUint32 (l.hstride * l.vstride * (bytes : Int)) = hstride * vstride * bytes := by
    rw [strideEq, rowsEq]
    exact_mod_cast toUint32_natCast product
  have planes : (singleDescriptor l composed).planes =
      [⟨0, 0, hstride * bytes⟩, ⟨0, hstride * vstride * bytes, hstride * bytes⟩] := by
    unfold singleDescriptor
    rw [plain]
    simp only [VADRMPRIMESurfaceDescriptor.planes, imageLayers_planes, bytesEq, pitch, offset]
  have objects : (singleDescriptor l composed).objects = [⟨l.fd, l.objectSize, true⟩] := by
    unfold singleDescriptor
    rw [plain]
  have tallness : (singleDescriptor l composed).height = rows := by
    unfold singleDescriptor
    rw [plain]
    show toUint32 l.height = rows
    rw [heightEq]
    exact toUint32_natCast rowsSmall
  have regions : (singleDescriptor l composed).regions =
      [(0, Plane.luma (hstride * bytes) rows), (0, Plane.chroma (hstride * bytes) vstride rows)] := by
    rw [VADRMPRIMESurfaceDescriptor.regions, planes, tallness, Plane.chroma, Nat.mul_right_comm]
    rfl
  refine ⟨⟨?_, ?_⟩, hstride, vstride, strideEq, rowsEq, by rw [bytesEq]; exact product, ?_⟩
  · intro region mem
    rw [Nat.mul_add] at room
    have luma := Nat.mul_le_mul_left (hstride * bytes) tall'
    have either : region = (0, Plane.luma (hstride * bytes) rows) ∨
        region = (0, Plane.chroma (hstride * bytes) vstride rows) := by
      simpa [regions] using mem
    refine ⟨⟨l.fd, l.objectSize, true⟩, ?_, ?_⟩
    · rw [objects]
      rcases either with rfl | rfl <;> rfl
    · rcases either with rfl | rfl
      · unfold Plane.Inside Plane.stop Plane.luma
        simp only
        omega
      · exact room
  · rw [regions]
    simpa using Plane.luma_apart_chroma tall'
  · rw [VADRMPRIMESurfaceDescriptor.geometry, planes, bytesEq]
    rfl

end

/-! ## New surfaces -/

/-- What an import has checked of the planes it takes over. -/
structure ImportFits (width height : Nat) (is10bit : Bool) (imported : Imported) : Prop where
  object : imported.buf.size = imported.size
  luma : imported.pitch * height ≤ imported.size
  rgb : imported.rgb = true → imported.multiplane = false
  multiplane : imported.multiplane = true →
    imported.chromaPitch * (height / 2) ≤ imported.chromaSize
  contiguous : imported.contiguous = true →
    imported.pitch % sampleBytes is10bit = 0 ∧ width ≤ imported.pitch / sampleBytes is10bit ∧
      imported.pitch * height + imported.pitch * (height / 2) ≤ imported.size

theorem importSurfaceDescriptor_some {env : CreateEnv} {width height : Nat} {fourcc : Fourcc}
    {descriptor : VADRMPRIMESurfaceDescriptor} {imported : Imported}
    (h : importSurfaceDescriptor env width height fourcc descriptor = some imported) :
    ImportFits width height (fourcc == .p010) imported := by
  rcases importSurfaceDescriptor_cases h with
    ⟨layer, object, format, planes, -, -, found, taken⟩ |
      ⟨layer, object, chromaObject, planes, -, -, found, taken⟩
  · obtain ⟨room, one⟩ := importRgb_some found
    obtain ⟨buf, size, pitch, isRgb, multiplane, -⟩ := importBuffers_some taken
    refine ⟨buf.trans size.symm, by rw [pitch, size]; exact room, fun _ => multiplane.trans one,
      fun two => ?_, fun plain => ?_⟩
    · rw [multiplane, one] at two
      cases two
    · rw [Imported.contiguous, isRgb] at plain
      cases plain
  · obtain ⟨two, multiple, wide, room, chromaRoom, whole⟩ := importYuv_some found
    obtain ⟨buf, size, pitch, isRgb, multiplane, chromaPitch, chromaSize⟩ := importBuffers_some taken
    refine ⟨buf.trans size.symm, by rw [pitch, size]; exact room, fun isRgb' => ?_, fun double => ?_,
      fun plain => ?_⟩
    · rw [isRgb] at isRgb'
      cases isRgb'
    · rw [multiplane, two] at double
      obtain ⟨chroma, rfl⟩ := Option.isSome_iff_exists.mp double
      rw [chromaPitch two, chromaSize chroma rfl]
      exact chromaRoom chroma rfl
    · rw [Imported.contiguous, multiplane, two] at plain
      rw [pitch, size]
      refine ⟨multiple, wide, whole ?_⟩
      cases chromaObject with
      | none => rfl
      | some chroma => simp at plain

/-- What holds of a surface when it is created. -/
structure Created (s : RKSurface) : Prop where
  height : s.height ≤ rkMaxSize
  empty : s.holdsPicture = false
  undecoded : s.decoded = false
  unbegun : s.fence = 0
  unexported : s.exportFence = 0
  own : s.imported = none →
    Laid s.hstride s.vstride s.height (sampleBytes s.is10bit) s.privBuf.size ∧
      s.hstride * s.vstride * (sampleBytes s.is10bit : Nat) ≤ intMax
  fits : ∀ imported, s.imported = some imported →
    ImportFits s.width.toNat s.height.toNat s.is10bit imported
  strides : ∀ imported, s.imported = some imported → imported.contiguous = true →
    s.hstride = toInt (imported.pitch / sampleBytes s.is10bit : Nat) ∧ s.vstride = s.height

section

variable {is10bit : Bool} {stride vstride alignment width height : Nat}

/-- The layout of P010 is that of NV12 with rows of twice the bytes. -/
theorem layoutSize_eq_nv12 (pos : 0 < stride) (small : stride ≤ intMax) :
    layoutSize is10bit stride vstride =
      rkNv12LayoutSize (stride * sampleBytes is10bit) vstride := by
  cases is10bit with
  | false => exact congrArg (rkNv12LayoutSize · vstride) (Nat.mul_one stride).symm
  | true =>
    have limit : intMax ≤ sizeMax / 2 := by decide
    show rkP010LayoutSize stride vstride = _
    unfold rkP010LayoutSize
    rw [if_neg (by omega)]
    rfl

/-- The image of a size that was rounded to 64 by 16 has a layout, far below every limit. -/
theorem layoutSize_rounded (is10bit : Bool) (wide : 0 < stride) (narrow : stride ≤ 8255)
    (tall : 0 < vstride) (short : vstride ≤ 8207) (even : vstride % 2 = 0) :
    ∃ size, layoutSize is10bit stride vstride = some size ∧ size ≤ intMax := by
  have bytes : 0 < sampleBytes is10bit ∧ sampleBytes is10bit ≤ 2 := by
    cases is10bit <;> decide
  have product : stride * sampleBytes is10bit * vstride ≤ 8255 * 2 * 8207 :=
    Nat.mul_le_mul (Nat.mul_le_mul narrow bytes.2) short
  have half : stride * sampleBytes is10bit * (vstride / 2) ≤
      stride * sampleBytes is10bit * vstride := Nat.mul_le_mul_left _ (Nat.div_le_self _ _)
  have small : stride * sampleBytes is10bit * vstride +
      stride * sampleBytes is10bit * (vstride / 2) ≤ intMax := by
    unfold intMax
    omega
  refine ⟨_, ?_, small⟩
  rw [layoutSize_eq_nv12 wide (by unfold intMax; omega)]
  exact rkNv12LayoutSize_eq (Nat.mul_pos wide bytes.1) tall even (small.trans (by decide))

/-- The units that `create_surfaces` rounds the stride of a depth to. -/
def StrideUnit (is10bit : Bool) (alignment : Nat) : Prop :=
  (alignment = 64 ∨ alignment = 16) ∧ (is10bit = true → alignment = 16)

theorem StrideUnit.pos (unit : StrideUnit is10bit alignment) : 0 < alignment := by
  rcases unit.1 with rfl | rfl <;> decide

theorem StrideUnit.le (unit : StrideUnit is10bit alignment) : alignment ≤ 64 := by
  rcases unit.1 with rfl | rfl <;> decide

theorem StrideUnit.divides (unit : StrideUnit is10bit alignment) : alignment ∣ 256 := by
  rcases unit.1 with rfl | rfl <;> decide

/-- The strides of every size have a layout. -/
theorem StrideUnit.layout (unit : StrideUnit is10bit alignment) (wide : 0 < width)
    (narrow : width ≤ 8192) (tall : 0 < height) (short : height ≤ 8192) :
    ∃ size, layoutSize is10bit (roundUp alignment width) (roundUp 16 height) = some size ∧
      size ≤ intMax := by
  have least := unit.le
  have columns := roundUp_lt unit.pos width
  have someColumns := le_roundUp unit.pos width
  have rows := roundUp_lt (show 0 < 16 by decide) height
  have someRows := le_roundUp (show 0 < 16 by decide) height
  have multiple := roundUp_mod 16 height
  exact layoutSize_rounded is10bit (by omega) (by omega) (by omega) (by omega) (by omega)

/-- The layout of the strides fits the placeholder. -/
theorem StrideUnit.fits {size total : Nat} (unit : StrideUnit is10bit alignment)
    (found : rkSurfacePlaceholderSize width height is10bit = some total)
    (layout : layoutSize is10bit (roundUp alignment width) (roundUp 16 height) = some size) :
    size ≤ total := by
  obtain ⟨-, -, -, same⟩ := layoutSize_some layout
  exact same ▸ rkSurfacePlaceholderSize_some found unit.divides unit.2

end

section

variable {env : CreateEnv} {width height : Int} {fourcc : Fourcc}
  {descriptor : Option VADRMPRIMESurfaceDescriptor} {encoderInput : Bool} {s : RKSurface}

theorem placeholder_some {width height : Nat} {is10bit : Bool} {buffer : MppBuffer}
    (h : placeholder env width height is10bit = some buffer) :
    ∃ size, rkSurfacePlaceholderSize width height is10bit = some size ∧ size ≤ buffer.size := by
  obtain ⟨got, -⟩ := Option.filter_eq_some_iff.mp h
  obtain ⟨size, asked, got⟩ := Option.bind_eq_some_iff.mp got
  exact ⟨size, asked, env.alloc.size_le got⟩

/-- The strides that are not those of an imported image are the size, rounded to units that the
placeholder counts on. -/
theorem initialStrides_rounded {imported : Option Imported}
    (rounded : imported.filter Imported.contiguous = none) (width height : Nat)
    (is10bit encoderInput : Bool) :
    ∃ alignment, StrideUnit is10bit alignment ∧
      initialStrides imported width height is10bit encoderInput =
        (((roundUp alignment width : Nat) : Int), ((roundUp 16 height : Nat) : Int)) := by
  refine ⟨if (imported.isNone && !encoderInput && !is10bit) = true then 64 else 16, ⟨?_, ?_⟩, ?_⟩
  · split
    · exact .inl rfl
    · exact .inr rfl
  · rintro rfl
    rw [Bool.not_true, Bool.and_false]
    rfl
  · simp only [initialStrides, rounded]

/-- The strides of a surface that is not imported, in its placeholder. -/
theorem initialStrides_own (encoderInput : Bool) {width height size : Nat} {is10bit : Bool}
    (wide : 0 < width)
    (narrow : width ≤ 8192) (long : 0 < height) (short : height ≤ 8192)
    (asked : rkSurfacePlaceholderSize width height is10bit = some size) :
    Laid (initialStrides none width height is10bit encoderInput).1
        (initialStrides none width height is10bit encoderInput).2 height (sampleBytes is10bit) size ∧
      (initialStrides none width height is10bit encoderInput).1 *
        (initialStrides none width height is10bit encoderInput).2 *
          (sampleBytes is10bit : Nat) ≤ intMax := by
  obtain ⟨alignment, unit, strides⟩ :=
    @initialStrides_rounded none rfl width height is10bit encoderInput
  obtain ⟨total, layout, small⟩ := unit.layout wide narrow long short
  have room := unit.fits asked layout
  have taller := le_roundUp (show 0 < 16 by omega) height
  obtain ⟨wider, longer, -, same⟩ := layoutSize_some layout
  rw [strides]
  dsimp only
  refine ⟨.of_layoutSize (by omega) (by omega) (by omega) layout room, ?_⟩
  have product : roundUp alignment width * roundUp 16 height * sampleBytes is10bit ≤ intMax := by
    rw [Nat.mul_right_comm]
    omega
  exact_mod_cast product

/-- The strides of a new surface, unless they are those of an imported image, and the layout that
they give the placeholder. -/
theorem createSurface_strides
    (created : createSurface env width height fourcc descriptor encoderInput = some s)
    (rounded : s.imported.filter Imported.contiguous = none) :
    ∃ alignment size, StrideUnit s.is10bit alignment ∧
      s.hstride = (roundUp alignment width.toNat : Nat) ∧
      s.vstride = (roundUp 16 height.toNat : Nat) ∧
      layoutSize s.is10bit (roundUp alignment width.toNat) (roundUp 16 height.toNat) = some size ∧
      size ≤ s.privBuf.size ∧ size ≤ intMax := by
  have c := createSurface_from created
  have wide := c.wide
  have tall := c.tall
  unfold rkMaxSize at wide tall
  obtain ⟨total, asked, room⟩ := placeholder_some c.buffer
  obtain ⟨alignment, unit, strides⟩ := initialStrides_rounded rounded width.toNat height.toNat
    (fourcc == .p010) encoderInput
  obtain ⟨hstrideEq, vstrideEq⟩ := Prod.mk.inj (c.strides.trans strides)
  obtain ⟨size, layout, small⟩ := unit.layout (by omega : 0 < width.toNat) (by omega)
    (by omega : 0 < height.toNat) (by omega)
  have fits := unit.fits asked layout
  rw [← c.depth] at unit layout
  exact ⟨alignment, size, unit, hstrideEq, vstrideEq, layout, fits.trans room, small⟩

theorem initialStrides_contiguous {imported : Imported} {width height : Nat}
    {is10bit encoderInput : Bool} (contiguous : imported.contiguous = true) :
    initialStrides (some imported) width height is10bit encoderInput =
      (toInt (imported.pitch / sampleBytes is10bit : Nat), (height : Int)) := by
  unfold initialStrides
  rw [Option.filter_some, if_pos contiguous]

theorem createSurface_created
    (created : createSurface env width height fourcc descriptor encoderInput = some s) :
    Created s := by
  have c := createSurface_from created
  have wide := c.wide
  have tall := c.tall
  unfold rkMaxSize at wide tall
  obtain ⟨w, rfl⟩ := Int.eq_ofNat_of_zero_le wide.1.le
  obtain ⟨h, rfl⟩ := Int.eq_ofNat_of_zero_le tall.1.le
  obtain ⟨total, asked, room⟩ := placeholder_some c.buffer
  have strides := c.strides
  simp only [Int.toNat_natCast] at asked strides
  refine ⟨c.lines ▸ tall.2, c.empty, c.undecoded.1, c.undecoded.2, c.unexported.2.2, ?_, ?_, ?_⟩
  · intro own
    rw [own] at strides
    obtain ⟨laid, small⟩ :=
      initialStrides_own encoderInput (by omega) (by omega) (by omega) (by omega) asked
    rw [← strides] at laid small
    rw [c.depth, c.lines]
    exact ⟨⟨laid.1, laid.2, laid.3, laid.4.trans room⟩, small⟩
  · intro imported present
    rw [c.depth, c.columns, c.lines]
    cases descriptor with
    | none =>
      rw [c.own rfl] at present
      cases present
    | some d =>
      obtain ⟨found, accepted, same⟩ := c.imports d rfl
      obtain rfl := Option.some.inj (same.symm.trans present)
      exact importSurfaceDescriptor_some accepted
  · intro imported present contiguous
    rw [present, initialStrides_contiguous contiguous] at strides
    rw [c.depth, c.lines]
    exact Prod.mk.inj strides

end

/-! ## Repacked exports -/

/-- The layout of the last repacked picture is no larger than `int`. -/
def RKSurface.CacheSmall (s : RKSurface) : Prop :=
  s.exportFence ≠ 0 → ∀ size,
    layoutSize false s.exportHstride.toNat s.exportVstride.toNat = some size → size ≤ intMax

section

variable {s s' : RKSurface} {env : ExportEnv} {hstride vstride stride : Int} {buffer : MppBuffer}

theorem RKSurface.CacheSmall.replaced (h : s.CacheSmall) {alloc : Allocator} {size : Nat}
    (allocated : exportAllocation s alloc hstride vstride size = some (s', buffer)) :
    s'.CacheSmall := by
  obtain ⟨-, -, -, -, -, -, same | fresh⟩ := exportAllocation_some allocated
  · rw [same]
    exact h
  · exact fun repacked => absurd fresh repacked

/-- A picture is repacked into a buffer with room for it, and the cache is for its layout. -/
theorem repackForExport_ok (small : s.CacheSmall) (begun : s.fence ≠ 0)
    (h : repackForExport s env hstride vstride = (s', .ok (buffer, stride))) :
    s.width ≤ stride ∧ s.height ≤ vstride ∧ s'.CacheSmall ∧
      ∃ size, layoutSize false stride.toNat vstride.toNat = some size ∧ size ≤ buffer.size ∧
        size ≤ intMax := by
  unfold repackForExport at h
  simp only at h
  split at h
  · cases h
  · rename_i size layout
    obtain ⟨⟨wide, tall⟩, layout⟩ := Option.ite_none_right_eq_some.mp layout
    split at h
    · cases h
    · rename_i middle allocatedBuffer allocated
      obtain ⟨same, -, -, exportHstride, exportVstride, room, kept⟩ :=
        exportAllocation_some allocated
      split at h
      · cases h
      · rename_i done
        obtain ⟨rfl, answer⟩ := Prod.mk.inj h
        obtain ⟨rfl, rfl⟩ := Prod.mk.inj (Except.ok.inj answer)
        have fits : size ≤ intMax := by
          by_cases cached : middle.exportFence = middle.fence
          · -- repacked before, under this fence
            have sameFence : middle.fence = s.fence := (congrArg RKSurface.fence same :)
            refine small.replaced allocated (by rw [cached, sameFence]; exact begun) size ?_
            rw [exportHstride, exportVstride]
            exact layout
          · have repacked := eq_true_of_ne_false fun unrepacked => done ⟨cached, unrepacked⟩
            obtain ⟨-, -, -, total, -, same, -, le⟩ := rkRepackNv12_true repacked
            rw [show rkNv12LayoutSize _ _ = some total from same] at layout
            exact Option.some.inj layout ▸ le
        refine ⟨wide, tall, ?_, size, layout, room, fits⟩
        intro _ total same
        rw [exportHstride, exportVstride, show layoutSize false _ _ = _ from layout] at same
        exact Option.some.inj same ▸ fits

theorem repackForExport_cacheSmall (small : s.CacheSmall) (begun : s.fence ≠ 0) :
    (repackForExport s env hstride vstride).1.CacheSmall := by
  cases result : repackForExport s env hstride vstride with
  | mk after answer =>
    cases answer with
    | ok made => exact (repackForExport_ok small begun result).2.2.1
    | error status =>
      unfold repackForExport at result
      simp only at result
      split at result
      · obtain ⟨rfl, -⟩ := Prod.mk.inj result
        exact small
      · split at result
        · obtain ⟨rfl, -⟩ := Prod.mk.inj result
          exact small
        · rename_i allocated
          split at result
          · obtain ⟨rfl, -⟩ := Prod.mk.inj result
            exact small.replaced allocated
          · cases result

end

theorem exportSection_cacheSmall {s : RKSurface} (env : ExportEnv) (small : s.CacheSmall)
    (begun : s.decoded = true → s.fence ≠ 0) : (exportSection s env).1.CacheSmall := by
  have marked : (markStable s).CacheSmall ∧ (markStable s).fence = s.fence := by
    unfold markStable
    split
    · exact ⟨small, rfl⟩
    · exact ⟨small, rfl⟩
  unfold exportSection
  split
  · exact small
  · simp only
    split
    · rename_i repacks
      simp only [RKSurface.needsRepack, Bool.and_eq_true] at repacks
      have after : (repackForExport (markStable s) env s.exportedHstride
          s.exportedVstride).1.CacheSmall :=
        repackForExport_cacheSmall marked.1 (by rw [marked.2]; exact begun repacks.1.1.1)
      split
      · rename_i result
        rw [result] at after
        exact after
      · rename_i result
        rw [result] at after
        exact after
    · exact marked.1

/-! ## The invariant -/

/-- What decides how an image is laid out. -/
def RKSurface.layout (s : RKSurface) : Int × Int × Int × Int × MppFrameFormat :=
  (s.width, s.height, s.hstride, s.vstride, s.fmt)

/-- The strides of a surface on which an output was published. -/
structure Shown (s : RKSurface) (output : FrameOutput) : Prop where
  own : s.imported = none
  positive : 0 < s.hstride ∧ 0 < s.vstride
  tall : s.height ≤ s.vstride
  held : s.holdsPicture = true → ∃ buffer size, s.boundBuffer = some buffer ∧
    layoutSize s.is10bit s.hstride.toNat s.vstride.toNat = some size ∧ size ≤ buffer.size
  copied : output.stableExportCopy = true → ∃ size,
    layoutSize s.is10bit s.hstride.toNat s.vstride.toNat = some size ∧ size ≤ s.privBuf.size

/-- The strides of an output that can be published on a surface. -/
structure ReadyOutput (s : RKSurface) (output : FrameOutput) : Prop where
  positive : 0 < output.hstride ∧ 0 < output.vstride
  tall : (if 0 < output.height then output.height else s.height) ≤ output.vstride
  held : output.stableExportCopy = false → ∃ buffer size, output.boundBuffer = some buffer ∧
    layoutSize output.fmt.is10bit output.hstride.toNat output.vstride.toNat = some size ∧
    size ≤ buffer.size
  copied : output.stableExportCopy = true →
    (output.storedFrame = none ∧ output.backing = none) ∧ ∃ size,
      layoutSize output.fmt.is10bit output.hstride.toNat output.vstride.toNat = some size ∧
      size ≤ s.privBuf.size

def CallFits (s : RKSurface) (fence : Nat) : AssignCall → Prop
  | .measured d g => fence ≠ 0 ∧ (s.fence = fence → g = frameGeometry d.frame s.width s.height)
  | .prepared _ output _ => fence ≠ 0 ∧ (s.fence = fence → ReadyOutput s output)
  | .failing => True

structure InsideInv (s₀ : RKSurface) (st : SurfaceState) : Prop where
  privBuf : st.surface.privBuf = s₀.privBuf
  imported : st.surface.imported = s₀.imported
  idle : st.surface.imported.isSome = true → st.surface.fence = 0
  fresh : st.lastOutput = none → st.surface.holdsPicture = false ∧ st.surface.layout = s₀.layout
  shown : ∀ output, st.lastOutput = some output → Shown st.surface output
  begun : st.surface.decoded = true → st.surface.fence ≠ 0
  cache : st.surface.CacheSmall
  calls : ∀ fence call, st.calls fence = some call → CallFits st.surface fence call

section

variable {s₀ s s' : RKSurface} {st st' : SurfaceState} {fence : Nat} {output : FrameOutput}

theorem layout_eq (h : s'.layout = s.layout) :
    s'.width = s.width ∧ s'.height = s.height ∧ s'.hstride = s.hstride ∧ s'.vstride = s.vstride ∧
      s'.is10bit = s.is10bit := by
  simp only [RKSurface.layout, Prod.mk.injEq] at h
  obtain ⟨width, height, hstride, vstride, fmt⟩ := h
  exact ⟨width, height, hstride, vstride, by rw [RKSurface.is10bit, fmt]; rfl⟩

theorem Shown.keep (h : Shown s output) (imported : s'.imported = s.imported)
    (privBuf : s'.privBuf = s.privBuf) (layout : s'.layout = s.layout)
    (held : s'.holdsPicture = true → s.holdsPicture = true ∧ s'.boundBuffer = s.boundBuffer) :
    Shown s' output := by
  obtain ⟨-, height, hstride, vstride, depth⟩ := layout_eq layout
  refine ⟨imported.trans h.own, ?_, ?_, fun holds => ?_, fun copied => ?_⟩
  · rw [hstride, vstride]
    exact h.positive
  · rw [height, vstride]
    exact h.tall
  · rw [hstride, vstride, depth, (held holds).2]
    exact h.held (held holds).1
  · rw [hstride, vstride, depth, privBuf]
    exact h.copied copied

theorem ReadyOutput.keep (h : ReadyOutput s output) (privBuf : s'.privBuf = s.privBuf)
    (layout : s'.layout = s.layout) : ReadyOutput s' output := by
  refine ⟨h.positive, ?_, h.held, fun copied => ?_⟩
  · rw [(layout_eq layout).2.1]
    exact h.tall
  · rw [privBuf]
    exact h.copied copied

theorem CallFits.keep {call : AssignCall} (h : CallFits s fence call)
    (privBuf : s'.privBuf = s.privBuf) (layout : s'.layout = s.layout)
    (current : s'.fence = fence → s.fence = fence) : CallFits s' fence call := by
  cases call with
  | measured d g =>
    refine ⟨h.1, fun now => ?_⟩
    obtain ⟨width, height, -⟩ := layout_eq layout
    rw [width, height]
    exact h.2 (current now)
  | prepared frame output permanent =>
    exact ⟨h.1, fun now => (h.2 (current now)).keep privBuf layout⟩
  | failing => trivial

/-- A step that leaves the layout alone, and the picture, unless it takes it away. -/
theorem InsideInv.keep (h : InsideInv s₀ st) (privBuf : st'.surface.privBuf = st.surface.privBuf)
    (imported : st'.surface.imported = st.surface.imported)
    (layout : st'.surface.layout = st.surface.layout)
    (held : st'.surface.holdsPicture = true →
      st.surface.holdsPicture = true ∧ st'.surface.boundBuffer = st.surface.boundBuffer)
    (lastOutput : st'.lastOutput = st.lastOutput)
    (idle : st'.surface.imported.isSome = true → st'.surface.fence = 0)
    (begun : st'.surface.decoded = true → st'.surface.fence ≠ 0) (cache : st'.surface.CacheSmall)
    (calls : ∀ fence call, st'.calls fence = some call → CallFits st'.surface fence call) :
    InsideInv s₀ st' where
  privBuf := privBuf.trans h.privBuf
  imported := imported.trans h.imported
  idle := idle
  fresh := by
    intro unshown
    obtain ⟨empty, same⟩ := h.fresh (lastOutput.symm.trans unshown)
    refine ⟨?_, layout.trans same⟩
    by_contra holds
    rw [(held (eq_true_of_ne_false holds)).1] at empty
    cases empty
  shown := fun output last =>
    (h.shown output (lastOutput.symm.trans last)).keep imported privBuf layout held
  begun := begun
  cache := cache
  calls := calls

theorem setAt_fits {calls : Nat → Option AssignCall} {k : Nat} {value : Option AssignCall}
    (h : ∀ fence call, calls fence = some call → CallFits s fence call)
    (new : ∀ call, value = some call → CallFits s k call) :
    ∀ fence call, setAt calls k value fence = some call → CallFits s fence call := by
  intro fence call here
  by_cases same : fence = k
  · subst same
    rw [setAt_self] at here
    exact new call here
  · rw [setAt_ne _ _ same] at here
    exact h fence call here

theorem insideInv_begin (h : InsideInv s₀ st) {ctxId : Nat} {avc : Bool}
    (own : st.surface.imported = none) (fresh : freshFence st (.begin ctxId avc) = true) :
    InsideInv s₀ { st with surface := beginPicture st.surface ctxId avc } := by
  have other : ∀ {fence : Nat} {call : AssignCall}, st.calls fence = some call →
      (beginPicture st.surface ctxId avc).fence = fence → st.surface.fence = fence :=
    freshFence_begin fresh
  rcases beginPicture_cases st.surface ctxId avc with ⟨same, -⟩ | same
  · rw [same] at other ⊢
    refine h.keep rfl rfl rfl (fun holds => ⟨holds, rfl⟩) rfl h.idle (fun shown => by cases shown)
      h.cache fun fence call here => ?_
    exact (h.calls fence call here).keep rfl rfl (other here)
  · rw [same] at other ⊢
    refine h.keep rfl rfl rfl (fun holds => by cases holds) rfl ?_ (fun shown => by cases shown)
      h.cache fun fence call here => ?_
    · intro imported
      rw [show ({ st with surface := _ } : SurfaceState).surface.imported = none from own] at imported
      cases imported
    · exact (h.calls fence call here).keep rfl rfl (other here)

/-- A step that writes no more of the surface than a verdict. -/
theorem InsideInv.settled (h : InsideInv s₀ st) {decoded decodeFailed pending : Bool}
    (surface : st'.surface = st.surface.settle decoded decodeFailed pending)
    (shown : decoded = true → st.surface.decoded = true ∨ st.surface.fence ≠ 0)
    (lastOutput : st'.lastOutput = st.lastOutput)
    (calls : ∀ fence call, st'.calls fence = some call → CallFits st.surface fence call) :
    InsideInv s₀ st' := by
  refine h.keep ?_ ?_ ?_ ?_ lastOutput ?_ ?_ ?_ fun fence call here => ?_
  · rw [surface]
    rfl
  · rw [surface]
    rfl
  · rw [surface]
    rfl
  · rw [surface]
    exact fun holds => ⟨holds, rfl⟩
  · rw [surface]
    exact h.idle
  · rw [surface]
    exact fun decoded' => (shown decoded').elim h.begun id
  · rw [surface]
    exact h.cache
  · rw [surface]
    exact (calls fence call here).keep rfl rfl id

theorem prepare_ready {d : Delivery} {env : AssignEnv} {g : FrameGeometry}
    (prepared : prepare d env fence g s = some output)
    (geometry : g = frameGeometry d.frame s.width s.height) : ReadyOutput s output := by
  have srcSize : g.srcSize = (d.frame.buffer.map MppBuffer.size).getD 0 := by
    rw [geometry]
    rfl
  have frameH : g.frameH = if 0 < d.frame.height then d.frame.height else s.height := by
    rw [geometry]
    rfl
  cases copy : output.stableExportCopy with
  | false =>
    obtain ⟨out, -⟩ := prepare_uncopied prepared copy srcSize
    obtain ⟨buffer, size, bound, layout, room⟩ := out.room
    obtain ⟨wide, long, -⟩ := layoutSize_some layout
    refine ⟨⟨by omega, by omega⟩, ?_, fun _ => ⟨buffer, size, bound, layout, room⟩, fun h => ?_⟩
    · rw [out.height, ← frameH]
      exact out.tall
    · rw [copy] at h
      cases h
  | true =>
    obtain ⟨-, -, height, storedFrame, backing, hstride, vstride, positive, tall, room⟩ :=
      (prepare_copied prepared).2 copy
    refine ⟨?_, ?_, fun h => ?_, fun _ => ⟨⟨storedFrame, backing⟩, ?_⟩⟩
    · rw [hstride, vstride]
      exact positive
    · rw [height, ← frameH, vstride]
      omega
    · rw [copy] at h
      cases h
    · rw [hstride, vstride]
      exact room

theorem insideInv_prepare (h : InsideInv s₀ st) {d : Delivery} {g : FrameGeometry}
    {env : AssignEnv} (call : st.calls fence = some (.measured d g))
    (prepared : prepare d env fence g st.surface = some output) :
    InsideInv s₀
      { st with
        calls := setAt st.calls fence (some (.prepared d.frame output st.surface.stableExport))
        pixels := if output.stableExportCopy then some d.frame else st.pixels } := by
  refine h.keep rfl rfl rfl (fun holds => ⟨holds, rfl⟩) rfl h.idle h.begun h.cache ?_
  refine setAt_fits h.calls fun call' same => ?_
  obtain rfl := Option.some.inj same
  obtain ⟨issued, geometry⟩ := h.calls fence _ call
  exact ⟨issued, fun current => prepare_ready prepared (geometry current)⟩

theorem publish_shown (ready : ReadyOutput s output) (own : s.imported = none) :
    Shown (publish s output) output := by
  have hstride : (publish s output).hstride = output.hstride := if_pos ready.positive.1
  have vstride : (publish s output).vstride = output.vstride := if_pos ready.positive.2
  have depth : (publish s output).is10bit = output.fmt.is10bit := rfl
  refine ⟨own, ?_, ?_, fun holds => ?_, fun copied => ?_⟩
  · rw [hstride, vstride]
    exact ready.positive
  · rw [vstride]
    exact ready.tall
  · rw [hstride, vstride, depth, publish_boundBuffer]
    cases copy : output.stableExportCopy with
    | false => exact ready.held copy
    | true =>
      obtain ⟨⟨storedFrame, backing⟩, -⟩ := ready.copied copy
      simp [RKSurface.holdsPicture, publish, storedFrame, backing] at holds
  · rw [hstride, vstride, depth]
    exact (ready.copied copied).2

theorem insideInv_publish (h : InsideInv s₀ st) {frame : MppFrame} {permanent : Bool}
    (call : st.calls fence = some (.prepared frame output permanent))
    (current : st.surface.fence = fence) :
    InsideInv s₀
      { st with
        surface := publish st.surface output
        calls := setAt st.calls fence none
        lastOutput := some output } := by
  obtain ⟨issued, ready⟩ := h.calls fence _ call
  have own : st.surface.imported = none := by
    by_contra imported
    rw [h.idle (Option.isSome_iff_ne_none.mpr imported)] at current
    exact issued current.symm
  refine ⟨h.privBuf, h.imported, fun imported => ?_, fun unshown => (by cases unshown), ?_, ?_,
    h.cache, ?_⟩
  · rw [show (publish st.surface output).imported = none from own] at imported
    cases imported
  · intro output' last
    obtain rfl := Option.some.inj last
    exact publish_shown (ready current) own
  · intro _
    exact current ▸ issued
  · -- only the call that published has the current fence
    intro fence' call' here
    have others : setAt st.calls fence none fence' = some call' := here
    by_cases same : fence' = fence
    · subst same
      rw [setAt_self] at others
      cases others
    · rw [setAt_ne _ _ same] at others
      have before := h.calls fence' call' others
      have never : ¬ (publish st.surface output).fence = fence' := fun now =>
        same (now.symm.trans current)
      cases call' with
      | measured d g => exact ⟨before.1, fun now => absurd now never⟩
      | prepared frame' output' permanent' => exact ⟨before.1, fun now => absurd now never⟩
      | failing => trivial

theorem insideInv_export (h : InsideInv s₀ st) (thread : Nat) (env : ExportEnv) (composed : Bool) :
    InsideInv s₀ (st.exportBuffer thread env composed) := by
  have same := (exportSection_decoding st.surface env).1
  have privBuf : (exportSection st.surface env).1.privBuf = st.surface.privBuf :=
    (congrArg RKSurface.privBuf same :)
  have imported : (exportSection st.surface env).1.imported = st.surface.imported :=
    (congrArg RKSurface.imported same :)
  have layout : (exportSection st.surface env).1.layout = st.surface.layout :=
    (congrArg RKSurface.layout same :)
  have fence : (exportSection st.surface env).1.fence = st.surface.fence :=
    (congrArg RKSurface.fence same :)
  have decoded : (exportSection st.surface env).1.decoded = st.surface.decoded :=
    (congrArg RKSurface.decoded same :)
  have holds : (exportSection st.surface env).1.holdsPicture = st.surface.holdsPicture :=
    (congrArg RKSurface.holdsPicture same :)
  have bound : (exportSection st.surface env).1.boundBuffer = st.surface.boundBuffer :=
    (congrArg RKSurface.boundBuffer same :)
  refine h.keep privBuf imported layout (fun held => ⟨holds.symm.trans held, bound⟩) rfl ?_ ?_
    (exportSection_cacheSmall env h.cache h.begun) fun fence' call here => ?_
  · intro present
    exact fence.trans (h.idle (by rw [← imported]; exact present))
  · intro shown
    show (exportSection st.surface env).1.fence ≠ 0
    rw [fence]
    exact h.begun (decoded.symm.trans shown)
  · exact (h.calls fence' call here).keep privBuf layout fun now => fence.symm.trans now

theorem insideInv_step (h : InsideInv s₀ st) {a : SurfaceAction} (fresh : freshFence st a = true)
    (move : SurfaceMove st a st') : InsideInv s₀ st' := by
  cases move with
  | begin own issued => exact insideInv_begin h own fresh
  | settle kind shown => exact h.settled rfl shown rfl h.calls
  | idle kind =>
    exact h.keep rfl rfl rfl (fun holds => ⟨holds, rfl⟩) rfl h.idle h.begun h.cache h.calls
  | measure current issued =>
    refine h.keep rfl rfl rfl (fun holds => ⟨holds, rfl⟩) rfl h.idle h.begun h.cache ?_
    refine setAt_fits h.calls fun call same => ?_
    obtain rfl := Option.some.inj same
    exact ⟨issued, fun _ => rfl⟩
  | giveUp call_none kind kept =>
    refine h.keep rfl rfl rfl (fun holds => ⟨holds, rfl⟩) rfl h.idle h.begun h.cache ?_
    refine setAt_fits h.calls fun call same => ?_
    rcases call_none with rfl | rfl
    · cases same
    · obtain rfl := Option.some.inj same
      trivial
  | prepare call prepared => exact insideInv_prepare h call prepared
  | failed call =>
    obtain ⟨decoded, failed, pending, same, shown⟩ :=
      completeSurfaceRef_settle st.surface _ false
    refine h.settled same (fun settled => ?_) rfl (setAt_fits h.calls fun _ same => by cases same)
    rcases shown settled with before | ⟨-, impossible⟩
    · exact .inl before
    · cases impossible
  | publish call current => exact insideInv_publish h call current
  | exported => exact insideInv_export h _ _ _

end

/-! ## What an export returns -/

/-- The bytes from the first row of a surface's image to the last row of its chroma. -/
def RKSurface.span (s : RKSurface) : Nat :=
  s.hstride.toNat * sampleBytes s.is10bit * (s.vstride.toNat + s.height.toNat / 2)

/-- The products of the strides do not exceed `int`. -/
def RKSurface.productFits (s : RKSurface) : Bool :=
  decide (s.hstride * s.vstride * (sampleBytes s.is10bit : Nat) ≤ intMax)

/-- An export that does not repack the picture, of an object whose size is a `uint32_t`: the
luma of an imported image in one object does not exceed `int`, and neither do the strides that a
frame has left. Where the picture of the frame is gone and was not copied, the placeholder has room
for it. -/
def staysInside (st : SurfaceState) : SurfaceAction → Bool
  | .exportBuffer _ _ _ =>
    st.surface.needsRepack ||
      st.surface.activeBuffer.any (fun buffer => decide (uint32Max < buffer.size)) ||
      match st.surface.imported, st.lastOutput with
      | some imported, _ =>
        !imported.contiguous || decide (imported.pitch * st.surface.height.toNat ≤ intMax)
      | none, none => true
      | none, some output =>
        st.surface.productFits && (st.surface.holdsPicture || output.stableExportCopy ||
          decide (st.surface.span ≤ st.surface.privBuf.size))
  | a => freshFence st a

section

variable {s s₀ : RKSurface} {st : SurfaceState} {env : ExportEnv} {composed : Bool}
  {d : VADRMPRIMESurfaceDescriptor}

theorem exportSection_ok {e : Exportable} (h : (exportSection s env).2 = .ok e) :
    (∃ imported, s.imported = some imported ∧ imported.multiplane = true ∧
      e = .multiplane imported s.is10bit s.width s.height) ∨
    (∀ imported, s.imported = some imported → imported.multiplane = false) ∧
      ((s.needsRepack = true ∧ ∃ s' buffer stride,
          repackForExport (markStable s) env s.exportedHstride s.exportedVstride =
            (s', .ok (buffer, stride)) ∧ e = .single (exportLocals s (some buffer) stride)) ∨
        s.needsRepack = false ∧ e = .single (exportLocals s s.activeBuffer s.exportedHstride)) := by
  unfold exportSection at h
  split at h
  · rename_i imported two
    obtain ⟨present, multiplane⟩ := Option.filter_eq_some_iff.mp two
    exact .inl ⟨imported, present, multiplane, (Except.ok.inj h).symm⟩
  · rename_i one
    refine .inr ⟨fun imported present => ?_, ?_⟩
    · rw [present, Option.filter_eq_none_iff] at one
      exact eq_false_of_ne_true (one imported rfl)
    · simp only at h
      split at h
      · rename_i repacks
        split at h
        · cases h
        · rename_i s' buffer stride result
          exact .inl ⟨repacks, s', buffer, stride, result, (Except.ok.inj h).symm⟩
      · rename_i plain
        exact .inr ⟨eq_false_of_ne_true plain, (Except.ok.inj h).symm⟩

theorem describe_single {dups : Bool} {l : ExportLocals}
    (h : describe dups composed (.single l) = .ok d) :
    l.objectSize ≤ uint32Max ∧ d = singleDescriptor l composed := by
  unfold describe at h
  simp only at h
  split at h
  · cases h
  · rename_i valid
    simp only [not_or, Nat.not_lt] at valid
    split at h
    · cases h
    · exact ⟨valid.2.2, (Except.ok.inj h).symm⟩

/-- The planes of an image in two imported objects. -/
theorem multiplaneDescriptor_inside {imported : Imported} {is10bit : Bool} {width height : Int}
    (fits : ImportFits width.toNat height.toNat is10bit imported) (two : imported.multiplane = true)
    (pos : 0 < height) (short : height ≤ rkMaxSize) :
    (multiplaneDescriptor imported is10bit width height composed).Inside := by
  have rows : (multiplaneDescriptor imported is10bit width height composed).height =
      height.toNat := by
    unfold rkMaxSize at short
    show toUint32 height = height.toNat
    unfold toUint32
    omega
  have regions : (multiplaneDescriptor imported is10bit width height composed).regions =
      [(0, ⟨0, imported.pitch, height.toNat⟩),
        (1, ⟨0, imported.chromaPitch, height.toNat / 2⟩)] := by
    rw [VADRMPRIMESurfaceDescriptor.regions, rows, VADRMPRIMESurfaceDescriptor.planes,
      multiplaneDescriptor, imageLayers_planes]
    rfl
  refine ⟨?_, ?_⟩
  · intro region mem
    have either : region = (0, ⟨0, imported.pitch, height.toNat⟩) ∨
        region = (1, ⟨0, imported.chromaPitch, height.toNat / 2⟩) := by
      simpa [regions] using mem
    rcases either with rfl | rfl
    · refine ⟨⟨imported.fd, imported.size, true⟩, rfl, ?_⟩
      unfold Plane.Inside Plane.stop
      rw [Nat.zero_add]
      exact fits.luma
    · refine ⟨⟨imported.chromaFd, imported.chromaSize, true⟩, rfl, ?_⟩
      unfold Plane.Inside Plane.stop
      rw [Nat.zero_add]
      exact fits.multiplane two
  · rw [regions]
    simp

/-- The plane of an imported RGB image. -/
theorem rgbDescriptor_inside {l : ExportLocals} {imported : Imported}
    (rgb : l.importedRgb = some imported) (pos : 0 < l.height) (short : l.height ≤ rkMaxSize)
    (room : imported.pitch * l.height.toNat ≤ l.objectSize) :
    (singleDescriptor l composed).Inside := by
  have rows : toUint32 l.height = l.height.toNat := by
    unfold rkMaxSize at short
    unfold toUint32
    omega
  have regions : (singleDescriptor l composed).regions =
      [(0, ⟨0, imported.pitch, l.height.toNat⟩)] := by
    unfold singleDescriptor
    rw [rgb]
    simp only [VADRMPRIMESurfaceDescriptor.regions, VADRMPRIMESurfaceDescriptor.planes, rows]
    rfl
  have objects : (singleDescriptor l composed).objects = [⟨l.fd, l.objectSize, true⟩] := by
    unfold singleDescriptor
    rw [rgb]
  refine ⟨?_, ?_⟩
  · intro region mem
    obtain rfl : region = (0, ⟨0, imported.pitch, l.height.toNat⟩) := by simpa [regions] using mem
    refine ⟨⟨l.fd, l.objectSize, true⟩, by rw [objects]; rfl, ?_⟩
    unfold Plane.Inside Plane.stop
    rw [Nat.zero_add]
    exact room
  · rw [regions]
    simp

theorem exportedHstride_pos (pos : 0 < s.hstride) : s.exportedHstride = s.hstride :=
  if_neg pos.ne'

theorem exportedVstride_pos (pos : 0 < s.vstride) : s.exportedVstride = s.vstride :=
  if_neg pos.ne'

/-- The descriptor of the surface's own strides. -/
theorem ownStrides_inside {buffer : MppBuffer} (plain : s.imported.filter Imported.rgb = none)
    (laid : Laid s.hstride s.vstride s.height (sampleBytes s.is10bit) buffer.size)
    (small : s.hstride * s.vstride * (sampleBytes s.is10bit : Nat) ≤ intMax) :
    (singleDescriptor (exportLocals s (some buffer) s.exportedHstride) composed).Inside ∧
      (exportLocals s (some buffer) s.exportedHstride).Exact
        (singleDescriptor (exportLocals s (some buffer) s.exportedHstride) composed) := by
  have hstride := exportedHstride_pos laid.hstride_pos
  have vstride := exportedVstride_pos laid.vstride_pos
  refine singleDescriptor_inside plain s.height_pos.le ?_ ?_
  · show Laid s.exportedHstride s.exportedVstride _ _ _
    rw [hstride, vstride]
    exact laid
  · show s.exportedHstride * s.exportedVstride * _ ≤ _
    rw [hstride, vstride]
    exact small

/-- The strides of an image that was imported in one object. -/
theorem contiguous_laid {imported : Imported}
    (fits : ImportFits s.width.toNat s.height.toNat s.is10bit imported)
    (contiguous : imported.contiguous = true)
    (strides : s.hstride = toInt (imported.pitch / sampleBytes s.is10bit : Nat) ∧
      s.vstride = s.height) (small : imported.pitch * s.height.toNat ≤ intMax) :
    Laid s.hstride s.vstride s.height (sampleBytes s.is10bit) imported.buf.size ∧
      s.hstride * s.vstride * (sampleBytes s.is10bit : Nat) ≤ intMax := by
  obtain ⟨multiple, wide, room⟩ := fits.contiguous contiguous
  have widthPos := s.width_pos
  have heightPos := s.height_pos
  obtain ⟨height, heightEq⟩ := Int.eq_ofNat_of_zero_le heightPos.le
  rw [heightEq, Int.toNat_natCast] at small room
  generalize bytesEq : sampleBytes s.is10bit = bytes at *
  obtain ⟨stride, pitchEq⟩ := Nat.dvd_of_mod_eq_zero multiple
  have bytesPos : 0 < bytes := bytesEq ▸ sampleBytes_pos s.is10bit
  have quotient : imported.pitch / bytes = stride := by
    rw [pitchEq, Nat.mul_div_cancel_left _ bytesPos]
  rw [quotient] at wide strides
  have tall : 0 < height := by omega
  have pitchSmall : imported.pitch ≤ intMax := (Nat.le_mul_of_pos_right _ tall).trans small
  have strideSmall : stride ≤ intMax := by
    rw [pitchEq] at pitchSmall
    exact (Nat.le_mul_of_pos_left _ bytesPos).trans pitchSmall
  have hstride : s.hstride = stride := by
    rw [strides.1]
    unfold toInt
    unfold intMax at strideSmall
    exact Int.bmod_eq_of_le (by omega) (by omega)
  rw [hstride, strides.2, heightEq]
  refine ⟨⟨by omega, by omega, le_rfl, ?_⟩, ?_⟩
  · simp only [Int.toNat_natCast]
    rw [Nat.mul_add, fits.object, Nat.mul_comm stride bytes, ← pitchEq]
    exact room
  · have product : stride * height * bytes ≤ intMax := by
      rw [Nat.mul_right_comm, Nat.mul_comm stride bytes, ← pitchEq]
      exact small
    exact_mod_cast product

/-- An imported surface keeps the layout it was created with. -/
theorem InsideInv.importFits (h : InsideInv s₀ st) (created : Created s₀) {imported : Imported}
    (present : st.surface.imported = some imported) :
    ImportFits st.surface.width.toNat st.surface.height.toNat st.surface.is10bit imported ∧
      st.surface.height ≤ rkMaxSize ∧
      (imported.contiguous = true →
        st.surface.hstride = toInt (imported.pitch / sampleBytes st.surface.is10bit : Nat) ∧
          st.surface.vstride = st.surface.height) := by
  have first : s₀.imported = some imported := h.imported.symm.trans present
  have unshown : st.lastOutput = none := by
    by_contra shown
    obtain ⟨output, last⟩ := Option.ne_none_iff_exists'.mp shown
    have own := (h.shown output last).own
    rw [present] at own
    cases own
  obtain ⟨width, height, hstride, vstride, depth⟩ := layout_eq (h.fresh unshown).2
  rw [width, height, hstride, vstride, depth]
  exact ⟨created.fits imported first, created.height, created.strides imported first⟩

/-- The image of a surface that is not imported, in the buffer that is exported as it is. -/
theorem InsideInv.ownLaid (h : InsideInv s₀ st) (created : Created s₀)
    (own : st.surface.imported = none) (small : ∀ output, st.lastOutput = some output →
      st.surface.productFits = true ∧ (st.surface.holdsPicture = true ∨
        output.stableExportCopy = true ∨ st.surface.span ≤ st.surface.privBuf.size)) :
    ∃ buffer, st.surface.activeBuffer = some buffer ∧
      Laid st.surface.hstride st.surface.vstride st.surface.height
        (sampleBytes st.surface.is10bit) buffer.size ∧
      st.surface.hstride * st.surface.vstride * (sampleBytes st.surface.is10bit : Nat) ≤ intMax := by
  have active : st.surface.activeBuffer =
      if st.surface.holdsPicture then st.surface.boundBuffer else some st.surface.privBuf := by
    rw [RKSurface.activeBuffer, own]
  cases last : st.lastOutput with
  | none =>
    obtain ⟨empty, same⟩ := h.fresh last
    obtain ⟨-, height, hstride, vstride, depth⟩ := layout_eq same
    obtain ⟨laid, product⟩ := created.own (h.imported.symm.trans own)
    refine ⟨st.surface.privBuf, by rw [active, empty]; rfl, ?_⟩
    rw [height, hstride, vstride, depth, h.privBuf]
    exact ⟨laid, product⟩
  | some output =>
    have shown := h.shown output last
    obtain ⟨fits, room⟩ := small output last
    have product := of_decide_eq_true fits
    cases holds : st.surface.holdsPicture with
    | true =>
      obtain ⟨buffer, size, bound, layout, le⟩ := shown.held holds
      refine ⟨buffer, by rw [active, holds]; exact bound, ?_, product⟩
      exact .of_layoutSize shown.positive.1 shown.positive.2 shown.tall layout le
    | false =>
      refine ⟨st.surface.privBuf, by rw [active, holds]; rfl, ?_, product⟩
      rcases room with holds' | copied | span
      · rw [holds] at holds'
        cases holds'
      · obtain ⟨size, layout, le⟩ := shown.copied copied
        exact .of_layoutSize shown.positive.1 shown.positive.2 shown.tall layout le
      · exact ⟨shown.positive.1, shown.positive.2, shown.tall, span⟩

/-- A repacked picture lies in its buffer. -/
theorem repacked_inside {s' : RKSurface} {buffer : MppBuffer} {stride : Int}
    (small : s.CacheSmall) (begun : s.decoded = true → s.fence ≠ 0) (repacks : s.needsRepack = true)
    (result : repackForExport (markStable s) env s.exportedHstride s.exportedVstride =
      (s', .ok (buffer, stride))) :
    (singleDescriptor (exportLocals s (some buffer) stride) composed).Inside ∧
      (exportLocals s (some buffer) stride).Exact
        (singleDescriptor (exportLocals s (some buffer) stride) composed) := by
  simp only [RKSurface.needsRepack, Bool.and_eq_true, Bool.not_eq_true',
    Option.isNone_iff_eq_none] at repacks
  obtain ⟨⟨⟨decoded, own⟩, depth⟩, -⟩ := repacks
  have unmarked : markStable s = s := by
    unfold markStable
    rw [RKSurface.isPlaceholder, decoded]
    rfl
  rw [unmarked] at result
  obtain ⟨wide, tall, -, size, layout, room, le⟩ := repackForExport_ok small (begun decoded) result
  have widthPos := s.width_pos
  have heightPos := s.height_pos
  have stridePos : 0 < stride := by omega
  have rowsPos : 0 < s.exportedVstride := by omega
  have bytes : (exportLocals s (some buffer) stride).is10bit = false := depth
  refine singleDescriptor_inside ?_ heightPos.le ?_ ?_
  · show s.imported.filter Imported.rgb = none
    rw [own]
    rfl
  · rw [bytes]
    exact .of_layoutSize stridePos rowsPos tall layout room
  · obtain ⟨-, -, -, total⟩ := layoutSize_some layout
    rw [bytes]
    show stride * s.exportedVstride * ((sampleBytes false : Nat) : Int) ≤ intMax
    obtain ⟨hstride, strideEq⟩ := Int.eq_ofNat_of_zero_le stridePos.le
    obtain ⟨vstride, rowsEq⟩ := Int.eq_ofNat_of_zero_le rowsPos.le
    rw [strideEq, rowsEq] at total ⊢
    simp only [Int.toNat_natCast, sampleBytes, Bool.false_eq_true, if_false, Nat.mul_one] at total ⊢
    have product : hstride * vstride ≤ intMax := by omega
    exact_mod_cast (Nat.mul_one (hstride * vstride)).symm ▸ product

theorem staysInside_export {thread : Nat}
    (ok : staysInside st (.exportBuffer thread env composed) = true)
    (plain : st.surface.needsRepack = false)
    (small : (st.surface.activeBuffer.map MppBuffer.size).getD 0 ≤ uint32Max) :
    (∀ imported, st.surface.imported = some imported → imported.contiguous = true →
      imported.pitch * st.surface.height.toNat ≤ intMax) ∧
    (st.surface.imported = none → ∀ output, st.lastOutput = some output →
      st.surface.productFits = true ∧ (st.surface.holdsPicture = true ∨
        output.stableExportCopy = true ∨ st.surface.span ≤ st.surface.privBuf.size)) := by
  have counted : st.surface.activeBuffer.any
      (fun buffer => decide (uint32Max < buffer.size)) = false := by
    cases active : st.surface.activeBuffer with
    | none => rfl
    | some buffer =>
      rw [active] at small
      exact decide_eq_false (Nat.not_lt.mpr small)
  simp only [staysInside, plain, counted, Bool.false_or] at ok
  constructor
  · intro imported present contiguous
    rw [present] at ok
    simpa [contiguous] using ok
  · intro own output last
    rw [own, last] at ok
    simpa [or_assoc] using ok

theorem export_inside_step (created : Created s₀) (h : InsideInv s₀ st) {thread : Nat}
    (ok : staysInside st (.exportBuffer thread env composed) = true)
    (result : exportResult st.surface env composed = .ok d) :
    d.Inside ∧ ∀ locals, (exportSection st.surface env).2 = .ok (.single locals) →
      locals.importedRgb = none → locals.Exact d := by
  unfold exportResult at result
  cases found : (exportSection st.surface env).2 with
  | error status =>
    rw [found] at result
    cases result
  | ok e =>
    rw [found] at result
    have described : describe env.dups composed e = .ok d := result
    rcases exportSection_ok found with ⟨imported, present, two, rfl⟩ |
      ⟨one, ⟨repacks, s', buffer, stride, repacked, rfl⟩ | ⟨plain, rfl⟩⟩
    · obtain ⟨fits, short, -⟩ := h.importFits created present
      refine ⟨?_, fun locals other => by cases other⟩
      unfold describe at described
      simp only at described
      split at described
      · cases described
      · obtain rfl := Except.ok.inj described
        exact multiplaneDescriptor_inside fits two st.surface.height_pos short
    · obtain ⟨-, rfl⟩ := describe_single described
      obtain ⟨inside, exact⟩ := repacked_inside h.cache h.begun repacks repacked
      refine ⟨inside, fun locals same _ => ?_⟩
      obtain rfl := Exportable.single.inj (Except.ok.inj same)
      exact exact
    · obtain ⟨small, rfl⟩ := describe_single described
      obtain ⟨ofImport, ofOutput⟩ := staysInside_export ok plain small
      cases present : st.surface.imported with
      | none =>
        obtain ⟨buffer, active, laid, product⟩ := h.ownLaid created present (ofOutput present)
        have noRgb : st.surface.imported.filter Imported.rgb = none := by
          rw [present]
          rfl
        rw [active]
        obtain ⟨inside, exact⟩ := ownStrides_inside noRgb laid product
        refine ⟨inside, fun locals same _ => ?_⟩
        obtain rfl := Exportable.single.inj (Except.ok.inj same)
        exact exact
      | some imported =>
        obtain ⟨fits, short, strides⟩ := h.importFits created present
        have active : st.surface.activeBuffer = some imported.buf := by
          rw [RKSurface.activeBuffer, present]
        rw [active]
        cases rgb : imported.rgb with
        | true =>
          have isRgb : st.surface.imported.filter Imported.rgb = some imported := by
            rw [present, Option.filter_some, if_pos rgb]
          refine ⟨rgbDescriptor_inside isRgb st.surface.height_pos short ?_,
            fun locals same noRgb => ?_⟩
          · exact fits.luma.trans fits.object.ge
          · obtain rfl := Exportable.single.inj (Except.ok.inj same)
            rw [show st.surface.imported.filter Imported.rgb = none from noRgb] at isRgb
            cases isRgb
        | false =>
          have contiguous : imported.contiguous = true := by
            rw [Imported.contiguous, rgb, one imported present]
            rfl
          have noRgb : st.surface.imported.filter Imported.rgb = none := by
            rw [present, Option.filter_some, if_neg (by rw [rgb]; exact Bool.false_ne_true)]
          obtain ⟨laid, product⟩ := contiguous_laid fits contiguous (strides contiguous)
            (ofImport imported present contiguous)
          obtain ⟨inside, exact⟩ := ownStrides_inside noRgb laid product
          refine ⟨inside, fun locals same _ => ?_⟩
          obtain rfl := Exportable.single.inj (Except.ok.inj same)
          exact exact

end

/-! ## Whole runs -/

open Transition

theorem insideInv_init {s : RKSurface} (created : Created s) : InsideInv s (.init s) where
  privBuf := rfl
  imported := rfl
  idle := fun _ => created.unbegun
  fresh := fun _ => ⟨created.empty, rfl⟩
  shown := fun _ last => by cases last
  begun := fun decoded => absurd (created.undecoded.symm.trans decoded) Bool.false_ne_true
  cache := fun repacked => absurd created.unexported repacked
  calls := fun _ _ call => by cases call

theorem staysInside_fresh {st : SurfaceState} {a : SurfaceAction} (ok : staysInside st a = true) :
    freshFence st a = true := by
  cases a with
  | exportBuffer thread env composed => rfl
  | _ => exact ok

/-- Whatever was created or imported, and whatever pictures were begun, shown, completed without a
frame and failed since: the planes of a descriptor that an export returns lie in their objects and
apart from each other, and the offsets are the products of the strides. -/
theorem export_inside {env : CreateEnv} {width height : Int} {fourcc : Fourcc}
    {descriptor : Option VADRMPRIMESurfaceDescriptor} {encoderInput composed : Bool}
    {s : RKSurface} {as : List SurfaceAction} {thread : Nat} {exportEnv : ExportEnv}
    {st : SurfaceState} {d : VADRMPRIMESurfaceDescriptor}
    (created : createSurface env width height fourcc descriptor encoderInput = some s)
    (hrun : run surfaceStep (.init s) as = some st)
    (meets : Throughout surfaceStep (fun st a => staysInside st a = true) (.init s)
      (as ++ [.exportBuffer thread exportEnv composed]))
    (result : exportResult st.surface exportEnv composed = .ok d) :
    d.Inside ∧ ∀ locals, (exportSection st.surface exportEnv).2 = .ok (.single locals) →
      locals.importedRgb = none → locals.Exact d := by
  have new := createSurface_created created
  have inv : InsideInv s st :=
    run_invariant (fun _ _ _ inv ok step =>
      insideInv_step inv (staysInside_fresh ok) (surfaceStep_move step)) as _ _
      (insideInv_init new) meets.front hrun
  exact export_inside_step new inv (meets.rest hrun).1 result

/-! ## A placeholder that is too small -/

/-- A frame is shown on the surface and exported. -/
def shownRun : List SurfaceAction :=
  [.begin 1 false, .arrive 1 (strideDelivery 1920), .prepare 1 plainEnv, .finish 1, .exportCheck 0]

theorem export_inside_shown :
    ∃ s st d, createdSurface = some s ∧ run surfaceStep (.init s) shownRun = some st ∧
      exportResult st.surface availableExport false = .ok d ∧ d.Inside := by
  obtain ⟨s, st, d, created, hrun, result, inside⟩ : ∃ s st d, createdSurface = some s ∧
      run surfaceStep (.init s) shownRun = some st ∧
      exportResult st.surface availableExport false = .ok d ∧
      check surfaceStep staysInside (.init s)
        (shownRun ++ [.exportBuffer 0 availableExport false]) = true :=
    ⟨_, _, _, rfl, rfl, rfl, rfl⟩
  exact ⟨s, st, d, created, hrun, result,
    (export_inside created hrun (throughout_of_check inside) result).1⟩

/-- The next picture on the surface has no frame of its own. -/
def hiddenRun : List SurfaceAction :=
  [.begin 1 false, .arrive 1 (strideDelivery 1920), .prepare 1 plainEnv, .finish 1,
    .begin 1 false, .complete 2 true, .exportCheck 0]

/-- The strides of a picture that is gone, in a placeholder for 64x64. -/
theorem hiddenPicture_outside :
    ∃ s st d, createSurface plainCreate 64 64 .nv12 none false = some s ∧
      run surfaceStep (.init s) hiddenRun = some st ∧
      exportResult st.surface availableExport false = .ok d ∧ ¬ d.Inside := by
  obtain ⟨s, st, d, created, hrun, result, objects, regions⟩ : ∃ s st d,
      createSurface plainCreate 64 64 .nv12 none false = some s ∧
      run surfaceStep (.init s) hiddenRun = some st ∧
      exportResult st.surface availableExport false = .ok d ∧ d.objects = [⟨10, 32768, true⟩] ∧
      d.regions = [(0, ⟨0, 1920, 1080⟩), (0, ⟨2088960, 1920, 540⟩)] :=
    ⟨_, _, _, rfl, rfl, rfl, rfl, rfl⟩
  refine ⟨s, st, d, created, hrun, result, fun inside => ?_⟩
  obtain ⟨object, found, room⟩ := inside.planes (0, ⟨2088960, 1920, 540⟩) (by rw [regions]; simp)
  rw [objects] at found
  obtain rfl := Option.some.inj found
  exact absurd room (by decide)

end RockchipVaapi.Surface
