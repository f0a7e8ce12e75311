import RockchipVaapi.Surface.Assign
import RockchipVaapi.Surface.Derived
import RockchipVaapi.Surface.ImageRoundTrip

/-!
# What a placeholder is good for

`rk_surface_placeholder_size` rounds the size of a surface one way, to an odd multiple of 256 by a
multiple of 64, and `create_surfaces` rounds it another way for the strides. The placeholder has
room for an image of these strides all the same, so a derived image, an upload and a copy into
permanent storage find nothing wrong with it.
-/

namespace RockchipVaapi.Surface

/-! ## Sizes that are there -/

section

variable {is10bit : Bool} {stride vstride width height alignment size : Nat}

theorem alignUp_small (pos : 0 < alignment) (small : alignment ≤ 256) (le : width ≤ 8192) :
    alignUp width alignment = some (roundUp alignment width) := by
  have limit : sizeMax = 18446744073709551615 := rfl
  unfold alignUp
  rw [if_neg (by omega)]

theorem rkSurfaceBufferSize_small (wide : 0 < width) (narrow : width ≤ 8192) (tall : 0 < height)
    (short : height ≤ 8192) : ∃ size, rkSurfaceBufferSize width height = some size := by
  have limit : sizeMax = 18446744073709551615 := rfl
  have columns := roundUp_lt (show 0 < 256 by decide) width
  have rows := roundUp_lt (show 0 < 64 by decide) height
  have someRows := le_roundUp (show 0 < 64 by decide) height
  have stride : roundUp 256 width ||| 256 < 2 ^ 14 :=
    Nat.or_lt_two_pow (by omega) (by decide)
  have luma : (roundUp 256 width ||| 256) * roundUp 64 height ≤ 2 ^ 14 * 8256 :=
    Nat.mul_le_mul stride.le (by omega)
  have fits : ¬sizeMax / roundUp 64 height < roundUp 256 width ||| 256 := by
    rw [Nat.not_lt, Nat.le_div_iff_mul_le (by omega)]
    omega
  unfold rkSurfaceBufferSize
  rw [if_neg (by omega), alignUp_small (by decide) (by decide) narrow,
    alignUp_small (by decide) (by decide) short]
  dsimp only
  rw [if_neg fits, if_neg (by omega)]
  exact ⟨_, rfl⟩

theorem rkSurfacePlaceholderSize_small (is10bit : Bool) (wide : 0 < width) (narrow : width ≤ 8192)
    (tall : 0 < height) (short : height ≤ 8192) :
    ∃ size, rkSurfacePlaceholderSize width height is10bit = some size := by
  obtain ⟨conservative, found⟩ := rkSurfaceBufferSize_small wide narrow tall short
  unfold rkSurfacePlaceholderSize
  rw [found]
  cases is10bit with
  | false => exact ⟨conservative, rfl⟩
  | true =>
    have unit : StrideUnit true 16 := ⟨.inr rfl, fun _ => rfl⟩
    obtain ⟨p010Size, layout, -⟩ := unit.layout wide narrow tall short
    change rkP010LayoutSize _ _ = _ at layout
    dsimp only
    rw [if_pos rfl, alignUp_small (by decide) (by decide) narrow,
      alignUp_small (by decide) (by decide) short]
    dsimp only
    rw [layout]
    exact ⟨_, rfl⟩

/-- The placeholder is there for every size, and has room for the image of its strides. -/
theorem placeholderSize_covers (unit : StrideUnit is10bit alignment) (wide : 0 < width)
    (narrow : width ≤ 8192) (tall : 0 < height) (short : height ≤ 8192) :
    ∃ total size, rkSurfacePlaceholderSize width height is10bit = some total ∧
      layoutSize is10bit (roundUp alignment width) (roundUp 16 height) = some size ∧
      size ≤ total := by
  obtain ⟨total, found⟩ := rkSurfacePlaceholderSize_small is10bit wide narrow tall short
  obtain ⟨size, layout, -⟩ := unit.layout wide narrow tall short
  exact ⟨total, size, found, layout, unit.fits found layout⟩

end

/-! ## A fresh placeholder -/

/-- A buffer from which `rk_repack_nv12` or `rk_repack_p010` can read a picture. -/
structure RepackSource (is10bit : Bool) (width height stride vstride : Nat) (source : MppBuffer) :
    Prop where
  wide : width ≤ stride
  tall : height ≤ vstride
  layout : ∃ size, layoutSize is10bit stride vstride = some size ∧ size ≤ source.size ∧
    (is10bit = false → size ≤ intMax)
  rga : is10bit = false → 0 ≤ source.fd ∧ stride ≤ intMax ∧ vstride ≤ intMax

/-- A buffer in which a picture of a surface has room, with the strides of the surface. -/
structure RepackTarget (is10bit : Bool) (width height stride vstride : Nat) (target : MppBuffer) :
    Prop where
  wide : width ≤ stride
  tall : height ≤ vstride
  layout : ∃ size, layoutSize is10bit stride vstride = some size ∧ size ≤ target.size ∧
    size ≤ intMax
  fd : 0 ≤ target.fd
  small : width ≤ intMax ∧ height ≤ intMax ∧ stride ≤ intMax ∧ vstride ≤ intMax

section

variable {is10bit : Bool} {width height stride vstride hstride rows : Nat}
  {source target : MppBuffer}

/-- The checks of a copy, with a target that has room: only the source and an odd size can be
wrong. -/
theorem repackLayout_room {size sourceSize : Nat}
    (room : RepackTarget is10bit width height hstride rows target)
    (layout : layoutSize is10bit hstride rows = some size) (wide : 0 < width) (tall : 0 < height)
    (found : layoutSize is10bit stride vstride = some sourceSize) :
    repackLayout is10bit (some source) (some target) width height stride vstride hstride rows =
      if width ≤ stride ∧ height ≤ vstride ∧ sourceSize ≤ source.size ∧ width % 2 = 0 ∧
          height % 2 = 0 then some ⟨source, target, sourceSize, size⟩
      else none := by
  obtain ⟨size', layout', fits, -⟩ := room.layout
  obtain rfl := Option.some.inj (layout.symm.trans layout')
  have wider := room.wide
  have taller := room.tall
  unfold repackLayout
  rw [layout, found]
  dsimp only
  split
  · rw [if_neg (by omega)]
  · rw [if_pos (by omega)]

/-- A copy that is carried out is refused only for its source or for an odd size. -/
theorem rkRepack_iff (room : RepackTarget is10bit width height hstride rows target)
    (wide : 0 < width) (tall : 0 < height) :
    rkRepack is10bit (some source) (some target) width height stride vstride hstride rows true =
        true ↔
      RepackSource is10bit width height stride vstride source ∧ width % 2 = 0 ∧ height % 2 = 0 := by
  obtain ⟨size, layout, -, small⟩ := room.layout
  have fd := room.fd
  have limits := room.small
  unfold rkRepack rkRepackP010 rkRepackNv12
  cases found : layoutSize is10bit stride vstride with
  | none =>
    -- without a layout of the source neither side holds
    have refused : repackLayout is10bit (some source) (some target) width height stride vstride
        hstride rows = none := by
      unfold repackLayout
      rw [found, layout]
    have absent : ¬RepackSource is10bit width height stride vstride source := by
      rintro ⟨-, -, ⟨_, there, -⟩, -⟩
      rw [found] at there
      cases there
    cases is10bit <;> simp [refused, absent]
  | some sourceSize =>
    have checks := @repackLayout_room is10bit width height stride vstride hstride rows source target size sourceSize room layout wide tall found
    have exact : RepackSource is10bit width height stride vstride source ↔ width ≤ stride ∧
        height ≤ vstride ∧ sourceSize ≤ source.size ∧
        (is10bit = false → sourceSize ≤ intMax ∧ 0 ≤ source.fd ∧ stride ≤ intMax ∧
          vstride ≤ intMax) := by
      constructor
      · rintro ⟨inside, below, ⟨size', there, fits, limit⟩, rga⟩
        obtain rfl := Option.some.inj (found.symm.trans there)
        exact ⟨inside, below, fits, fun eight => ⟨limit eight, rga eight⟩⟩
      · rintro ⟨inside, below, fits, rga⟩
        exact ⟨inside, below, ⟨sourceSize, found, fits, fun eight => (rga eight).1⟩,
          fun eight => (rga eight).2⟩
    rw [exact]
    by_cases valid : width ≤ stride ∧ height ≤ vstride ∧ sourceSize ≤ source.size ∧
        width % 2 = 0 ∧ height % 2 = 0
    · rw [if_pos valid] at checks
      cases is10bit with
      | true =>
        rw [if_pos rfl, checks]
        simp [valid]
      | false =>
        rw [if_neg Bool.false_ne_true, checks]
        simp [valid]
        omega
    · rw [if_neg valid] at checks
      cases is10bit with
      | true =>
        rw [if_pos rfl, checks]
        simp
        omega
      | false =>
        rw [if_neg Bool.false_ne_true, checks]
        simp
        omega

end

/-- What a derived image, an upload and a copy into permanent storage find of a placeholder. Where
one of them fails, it is not for want of room. -/
structure PlaceholderTaken (s : RKSurface) : Prop where
  linear : surfaceLinearLayout s = some
    { fd := s.privBuf.fd, objectSize := s.privBuf.size
      pitch := s.hstride.toNat * sampleBytes s.is10bit
      chromaOffset := s.hstride.toNat * sampleBytes s.is10bit * s.vstride.toNat }
  puts : ∀ image source target src priv,
    (rkPutImage .granted s image source target src priv).1 = .ok () ↔
      putsFullFrame s image source target = true ∧ image.fourcc = s.fourcc ∧
        imageLayoutValid image s.width.toNat s.height.toNat s.rowBytes = true
  copies : ∀ fence source stride vstride,
    rkSurfaceCopyToStableExport { s with stableExport := true, fence := fence } (some source)
        s.width.toNat s.height.toNat stride vstride s.is10bit fence true =
        .copied s.hstride s.vstride ↔
      RepackSource s.is10bit s.width.toNat s.height.toNat stride vstride source ∧
        s.width.toNat % 2 = 0 ∧ s.height.toNat % 2 = 0

section

variable {env : CreateEnv} {fourcc : Fourcc} {encoderInput : Bool} {s : RKSurface}

/-- A derived image of a placeholder lies in it. -/
theorem OwnSurface.linear {width height hstride vstride size : Nat}
    (own : OwnSurface fourcc width height s) (hstrideEq : s.hstride = hstride)
    (vstrideEq : s.vstride = vstride) (narrow : hstride ≤ 8255) (short : vstride ≤ 8207)
    (layout : layoutSize s.is10bit hstride vstride = some size) (fits : size ≤ s.privBuf.size) :
    surfaceLinearLayout s = some
      { fd := s.privBuf.fd, objectSize := s.privBuf.size
        pitch := s.hstride.toNat * sampleBytes s.is10bit
        chromaOffset := s.hstride.toNat * sampleBytes s.is10bit * s.vstride.toNat } := by
  obtain ⟨wide, tall, even, same⟩ := layoutSize_some layout
  have limit : intMax = 2147483647 := rfl
  have active : s.activeBuffer = some s.privBuf := by
    rw [RKSurface.activeBuffer, own.imported, own.empty]
    rfl
  have pitch : s.linearPitch = hstride * sampleBytes s.is10bit := by
    have nonzero : s.hstride ≠ 0 := own.stride.ne'
    unfold RKSurface.linearPitch RKSurface.exportedHstride
    rw [if_neg nonzero, hstrideEq, toUint32_natCast (by omega)]
    unfold sampleBytes
    split
    · exact Nat.mod_eq_of_lt (by omega)
    · exact (Nat.mul_one hstride).symm
  have rows : toUint32 s.exportedVstride = vstride := by
    have nonzero : s.vstride ≠ 0 := own.rows.ne'
    unfold RKSurface.exportedVstride
    rw [if_neg nonzero, vstrideEq, toUint32_natCast (by omega)]
  have half : hstride * sampleBytes s.is10bit * vstride / 2 =
      hstride * sampleBytes s.is10bit * (vstride / 2) :=
    Nat.mul_div_assoc _ (Nat.dvd_of_mod_eq_zero even)
  have bytes := sampleBytes_pos s.is10bit
  have some_bytes : 0 < hstride * sampleBytes s.is10bit * vstride :=
    Nat.mul_pos (Nat.mul_pos wide bytes) tall
  have fd := own.fd
  have noWrap := Nat.mod_le (hstride * sampleBytes s.is10bit * vstride +
    hstride * sampleBytes s.is10bit * vstride / 2) (2 ^ 64)
  unfold surfaceLinearLayout
  rw [own.imported, active, pitch, rows, hstrideEq, vstrideEq]
  rw [Option.any_none, if_neg Bool.false_ne_true]
  exact if_neg (by simp only [Option.elim_some]; omega)

/-- An upload is refused only for the image and the rectangles. -/
theorem OwnSurface.puts {width height : Nat} (own : OwnSurface fourcc width height s)
    (image : RKImage) (source target : Rect) (src priv : Bytes) :
    (rkPutImage .granted s image source target src priv).1 = .ok () ↔
      putsFullFrame s image source target = true ∧ image.fourcc = s.fourcc ∧
        imageLayoutValid image s.width.toNat s.height.toNat s.rowBytes = true := by
  constructor
  · intro accepted
    unfold rkPutImage Surface.putTarget at accepted
    by_contra refused
    rw [if_pos] at accepted
    · cases accepted
    · simp only [Bool.eq_false_iff]
      tauto
  · rintro ⟨whole, format, valid⟩
    obtain ⟨size, accepted⟩ := own.putTarget whole (format.trans own.format) valid
    rw [rkPutImage, accepted]
    rfl

/-- A copy into permanent storage is refused only for its source and for an odd size. -/
theorem OwnSurface.copies {width height hstride vstride size : Nat}
    (own : OwnSurface fourcc width height s) (wide : 0 < width) (tall : 0 < height)
    (hstrideEq : s.hstride = hstride)
    (vstrideEq : s.vstride = vstride) (narrow : hstride ≤ 8255) (short : vstride ≤ 8207)
    (layout : layoutSize s.is10bit hstride vstride = some size) (fits : size ≤ s.privBuf.size)
    (small : size ≤ intMax) (fence : Nat) (source : MppBuffer) (stride rows : Nat) :
    rkSurfaceCopyToStableExport { s with stableExport := true, fence := fence } (some source)
        width height stride rows s.is10bit fence true = .copied s.hstride s.vstride ↔
      RepackSource s.is10bit width height stride rows source ∧
        width % 2 = 0 ∧ height % 2 = 0 := by
  have columns : s.width.toNat = width := by rw [own.columns]; rfl
  have lines : s.height.toNat = height := by rw [own.lines]; rfl
  have wider := own.wide
  have taller := own.tall
  have limit : intMax = 2147483647 := rfl
  have room : RepackTarget s.is10bit width height s.hstride.toNat s.vstride.toNat s.privBuf := by
    rw [hstrideEq] at wider
    rw [vstrideEq] at taller
    rw [hstrideEq, vstrideEq]
    exact ⟨wider, taller, ⟨size, layout, fits, small⟩, own.fd, by omega⟩
  rw [← rkRepack_iff room wide tall]
  unfold rkSurfaceCopyToStableExport
  dsimp only
  rw [if_neg Bool.true_eq_false.mp, if_neg (by simp [columns, lines, own.stride, own.rows])]
  cases done : rkRepack s.is10bit (some source) (some s.privBuf) width height stride rows
      s.hstride.toNat s.vstride.toNat true with
  | false => simp
  | true => simp

theorem createSurface_taken {width height : Int}
    (created : createSurface env width height fourcc none encoderInput = some s) :
    PlaceholderTaken s := by
  have c := createSurface_from created
  have wide := c.wide
  have tall := c.tall
  unfold rkMaxSize at wide tall
  obtain ⟨w, rfl⟩ := Int.eq_ofNat_of_zero_le wide.1.le
  obtain ⟨h, rfl⟩ := Int.eq_ofNat_of_zero_le tall.1.le
  have own := createSurface_own created
  obtain ⟨alignment, size, unit, hstrideEq, vstrideEq, layout, fits, small⟩ :=
    createSurface_strides created (by rw [own.imported]; rfl)
  have least := unit.le
  have narrow : roundUp alignment w ≤ 8255 := by
    have := roundUp_lt unit.pos w
    omega
  have short : roundUp 16 h ≤ 8207 := by
    have := roundUp_lt (show 0 < 16 by decide) h
    omega
  have columns : s.width.toNat = w := by rw [own.columns]; rfl
  have lines : s.height.toNat = h := by rw [own.lines]; rfl
  refine ⟨own.linear hstrideEq vstrideEq narrow short layout fits, own.puts, ?_⟩
  rw [columns, lines]
  exact own.copies (by omega) (by omega) hstrideEq vstrideEq narrow short layout fits small

end

/-! ## The placeholders and the strides -/

/-- The size that MPP decodes a picture to: the least odd multiple of 256 columns that holds it, by
the least multiple of 64 rows. -/
structure MppDecodeSize (width height stride vstride : Nat) : Prop where
  columns : IsLeast {columns | ∃ k, columns = 256 * (2 * k + 1) ∧ width ≤ columns} stride
  rows : IsLeast {rows | rows % 64 = 0 ∧ height ≤ rows} vstride

theorem rkSurfaceBufferSize_decode {width height size : Nat}
    (h : rkSurfaceBufferSize width height = some size) :
    ∃ stride vstride, MppDecodeSize width height stride vstride ∧
      2 * (stride * vstride) ≤ size ∧ size ≤ sizeMax := by
  obtain ⟨rfl, small⟩ := rkSurfaceBufferSize_eq h
  exact ⟨_, _, ⟨roundUp_or_isLeast 8 width, roundUp_isLeast (by decide) height⟩,
    (Nat.mul_comm _ _).le, small⟩

/-- A placeholder is allocated for every size, depth and stride that `create_surfaces` chooses, and
has room for the image of these strides. A derived image, an upload and a copy of an even size find
it large enough. A decode allocation holds twice the luma of the size that MPP decodes to. -/
theorem placeholder_covers :
    (∀ (width height : Nat) (is10bit : Bool) (alignment : Nat), 1 ≤ width → width ≤ 8192 →
      1 ≤ height → height ≤ 8192 → StrideUnit is10bit alignment →
        ∃ total size, rkSurfacePlaceholderSize width height is10bit = some total ∧
          layoutSize is10bit (roundUp alignment width) (roundUp 16 height) = some size ∧
          size ≤ total) ∧
      (∀ (env : CreateEnv) (width height : Int) (fourcc : Fourcc)
        (descriptor : Option VADRMPRIMESurfaceDescriptor) (encoderInput : Bool) (s : RKSurface),
        createSurface env width height fourcc descriptor encoderInput = some s →
          (s.imported.filter Imported.contiguous = none →
            ∃ size, layoutSize s.is10bit s.hstride.toNat s.vstride.toNat = some size ∧
              size ≤ s.privBuf.size) ∧
          (descriptor = none → PlaceholderTaken s)) ∧
      ∀ (width height size : Nat), rkSurfaceBufferSize width height = some size →
        ∃ stride vstride, MppDecodeSize width height stride vstride ∧
          2 * (stride * vstride) ≤ size ∧ size ≤ sizeMax := by
  refine ⟨?_, ?_, fun _ _ _ => rkSurfaceBufferSize_decode⟩
  · intro width height is10bit alignment wide narrow tall short unit
    exact placeholderSize_covers unit wide narrow tall short
  · intro env width height fourcc descriptor encoderInput s created
    constructor
    · intro rounded
      obtain ⟨alignment, size, -, hstrideEq, vstrideEq, layout, fits, -⟩ :=
        createSurface_strides created rounded
      exact ⟨size, by rw [hstrideEq, vstrideEq]; exact layout, fits⟩
    · rintro rfl
      exact createSurface_taken created

/-- A picture of 3x2 in a placeholder that was exported: its source has room and the placeholder
has room, and the copy refuses the odd width. -/
theorem placeholder_odd :
    ∃ s source, createSurface plainCreate 3 2 .nv12 none false = some s ∧
      (markStable s).stableExport = true ∧ RepackSource s.is10bit 3 2 64 16 source ∧
      rkSurfaceCopyToStableExport (markStable s) (some source) 3 2 64 16 s.is10bit s.fence true =
        .failed := by
  refine ⟨_, ⟨1, 11, -1, 1536⟩, rfl, rfl, ?_, rfl⟩
  exact ⟨by decide, by decide, ⟨1536, rfl, by decide, by decide⟩, by decide⟩

end RockchipVaapi.Surface
