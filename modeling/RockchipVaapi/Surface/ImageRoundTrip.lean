import RockchipVaapi.Surface.Image
import RockchipVaapi.Surface.Inside

/-!
# Upload and readback

A picture that is put into a surface and got back. Rows are copied or woven without loss; but a row
of chroma is as long as a row of luma, and that is one sample too short where the width is odd.
-/

namespace RockchipVaapi.Surface

open Memory

/-! ## Samples -/

/-- The bytes of a luma sample. -/
def RKImage.lumaSample (image : RKImage) (data : Bytes) (x y : Nat) : List UInt8 :=
  let bytes := sampleBytes (image.fourcc == .p010)
  (List.range bytes).map fun k => data (image.offset 0 + y * image.pitch 0 + (x * bytes + k))

/-- The bytes of a chroma sample, of V or of U. -/
def RKImage.chromaSample (image : RKImage) (data : Bytes) (isV : Bool) (x y : Nat) : List UInt8 :=
  if image.fourcc.planar then
    let plane := if isV then image.fourcc.vPlane else image.fourcc.uPlane
    [data (image.offset plane + y * image.pitch plane + x)]
  else
    let bytes := sampleBytes (image.fourcc == .p010)
    (List.range bytes).map fun k =>
      data (image.offset 1 + y * image.pitch 1 + ((2 * x + isV.toNat) * bytes + k))

/-- Two images show the same picture of a size: all samples of luma, and one sample of U and V each
for two by two of them. -/
structure SameSamples (image : RKImage) (data : Bytes) (image' : RKImage) (data' : Bytes)
    (width height : Nat) : Prop where
  luma : ∀ x < width, ∀ y < height, image'.lumaSample data' x y = image.lumaSample data x y
  chroma : ∀ isV, ∀ x < (width + 1) / 2, ∀ y < (height + 1) / 2,
    image'.chromaSample data' isV x y = image.chromaSample data isV x y

/-! ## What is created -/

/-- An image that is created, as its planes lie in its buffer. -/
structure ImageLaid (fourcc : Fourcc) (width height : Nat) (image : RKImage) : Prop where
  format : image.fourcc = fourcc
  columns : image.width = width
  lines : image.height = height
  evenWidth : fourcc.planar = true → width % 2 = 0
  evenHeight : height % 2 = 0
  numPlanes : image.numPlanes = if fourcc.planar then 3 else 2
  wide : (width + width % 2) * sampleBytes (fourcc == .p010) ≤ image.pitch 0
  chroma : image.pitch 1 = if fourcc.planar then image.pitch 0 / 2 else image.pitch 0
  chroma2 : fourcc.planar = true → image.pitch 2 = image.pitch 1
  offset0 : image.offset 0 = 0
  offset1 : image.offset 1 = height * image.pitch 0
  offset2 : fourcc.planar = true → image.offset 2 = image.offset 1 + height / 2 * image.pitch 1
  capacity : image.capacity =
    image.offset 1 + (if fourcc.planar then 2 else 1) * (height / 2 * image.pitch 1)

theorem roundUp_even (width : Nat) : width + width % 2 ≤ roundUp 16 width := by
  have multiple := roundUp_mod 16 width
  have above := le_roundUp (show 0 < 16 by decide) width
  omega

theorem bytesPerSample_some {fourcc : Fourcc} {width height bytes : Nat}
    (sampled : bytesPerSample fourcc width height = some bytes) :
    bytes = sampleBytes (fourcc == .p010) ∧
      (fourcc.planar = true → width % 2 = 0 ∧ height % 2 = 0) := by
  unfold bytesPerSample at sampled
  split at sampled
  case h_1 | h_2 =>
    obtain rfl := Option.some.inj sampled
    exact ⟨rfl, by simp [Fourcc.planar]⟩
  case h_3 | h_4 =>
    split at sampled
    · cases sampled
    · rename_i even
      obtain rfl := Option.some.inj sampled
      exact ⟨rfl, fun _ => by omega⟩
  all_goals cases sampled

theorem imageAllocation_some {planar : Bool} {imagePitch chromaPitch height allocation : Nat}
    (allocated : imageAllocation planar imagePitch chromaPitch height = some allocation)
    (even : planar = true → height % 2 = 0) (chroma : planar = false → chromaPitch = imagePitch) :
    height % 2 = 0 ∧
      allocation = height * imagePitch + (if planar then 2 else 1) * (height / 2 * chromaPitch) := by
  unfold imageAllocation at allocated
  cases planar with
  | true =>
    rw [if_pos rfl] at allocated
    dsimp only at allocated
    split at allocated
    · cases allocated
    · obtain rfl := Option.some.inj allocated
      rw [if_pos rfl, Nat.mul_comm imagePitch, Nat.mul_comm chromaPitch]
      exact ⟨even rfl, rfl⟩
  | false =>
    obtain ⟨-, -, evenHeight, rfl⟩ := rkNv12LayoutSize_some allocated
    rw [chroma rfl, if_neg Bool.false_ne_true, Nat.one_mul, Nat.mul_comm imagePitch,
      Nat.mul_comm imagePitch]
    exact ⟨evenHeight, rfl⟩

/-- What a call that succeeds has computed on the way. -/
theorem rkCreateImage_some {allocates : Bool} {fourcc : Fourcc} {width height : Int}
    {image : RKImage} (created : rkCreateImage allocates fourcc width height = some image) :
    (0 < width ∧ 0 < height ∧ width ≤ ushrtMax ∧ height ≤ ushrtMax) ∧
      ∃ bytes allocation, bytesPerSample fourcc width.toNat height.toNat = some bytes ∧
        imageAllocation fourcc.planar (roundUp 16 width.toNat * bytes)
          (if fourcc.planar then roundUp 16 width.toNat / 2 else roundUp 16 width.toNat * bytes)
          height.toNat = some allocation ∧
        allocation ≤ uint32Max ∧
        image =
          { fourcc := fourcc, width := width.toNat, height := height.toNat
            numPlanes := if fourcc.planar then 3 else 2
            pitches := [roundUp 16 width.toNat * bytes,
              if fourcc.planar then roundUp 16 width.toNat / 2
              else roundUp 16 width.toNat * bytes,
              if fourcc.planar then
                if fourcc.planar then roundUp 16 width.toNat / 2
                else roundUp 16 width.toNat * bytes
              else 0]
            offsets := [0, roundUp 16 width.toNat * bytes * height.toNat % (uint32Max + 1),
              if fourcc.planar then
                (roundUp 16 width.toNat * bytes * height.toNat % (uint32Max + 1) +
                  (if fourcc.planar then roundUp 16 width.toNat / 2
                    else roundUp 16 width.toNat * bytes) * (height.toNat / 2)) % (uint32Max + 1)
              else 0]
            capacity := allocation } := by
  unfold rkCreateImage at created
  split at created
  · cases created
  · rename_i size
    refine ⟨by omega, ?_⟩
    dsimp only at created
    split at created
    · cases created
    · rename_i bytes sampled
      split at created
      · cases created
      · split at created
        · cases created
        · rename_i allocation allocated
          split at created
          · cases created
          · rename_i small
            rw [not_or, Nat.not_lt] at small
            exact ⟨bytes, allocation, sampled, allocated, small.1, (Option.some.inj created).symm⟩

theorem rkCreateImage_laid {allocates : Bool} {fourcc : Fourcc} {width height : Nat}
    {image : RKImage} (created : rkCreateImage allocates fourcc width height = some image) :
    ImageLaid fourcc width height image := by
  obtain ⟨-, bytes, allocation, sampled, allocated, small, rfl⟩ := rkCreateImage_some created
  simp only [Int.toNat_natCast] at sampled allocated ⊢
  obtain ⟨rfl, even⟩ := bytesPerSample_some sampled
  obtain ⟨evenHeight, total⟩ := imageAllocation_some allocated (fun p => (even p).2)
    fun semi => by rw [semi, if_neg Bool.false_ne_true]
  have limit : uint32Max + 1 = 4294967296 := rfl
  have top : uint32Max = 4294967295 := rfl
  -- no offset is above the size of the buffer
  have second : roundUp 16 width * sampleBytes (fourcc == .p010) * height %
      (uint32Max + 1) = height * (roundUp 16 width * sampleBytes (fourcc == .p010)) := by
    rw [Nat.mul_comm, Nat.mod_eq_of_lt]
    omega
  rw [second]
  constructor
  case format | columns | lines | numPlanes | offset0 | offset1 => rfl
  case evenWidth => exact fun planar => (even planar).1
  case evenHeight => exact evenHeight
  case wide => exact Nat.mul_le_mul_right _ (roundUp_even width)
  case chroma =>
    show (if fourcc.planar then roundUp 16 width / 2 else _) = _
    cases planar : fourcc.planar with
    | false => rfl
    | true =>
      have plain : (fourcc == .p010) = false := by
        cases fourcc <;> first | rfl | cases planar
      rw [if_pos rfl, if_pos rfl, plain]
      exact congrArg (· / 2) (Nat.mul_one _).symm
  case chroma2 =>
    intro planar
    show (if fourcc.planar then _ else 0) = _
    rw [if_pos planar]
    rfl
  case offset2 =>
    intro planar
    show (if fourcc.planar then _ else 0) = _
    rw [if_pos planar]
    show (_ + _ * _) % _ = _ + _ * _
    rw [Nat.mul_comm _ (height / 2), Nat.mod_eq_of_lt]
    · rfl
    · rw [if_pos planar] at total
      omega
  case capacity => exact total

/-- A surface with memory of the driver that was never decoded to. -/
structure OwnSurface (fourcc : Fourcc) (width height : Nat) (s : RKSurface) : Prop where
  columns : s.width = width
  lines : s.height = height
  small : width ≤ 8192 ∧ height ≤ 8192
  format : s.fourcc = fourcc
  depth : s.is10bit = (fourcc == .p010)
  imported : s.imported = none
  empty : s.holdsPicture = false
  even : fourcc ≠ .nv12 → width % 2 = 0
  wide : width ≤ s.hstride.toNat
  evenStride : s.hstride.toNat % 2 = 0
  stride : 0 < s.hstride
  tall : height ≤ s.vstride.toNat
  rows : 0 < s.vstride
  layout : ∃ size, rkNv12LayoutSize (s.hstride.toNat * sampleBytes s.is10bit) s.vstride.toNat =
    some size ∧ size ≤ s.privBuf.size
  fd : 0 ≤ s.privBuf.fd

theorem createSurface_own {env : CreateEnv} {width height : Nat} {fourcc : Fourcc}
    {encoderInput : Bool} {s : RKSurface}
    (created : createSurface env width height fourcc none encoderInput = some s) :
    OwnSurface fourcc width height s := by
  have c := createSurface_from created
  have wide := c.wide
  have tall := c.tall
  have accepted := c.accepted
  unfold rkMaxSize at wide tall
  have fd : 0 ≤ s.privBuf.fd := by
    have := (Option.filter_eq_some_iff.mp c.buffer).2
    simpa using this
  obtain ⟨alignment, size, unit, hstrideEq, vstrideEq, layout, fits, -⟩ :=
    createSurface_strides created (by rw [c.own rfl]; rfl)
  simp only [Int.toNat_natCast, Option.isSome_none] at accepted hstrideEq vstrideEq layout
  have even := roundUp_mod alignment width
  have wider := le_roundUp unit.pos width
  have taller := le_roundUp (show 0 < 16 by omega) height
  have widest := roundUp_lt unit.pos width
  have least := unit.le
  generalize roundUp alignment width = hstride at hstrideEq layout wider widest even
  generalize roundUp 16 height = vstride at vstrideEq layout taller
  constructor
  case columns => exact c.columns
  case lines => exact c.lines
  case format => exact c.format
  case imported => exact c.own rfl
  case empty => exact c.empty
  case small => omega
  case depth => exact c.depth
  case fd => exact fd
  case even =>
    intro other
    cases fourcc with
    | nv12 => exact absurd rfl other
    | p010 | i420 | yv12 => simp [formatAccepted] at accepted; omega
    | rgba | rgbx | bgra | bgrx => cases accepted
  case wide => rw [hstrideEq]; exact wider
  case evenStride =>
    rw [hstrideEq]
    rcases unit.1 with rfl | rfl <;> simp only [Int.toNat_natCast] <;> omega
  case stride => omega
  case tall => rw [vstrideEq]; exact taller
  case rows => omega
  case layout =>
    rw [hstrideEq, vstrideEq]
    simp only [Int.toNat_natCast]
    rw [layoutSize_eq_nv12 (by omega) (by unfold intMax; omega)] at layout
    exact ⟨size, layout, fits⟩

/-! ## The rows of the surface -/

section

variable {s : RKSurface} {image : RKImage} {src priv dst : Bytes} {pitch size row column : Nat}

/-- The luma of an upload. The chroma rows are below it. -/
theorem putRows_luma (wide : lumaBytes s image ≤ pitch) (tall : s.height.toNat ≤ s.vstride.toNat)
    (small : row < s.height.toNat) (inside : column < lumaBytes s image) :
    putRows s image src priv pitch size (row * pitch + column) =
      src (image.offset 0 + row * image.pitch 0 + column) := by
  have below : row * pitch + column < pitch * s.vstride.toNat := by
    have last : row * pitch + pitch ≤ s.vstride.toNat * pitch := by
      rw [← Nat.succ_mul]
      exact Nat.mul_le_mul_right pitch (by omega)
    rw [Nat.mul_comm pitch]
    omega
  have luma := copyRow_apply 0 (image.offset 0) (image.pitch 0) src (memset priv 0 size) wide small
    inside
  rw [Nat.zero_add] at luma
  unfold putRows
  dsimp only
  split
  · rw [forLoop_outside (fun k _ => weaveRow_sets _ src _ _ _)]
    · exact luma
    · rintro k - ⟨c, -, here⟩
      omega
  · rw [forLoop_outside (fun k _ => copyRow_sets _ pitch src _ _ _ k)]
    · exact luma
    · rintro k - ⟨from_here, -⟩
      omega

/-- The chroma of a semi-planar upload. -/
theorem putRows_chroma (semi : image.fourcc.planar = false) (wide : s.rowBytes ≤ pitch)
    (small : row < s.height.toNat / 2) (inside : column < s.rowBytes) :
    putRows s image src priv pitch size (pitch * s.vstride.toNat + row * pitch + column) =
      src (image.offset 1 + row * image.pitch 1 + column) := by
  unfold putRows
  dsimp only
  rw [semi, if_neg Bool.false_ne_true]
  exact copyRow_apply _ _ _ _ _ wide small inside

/-- The chroma of a planar upload, where U and V are woven. -/
theorem putRows_woven (planar : image.fourcc.planar = true) (wide : s.width.toNat ≤ pitch)
    (small : row < s.height.toNat / 2) (inside : column < s.width.toNat / 2) (isV : Bool) :
    putRows s image src priv pitch size
        (pitch * s.vstride.toNat + row * pitch + (2 * column + isV.toNat)) =
      src (image.offset (if isV then image.fourcc.vPlane else image.fourcc.uPlane) +
        row * image.pitch (if isV then image.fourcc.vPlane else image.fourcc.uPlane) + column) := by
  have rows : ∀ {k k' i}, (∃ c < s.width.toNat / 2,
        i = pitch * s.vstride.toNat + k * pitch + 2 * c ∨
          i = pitch * s.vstride.toNat + k * pitch + 2 * c + 1) →
      (∃ c < s.width.toNat / 2, i = pitch * s.vstride.toNat + k' * pitch + 2 * c ∨
          i = pitch * s.vstride.toNat + k' * pitch + 2 * c + 1) → k = k' := by
    rintro k k' i ⟨c, few, here⟩ ⟨c', few', there⟩
    have here : InRow (pitch * s.vstride.toNat) pitch s.width.toNat k i := ⟨by omega, by omega⟩
    have there : InRow (pitch * s.vstride.toNat) pitch s.width.toNat k' i := ⟨by omega, by omega⟩
    exact inRow_apart wide here there
  unfold putRows
  dsimp only
  rw [planar, if_pos rfl]
  have woven := forLoop_inside (m := forLoop (copyRow 0 pitch src (image.offset 0) (image.pitch 0)
    (lumaBytes s image)) s.height.toNat (memset priv 0 size))
    (fun k _ => weaveRow_sets (pitch * s.vstride.toNat + k * pitch) src
    (image.offset image.fourcc.uPlane + k * image.pitch image.fourcc.uPlane)
    (image.offset image.fourcc.vPlane + k * image.pitch image.fourcc.vPlane) (s.width.toNat / 2))
    (fun _ _ => rows) small (i := pitch * s.vstride.toNat + row * pitch + (2 * column + isV.toNat))
    ⟨column, inside, by cases isV <;> simp [Nat.add_assoc]⟩
  rw [woven]
  cases isV with
  | false => rw [if_pos (by simp)]; congr 1; simp
  | true => rw [if_neg (by simp)]; congr 1; simp; omega

/-! ## The rows of the image -/

/-- The planes of an image lie one behind the other, and hold the rows of a surface. -/
structure PlanesApart (s : RKSurface) (image : RKImage) : Prop where
  luma : image.offset 0 + s.height.toNat * image.pitch 0 ≤ image.offset 1
  wide : lumaBytes s image ≤ image.pitch 0
  semi : image.fourcc.planar = false → s.rowBytes ≤ image.pitch 1
  planar : image.fourcc.planar = true →
    image.offset 1 + s.height.toNat / 2 * image.pitch 1 ≤ image.offset 2 ∧
      image.pitch 2 = image.pitch 1 ∧ s.width.toNat / 2 ≤ image.pitch 1

/-- The two planes of chroma of a planar image, in either order. -/
theorem PlanesApart.chroma (apart : PlanesApart s image) (planar : image.fourcc.planar = true) :
    ∃ pitch, image.pitch image.fourcc.uPlane = pitch ∧ image.pitch image.fourcc.vPlane = pitch ∧
      s.width.toNat / 2 ≤ pitch ∧
      (image.offset image.fourcc.uPlane + s.height.toNat / 2 * pitch ≤
          image.offset image.fourcc.vPlane ∨
        image.offset image.fourcc.vPlane + s.height.toNat / 2 * pitch ≤
          image.offset image.fourcc.uPlane) ∧
      image.offset 0 + s.height.toNat * image.pitch 0 ≤ image.offset image.fourcc.uPlane ∧
      image.offset 0 + s.height.toNat * image.pitch 0 ≤ image.offset image.fourcc.vPlane := by
  obtain ⟨behind, same, wide⟩ := apart.planar planar
  have luma := apart.luma
  refine ⟨image.pitch 1, ?_⟩
  unfold Fourcc.uPlane Fourcc.vPlane
  split
  · exact ⟨rfl, same, wide, .inl behind, luma, by omega⟩
  · exact ⟨same, rfl, wide, .inr behind, by omega, luma⟩

/-- The rows of U and V that a readback writes in one round. -/
def InChromaRow (s : RKSurface) (image : RKImage) (row i : Nat) : Prop :=
  ∃ column < s.width.toNat / 2,
    i = image.offset image.fourcc.uPlane + row * image.pitch image.fourcc.uPlane + column ∨
      i = image.offset image.fourcc.vPlane + row * image.pitch image.fourcc.vPlane + column

theorem InChromaRow.cases {i : Nat} (here : InChromaRow s image row i) :
    InRow (image.offset image.fourcc.uPlane) (image.pitch image.fourcc.uPlane)
        (s.width.toNat / 2) row i ∨
      InRow (image.offset image.fourcc.vPlane) (image.pitch image.fourcc.vPlane)
        (s.width.toNat / 2) row i := by
  obtain ⟨column, small, rfl | rfl⟩ := here
  · exact .inl (inRow_mk small)
  · exact .inr (inRow_mk small)

theorem PlanesApart.chromaRow (apart : PlanesApart s image) (planar : image.fourcc.planar = true)
    {k k' i : Nat} (small : k < s.height.toNat / 2) (small' : k' < s.height.toNat / 2)
    (here : InChromaRow s image k i) (there : InChromaRow s image k' i) : k = k' := by
  obtain ⟨pitch, uPitch, vPitch, wide, order, -, -⟩ := apart.chroma planar
  have first := here.cases
  have second := there.cases
  rw [uPitch, vPitch] at first second
  rcases first with first | first <;> rcases second with second | second
  · exact inRow_apart wide first second
  · have uEnd := first.lt wide small
    have vEnd := second.lt wide small'
    have uStart := first.1
    have vStart := second.1
    omega
  · have uEnd := second.lt wide small'
    have vEnd := first.lt wide small
    have uStart := second.1
    have vStart := first.1
    omega
  · exact inRow_apart wide first second

/-- The rows of one round of a readback do not overlap. -/
theorem PlanesApart.columns (apart : PlanesApart s image) (planar : image.fourcc.planar = true)
    (small : row < s.height.toNat / 2) :
    let u := image.offset image.fourcc.uPlane + row * image.pitch image.fourcc.uPlane
    let v := image.offset image.fourcc.vPlane + row * image.pitch image.fourcc.vPlane
    u + s.width.toNat / 2 ≤ v ∨ v + s.width.toNat / 2 ≤ u := by
  obtain ⟨pitch, uPitch, vPitch, wide, order, -, -⟩ := apart.chroma planar
  have last : row * pitch + pitch ≤ s.height.toNat / 2 * pitch := by
    rw [← Nat.succ_mul]
    exact Nat.mul_le_mul_right pitch small
  dsimp only
  rw [uPitch, vPitch]
  omega

theorem getRows_luma (apart : PlanesApart s image) (small : row < s.height.toNat)
    (inside : column < lumaBytes s image) :
    getRows s image src dst pitch (image.offset 0 + row * image.pitch 0 + column) =
      src (row * pitch + column) := by
  have above : image.offset 0 + row * image.pitch 0 + column <
      image.offset 0 + s.height.toNat * image.pitch 0 :=
    (inRow_mk inside).lt apart.wide small
  have luma := copyRow_apply (image.offset 0) 0 pitch src (memset dst 0 image.capacity) apart.wide
    small inside
  rw [Nat.zero_add] at luma
  unfold getRows
  dsimp only
  split
  · rename_i planar
    obtain ⟨chromaPitch, -, -, -, -, uBehind, vBehind⟩ := apart.chroma planar
    rw [forLoop_outside fun k few => partRow_sets _ _ src _ _ (apart.columns planar few)]
    · exact luma
    · rintro k - ⟨c, -, here⟩
      omega
  · rw [forLoop_outside (fun k _ => copyRow_sets _ (image.pitch 1) src _ _ _ k)]
    · exact luma
    · rintro k - ⟨from_here, -⟩
      have behind := apart.luma
      omega

theorem getRows_chroma (apart : PlanesApart s image) (semi : image.fourcc.planar = false)
    (small : row < s.height.toNat / 2) (inside : column < s.rowBytes) :
    getRows s image src dst pitch (image.offset 1 + row * image.pitch 1 + column) =
      src (pitch * s.exportedVstride.toNat + row * pitch + column) := by
  unfold getRows
  dsimp only
  rw [semi, if_neg Bool.false_ne_true]
  exact copyRow_apply _ _ _ _ _ (apart.semi semi) small inside

/-- What is behind a row of chroma is cleared. -/
theorem getRows_cleared (apart : PlanesApart s image) (semi : image.fourcc.planar = false)
    (outside : s.rowBytes ≤ column)
    (inside : column < image.pitch 1)
    (room : image.offset 1 + row * image.pitch 1 + column < image.capacity) :
    getRows s image src dst pitch (image.offset 1 + row * image.pitch 1 + column) = 0 := by
  unfold getRows
  dsimp only
  rw [semi, if_neg Bool.false_ne_true]
  rw [forLoop_outside (fun k _ => copyRow_sets _ (image.pitch 1) src _ _ _ k)]
  · rw [forLoop_outside (fun k _ => copyRow_sets _ (image.pitch 0) src _ _ _ k)]
    · exact memset_apply room
    · intro k few here
      have := here.lt apart.wide few
      have := apart.luma
      omega
  · intro k few here
    -- another row of chroma cannot reach into this one
    have same : k = row := by
      have wider : InRow (image.offset 1) (image.pitch 1) (image.pitch 1) k
          (image.offset 1 + row * image.pitch 1 + column) :=
        ⟨here.1, here.2.trans_le (Nat.add_le_add_left (apart.semi semi) _)⟩
      exact inRow_apart le_rfl wider (inRow_mk inside)
    have last := here.2
    rw [same] at last
    omega

theorem getRows_parted (apart : PlanesApart s image) (planar : image.fourcc.planar = true)
    (small : row < s.height.toNat / 2) (inside : column < s.width.toNat / 2) (isV : Bool) :
    getRows s image src dst pitch
        (image.offset (if isV then image.fourcc.vPlane else image.fourcc.uPlane) +
          row * image.pitch (if isV then image.fourcc.vPlane else image.fourcc.uPlane) + column) =
      src (pitch * s.exportedVstride.toNat + row * pitch + (2 * column + isV.toNat)) := by
  have columns := apart.columns planar small
  unfold getRows
  dsimp only at columns ⊢
  rw [if_pos planar]
  rw [forLoop_inside (fun k few => partRow_sets _ _ src _ _ (apart.columns planar few))
    (fun few few' => apart.chromaRow planar few few') small]
  · cases isV with
    | false =>
      rw [if_pos ⟨by simp, by simp; omega⟩]
      congr 1
      simp
    | true =>
      rw [if_neg (by simp; omega)]
      congr 1
      simp
      omega
  · refine ⟨column, inside, ?_⟩
    cases isV <;> simp

end

/-! ## The calls -/

theorem imagePlaneFits_true {image : RKImage} {plane rowBytes rows : Nat}
    (there : plane < image.numPlanes) (wide : rowBytes ≤ image.pitch plane)
    (room : image.offset plane + rows * image.pitch plane ≤ image.capacity) :
    imagePlaneFits image plane rowBytes rows = true := by
  unfold imagePlaneFits
  rw [if_neg (by omega)]
  split
  · rfl
  · rename_i some_rows
    have last : rows * image.pitch plane = (rows - 1) * image.pitch plane + image.pitch plane := by
      rw [← Nat.succ_mul, Nat.succ_eq_add_one, Nat.sub_add_cancel (Nat.pos_of_ne_zero some_rows)]
    simp only [Bool.and_eq_true, decide_eq_true_eq]
    omega

theorem planar_bytes {fourcc : Fourcc} (planar : fourcc.planar = true) :
    (fourcc == .p010) = false := by
  cases fourcc <;> first | rfl | cases planar

section

variable {fourcc : Fourcc} {width height imageWidth imageHeight : Nat} {s : RKSurface}
  {image : RKImage}

theorem OwnSurface.rowBytes (own : OwnSurface fourcc width height s) :
    s.rowBytes = width * sampleBytes (fourcc == .p010) := by
  rw [RKSurface.rowBytes, own.columns, own.depth]
  rfl

theorem OwnSurface.lumaBytes (own : OwnSurface fourcc width height s)
    (format : image.fourcc = fourcc) :
    lumaBytes s image = width * sampleBytes (fourcc == .p010) := by
  unfold Surface.lumaBytes
  rw [format, own.rowBytes, own.columns]
  split
  · rename_i planar
    rw [planar_bytes planar]
    exact (Nat.mul_one _).symm
  · rfl

/-- The rows of an image begin in its planes and end there. -/
theorem ImageLaid.rows (laid : ImageLaid fourcc imageWidth imageHeight image)
    (wide : width ≤ imageWidth) (tall : height ≤ imageHeight) :
    width * sampleBytes (fourcc == .p010) ≤ image.pitch 0 ∧
      height * image.pitch 0 ≤ imageHeight * image.pitch 0 ∧
      height / 2 * image.pitch 1 ≤ imageHeight / 2 * image.pitch 1 :=
  ⟨(Nat.mul_le_mul_right _ (by omega)).trans laid.wide, Nat.mul_le_mul_right _ tall,
    Nat.mul_le_mul_right _ (Nat.div_le_div_right tall)⟩

/-- An image passes the check of a transfer of a picture that is not larger. -/
theorem ImageLaid.valid (laid : ImageLaid fourcc imageWidth imageHeight image)
    (wide : width ≤ imageWidth) (tall : height ≤ imageHeight) :
    imageLayoutValid image width height (width * sampleBytes (fourcc == .p010)) = true := by
  obtain ⟨row, lumaRows, chromaRows⟩ := laid.rows wide tall
  have offset0 := laid.offset0
  have offset1 := laid.offset1
  have capacity := laid.capacity
  have numPlanes := laid.numPlanes
  have chroma := laid.chroma
  unfold imageLayoutValid
  rw [laid.format]
  cases planar : fourcc.planar with
  | true =>
    have offset2 := laid.offset2 planar
    have chroma2 := laid.chroma2 planar
    rw [planar, if_pos rfl] at capacity numPlanes chroma
    rw [planar_bytes planar] at row
    change width * 1 ≤ _ at row
    simp only [if_true, Bool.not_true, Bool.false_or, Bool.and_eq_true]
    refine ⟨⟨imagePlaneFits_true (by omega) (by omega) (by omega),
      imagePlaneFits_true (by omega) (by omega) (by omega)⟩,
      imagePlaneFits_true (by omega) (by omega) ?_⟩
    rw [offset2, chroma2]
    omega
  | false =>
    rw [planar, if_neg Bool.false_ne_true] at capacity numPlanes chroma
    simp only [Bool.false_eq_true, if_false, Bool.not_false, Bool.true_or, Bool.and_true,
      Bool.and_eq_true]
    exact ⟨imagePlaneFits_true (by omega) row (by omega),
      imagePlaneFits_true (by omega) (by omega) (by omega)⟩

/-- An image that is not smaller than the surface has room for its picture. -/
theorem ImageLaid.holds (laid : ImageLaid fourcc imageWidth imageHeight image)
    (own : OwnSurface fourcc width height s) (wide : width ≤ imageWidth)
    (tall : height ≤ imageHeight) :
    imageLayoutValid image s.width.toNat s.height.toNat s.rowBytes = true ∧
      PlanesApart s image := by
  have columns : s.width.toNat = width := by rw [own.columns]; rfl
  have lines : s.height.toNat = height := by rw [own.lines]; rfl
  obtain ⟨row, lumaRows, chromaRows⟩ := laid.rows wide tall
  have lumaRow := own.lumaBytes laid.format
  have offset0 := laid.offset0
  have offset1 := laid.offset1
  have chroma := laid.chroma
  refine ⟨?_, ?_⟩
  · rw [columns, lines, own.rowBytes]
    exact laid.valid wide tall
  · cases planar : fourcc.planar with
    | true =>
      have offset2 := laid.offset2 planar
      have chroma2 := laid.chroma2 planar
      rw [planar, if_pos rfl] at chroma
      rw [planar_bytes planar] at row lumaRow
      change width * 1 ≤ _ at row
      change _ = width * 1 at lumaRow
      refine ⟨?_, ?_, ?_, ?_⟩
      · rw [lines]; omega
      · omega
      · rw [laid.format, planar]
        exact fun semi => absurd semi (by decide)
      · intro _
        rw [lines, columns]
        omega
    | false =>
      rw [planar, if_neg Bool.false_ne_true] at chroma
      refine ⟨?_, ?_, ?_, ?_⟩
      · rw [lines]; omega
      · omega
      · intro _
        rw [own.rowBytes]
        omega
      · rw [laid.format, planar]
        exact fun isPlanar => absurd isPlanar (by decide)

/-- The CPU gets at every buffer. -/
def CpuAccess.granted : CpuAccess := ⟨true, true, true⟩

/-- A whole picture. -/
def Rect.whole (width height : Nat) : Rect := ⟨0, 0, width, height⟩

theorem OwnSurface.pitch (own : OwnSurface fourcc width height s) :
    s.rowBytes ≤ s.hstride.toNat * sampleBytes s.is10bit := by
  rw [own.rowBytes, own.depth]
  exact Nat.mul_le_mul_right _ own.wide

/-- Planar images are of eight bits. -/
theorem OwnSurface.not_planar_deep (own : OwnSurface fourcc width height s)
    (format : image.fourcc = fourcc) : ¬(image.fourcc.planar = true ∧ s.is10bit = true) := by
  rintro ⟨planar, deep⟩
  rw [format] at planar
  rw [own.depth, planar_bytes planar] at deep
  cases deep

/-- A plane that fits begins in the buffer. -/
theorem offset_le_of_imagePlaneFits {plane bytes rows : Nat}
    (fits : imagePlaneFits image plane bytes rows = true) : image.offset plane ≤ image.capacity := by
  unfold imagePlaneFits at fits
  split at fits
  · cases fits
  · omega

/-- An upload that the image does not stand against is written to the placeholder. -/
theorem OwnSurface.putTarget (own : OwnSurface fourcc width height s) {source target : Rect}
    (whole : putsFullFrame s image source target = true) (format : image.fourcc = fourcc)
    (valid : imageLayoutValid image s.width.toNat s.height.toNat s.rowBytes = true) :
    ∃ size, Surface.putTarget .granted s image source target =
      some (s.hstride.toNat * sampleBytes s.is10bit, size) := by
  obtain ⟨size, layout, room⟩ := own.layout
  have plain := own.not_planar_deep format
  have rowFits := own.pitch
  have fd := own.fd
  have offset0 : image.offset 0 ≤ image.capacity := by
    rw [imageLayoutValid, Bool.and_eq_true, Bool.and_eq_true] at valid
    exact offset_le_of_imagePlaneFits valid.1.1
  refine ⟨size, ?_⟩
  unfold Surface.putTarget
  rw [if_neg]
  · dsimp only
    rw [layout]
    dsimp only
    rw [if_neg]
    simp only [CpuAccess.granted, Bool.true_eq_false, or_false]
    omega
  · rw [own.imported, whole, format, own.format, valid]
    rw [format] at plain
    simp [plain]

theorem rkPutImage_ok (laid : ImageLaid fourcc width height image)
    (own : OwnSurface fourcc width height s) (src priv : Bytes) :
    ∃ size, rkPutImage .granted s image (.whole width height) (.whole width height) src priv =
      (.ok (), putRows s image src priv (s.hstride.toNat * sampleBytes s.is10bit) size) := by
  obtain ⟨valid, -⟩ := laid.holds own le_rfl le_rfl
  have whole : putsFullFrame s image (.whole width height) (.whole width height) = true := by
    simp [putsFullFrame, Rect.whole, own.columns, own.lines, laid.columns, laid.lines,
      toUint32_natCast (own.small.1.trans (by decide)),
      toUint32_natCast (own.small.2.trans (by decide))]
  obtain ⟨size, accepted⟩ := own.putTarget whole laid.format valid
  refine ⟨size, ?_⟩
  rw [rkPutImage, accepted]
  rfl

theorem rkGetImage_ok (laid : ImageLaid fourcc imageWidth imageHeight image)
    (own : OwnSurface fourcc width height s) (wide : width ≤ imageWidth)
    (tall : height ≤ imageHeight) (normalizes : Bool) (m : PictureMemory) (dst : Bytes) :
    rkGetImage .granted normalizes s image (.whole width height) m dst =
      (.ok (), getRows s image m.priv dst (s.hstride.toNat * sampleBytes s.is10bit)) := by
  obtain ⟨size, layout, room⟩ := own.layout
  obtain ⟨valid, -⟩ := laid.holds own wide tall
  have whole : getsFullFrame s image (.whole width height) = true := by
    simp [getsFullFrame, Rect.whole, own.columns, own.lines, laid.columns, laid.lines,
      toUint32_natCast (own.small.1.trans (by decide)),
      toUint32_natCast (own.small.2.trans (by decide)), wide, tall]
  have plain := own.not_planar_deep laid.format
  have rowFits := own.pitch
  have buffer : s.readBuffer = some s.privBuf := by
    rw [RKSurface.readBuffer, own.imported, RKSurface.activeBuffer, own.imported, own.empty]
    rfl
  have bytes : s.readBytes m = m.priv := by
    rw [RKSurface.readBytes, RKSurface.activeBytes, own.imported, own.empty]
    rfl
  have hstride : s.exportedHstride = s.hstride := if_neg own.stride.ne'
  have vstride : s.exportedVstride = s.vstride := if_neg own.rows.ne'
  have fd := own.fd
  unfold rkGetImage
  rw [buffer, bytes, hstride, vstride]
  dsimp only
  rw [if_neg (by simp [own.imported, whole]), layout]
  dsimp only
  rw [if_neg]
  · rfl
  · rw [own.imported, laid.format, own.format, valid]
    rw [laid.format] at plain
    simp only [CpuAccess.granted, Bool.true_eq_false, or_false, Option.any_none, plain, false_or,
      ne_eq, not_true_eq_false, Bool.false_eq_true]
    omega

/-! ## The round trip -/

/-- The bytes of the image that a picture is read into, after it was put into the surface. -/
def roundTrip (s : RKSurface) (image image' : RKImage) (src priv dst : Bytes) (size : Nat) : Bytes :=
  let pitch := s.hstride.toNat * sampleBytes s.is10bit
  getRows s image' (putRows s image src priv pitch size) dst pitch

section

variable {image' : RKImage} {src priv dst : Bytes} {size x y : Nat}

theorem column_lt {bytes k : Nat} (inside : x < width) (small : k < bytes) :
    x * bytes + k < width * bytes := by
  have next : x * bytes + bytes ≤ width * bytes := by
    rw [← Nat.succ_mul]
    exact Nat.mul_le_mul_right bytes inside
  omega

theorem roundTrip_luma (own : OwnSurface fourcc width height s) (format : image.fourcc = fourcc)
    (format' : image'.fourcc = fourcc) (apart : PlanesApart s image') (inside : x < width)
    (small : y < height) :
    image'.lumaSample (roundTrip s image image' src priv dst size) x y =
      image.lumaSample src x y := by
  have lines : s.height.toNat = height := by rw [own.lines]; rfl
  unfold RKImage.lumaSample
  rw [format, format']
  apply List.map_congr_left
  intro k mem
  have column := column_lt inside (List.mem_range.mp mem)
  have wide : lumaBytes s image ≤ s.hstride.toNat * sampleBytes s.is10bit := by
    rw [own.lumaBytes format, ← own.rowBytes]
    exact own.pitch
  unfold roundTrip
  rw [getRows_luma apart (by omega) (by rw [own.lumaBytes format']; exact column),
    putRows_luma wide (by rw [lines]; exact own.tall) (by omega)
      (by rw [own.lumaBytes format]; exact column)]

/-- A sample of chroma that lies in the first `width` samples of its row. -/
theorem roundTrip_chroma (own : OwnSurface fourcc width height s) (format : image.fourcc = fourcc)
    (format' : image'.fourcc = fourcc) (apart : PlanesApart s image') {isV : Bool}
    (inside : 2 * x + isV.toNat < width) (small : y < height / 2) :
    image'.chromaSample (roundTrip s image image' src priv dst size) isV x y =
      image.chromaSample src isV x y := by
  have lines : s.height.toNat = height := by rw [own.lines]; rfl
  have columns : s.width.toNat = width := by rw [own.columns]; rfl
  have vstride : s.exportedVstride = s.vstride := if_neg own.rows.ne'
  unfold RKImage.chromaSample
  rw [format, format']
  cases planar : fourcc.planar with
  | true =>
    rw [if_pos rfl, if_pos rfl]
    have even : width % 2 = 0 := own.even (by rintro rfl; cases planar)
    have column : x < s.width.toNat / 2 := by
      rw [columns]
      cases isV <;> simp only [Bool.toNat_true, Bool.toNat_false] at inside <;> omega
    have narrow : s.width.toNat ≤ s.hstride.toNat * sampleBytes s.is10bit := by
      rw [columns, own.depth, planar_bytes planar]
      exact own.wide.trans (Nat.mul_one _).ge
    have planar' : image'.fourcc.planar = true := by rw [format', planar]
    have few : y < s.height.toNat / 2 := by rw [lines]; exact small
    have woven := @putRows_woven s image src priv (s.hstride.toNat * sampleBytes s.is10bit) size y x
      (by rw [format, planar]) narrow few column isV
    rw [format] at woven
    refine congrArg (fun byte => [byte]) (Eq.trans ?_ woven)
    rw [← format', ← vstride]
    exact getRows_parted apart planar' few column isV
  | false =>
    rw [if_neg Bool.false_ne_true, if_neg Bool.false_ne_true]
    apply List.map_congr_left
    intro k mem
    have column := column_lt inside (List.mem_range.mp mem)
    rw [← own.rowBytes] at column
    unfold roundTrip
    rw [getRows_chroma apart (by rw [format', planar]) (by omega) column, vstride,
      putRows_chroma (by rw [format, planar]) own.pitch (by omega) column]

/-- The last sample of V in a row of odd width is lost. -/
theorem roundTrip_lost (own : OwnSurface fourcc width height s)
    (laid : ImageLaid fourcc imageWidth imageHeight image') (wide : width ≤ imageWidth)
    (tall : height ≤ imageHeight) (odd : width % 2 = 1) (small : y < height / 2) :
    image'.chromaSample (roundTrip s image image' src priv dst size) true (width / 2) y = [0] := by
  obtain ⟨-, apart⟩ := laid.holds own wide tall
  obtain rfl : fourcc = .nv12 := by
    by_contra other
    have := own.even other
    omega
  have semi : image'.fourcc.planar = false := by rw [laid.format]; rfl
  have row := laid.wide
  have pitch := laid.chroma
  have capacity := laid.capacity
  have rows : y * image'.pitch 1 + image'.pitch 1 ≤ imageHeight / 2 * image'.pitch 1 := by
    rw [← Nat.succ_mul]
    exact Nat.mul_le_mul_right _ (by omega)
  change (imageWidth + imageWidth % 2) * 1 ≤ _ at row
  change image'.pitch 1 = image'.pitch 0 at pitch
  change image'.capacity = image'.offset 1 + 1 * (imageHeight / 2 * image'.pitch 1) at capacity
  unfold RKImage.chromaSample
  rw [if_neg (by rw [semi]; decide), laid.format]
  change [roundTrip s image image' src priv dst size
    (image'.offset 1 + y * image'.pitch 1 + ((2 * (width / 2) + 1) * 1 + 0))] = [0]
  unfold roundTrip
  rw [getRows_cleared apart semi]
  · rw [own.rowBytes]
    show width * 1 ≤ _
    omega
  · omega
  · omega

end

/-- A picture that is put into a surface of the driver and got back into an image of the same
format is the same if, and only if, its width is even or what gets lost was zero: the last sample
of V in each row of chroma. -/
theorem putImage_getImage_iff {env : CreateEnv} {fourcc : Fourcc}
    {width height imageWidth imageHeight : Int} {encoderInput allocates allocates' normalizes : Bool}
    {s : RKSurface} {image image' : RKImage}
    (created : createSurface env width height fourcc none encoderInput = some s)
    (source : rkCreateImage allocates fourcc width height = some image)
    (result : rkCreateImage allocates' fourcc imageWidth imageHeight = some image')
    (wide : width ≤ imageWidth) (tall : height ≤ imageHeight) (src dst : Bytes)
    (m : PictureMemory) :
    let whole := Rect.whole width.toNat height.toNat
    let put := rkPutImage .granted s image whole whole src m.priv
    let got := rkGetImage .granted normalizes s image' whole { m with priv := put.2 } dst
    put.1 = .ok () ∧ got.1 = .ok () ∧
      (SameSamples image src image' got.2 width.toNat height.toNat ↔
        width % 2 = 0 ∨
          ∀ y < height.toNat / 2, image.chromaSample src true (width.toNat / 2) y = [0]) := by
  obtain ⟨⟨positive, positive', -⟩, -⟩ := rkCreateImage_some source
  obtain ⟨w, rfl⟩ := Int.eq_ofNat_of_zero_le positive.le
  obtain ⟨h, rfl⟩ := Int.eq_ofNat_of_zero_le positive'.le
  obtain ⟨w', rfl⟩ := Int.eq_ofNat_of_zero_le (positive.le.trans wide)
  obtain ⟨h', rfl⟩ := Int.eq_ofNat_of_zero_le (positive'.le.trans tall)
  have own := createSurface_own created
  have laid := rkCreateImage_laid source
  have laid' := rkCreateImage_laid result
  obtain ⟨-, apart⟩ := laid'.holds own (Int.ofNat_le.mp wide) (Int.ofNat_le.mp tall)
  obtain ⟨size, put⟩ := rkPutImage_ok laid own src m.priv
  have got := rkGetImage_ok laid' own (Int.ofNat_le.mp wide) (Int.ofNat_le.mp tall) normalizes
    { m with priv := putRows s image src m.priv (s.hstride.toNat * sampleBytes s.is10bit) size } dst
  simp only [Int.toNat_natCast]
  rw [put, got]
  refine ⟨rfl, rfl, ?_⟩
  change SameSamples image src image' (roundTrip s image image' src m.priv dst size) w h ↔ _
  have evenHeight := laid.evenHeight
  constructor
  · intro same
    by_cases even : w % 2 = 0
    · exact .inl (by omega)
    · refine .inr fun y small => ?_
      rw [← same.chroma true (w / 2) (by omega) y (by omega)]
      exact roundTrip_lost own laid' (Int.ofNat_le.mp wide) (Int.ofNat_le.mp tall) (by omega) small
  · intro kept
    constructor
    case luma =>
      intro x inside y small
      exact roundTrip_luma own laid.format laid'.format apart inside small
    case chroma =>
      intro isV x inside y small
      by_cases copied : 2 * x + isV.toNat < w
      · exact roundTrip_chroma own laid.format laid'.format apart copied (by omega)
      · -- only the last sample of V in a row of odd width is left
        have last : isV = true ∧ x = w / 2 ∧ w % 2 = 1 := by
          cases isV with
          | false =>
            rw [Bool.toNat_false] at copied
            omega
          | true =>
            rw [Bool.toNat_true] at copied
            exact ⟨rfl, by omega, by omega⟩
        obtain ⟨rfl, rfl, odd⟩ := last
        rw [kept.resolve_left (by omega) y (by omega)]
        exact roundTrip_lost own laid' (Int.ofNat_le.mp wide) (Int.ofNat_le.mp tall) odd (by omega)

end

/-- The memory of a new surface, where nothing is known about the placeholder. -/
def newMemory : PictureMemory := ⟨fun _ => 0, fun _ => 0, fun _ => 5, fun _ => 0⟩

/-- A planar picture of 6x4 comes back whole. -/
theorem putImage_getImage_iff_planar :
    ∃ s image, createSurface plainCreate 6 4 .i420 none false = some s ∧
      rkCreateImage true .i420 6 4 = some image ∧
      let src : Bytes := fun i => UInt8.ofNat i
      let put := rkPutImage .granted s image (.whole 6 4) (.whole 6 4) src newMemory.priv
      let got := rkGetImage .granted true s image (.whole 6 4) { newMemory with priv := put.2 }
        fun _ => 0
      got.1 = .ok () ∧ SameSamples image src image got.2 6 4 := by
  obtain ⟨s, image, created, made⟩ : ∃ s image,
      createSurface plainCreate 6 4 .i420 none false = some s ∧
        rkCreateImage true .i420 6 4 = some image := ⟨_, _, rfl, rfl⟩
  obtain ⟨-, read, same⟩ := @putImage_getImage_iff plainCreate .i420 6 4 6 4 false true true true s
    image image created made made le_rfl le_rfl (fun i => UInt8.ofNat i) (fun _ => 0) newMemory
  exact ⟨s, image, created, made, read, same.mpr (.inl rfl)⟩

/-- In a picture of 3x2, the V of its last column is not put into the surface. -/
theorem putImage_getImage_odd :
    ∃ s image, createSurface plainCreate 3 2 .nv12 none false = some s ∧
      rkCreateImage true .nv12 3 2 = some image ∧
      let put := rkPutImage .granted s image (.whole 3 2) (.whole 3 2) (fun _ => 1) newMemory.priv
      let got := rkGetImage .granted true s image (.whole 3 2) { newMemory with priv := put.2 }
        fun _ => 0
      put.1 = .ok () ∧ got.1 = .ok () ∧ ¬SameSamples image (fun _ => 1) image got.2 3 2 := by
  refine ⟨_, _, rfl, rfl, rfl, rfl, fun same => ?_⟩
  exact absurd (same.chroma true 1 (by decide) 0 (by decide)) (by decide)

end RockchipVaapi.Surface
