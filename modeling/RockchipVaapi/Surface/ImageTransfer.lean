import RockchipVaapi.Surface.ImageRoundTrip

/-!
# Created images and the checks of their transfers

`rk_CreateImage` checks the size of the whole image in `size_t` and computes the offsets of the
planes in `unsigned int`. No partial product is larger than the whole, so the offsets are those of
planes that lie one behind the other, and a transfer of the whole picture passes
`image_plane_fits`. A picture is refused only for an odd dimension or for its size.
-/

namespace RockchipVaapi.Surface

/-- A plane of an image, with the rows that a picture of the image's size has there. -/
def RKImage.plane (image : RKImage) (plane : Nat) : Plane :=
  ⟨image.offset plane, image.pitch plane, if plane = 0 then image.height else image.height / 2⟩

/-- The planes of an image. -/
def RKImage.planes (image : RKImage) : List Plane := (List.range image.numPlanes).map image.plane

/-- The size of an image: one row of luma for each row of the picture, and half as many rows of
chroma, of full width or twice of half the width. -/
def imageBytes (fourcc : Fourcc) (width height : Nat) : Nat :=
  let pitch := roundUp 16 width * sampleBytes (fourcc == .p010)
  pitch * height +
    if fourcc.planar then 2 * (pitch / 2 * (height / 2)) else pitch * (height / 2)

/-- The odd dimensions that a format forbids: chroma has half the rows in each of them, and half
the columns where it has planes of its own. -/
def Fourcc.ForbidsOdd (fourcc : Fourcc) (width height : Nat) : Prop :=
  height % 2 = 1 ∨ fourcc.planar = true ∧ width % 2 = 1

/-- An image of a picture's size that a transfer of the whole picture may use. -/
structure TransferReady (fourcc : Fourcc) (width height : Nat) (image : RKImage) : Prop where
  count : image.planes.length = if fourcc.planar then 3 else 2
  apart : image.planes.Pairwise Plane.Apart
  inside : ∀ plane ∈ image.planes, plane.Inside image.capacity
  small : image.capacity ≤ uint32Max
  pitch : image.pitch 0 = roundUp 16 width * sampleBytes (fourcc == .p010)
  offset1 : image.offset 1 = image.pitch 0 * height
  offset2 : fourcc.planar = true → image.offset 2 = image.offset 1 + image.pitch 1 * (height / 2)
  valid : imageLayoutValid image width height (width * sampleBytes (fourcc == .p010)) = true

section

variable {fourcc : Fourcc} {width height : Nat} {image : RKImage}

theorem rkCreateImage_pitch {allocates : Bool}
    (created : rkCreateImage allocates fourcc width height = some image) :
    image.pitch 0 = roundUp 16 width * sampleBytes (fourcc == .p010) ∧
      image.capacity ≤ uint32Max := by
  obtain ⟨-, bytes, allocation, sampled, -, small, rfl⟩ := rkCreateImage_some created
  obtain ⟨rfl, -⟩ := bytesPerSample_some sampled
  exact ⟨rfl, small⟩

/-- The planes of a created image, each behind the one before it. -/
theorem ImageLaid.planes (laid : ImageLaid fourcc width height image) :
    image.planes.Pairwise Plane.Apart ∧ ∀ plane ∈ image.planes, plane.Inside image.capacity := by
  have offset0 := laid.offset0
  have offset1 := laid.offset1
  have capacity := laid.capacity
  have numPlanes := laid.numPlanes
  have lines := laid.lines
  unfold RKImage.planes
  cases planar : fourcc.planar with
  | true =>
    have offset2 := laid.offset2 planar
    have chroma2 := laid.chroma2 planar
    rw [planar, if_pos rfl] at capacity numPlanes
    rw [numPlanes, show (List.range 3).map image.plane =
      [image.plane 0, image.plane 1, image.plane 2] from rfl]
    simp [Plane.Apart, Plane.Inside, Plane.stop, RKImage.plane, offset0, offset1, offset2,
      chroma2, lines, Nat.mul_comm (image.pitch _)]
    omega
  | false =>
    rw [planar, if_neg Bool.false_ne_true] at capacity numPlanes
    rw [numPlanes, show (List.range 2).map image.plane = [image.plane 0, image.plane 1] from rfl]
    simp [Plane.Apart, Plane.Inside, Plane.stop, RKImage.plane, offset0, offset1, lines,
      Nat.mul_comm (image.pitch _)]
    omega

theorem rkCreateImage_ready {allocates : Bool}
    (created : rkCreateImage allocates fourcc width height = some image) :
    TransferReady fourcc width height image := by
  have laid := rkCreateImage_laid created
  obtain ⟨pitch, small⟩ := rkCreateImage_pitch created
  obtain ⟨apart, inside⟩ := laid.planes
  exact
    { count := by rw [RKImage.planes, List.length_map, List.length_range, laid.numPlanes]
      apart := apart
      inside := inside
      small := small
      pitch := pitch
      offset1 := by rw [laid.offset1, Nat.mul_comm]
      offset2 := fun planar => by rw [laid.offset2 planar, Nat.mul_comm (image.pitch 1)]
      valid := laid.valid le_rfl le_rfl }

/-! ## What is refused -/

/-- The capacity of a created image. -/
theorem rkCreateImage_capacity {allocates : Bool}
    (created : rkCreateImage allocates fourcc width height = some image) :
    image.capacity = imageBytes fourcc width height := by
  have laid := rkCreateImage_laid created
  obtain ⟨pitch, -⟩ := rkCreateImage_pitch created
  have chroma := laid.chroma
  rw [laid.capacity, laid.offset1, imageBytes, ← pitch, Nat.mul_comm (image.pitch 0) height]
  cases planar : fourcc.planar with
  | true =>
    rw [planar, if_pos rfl] at chroma
    simp only [if_true, chroma, Nat.mul_comm (height / 2)]
  | false =>
    rw [planar, if_neg Bool.false_ne_true] at chroma
    simp only [Bool.false_eq_true, if_false, chroma, Nat.one_mul, Nat.mul_comm (height / 2)]

theorem bytesPerSample_even (yuv : fourcc ∈ [.nv12, .p010, .i420, .yv12])
    (even : ¬fourcc.ForbidsOdd width height) :
    bytesPerSample fourcc width height = some (sampleBytes (fourcc == .p010)) := by
  unfold Fourcc.ForbidsOdd at even
  cases fourcc with
  | nv12 | p010 => rfl
  | i420 | yv12 =>
    rw [bytesPerSample, if_neg (by simp only [Fourcc.planar, true_and] at even; omega)]
    rfl
  | rgba | rgbx | bgra | bgrx => simp at yuv

/-- The allocation succeeds for a size that fits into 32 bits. -/
theorem imageAllocation_small (wide : 0 < width) (tall : 0 < height)
    (even : ¬fourcc.ForbidsOdd width height) (small : imageBytes fourcc width height ≤ uint32Max) :
    imageAllocation fourcc.planar (roundUp 16 width * sampleBytes (fourcc == .p010))
      (if fourcc.planar then roundUp 16 width / 2
        else roundUp 16 width * sampleBytes (fourcc == .p010)) height =
      some (imageBytes fourcc width height) := by
  have large : uint32Max ≤ sizeMax := by decide
  unfold Fourcc.ForbidsOdd at even
  unfold imageBytes at small ⊢
  unfold imageAllocation
  cases planar : fourcc.planar with
  | true =>
    rw [planar] at small
    simp only [planar_bytes planar, sampleBytes, Bool.false_eq_true, if_false, if_true,
      Nat.mul_one] at small ⊢
    rw [if_neg (by omega)]
  | false =>
    rw [planar] at small
    simp only [Bool.false_eq_true, if_false] at small ⊢
    have samples : 0 < sampleBytes (fourcc == .p010) := by
      unfold sampleBytes
      split <;> decide
    have pitch : 0 < roundUp 16 width * sampleBytes (fourcc == .p010) :=
      Nat.mul_pos (Nat.lt_of_lt_of_le wide (le_roundUp (by decide) width)) samples
    exact rkNv12LayoutSize_eq pitch tall (by omega) (small.trans large)

/-- Only an odd dimension or the size of the image is refused. -/
theorem rkCreateImage_none_iff (yuv : fourcc ∈ [.nv12, .p010, .i420, .yv12])
    (positive : 0 < width ∧ 0 < height) (wide : width ≤ 65535) (tall : height ≤ 65535) :
    rkCreateImage true fourcc width height = none ↔
      fourcc.ForbidsOdd width height ∨ uint32Max < imageBytes fourcc width height := by
  constructor
  · intro refused
    by_contra fine
    rw [not_or, Nat.not_lt] at fine
    obtain ⟨even, small⟩ := fine
    have size : ¬((width : Int) ≤ 0 ∨ (height : Int) ≤ 0 ∨ ushrtMax < width ∨ ushrtMax < height) := by
      unfold ushrtMax
      omega
    have pitch : ¬uint32Max / sampleBytes (fourcc == .p010) < roundUp 16 width := by
      have rounded := roundUp_lt (show 0 < 16 by decide) width
      have limit : uint32Max = 4294967295 := rfl
      unfold sampleBytes
      split <;> omega
    have allocated := imageAllocation_small positive.1 positive.2 even small
    unfold rkCreateImage at refused
    simp only [if_neg size, Int.toNat_natCast, bytesPerSample_even yuv even, if_neg pitch,
      allocated] at refused
    rw [if_neg (by rw [not_or, Nat.not_lt]; exact ⟨small, by decide⟩)] at refused
    cases refused
  · intro refused
    cases created : rkCreateImage true fourcc width height with
    | none => rfl
    | some image =>
      have laid := rkCreateImage_laid created
      have evenHeight := laid.evenHeight
      rcases refused with (odd | ⟨planar, odd⟩) | large
      · omega
      · have evenWidth := laid.evenWidth planar
        omega
      · obtain ⟨-, small⟩ := rkCreateImage_pitch created
        rw [rkCreateImage_capacity created] at small
        omega

end

/-- Every image that `rk_CreateImage` makes passes the checks of a transfer of a whole picture, and
it makes one for every size up to 65535 whose dimensions the format allows and whose layout fits
into 32 bits. -/
theorem createImage_transfers {fourcc : Fourcc} (yuv : fourcc ∈ [.nv12, .p010, .i420, .yv12])
    {width height : Int} (wide : width ≤ 65535) (tall : height ≤ 65535) :
    (∀ allocates image, rkCreateImage allocates fourcc width height = some image →
        TransferReady fourcc width.toNat height.toNat image) ∧
      (0 < width → 0 < height →
        (rkCreateImage true fourcc width height = none ↔
          fourcc.ForbidsOdd width.toNat height.toNat ∨
            uint32Max < imageBytes fourcc width.toNat height.toNat)) := by
  constructor
  · intro allocates image created
    obtain ⟨⟨positive, positive', -⟩, -⟩ := rkCreateImage_some created
    obtain ⟨w, rfl⟩ := Int.eq_ofNat_of_zero_le positive.le
    obtain ⟨h, rfl⟩ := Int.eq_ofNat_of_zero_le positive'.le
    exact rkCreateImage_ready created
  · intro positive positive'
    obtain ⟨w, rfl⟩ := Int.eq_ofNat_of_zero_le positive.le
    obtain ⟨h, rfl⟩ := Int.eq_ofNat_of_zero_le positive'.le
    exact rkCreateImage_none_iff yuv (by omega) (by omega) (by omega)

/-- The tallest NV12 image of the full width. -/
theorem createImage_transfers_large :
    (∀ allocates image, rkCreateImage allocates .nv12 65535 43690 = some image →
        TransferReady .nv12 65535 43690 image) ∧
      ((0 : Int) < 65535 → (0 : Int) < 43690 →
        (rkCreateImage true .nv12 65535 43690 = none ↔
          Fourcc.nv12.ForbidsOdd 65535 43690 ∨ uint32Max < imageBytes .nv12 65535 43690)) :=
  createImage_transfers (by decide) (by decide) (by decide)

end RockchipVaapi.Surface
