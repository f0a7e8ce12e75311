import RockchipVaapi.Misc.Planes

/-!
# Frame layouts

The sizes that `frame_layout.c` computes for linear NV12 and P010 images and for the placeholder
of a surface, with the overflow checks of `size_t`.
-/

namespace RockchipVaapi.Surface

/-- The largest `size_t`. -/
def sizeMax : Nat := 2 ^ 64 - 1

/-- `align_up` (`frame_layout.c:5-11`). The alignment is a power of two. -/
def alignUp (value alignment : Nat) : Option Nat :=
  if alignment = 0 ∨ sizeMax - (alignment - 1) < value then none
  else some (roundUp alignment value)

/-- `rk_nv12_layout_size` (`frame_layout.c:13-26`). -/
def rkNv12LayoutSize (byteStride verticalStride : Nat) : Option Nat :=
  if byteStride = 0 ∨ verticalStride = 0 ∨ verticalStride % 2 = 1 ∨
      sizeMax / verticalStride < byteStride then none
  else
    let lumaSize := byteStride * verticalStride
    if sizeMax - lumaSize / 2 < lumaSize then none else some (lumaSize + lumaSize / 2)

/-- `rk_p010_layout_size` (`frame_layout.c:28-35`). -/
def rkP010LayoutSize (pixelStride verticalStride : Nat) : Option Nat :=
  if pixelStride = 0 ∨ sizeMax / 2 < pixelStride then none
  else rkNv12LayoutSize (pixelStride * 2) verticalStride

/-- `rk_surface_buffer_size` (`frame_layout.c:37-58`). -/
def rkSurfaceBufferSize (width height : Nat) : Option Nat :=
  if width = 0 ∨ height = 0 then none
  else
    match alignUp width 256, alignUp height 64 with
    | some alignedWidth, some alignedHeight =>
      -- VP9 decodes to an odd multiple of 256 bytes.
      let vp9Stride := alignedWidth ||| 256
      if sizeMax / alignedHeight < vp9Stride then none
      else
        let lumaSize := vp9Stride * alignedHeight
        if sizeMax / 2 < lumaSize then none else some (lumaSize * 2)
    | _, _ => none

/-- `rk_surface_placeholder_size` (`frame_layout.c:60-81`). -/
def rkSurfacePlaceholderSize (width height : Nat) (is10bit : Bool) : Option Nat :=
  match rkSurfaceBufferSize width height with
  | none => none
  | some conservativeSize =>
    if is10bit then
      match alignUp width 16, alignUp height 16 with
      | some pixelStride, some verticalStride =>
        match rkP010LayoutSize pixelStride verticalStride with
        | none => none
        | some p010Size => some (max p010Size conservativeSize)
      | _, _ => none
    else some conservativeSize

/-- The bytes of a sample: of NV12, or of P010. -/
def sampleBytes (is10bit : Bool) : Nat := if is10bit then 2 else 1

/-- The size of a linear image whose stride is in samples. -/
def layoutSize (is10bit : Bool) (stride verticalStride : Nat) : Option Nat :=
  if is10bit then rkP010LayoutSize stride verticalStride else rkNv12LayoutSize stride verticalStride

/-! ## What the sizes say -/

section

variable {stride vstride size width height : Nat} {is10bit : Bool}

theorem rkNv12LayoutSize_some (h : rkNv12LayoutSize stride vstride = some size) :
    0 < stride ∧ 0 < vstride ∧ vstride % 2 = 0 ∧
      size = stride * vstride + stride * (vstride / 2) := by
  unfold rkNv12LayoutSize at h
  split at h
  · cases h
  · rename_i valid
    simp only [not_or] at valid
    obtain ⟨strideNe, vstrideNe, even, -⟩ := valid
    simp only at h
    split at h
    · cases h
    · have half : stride * vstride / 2 = stride * (vstride / 2) :=
        Nat.mul_div_assoc stride (Nat.dvd_of_mod_eq_zero (by omega))
      rw [← Option.some.inj h, half]
      exact ⟨Nat.pos_of_ne_zero strideNe, Nat.pos_of_ne_zero vstrideNe, by omega, rfl⟩

theorem rkNv12LayoutSize_eq (wide : 0 < stride) (tall : 0 < vstride)
    (even : vstride % 2 = 0) (small : stride * vstride + stride * (vstride / 2) ≤ sizeMax) :
    rkNv12LayoutSize stride vstride = some (stride * vstride + stride * (vstride / 2)) := by
  have half : stride * vstride / 2 = stride * (vstride / 2) :=
    Nat.mul_div_assoc stride (Nat.dvd_of_mod_eq_zero even)
  have fits : ¬sizeMax / vstride < stride := by
    rw [Nat.not_lt, Nat.le_div_iff_mul_le tall]
    omega
  unfold rkNv12LayoutSize
  rw [if_neg (by rw [not_or, not_or, not_or]; exact ⟨by omega, by omega, by omega, fits⟩)]
  simp only [half]
  rw [if_neg (by omega)]

/-- A size is that of the rows of luma and of half as many rows of chroma. -/
theorem layoutSize_some (h : layoutSize is10bit stride vstride = some size) :
    0 < stride ∧ 0 < vstride ∧ vstride % 2 = 0 ∧
      size = stride * sampleBytes is10bit * vstride +
        stride * sampleBytes is10bit * (vstride / 2) := by
  cases is10bit with
  | false =>
    rw [sampleBytes, if_neg Bool.false_ne_true, Nat.mul_one]
    exact rkNv12LayoutSize_some h
  | true =>
    change rkP010LayoutSize stride vstride = some size at h
    unfold rkP010LayoutSize at h
    split at h
    · cases h
    · rename_i valid
      simp only [not_or] at valid
      obtain ⟨-, tall, even, same⟩ := rkNv12LayoutSize_some h
      exact ⟨Nat.pos_of_ne_zero valid.1, tall, even, same⟩

theorem alignUp_some {value alignment result : Nat} (h : alignUp value alignment = some result) :
    0 < alignment ∧ result = roundUp alignment value := by
  unfold alignUp at h
  split at h
  · cases h
  · rename_i valid
    simp only [not_or] at valid
    exact ⟨Nat.pos_of_ne_zero valid.1, (Option.some.inj h).symm⟩

/-- `align_up` computes with a mask, for an alignment that is a power of two. -/
theorem alignUp_mask {value n result : Nat} (unit : n ≤ 64)
    (h : alignUp value (2 ^ n) = some result) :
    result = (value + 2 ^ n - 1) &&& (2 ^ 64 - 2 ^ n) := by
  have pos : 0 < 2 ^ n := Nat.two_pow_pos n
  have small : 2 ^ n ≤ 2 ^ 64 := Nat.pow_le_pow_right (by decide) unit
  have limit : sizeMax = 2 ^ 64 - 1 := rfl
  obtain ⟨-, rounded⟩ := alignUp_some h
  unfold alignUp at h
  split at h
  · cases h
  · rename_i fits
    have noWrap : value + 2 ^ n - 1 < 2 ^ 64 := by
      generalize 2 ^ n = alignment at pos small fits
      omega
    rw [rounded, roundUp, and_unitMask unit noWrap]

/-- The decode allocation is twice the luma of the padded size, and no product wraps. -/
theorem rkSurfaceBufferSize_eq (h : rkSurfaceBufferSize width height = some size) :
    size = (roundUp 256 width ||| 256) * roundUp 64 height * 2 ∧ size ≤ sizeMax := by
  unfold rkSurfaceBufferSize at h
  split at h
  · cases h
  · split at h
    · rename_i alignedWidth alignedHeight widthEq heightEq
      obtain ⟨-, rfl⟩ := alignUp_some widthEq
      obtain ⟨-, rfl⟩ := alignUp_some heightEq
      simp only at h
      split at h
      · cases h
      · split at h
        · cases h
        · rename_i small
          obtain rfl := Option.some.inj h
          exact ⟨rfl, by omega⟩
    · cases h

/-- The decode allocation holds twice the luma of the rounded size. -/
theorem rkSurfaceBufferSize_some (h : rkSurfaceBufferSize width height = some size) :
    roundUp 256 width * roundUp 64 height * 2 ≤ size := by
  obtain ⟨rfl, -⟩ := rkSurfaceBufferSize_eq h
  have wider : roundUp 256 width ≤ roundUp 256 width ||| 256 := Nat.left_le_or
  exact Nat.mul_le_mul_right 2 (Nat.mul_le_mul_right _ wider)

/-- The placeholder holds the linear image of the aligned size of the surface. -/
theorem rkSurfacePlaceholderSize_some {alignment : Nat}
    (h : rkSurfacePlaceholderSize width height is10bit = some size)
    (divides : alignment ∣ 256) (tenBit : is10bit = true → alignment = 16) :
    roundUp alignment width * sampleBytes is10bit * roundUp 16 height +
      roundUp alignment width * sampleBytes is10bit * (roundUp 16 height / 2) ≤ size := by
  unfold rkSurfacePlaceholderSize at h
  split at h
  · cases h
  · rename_i conservative bufferSize
    cases is10bit with
    | false =>
      simp only [Bool.false_eq_true, if_false] at h
      obtain rfl := Option.some.inj h
      have wide : roundUp alignment width ≤ roundUp 256 width :=
        roundUp_le_roundUp (by omega) divides width
      have tall : roundUp 16 height ≤ roundUp 64 height :=
        roundUp_le_roundUp (by omega) (by decide) height
      have luma := Nat.mul_le_mul wide tall
      have chroma : roundUp alignment width * (roundUp 16 height / 2) ≤
          roundUp alignment width * roundUp 16 height :=
        Nat.mul_le_mul_left _ (Nat.div_le_self _ _)
      have room := rkSurfaceBufferSize_some bufferSize
      rw [sampleBytes, if_neg Bool.false_ne_true, Nat.mul_one]
      omega
    | true =>
      obtain rfl := tenBit rfl
      simp only [if_true] at h
      split at h
      · rename_i pixelStride verticalStride strideEq vstrideEq
        obtain ⟨-, rfl⟩ := alignUp_some strideEq
        obtain ⟨-, rfl⟩ := alignUp_some vstrideEq
        split at h
        · cases h
        · rename_i p010Size layout
          obtain ⟨-, -, -, same⟩ := layoutSize_some (show layoutSize true _ _ = some _ from layout)
          rw [← Option.some.inj h, ← same]
          exact Nat.le_max_left _ _
      · cases h

end

end RockchipVaapi.Surface
