import RockchipVaapi.Surface.State

/-!
# Conversions

The checks with which `convert.c` refuses a conversion before the RGA or the CPU writes a byte.
Whether the work itself succeeds is an input.
-/

namespace RockchipVaapi.Surface

/-- `RK_RGA3_MIN_ACTIVE_WIDTH`. -/
def rkRga3MinActiveWidth : Nat := 68

/-- The layouts of a copy between linear images, with strides in samples. -/
structure RepackLayout where
  source : MppBuffer
  destination : MppBuffer
  sourceSize : Nat
  destinationSize : Nat

/-- The checks that `rk_repack_nv12` and `rk_repack_p010` share (`convert.c:137-147`,
`convert.c:219-230`). -/
def repackLayout (is10bit : Bool) (source destination : Option MppBuffer)
    (width height sourceStride sourceVerticalStride destinationStride
      destinationVerticalStride : Nat) : Option RepackLayout :=
  match source, destination, layoutSize is10bit sourceStride sourceVerticalStride,
    layoutSize is10bit destinationStride destinationVerticalStride with
  | some source, some destination, some sourceSize, some destinationSize =>
    if width = 0 ∨ height = 0 ∨ width % 2 = 1 ∨ height % 2 = 1 ∨ sourceStride < width ∨
        sourceVerticalStride < height ∨ destinationStride < width ∨
        destinationVerticalStride < height ∨ source.size < sourceSize ∨
        destination.size < destinationSize then none
    else some ⟨source, destination, sourceSize, destinationSize⟩
  | _, _, _, _ => none

/-- `rk_repack_nv12` (`convert.c:129-208`), which the RGA carries out. -/
def rkRepackNv12 (source destination : Option MppBuffer)
    (width height sourceStride sourceVerticalStride destinationStride
      destinationVerticalStride : Nat) (done : Bool) : Bool :=
  match repackLayout false source destination width height sourceStride sourceVerticalStride
    destinationStride destinationVerticalStride with
  | none => false
  | some layout =>
    0 ≤ layout.source.fd && 0 ≤ layout.destination.fd && layout.sourceSize ≤ intMax &&
      layout.destinationSize ≤ intMax && width ≤ intMax && height ≤ intMax &&
      sourceStride ≤ intMax && sourceVerticalStride ≤ intMax && destinationStride ≤ intMax &&
      destinationVerticalStride ≤ intMax && done

/-- `rk_repack_p010` (`convert.c:210-288`), which the CPU carries out. -/
def rkRepackP010 (source destination : Option MppBuffer)
    (width height sourceStride sourceVerticalStride destinationStride
      destinationVerticalStride : Nat) (done : Bool) : Bool :=
  (repackLayout true source destination width height sourceStride sourceVerticalStride
    destinationStride destinationVerticalStride).isSome && done

/-- The copy of a picture of either depth. -/
def rkRepack (is10bit : Bool) (source destination : Option MppBuffer)
    (width height sourceStride sourceVerticalStride destinationStride
      destinationVerticalStride : Nat) (done : Bool) : Bool :=
  if is10bit then
    rkRepackP010 source destination width height sourceStride sourceVerticalStride
      destinationStride destinationVerticalStride done
  else
    rkRepackNv12 source destination width height sourceStride sourceVerticalStride
      destinationStride destinationVerticalStride done

/-- `rk_rga_nv15_to_p010_geometry_supported` (`convert.c:25-32`). -/
def rkRgaNv15ToP010GeometrySupported (width : Nat) (sourceAfbc : Bool) : Bool :=
  !sourceAfbc || decide (rkRga3MinActiveWidth ≤ width)

/-- `source_layout_valid` of `rk_convert_nv15_to_p010` (`convert.c:314-318`). -/
def nv15SourceLayoutValid (source : Option MppBuffer) (sourceByteStride verticalStride : Nat)
    (sourceAfbc : Bool) : Bool :=
  sourceAfbc ||
    match source, rkNv12LayoutSize sourceByteStride verticalStride with
    | some source, some sourceLayoutSize => decide (sourceLayoutSize ≤ source.size)
    | _, _ => false

/-- The geometry checks of `rk_convert_nv15_to_p010` (`convert.c:304-326`), with the size of the
P010 image. The group of the pool is always there. -/
def nv15ToP010Layout (source : Option MppBuffer) (width height sourceByteStride pixelStride
    verticalStride sourceOffsetX sourceOffsetY : Nat) (sourceAfbc : Bool) :
    Option (MppBuffer × Nat) :=
  match source, rkP010LayoutSize pixelStride verticalStride with
  | some buffer, some convertedSize =>
    if !rkRgaNv15ToP010GeometrySupported width sourceAfbc ||
        !nv15SourceLayoutValid source sourceByteStride verticalStride sourceAfbc || width = 0 ||
        height = 0 || pixelStride < sourceOffsetX || pixelStride - sourceOffsetX < width ||
        verticalStride < sourceOffsetY || verticalStride - sourceOffsetY < height then none
    else some (buffer, convertedSize)
  | _, _ => none

/-- `rk_convert_nv15_to_p010` (`convert.c:290-407`). `converts` says whether the RGA does it. -/
def rkConvertNv15ToP010 (alloc : Allocator) (source : Option MppBuffer)
    (width height sourceByteStride pixelStride verticalStride sourceOffsetX sourceOffsetY : Nat)
    (sourceAfbc converts : Bool) : Option MppBuffer :=
  match nv15ToP010Layout source width height sourceByteStride pixelStride verticalStride
    sourceOffsetX sourceOffsetY sourceAfbc with
  | none => none
  | some (source, convertedSize) =>
    match alloc.get convertedSize with
    | none => none
    | some converted =>
      if source.fd < 0 ∨ converted.fd < 0 ∨ intMax < source.size ∨ intMax < convertedSize ∨
          intMax < width ∨ intMax < height ∨ intMax < sourceByteStride ∨ intMax < pixelStride ∨
          intMax < verticalStride ∨ converts = false then none
      else some converted

/-! ## What a conversion that is not refused says -/

section

variable {is10bit done : Bool} {source destination : Option MppBuffer}
  {width height sourceStride sourceVerticalStride destinationStride destinationVerticalStride : Nat}

theorem repackLayout_some {layout : RepackLayout}
    (h : repackLayout is10bit source destination width height sourceStride sourceVerticalStride
      destinationStride destinationVerticalStride = some layout) :
    destination = some layout.destination ∧ width ≤ destinationStride ∧
      height ≤ destinationVerticalStride ∧
      layoutSize is10bit destinationStride destinationVerticalStride =
        some layout.destinationSize ∧
      layout.destinationSize ≤ layout.destination.size := by
  unfold repackLayout at h
  split at h
  · rename_i sourceSize destinationSize _ destinationLayout
    split at h
    · cases h
    · rename_i valid
      simp only [not_or, Nat.not_lt] at valid
      obtain ⟨-, -, -, -, -, -, wide, tall, -, room⟩ := valid
      obtain rfl := Option.some.inj h
      exact ⟨rfl, wide, tall, destinationLayout, room⟩
  · cases h

/-- A copy that succeeds has a destination with room for the image. -/
theorem rkRepackNv12_true
    (h : rkRepackNv12 source destination width height sourceStride sourceVerticalStride
      destinationStride destinationVerticalStride done = true) :
    width ≤ destinationStride ∧ height ≤ destinationVerticalStride ∧
      ∃ buffer size, destination = some buffer ∧
        layoutSize false destinationStride destinationVerticalStride = some size ∧
        size ≤ buffer.size ∧ size ≤ intMax := by
  unfold rkRepackNv12 at h
  split at h
  · cases h
  · rename_i layout valid
    obtain ⟨same, wide, tall, size, room⟩ := repackLayout_some valid
    simp only [Bool.and_eq_true, decide_eq_true_eq] at h
    exact ⟨wide, tall, layout.destination, layout.destinationSize, same, size, room, by omega⟩

theorem rkRepackP010_true
    (h : rkRepackP010 source destination width height sourceStride sourceVerticalStride
      destinationStride destinationVerticalStride done = true) :
    width ≤ destinationStride ∧ height ≤ destinationVerticalStride ∧
      ∃ buffer size, destination = some buffer ∧
        layoutSize true destinationStride destinationVerticalStride = some size ∧
        size ≤ buffer.size := by
  unfold rkRepackP010 at h
  rw [Bool.and_eq_true, Option.isSome_iff_exists] at h
  obtain ⟨⟨layout, valid⟩, -⟩ := h
  obtain ⟨same, wide, tall, size, room⟩ := repackLayout_some valid
  exact ⟨wide, tall, layout.destination, layout.destinationSize, same, size, room⟩

theorem rkRepack_true
    (h : rkRepack is10bit source destination width height sourceStride sourceVerticalStride
      destinationStride destinationVerticalStride done = true) :
    width ≤ destinationStride ∧ height ≤ destinationVerticalStride ∧
      ∃ buffer size, destination = some buffer ∧
        layoutSize is10bit destinationStride destinationVerticalStride = some size ∧
        size ≤ buffer.size := by
  cases is10bit with
  | false =>
    obtain ⟨wide, tall, buffer, size, same, layout, room, -⟩ := rkRepackNv12_true h
    exact ⟨wide, tall, buffer, size, same, layout, room⟩
  | true => exact rkRepackP010_true h

end

section

variable {alloc : Allocator} {source : Option MppBuffer} {afbc converts : Bool}
  {width height byteStride pixelStride verticalStride offsetX offsetY : Nat}

/-- The converted picture has room for a P010 image that encloses it. -/
theorem rkConvertNv15ToP010_some {converted : MppBuffer}
    (h : rkConvertNv15ToP010 alloc source width height byteStride pixelStride verticalStride
      offsetX offsetY afbc converts = some converted) :
    width ≤ pixelStride ∧ height ≤ verticalStride ∧
      ∃ size, layoutSize true pixelStride verticalStride = some size ∧ size ≤ converted.size ∧
        size ≤ intMax := by
  unfold rkConvertNv15ToP010 at h
  split at h
  · cases h
  · rename_i buffer convertedSize layout
    split at h
    · cases h
    · rename_i allocated got
      split at h
      · cases h
      · rename_i valid
        obtain rfl := Option.some.inj h
        simp only [not_or, Nat.not_lt] at valid
        unfold nv15ToP010Layout at layout
        split at layout
        · rename_i size
          split at layout
          · cases layout
          · rename_i geometry
            simp only [Bool.or_eq_true, decide_eq_true_eq, not_or, Nat.not_lt] at geometry
            obtain ⟨-, rfl⟩ := Prod.mk.inj (Option.some.inj layout)
            obtain ⟨⟨⟨⟨-, -⟩, inX⟩, -⟩, inY⟩ := geometry
            exact ⟨by omega, by omega, _, size, alloc.size_le got, by omega⟩
        · cases layout

end

end RockchipVaapi.Surface
