import Mathlib.Data.UInt
import RockchipVaapi.H264.ParameterSets
import RockchipVaapi.Misc.Table

/-!
# The derived H.264 level

`h264_derive_level_idc` takes the first row of its table that allows the picture. The rows rise in
every limit that a picture can exceed, so that it is the least row, and a larger picture or a larger
reference list never gets a lower level. The products are those of `uint64_t`.
-/

namespace RockchipVaapi.H264

/-- `width_mbs`. -/
def VAPictureParameterBufferH264.widthMbs (pp : VAPictureParameterBufferH264) : Nat :=
  pp.pictureWidthInMbsMinus1.toNat + 1

/-- `height_mbs`. -/
def VAPictureParameterBufferH264.heightMbs (pp : VAPictureParameterBufferH264) : Nat :=
  pp.pictureHeightInMbsMinus1.toNat + 1

/-- What a level has to allow for a picture: the limits of table A-1 on the frame, on its two
sides and on the reference frames, and the level from which `MinLumaBiPredSize8x8` applies. -/
structure AdequateLevel (pp : VAPictureParameterBufferH264) (limit : H264LevelLimit) : Prop where
  frame : pp.widthMbs * pp.heightMbs ≤ limit.maxFs
  width : pp.widthMbs ^ 2 ≤ 8 * limit.maxFs
  height : pp.heightMbs ^ 2 ≤ 8 * limit.maxFs
  dpb : pp.numRefFrames.toNat ≤ limit.maxDpbMbs / (pp.widthMbs * pp.heightMbs)
  bipred : pp.minLumaBiPredSize8x8 = true → 31 ≤ limit.levelIdc

/-- One picture demands at most what the other does. -/
structure DemandsAtMost (pp pp' : VAPictureParameterBufferH264) : Prop where
  width : pp.widthMbs ≤ pp'.widthMbs
  height : pp.heightMbs ≤ pp'.heightMbs
  refs : pp.numRefFrames.toNat ≤ pp'.numRefFrames.toNat
  bipred : pp.minLumaBiPredSize8x8 = true → pp'.minLumaBiPredSize8x8 = true

section

variable {pp pp' : VAPictureParameterBufferH264} {limit : H264LevelLimit}

theorem VAPictureParameterBufferH264.frameMbs_pos (pp : VAPictureParameterBufferH264) :
    0 < pp.widthMbs * pp.heightMbs :=
  Nat.mul_pos (Nat.succ_pos _) (Nat.succ_pos _)

/-- The tests of the loop are those of the table. -/
theorem h264LevelFits_iff : h264LevelFits pp limit = true ↔ AdequateLevel pp limit := by
  have dpb : pp.numRefFrames.toNat ≤ limit.maxDpbMbs / (pp.widthMbs * pp.heightMbs) ↔
      pp.widthMbs * pp.heightMbs * pp.numRefFrames.toNat ≤ limit.maxDpbMbs := by
    rw [Nat.le_div_iff_mul_le pp.frameMbs_pos, Nat.mul_comm]
  unfold h264LevelFits
  simp only [Bool.and_eq_true, Bool.not_eq_true', Bool.or_eq_false_iff, Bool.and_eq_false_iff,
    decide_eq_false_iff_not, Nat.not_lt]
  constructor
  · rintro ⟨bipred, ⟨⟨frame, width⟩, height⟩, refs⟩
    refine ⟨frame, by rw [Nat.pow_two]; exact width, by rw [Nat.pow_two]; exact height,
      dpb.mpr refs, fun flag => ?_⟩
    rcases bipred with off | high
    · rw [flag] at off
      cases off
    · exact high
  · intro h
    have width := h.width
    have height := h.height
    rw [Nat.pow_two] at width height
    refine ⟨?_, ⟨⟨h.frame, width⟩, height⟩, dpb.mp h.dpb⟩
    cases flag : pp.minLumaBiPredSize8x8 with
    | false => exact .inl rfl
    | true => exact .inr (h.bipred flag)

theorem AdequateLevel.anti (h : AdequateLevel pp' limit) (le : DemandsAtMost pp pp') :
    AdequateLevel pp limit := by
  have frame := Nat.mul_le_mul le.width le.height
  refine ⟨frame.trans h.frame, (Nat.pow_le_pow_left le.width 2).trans h.width,
    (Nat.pow_le_pow_left le.height 2).trans h.height, ?_, fun flag => h.bipred (le.bipred flag)⟩
  calc pp.numRefFrames.toNat ≤ pp'.numRefFrames.toNat := le.refs
    _ ≤ limit.maxDpbMbs / (pp'.widthMbs * pp'.heightMbs) := h.dpb
    _ ≤ limit.maxDpbMbs / (pp.widthMbs * pp.heightMbs) :=
      Nat.div_le_div_left frame pp.frameMbs_pos

end

/-- The rows rise up to level 6, below the 6.2 that the function returns without one. -/
theorem h264LevelLimits_rising : Table.Rising H264LevelLimit.levelIdc 62 h264LevelLimits :=
  ⟨by decide, by decide⟩

theorem h264DeriveLevelIdc_lookup (pp : VAPictureParameterBufferH264) :
    h264DeriveLevelIdc pp =
      Table.lookup H264LevelLimit.levelIdc 62 h264LevelLimits (h264LevelFits pp) := by
  unfold h264DeriveLevelIdc Table.lookup
  cases h264LevelLimits.find? (h264LevelFits pp) <;> rfl

/-! ## The products -/

/-- `width_mbs`, `height_mbs` and `num_ref_frames` as the `uint64_t` of the source. -/
def VAPictureParameterBufferH264.widthMbs64 (pp : VAPictureParameterBufferH264) : UInt64 :=
  pp.pictureWidthInMbsMinus1.toUInt64 + 1

def VAPictureParameterBufferH264.heightMbs64 (pp : VAPictureParameterBufferH264) : UInt64 :=
  pp.pictureHeightInMbsMinus1.toUInt64 + 1

/-- The tests of one turn of the loop on `uint64_t`. -/
def h264LevelFits64 (pp : VAPictureParameterBufferH264) (limit : H264LevelLimit) : Bool :=
  let frameMbs := pp.widthMbs64 * pp.heightMbs64
  let dpbMbs := frameMbs * pp.numRefFrames.toUInt64
  let maxFs := UInt64.ofNat limit.maxFs
  !(pp.minLumaBiPredSize8x8 && decide (limit.levelIdc < 31)) &&
    !(decide (maxFs < frameMbs) || decide (8 * maxFs < pp.widthMbs64 * pp.widthMbs64) ||
      decide (8 * maxFs < pp.heightMbs64 * pp.heightMbs64) ||
      decide (UInt64.ofNat limit.maxDpbMbs < dpbMbs))

/-- The products of the function are those of the integers. -/
structure ExactProducts (pp : VAPictureParameterBufferH264) : Prop where
  frame : (pp.widthMbs64 * pp.heightMbs64).toNat = pp.widthMbs * pp.heightMbs
  dpb : (pp.widthMbs64 * pp.heightMbs64 * pp.numRefFrames.toUInt64).toNat =
    pp.widthMbs * pp.heightMbs * pp.numRefFrames.toNat
  width : (pp.widthMbs64 * pp.widthMbs64).toNat = pp.widthMbs * pp.widthMbs
  height : (pp.heightMbs64 * pp.heightMbs64).toNat = pp.heightMbs * pp.heightMbs
  limits : ∀ limit ∈ h264LevelLimits, (8 * UInt64.ofNat limit.maxFs).toNat = 8 * limit.maxFs ∧
    (UInt64.ofNat limit.maxDpbMbs).toNat = limit.maxDpbMbs

theorem toNat_mul_exact {a b : UInt64} {m n : Nat} (ha : a.toNat = m) (hb : b.toNat = n)
    (small : m * n < 2 ^ 64) : (a * b).toNat = m * n := by
  rw [UInt64.toNat_mul, ha, hb, Nat.mod_eq_of_lt small]

theorem exactProducts (pp : VAPictureParameterBufferH264) : ExactProducts pp := by
  have widthLt := pp.pictureWidthInMbsMinus1.toNat_lt
  have heightLt := pp.pictureHeightInMbsMinus1.toNat_lt
  have refsLt := pp.numRefFrames.toNat_lt
  have width : pp.widthMbs64.toNat = pp.widthMbs := by
    unfold VAPictureParameterBufferH264.widthMbs64 VAPictureParameterBufferH264.widthMbs
    rw [UInt64.toNat_add, UInt16.toNat_toUInt64, Nat.mod_eq_of_lt]
    · rfl
    · exact Nat.lt_of_le_of_lt (Nat.add_le_add_right widthLt.le 1) (by decide)
  have height : pp.heightMbs64.toNat = pp.heightMbs := by
    unfold VAPictureParameterBufferH264.heightMbs64 VAPictureParameterBufferH264.heightMbs
    rw [UInt64.toNat_add, UInt16.toNat_toUInt64, Nat.mod_eq_of_lt]
    · rfl
    · exact Nat.lt_of_le_of_lt (Nat.add_le_add_right heightLt.le 1) (by decide)
  have refs : pp.numRefFrames.toUInt64.toNat = pp.numRefFrames.toNat := UInt8.toNat_toUInt64 _
  -- a side has at most 2^16 macroblocks
  have widthLe : pp.widthMbs ≤ 2 ^ 16 := widthLt
  have heightLe : pp.heightMbs ≤ 2 ^ 16 := heightLt
  have frameLe := Nat.mul_le_mul widthLe heightLe
  have frame := toNat_mul_exact width height (Nat.lt_of_le_of_lt frameLe (by decide))
  refine ⟨frame, toNat_mul_exact frame refs ?_, toNat_mul_exact width width ?_,
    toNat_mul_exact height height ?_, by decide⟩
  · exact Nat.lt_of_le_of_lt (Nat.mul_le_mul frameLe refsLt.le) (by decide)
  · exact Nat.lt_of_le_of_lt (Nat.mul_le_mul widthLe widthLe) (by decide)
  · exact Nat.lt_of_le_of_lt (Nat.mul_le_mul heightLe heightLe) (by decide)

theorem h264LevelFits64_eq {pp : VAPictureParameterBufferH264} {limit : H264LevelLimit}
    (mem : limit ∈ h264LevelLimits) : h264LevelFits64 pp limit = h264LevelFits pp limit := by
  have products := exactProducts pp
  obtain ⟨maxFs, maxDpb⟩ := products.limits limit mem
  have small : (UInt64.ofNat limit.maxFs).toNat = limit.maxFs := by
    revert limit
    decide
  unfold h264LevelFits64 h264LevelFits
  simp only [UInt64.lt_iff_toNat_lt, products.frame, products.dpb, products.width, products.height, maxFs,
    maxDpb, small]
  rfl

/-! ## The level -/

/-- The derived level is the least one of the table that is adequate for the picture, or 62 without
one. It never falls when the picture demands more, and none of its products wraps. -/
theorem h264DeriveLevelIdc_least (pp : VAPictureParameterBufferH264) :
    (∀ limit ∈ h264LevelLimits, AdequateLevel pp limit →
      IsLeast {level | ∃ limit ∈ h264LevelLimits, AdequateLevel pp limit ∧ limit.levelIdc = level}
        (h264DeriveLevelIdc pp)) ∧
      ((∀ limit ∈ h264LevelLimits, ¬AdequateLevel pp limit) → h264DeriveLevelIdc pp = 62) ∧
      (∀ pp', DemandsAtMost pp pp' → h264DeriveLevelIdc pp ≤ h264DeriveLevelIdc pp') ∧
      ExactProducts pp ∧
      h264DeriveLevelIdc pp =
        Table.lookup H264LevelLimit.levelIdc 62 h264LevelLimits (h264LevelFits64 pp) := by
  have levels : Table.levels H264LevelLimit.levelIdc h264LevelLimits (h264LevelFits pp) =
      {level | ∃ limit ∈ h264LevelLimits, AdequateLevel pp limit ∧ limit.levelIdc = level} := by
    simp only [Table.levels, h264LevelFits_iff]
  refine ⟨fun limit mem adequate => ?_, fun none => ?_, fun pp' le => ?_, exactProducts pp, ?_⟩
  · rw [← levels, h264DeriveLevelIdc_lookup]
    exact Table.lookup_isLeast h264LevelLimits_rising ⟨limit, mem, h264LevelFits_iff.mpr adequate⟩
  · rw [h264DeriveLevelIdc_lookup]
    apply Table.lookup_eq_top
    intro limit mem
    exact Bool.eq_false_iff.mpr fun fits => none limit mem (h264LevelFits_iff.mp fits)
  · rw [h264DeriveLevelIdc_lookup, h264DeriveLevelIdc_lookup]
    apply Table.lookup_mono h264LevelLimits_rising
    intro limit _ fits
    exact h264LevelFits_iff.mpr ((h264LevelFits_iff.mp fits).anti le)
  · rw [h264DeriveLevelIdc_lookup]
    apply Table.lookup_congr
    intro limit mem
    exact (h264LevelFits64_eq mem).symm

end RockchipVaapi.H264
