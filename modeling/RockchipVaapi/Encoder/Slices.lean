import RockchipVaapi.Encoder.Encode
import RockchipVaapi.Misc.Cuts

/-!
# The row split of an encoded picture

The slices of a picture are accepted one by one, from five accumulators. What they have in common
is that they cut the units counted so far at the multiples of the first slice's units; MPP cuts the
picture in the same way when it is told that number.
-/

namespace RockchipVaapi.Encoder

/-! ## The accumulators -/

/-- The address and the units of a slice. -/
def VAEncSliceParameterBufferH264.units (slice : VAEncSliceParameterBufferH264) : Nat × Nat :=
  (slice.macroblockAddress.toNat, slice.numMacroblocks.toNat)

/-- The address and the units of a slice. -/
def VAEncSliceParameterBufferHEVC.units (slice : VAEncSliceParameterBufferHEVC) : Nat × Nat :=
  (slice.sliceSegmentAddress.toNat, slice.numCtuInSlice.toNat)

/-- The addresses and units of the slices of a buffer. -/
def RKBuffer.units (coding : Coding) (b : RKBuffer) : List (Nat × Nat) :=
  if b.type = .encSliceParameter then
    match coding with
    | .avc => b.slicesH264.map VAEncSliceParameterBufferH264.units
    | .hevc => b.slicesHevc.map VAEncSliceParameterBufferHEVC.units
  else []

/-- The accumulators count `slices`, which cut the units so far at the multiples of the span. -/
structure Counts (c : RKContext) (slices : List (Nat × Nat)) : Prop where
  count : c.encSliceCount.toNat = slices.length
  spans : Cuts.Spans c.encSliceUnitSpan.toNat c.encSliceUnits.toNat slices
  sum : (slices.map Prod.snd).sum = c.encSliceUnits.toNat
  few : slices.length ≤ c.encSliceUnits.toNat
  last : slices ≠ [] →
    c.encSliceUnits.toNat + c.encSliceUnitSpan.toNat =
      slices.length * c.encSliceUnitSpan.toNat + c.encSliceLastUnits.toNat

/-- The fields of the context that the slices do not change. -/
structure SamePicture (c c' : RKContext) : Prop where
  profile : c'.profile = c.profile
  size : c'.size = c.size
  surface : c'.renderSurface = c.renderSurface

theorem SamePicture.refl (c : RKContext) : SamePicture c c := ⟨rfl, rfl, rfl⟩

theorem SamePicture.trans {c c' c'' : RKContext} (first : SamePicture c c')
    (second : SamePicture c' c'') : SamePicture c c'' :=
  ⟨second.profile.trans first.profile, second.size.trans first.size,
    second.surface.trans first.surface⟩

theorem SamePicture.coding {c c' : RKContext} (same : SamePicture c c') : c'.coding = c.coding := by
  rw [RKContext.coding, same.profile]
  rfl

/-- The accumulators are the same. -/
structure SameCounts (c c' : RKContext) : Prop where
  count : c'.encSliceCount = c.encSliceCount
  units : c'.encSliceUnits = c.encSliceUnits
  span : c'.encSliceUnitSpan = c.encSliceUnitSpan
  last : c'.encSliceLastUnits = c.encSliceLastUnits

theorem SameCounts.counts {c c' : RKContext} {slices : List (Nat × Nat)}
    (same : SameCounts c c') (counts : Counts c slices) : Counts c' slices := by
  constructor
  case count => rw [same.count, counts.count]
  case spans => rw [same.units, same.span]; exact counts.spans
  case sum => rw [same.units, counts.sum]
  case few => rw [same.units]; exact counts.few
  case last => rw [same.units, same.span, same.last]; exact counts.last

/-- What `add_encoder_slice` checks, and what it does. -/
theorem addEncoderSlice_some {c c' : RKContext} {address units : UInt32} {unitsPerRow : Nat}
    (added : addEncoderSlice c address units unitsPerRow = some c') :
    (0 < units.toNat ∧ 0 < unitsPerRow ∧ address = c.encSliceUnits ∧
      units.toNat % unitsPerRow = 0 ∧
      (c.encSliceCount ≠ 0 → c.encSliceLastUnits = c.encSliceUnitSpan ∧
        units.toNat ≤ c.encSliceUnitSpan.toNat) ∧
      c.encSliceUnits.toNat + units.toNat < 2 ^ 32) ∧
    c' = { c with
      encSliceUnitSpan := if c.encSliceCount = 0 then units else c.encSliceUnitSpan
      encSliceCount := c.encSliceCount + 1
      encSliceUnits := c.encSliceUnits + units
      encSliceLastUnits := units } := by
  unfold addEncoderSlice at added
  split at added
  · cases added
  · rename_i passed
    simp only [not_or, not_and, not_not] at passed
    obtain ⟨nonzero, row, start, -, whole, later, room⟩ := passed
    have below : c.encSliceUnits ≤ 0xffffffff := by
      rw [UInt32.le_iff_toNat_le]
      exact Nat.le_of_lt_succ c.encSliceUnits.toNat_lt
    rw [UInt32.lt_iff_toNat_lt, UInt32.toNat_sub_of_le _ _ below] at room
    have top : (0xffffffff : UInt32).toNat = 4294967295 := rfl
    have lt := c.encSliceUnits.toNat_lt
    have pos : 0 < units.toNat := by
      rw [Nat.pos_iff_ne_zero]
      intro zero
      exact nonzero (UInt32.toNat.inj zero)
    refine ⟨⟨pos, by omega, start, whole, ?_, by omega⟩, (Option.some.inj added).symm⟩
    intro second
    obtain ⟨last, fits⟩ := later second
    exact ⟨last, Nat.le_of_not_lt (by rwa [UInt32.lt_iff_toNat_lt] at fits)⟩

/-- A slice that is added is counted. -/
theorem addEncoderSlice_counts {c c' : RKContext} {address units : UInt32} {unitsPerRow : Nat}
    {slices : List (Nat × Nat)} (counts : Counts c slices)
    (added : addEncoderSlice c address units unitsPerRow = some c') :
    Counts c' (slices ++ [(address.toNat, units.toNat)]) := by
  obtain ⟨⟨pos, -, rfl, -, later, room⟩, rfl⟩ := addEncoderSlice_some added
  have sum : (c.encSliceUnits + units).toNat = c.encSliceUnits.toNat + units.toNat := by
    rw [UInt32.toNat_add, Nat.mod_eq_of_lt room]
  have few := counts.few
  have count : (c.encSliceCount + 1).toNat = slices.length + 1 := by
    have one : (1 : UInt32).toNat = 1 := rfl
    rw [UInt32.toNat_add, counts.count, one, Nat.mod_eq_of_lt (by omega)]
  -- the first slice sets the span, and a later one finds the slices before it full
  have full : c.encSliceUnits.toNat =
        slices.length * (if c.encSliceCount = 0 then units else c.encSliceUnitSpan).toNat ∧
      units.toNat ≤ (if c.encSliceCount = 0 then units else c.encSliceUnitSpan).toNat ∧
      (Cuts.Spans (if c.encSliceCount = 0 then units else c.encSliceUnitSpan).toNat
        c.encSliceUnits.toNat slices) := by
    by_cases first : c.encSliceCount = 0
    · have none : slices = [] := by
        rw [← List.length_eq_zero_iff, ← counts.count, first]
        rfl
      subst none
      have nothing := counts.spans.covered
      rw [List.length_nil, Nat.zero_mul] at nothing
      rw [if_pos first, Nat.le_zero.mp nothing]
      exact ⟨by simp, Nat.le_refl _, Cuts.Spans.nil _⟩
    · obtain ⟨last, fits⟩ := later first
      have some : slices ≠ [] := by
        rintro rfl
        exact first (UInt32.toNat.inj counts.count)
      have total := counts.last some
      rw [last] at total
      rw [if_neg first]
      exact ⟨by omega, fits, counts.spans⟩
  obtain ⟨eq, le, spans⟩ := full
  constructor
  case count => rw [count, List.length_append, List.length_singleton]
  case spans => dsimp only; rw [sum]; exact spans.append eq pos le
  case sum => dsimp only; rw [sum, List.map_append, List.sum_append, counts.sum]; simp
  case few => dsimp only; rw [sum, List.length_append, List.length_singleton]; omega
  case last =>
    intro _
    dsimp only
    rw [sum, List.length_append, List.length_singleton, Nat.succ_mul]
    omega

/-! ## One slice, one buffer, one picture -/

/-- `units_per_row` of the picture. -/
def unitsPerRow (c : RKContext) : Nat :=
  match c.coding with
  | .avc => macroblocksPerRow c
  | .hevc => ctusPerRow c

/-- The span is whole rows. -/
def Rows (c : RKContext) : Prop := c.encSliceUnitSpan.toNat % unitsPerRow c = 0

/-- `units` were added, and nothing was changed that decides about units and rows. -/
structure Taken (units : Nat × Nat) (c c' : RKContext) : Prop where
  picture : SamePicture c c'
  hevcSeq : c'.encHevcSeq = c.encHevcSeq
  added : ∃ address n d, units = (UInt32.toNat address, UInt32.toNat n) ∧
    addEncoderSlice c address n (unitsPerRow c) = some d ∧ SameCounts d c'

theorem unitsPerRow_congr {c c' : RKContext} (same : SamePicture c c')
    (hevcSeq : c'.encHevcSeq = c.encHevcSeq) : unitsPerRow c' = unitsPerRow c := by
  have avc : macroblocksPerRow c' = macroblocksPerRow c := by
    rw [macroblocksPerRow, same.size]
    rfl
  have hevc : ctusPerRow c' = ctusPerRow c := by
    rw [ctusPerRow, hevcCtuSize, same.surface, hevcSeq]
    rfl
  unfold unitsPerRow
  rw [same.coding, avc, hevc]

theorem Taken.counts {units : Nat × Nat} {c c' : RKContext} {slices : List (Nat × Nat)}
    (taken : Taken units c c') (counts : Counts c slices) : Counts c' (slices ++ [units]) := by
  obtain ⟨address, n, d, rfl, added, same⟩ := taken.added
  exact same.counts (addEncoderSlice_counts counts added)

theorem Taken.rows {units : Nat × Nat} {c c' : RKContext} (taken : Taken units c c')
    (rows : Rows c) : Rows c' := by
  obtain ⟨address, n, d, -, added, same⟩ := taken.added
  obtain ⟨⟨-, -, -, whole, -⟩, rfl⟩ := addEncoderSlice_some added
  rw [Rows, unitsPerRow_congr taken.picture taken.hevcSeq, same.span]
  dsimp only
  split
  · exact whole
  · exact rows

/-- A buffer of another type, accepted or not, leaves the accumulators alone. -/
theorem render_otherType (sizes : VaSizes) (c : RKContext) {b : RKBuffer}
    (type : b.type ≠ .encSliceParameter) :
    SameCounts c (rkMppEncRenderBuffer sizes c b).2 ∧
      SamePicture c (rkMppEncRenderBuffer sizes c b).2 ∧
      (b.type ≠ .encSequenceParameter →
        (rkMppEncRenderBuffer sizes c b).2.encHevcSeq = c.encHevcSeq) := by
  have move := rkMppEncRenderBuffer_move sizes c b
  generalize rkMppEncRenderBuffer sizes c b = r at move ⊢
  obtain ⟨status, c'⟩ := r
  dsimp only at move ⊢
  cases move with
  | slicesH264 slices _ => exact absurd slices type
  | slicesHevc slices _ => exact absurd slices type
  | seqHevc seq _ _ => exact ⟨⟨rfl, rfl, rfl, rfl⟩, ⟨rfl, rfl, rfl⟩, fun no => absurd seq no⟩
  | badSeqHevc seq _ _ => exact ⟨⟨rfl, rfl, rfl, rfl⟩, ⟨rfl, rfl, rfl⟩, fun no => absurd seq no⟩
  | frameRate _ _ =>
    unfold takeFrameRate
    dsimp only
    split <;> split <;> exact ⟨⟨rfl, rfl, rfl, rfl⟩, ⟨rfl, rfl, rfl⟩, fun _ => rfl⟩
  | _ => exact ⟨⟨rfl, rfl, rfl, rfl⟩, ⟨rfl, rfl, rfl⟩, fun _ => rfl⟩

/-! ## The buffers of a picture -/

/-- The context after the buffers of a picture. The application may go on behind a refusal. -/
def renderAll (sizes : VaSizes) (c : RKContext) (buffers : List RKBuffer) : RKContext :=
  buffers.foldl (fun c b => (rkMppEncRenderBuffer sizes c b).2) c

/-- A surface for the pictures of `smallEncoder`. -/
def smallSurface : RenderSurface := ⟨32, 48, 32, 48, false⟩

/-- A buffer with a slice of two rows and one of the row that is left. -/
def twoSlices : RKBuffer where
  type := .encSliceParameter
  size := 4
  numElements := 2
  data :=
    { seqH264 := smallEncoder.encSeq
      picH264 := smallEncoder.encPic
      sliceH264 := fun i => if i = 0 then ⟨0, 4, 2, []⟩ else ⟨4, 2, 2, []⟩
      seqHevc := smallEncoder.encHevcSeq
      picHevc := smallEncoder.encHevcPic
      sliceHevc := fun _ => smallEncoder.encHevcSlice
      miscType := .other
      bitsPerSecond := 0
      framerate := 0 }

end RockchipVaapi.Encoder
