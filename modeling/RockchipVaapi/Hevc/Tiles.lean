import RockchipVaapi.Hevc.RoundTrip
import RockchipVaapi.Misc.Cuts

/-!
# The tile grid of an HEVC picture

The VA parameters give the sizes of all tiles but the last column and row. The PPS either repeats
them or says that the spacing is uniform. The sizes a decoder derives from it (6.5.1) are those of
the parameters, and they are the sizes of a grid: no tile is empty and together they are the picture.
-/

namespace RockchipVaapi.Hevc
open Bitstream

/-! ## What a decoder derives -/

/-- `CtbSizeY` (7.4.3.2.1). -/
def Sps.ctbSize (sps : Sps) : Nat :=
  2 ^ (sps.log2MinLumaCodingBlockSizeMinus3 + 3 + sps.log2DiffMaxMinLumaCodingBlockSize)

/-- `PicWidthInCtbsY`. -/
def Sps.picWidthInCtbs (sps : Sps) : Nat := sps.picWidthInLumaSamples ⌈/⌉ sps.ctbSize

/-- `PicHeightInCtbsY`. -/
def Sps.picHeightInCtbs (sps : Sps) : Nat := sps.picHeightInLumaSamples ⌈/⌉ sps.ctbSize

/-- The sizes of `minus1 + 1` columns or rows: uniform ones, or the coded ones and the rest. -/
def tileSizes (minus1 : Nat) (coded : Option (List Nat)) (ctbs : Nat) : List Nat :=
  match coded with
  | none => Cuts.evenSizes (minus1 + 1) ctbs
  | some sizes => Cuts.withRest (sizes.map (· + 1)) ctbs

/-- `colWidth` (6-3). -/
def TileInfo.colWidth (info : TileInfo) (picWidthInCtbs : Nat) : List Nat :=
  tileSizes info.numTileColumnsMinus1 (info.spacing.map Prod.fst) picWidthInCtbs

/-- `rowHeight` (6-4). -/
def TileInfo.rowHeight (info : TileInfo) (picHeightInCtbs : Nat) : List Nat :=
  tileSizes info.numTileRowsMinus1 (info.spacing.map Prod.snd) picHeightInCtbs

/-- The derived sizes are those of `n` explicit tiles and a last one. -/
structure TilesFit (minus1 : Nat → Nat) (n ctbs : Nat) (sizes : List Nat) : Prop where
  count : sizes.length = n + 1
  explicit : ∀ i < n, sizes[i]? = some (minus1 i + 1)
  nonempty : ∀ size ∈ sizes, 1 ≤ size
  total : sizes.sum = ctbs

/-- The uniform formula gives the explicit sizes. -/
def UniformSizes (minus1 : Nat → Nat) (n ctbs : Nat) : Prop :=
  ∀ i < n, minus1 i + 1 = Cuts.boundary (n + 1) ctbs (i + 1) - Cuts.boundary (n + 1) ctbs i

/-- The comparison of the source is with the uniform formula. -/
theorem spacingIsUniform_iff {minus1 : Nat → Nat} {n ctbs : Nat} (enough : n + 1 ≤ ctbs) :
    spacingIsUniform minus1 n ctbs = true ↔ UniformSizes minus1 n ctbs := by
  have grows (i : Nat) : i * ctbs / (n + 1) < (i + 1) * ctbs / (n + 1) :=
    Cuts.boundary_lt_succ (Nat.succ_pos n) enough i
  simp only [spacingIsUniform, List.all_eq_true, List.mem_range, Bool.not_eq_true',
    Bool.or_eq_false_iff, decide_eq_false_iff_not, bne_eq_false_iff_eq, UniformSizes, Cuts.boundary]
  constructor
  · intro same i hi
    obtain ⟨-, eq⟩ := same i hi
    have := grows i
    omega
  · intro same i hi
    have eq := same i hi
    have := grows i
    omega

theorem tilesFit_uniform {minus1 : Nat → Nat} {n ctbs : Nat} (enough : n + 1 ≤ ctbs)
    (uniform : UniformSizes minus1 n ctbs) :
    TilesFit minus1 n ctbs (tileSizes n none ctbs) where
  count := by simp [tileSizes, Cuts.evenSizes]
  explicit := by
    intro i hi
    rw [uniform i hi]
    simp [tileSizes, Cuts.evenSizes, Nat.lt_succ_of_lt hi]
  nonempty := fun _ => Cuts.pos_of_mem_evenSizes (Nat.succ_pos n) enough
  total := Cuts.sum_evenSizes (Nat.succ_pos n) ctbs

theorem tilesFit_coded {minus1 : Nat → Nat} {n ctbs : Nat}
    (fits : ((List.range n).map fun i => minus1 i + 1).sum < ctbs) :
    TilesFit minus1 n ctbs (tileSizes n (some ((List.range n).map minus1)) ctbs) := by
  have sizes : ((List.range n).map minus1).map (· + 1) = (List.range n).map fun i => minus1 i + 1 := by
    rw [List.map_map]
    rfl
  simp only [tileSizes, sizes]
  constructor
  case count => simp [Cuts.withRest]
  case explicit =>
    intro i hi
    rw [Cuts.withRest, List.getElem?_append_left (by simpa using hi)]
    simp [hi]
  case nonempty =>
    intro size
    apply Cuts.pos_of_mem_withRest ?_ fits
    intro s mem
    obtain ⟨i, -, rfl⟩ := List.mem_map.mp mem
    exact Nat.succ_pos _
  case total => exact Cuts.sum_withRest (Nat.le_of_lt fits)

/-! ## The validation and the emitted grid -/

/-- What the tile checks of the validation leave. -/
theorem tiles_of_valid {pp : VAPictureParameterBufferHEVC} {iq : Option VAIQMatrixBufferHEVC}
    {profileIdc : Nat} {rps : HEVCRPS} (enabled : pp.tilesEnabledFlag = true)
    (valid : validatePictureParameters pp iq profileIdc = some rps) :
    pp.numTileColumnsMinus1.toNat + 1 ≤ widthCtbs pp ∧
      pp.numTileRowsMinus1.toNat + 1 ≤ heightCtbs pp ∧
      ((List.range pp.numTileColumnsMinus1.toNat).map fun i => columnWidth pp i + 1).sum <
        widthCtbs pp ∧
      ((List.range pp.numTileRowsMinus1.toNat).map fun i => rowHeight pp i + 1).sum <
        heightCtbs pp := by
  have tiles : validTiles pp = true := by
    unfold validatePictureParameters at valid
    rw [enabled] at valid
    by_contra invalid
    simp [Bool.eq_false_of_not_eq_true invalid] at valid
  simp only [validTiles, Bool.and_eq_true, Bool.not_eq_true', Bool.or_eq_false_iff,
    decide_eq_false_iff_not, Nat.not_lt, Nat.not_le] at tiles
  obtain ⟨⟨columns, rows⟩, widths, heights⟩ := tiles
  exact ⟨columns, rows, widths, heights⟩

/-- The grid that is read back is the grid of the parameters, and it is coded as uniform exactly
when the uniform formula gives all explicit sizes. -/
structure GridKept (pp : VAPictureParameterBufferHEVC) (info : TileInfo) : Prop where
  columns : TilesFit (columnWidth pp) pp.numTileColumnsMinus1.toNat (widthCtbs pp)
    (info.colWidth (widthCtbs pp))
  rows : TilesFit (rowHeight pp) pp.numTileRowsMinus1.toNat (heightCtbs pp)
    (info.rowHeight (heightCtbs pp))
  uniform : info.spacing = none ↔
    UniformSizes (columnWidth pp) pp.numTileColumnsMinus1.toNat (widthCtbs pp) ∧
      UniformSizes (rowHeight pp) pp.numTileRowsMinus1.toNat (heightCtbs pp)

theorem gridKept_tilesOf {pp : VAPictureParameterBufferHEVC} {iq : Option VAIQMatrixBufferHEVC}
    {profileIdc : Nat} {rps : HEVCRPS} (enabled : pp.tilesEnabledFlag = true)
    (valid : validatePictureParameters pp iq profileIdc = some rps) :
    GridKept pp (tilesOf pp) := by
  obtain ⟨columns, rows, widths, heights⟩ := tiles_of_valid enabled valid
  have uniform : tileSpacingIsUniform pp = true ↔
      UniformSizes (columnWidth pp) pp.numTileColumnsMinus1.toNat (widthCtbs pp) ∧
        UniformSizes (rowHeight pp) pp.numTileRowsMinus1.toNat (heightCtbs pp) := by
    rw [tileSpacingIsUniform, Bool.and_eq_true, spacingIsUniform_iff columns,
      spacingIsUniform_iff rows]
  cases spacing : tileSpacingIsUniform pp with
  | true =>
    obtain ⟨even, evenRows⟩ := uniform.mp spacing
    constructor
    case columns => simpa [TileInfo.colWidth, tilesOf, spacing] using tilesFit_uniform columns even
    case rows => simpa [TileInfo.rowHeight, tilesOf, spacing] using tilesFit_uniform rows evenRows
    case uniform => simp [tilesOf, spacing, even, evenRows]
  | false =>
    constructor
    case columns => simpa [TileInfo.colWidth, tilesOf, spacing] using tilesFit_coded widths
    case rows => simpa [TileInfo.rowHeight, tilesOf, spacing] using tilesFit_coded heights
    case uniform => rw [← uniform]; simp [tilesOf, spacing]

theorem picWidthInCtbs_of_carries {pp : VAPictureParameterBufferHEVC} {sps : Sps}
    (carries : SpsCarries pp sps) : sps.picWidthInCtbs = widthCtbs pp := by
  rw [Sps.picWidthInCtbs, Sps.ctbSize, carries.width, carries.log2MinCodingBlock,
    carries.log2DiffCodingBlock]
  rfl

theorem picHeightInCtbs_of_carries {pp : VAPictureParameterBufferHEVC} {sps : Sps}
    (carries : SpsCarries pp sps) : sps.picHeightInCtbs = heightCtbs pp := by
  rw [Sps.picHeightInCtbs, Sps.ctbSize, carries.height, carries.log2MinCodingBlock,
    carries.log2DiffCodingBlock]
  rfl

/-! ## The emitters -/

/-- An emitter of sequence headers wrote `bytes`, alone or in front of a picture header. -/
def WritesSequence (pp : VAPictureParameterBufferHEVC) (iq : Option VAIQMatrixBufferHEVC)
    (profileIdc : Nat) (bytes : List UInt8) : Prop :=
  ∃ bufSize, rkHevcWriteSequenceParameterSets bufSize pp iq profileIdc = some bytes ∨
    ∃ ppsId, rkHevcWriteParameterSets bufSize pp iq ppsId profileIdc = some bytes

/-- An emitter of picture headers wrote `bytes`, alone or behind the sequence headers. -/
def WritesPicture (pp : VAPictureParameterBufferHEVC) (iq : Option VAIQMatrixBufferHEVC)
    (profileIdc : Nat) (bytes : List UInt8) : Prop :=
  ∃ bufSize ppsId, rkHevcWritePictureParameterSet bufSize pp iq ppsId profileIdc = some bytes ∨
    rkHevcWriteParameterSets bufSize pp iq ppsId profileIdc = some bytes

/-- The parts of a bundle. -/
theorem rkHevcWriteParameterSets_parts {pp : VAPictureParameterBufferHEVC}
    {iq : Option VAIQMatrixBufferHEVC} {bufSize ppsId profileIdc : Nat} {bytes : List UInt8}
    (written : rkHevcWriteParameterSets bufSize pp iq ppsId profileIdc = some bytes) :
    ∃ rps sequenceSets pps picSize, ppsId ≤ 63 ∧
      validatePictureParameters pp iq profileIdc = some rps ∧
      writeSequenceParameterSets bufSize pp profileIdc = some sequenceSets ∧
      writePps picSize pp iq ppsId = some pps ∧ bytes = sequenceSets ++ pps := by
  unfold rkHevcWriteParameterSets at written
  split at written
  · cases written
  · rename_i id
    obtain ⟨rps, valid, written⟩ := Option.bind_eq_some_iff.mp written
    obtain ⟨sequenceSets, sequence, written⟩ := Option.bind_eq_some_iff.mp written
    obtain ⟨pps, picture, written⟩ := Option.bind_eq_some_iff.mp written
    split at written
    · cases written
    · exact ⟨rps, sequenceSets, pps, _, by omega, valid, sequence, picture,
        (Option.some.inj written).symm⟩

/-- The sequence headers come first, and the SPS is the second NAL unit. -/
theorem spsOf_writesSequence {pp : VAPictureParameterBufferHEVC}
    {iq : Option VAIQMatrixBufferHEVC} {profileIdc : Nat} {bytes : List UInt8}
    (writes : WritesSequence pp iq profileIdc bytes) :
    ∃ vpsNal spsNal rest sps, nalUnits bytes = vpsNal :: spsNal :: rest ∧
      parseNal 33 readSps spsNal = some sps ∧ SpsCarries pp sps := by
  obtain ⟨bufSize, alone | ⟨ppsId, bundle⟩⟩ := writes
  · obtain ⟨rps, valid, written⟩ := Option.bind_eq_some_iff.mp alone
    obtain ⟨vpsNal, spsNal, vps, sps, rfl, vpsClean, spsClean, -, readsSps, -, carries⟩ :=
      writeSequenceParameterSets_nals valid written
    exact ⟨vpsNal, spsNal, [], sps, nalUnits_flatMap _ (by simp [vpsClean, spsClean]), readsSps,
      carries⟩
  · obtain ⟨rps, sequenceSets, pps, picSize, id, valid, sequence, picture, rfl⟩ :=
      rkHevcWriteParameterSets_parts bundle
    obtain ⟨vpsNal, spsNal, vps, sps, rfl, vpsClean, spsClean, -, readsSps, -, carries⟩ :=
      writeSequenceParameterSets_nals valid sequence
    obtain ⟨ppsNal, rfl, ppsClean, -⟩ := writePps_reads id valid picture
    have split := nalUnits_flatMap [vpsNal, spsNal, ppsNal] (by simp [vpsClean, spsClean, ppsClean])
    refine ⟨vpsNal, spsNal, [ppsNal], sps, ?_, readsSps, carries⟩
    rw [← split]
    simp

/-- The picture header comes last, and it is read back in full. -/
theorem ppsOf_writesPicture {pp : VAPictureParameterBufferHEVC}
    {iq : Option VAIQMatrixBufferHEVC} {profileIdc : Nat} {bytes : List UInt8}
    (writes : WritesPicture pp iq profileIdc bytes) :
    ∃ front ppsNal ppsId, nalUnits bytes = front ++ [ppsNal] ∧
      parseNal 34 readPps ppsNal = some (ppsOf pp iq ppsId) ∧ ScalingCoded pp iq := by
  obtain ⟨bufSize, ppsId, alone | bundle⟩ := writes
  · unfold rkHevcWritePictureParameterSet at alone
    split at alone
    · cases alone
    · rename_i id
      obtain ⟨rps, valid, written⟩ := Option.bind_eq_some_iff.mp alone
      obtain ⟨ppsNal, rfl, ppsClean, readsPps⟩ := writePps_reads (by omega) valid written
      have split := nalUnits_flatMap [ppsNal] (by simp [ppsClean])
      exact ⟨[], ppsNal, ppsId, by simpa using split, readsPps, scalingCoded_of_writePps written⟩
  · obtain ⟨rps, sequenceSets, pps, picSize, id, valid, sequence, picture, rfl⟩ :=
      rkHevcWriteParameterSets_parts bundle
    obtain ⟨vpsNal, spsNal, vps, sps, rfl, vpsClean, spsClean, -⟩ :=
      writeSequenceParameterSets_nals valid sequence
    obtain ⟨ppsNal, rfl, ppsClean, readsPps⟩ := writePps_reads id valid picture
    have split := nalUnits_flatMap [vpsNal, spsNal, ppsNal] (by simp [vpsClean, spsClean, ppsClean])
    refine ⟨[vpsNal, spsNal], ppsNal, ppsId, ?_, readsPps, scalingCoded_of_writePps picture⟩
    rw [List.cons_append, List.singleton_append, ← split]
    simp

/-- The tile grid that is decoded is the grid of the parameters: the picture has the same size in
coding tree blocks, every explicit tile has its own width and height, no tile is empty, and the
tiles add up to the picture. -/
theorem tileGrid_kept (pp : VAPictureParameterBufferHEVC) (iq : Option VAIQMatrixBufferHEVC)
    (profileIdc : Nat) (rps : HEVCRPS) (enabled : pp.tilesEnabledFlag = true)
    (valid : validatePictureParameters pp iq profileIdc = some rps) :
    (∀ bytes, WritesSequence pp iq profileIdc bytes →
      ∃ vpsNal spsNal rest sps, nalUnits bytes = vpsNal :: spsNal :: rest ∧
        parseNal 33 readSps spsNal = some sps ∧ sps.picWidthInCtbs = widthCtbs pp ∧
        sps.picHeightInCtbs = heightCtbs pp) ∧
    ∀ bytes, WritesPicture pp iq profileIdc bytes →
      ∃ front ppsNal pps info, nalUnits bytes = front ++ [ppsNal] ∧
        parseNal 34 readPps ppsNal = some pps ∧ pps.tiles = some info ∧ GridKept pp info := by
  constructor
  · intro bytes writes
    obtain ⟨vpsNal, spsNal, rest, sps, nals, reads, carries⟩ := spsOf_writesSequence writes
    exact ⟨vpsNal, spsNal, rest, sps, nals, reads, picWidthInCtbs_of_carries carries,
      picHeightInCtbs_of_carries carries⟩
  · intro bytes writes
    obtain ⟨front, ppsNal, ppsId, nals, reads, -⟩ := ppsOf_writesPicture writes
    exact ⟨front, ppsNal, _, tilesOf pp, nals, reads, if_pos enabled,
      gridKept_tilesOf enabled valid⟩

/-- Five blocks in three columns, of which the last one takes two. -/
def tiledPicture : VAPictureParameterBufferHEVC :=
  { blockPicture with
    picWidthInLumaSamples := 320, tilesEnabledFlag := true, numTileColumnsMinus1 := 2
    columnWidthMinus1 := fun i => if i = 0 then 1 else 0 }

theorem tileGrid_kept_tiled :
    ∃ bytes, rkHevcWriteParameterSets 65536 tiledPicture none 5 1 = some bytes ∧
      ∃ front ppsNal pps info, nalUnits bytes = front ++ [ppsNal] ∧
        parseNal 34 readPps ppsNal = some pps ∧ pps.tiles = some info ∧
        info.colWidth 5 = [2, 1, 2] ∧ GridKept tiledPicture info := by
  have valid : validatePictureParameters tiledPicture none 1 = some ⟨[], [], []⟩ := by
    decide +kernel
  obtain ⟨bytes, written⟩ := rkHevcWriteParameterSets_succeeds valid (show 5 ≤ 63 by decide)
    (fun enabled => absurd enabled Bool.false_ne_true) (Nat.le_refl 65536)
  obtain ⟨-, kept⟩ := tileGrid_kept tiledPicture none 1 _ rfl valid
  obtain ⟨front, ppsNal, pps, info, nals, reads, tiles, grid⟩ :=
    kept bytes ⟨65536, 5, .inr written⟩
  refine ⟨bytes, written, front, ppsNal, pps, info, nals, reads, tiles, ?_, grid⟩
  have columns := grid.columns
  obtain ⟨a, b, c, three⟩ := List.length_eq_three.mp columns.count
  have width : widthCtbs tiledPicture = 5 := by decide
  have first := columns.explicit 0 (by decide)
  have second := columns.explicit 1 (by decide)
  have total := columns.total
  rw [width] at three first second total
  rw [three] at first second total ⊢
  simp [columnWidth, tiledPicture] at first second total
  simp [first, second]
  omega

end RockchipVaapi.Hevc
