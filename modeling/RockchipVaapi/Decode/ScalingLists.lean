import RockchipVaapi.H264.RoundTrip
import RockchipVaapi.Hevc.Tiles
import RockchipVaapi.Misc.Scan

/-!
# Scaling lists decode back

Both codecs transmit scaling lists as differences along a scan. The scan tables of the driver are
the scans of the standards, and a decoder that adds the differences up and puts the values back
into raster order has the matrices of the VA buffers. A value the syntax cannot express is refused.
-/

namespace RockchipVaapi
open Bitstream

/-- The entries of a list of a VA buffer in raster order. -/
def rasterEntries {n : Nat} (list : Fin n → UInt8) : List (Option Int) :=
  List.ofFn fun pos => some ((list pos).toNat : Int)

namespace H264

/-! ## H.264 -/

/-- `delta_scale`, which shall be in the range of a signed byte (7.4.2.1.1.1). -/
def readDeltaScale : Reader Int := do
  let delta ← readSe
  readUnless !(decide (-128 ≤ delta) && decide (delta ≤ 127))
  return delta

/-- `scaling_list()` (7.3.2.1.1.1) that holds to the range of its differences. -/
def readRangedList : Nat → Int → Int → Reader (List Int)
  | 0, _, _ => pure []
  | size + 1, last, next => do
    let next ← readIf (next != 0)
      (do let delta ← readDeltaScale; return (last + delta + 256) % 256) 0
    let value := if next = 0 then last else next
    let rest ← readRangedList size value next
    return value :: rest

/-- A scaling list that is present. -/
def readCodedList (size : Nat) : Reader (List Int) := do
  let present ← readFlag
  readUnless !present
  readRangedList size 8 8

/-- The extension of the PPS up to its last coded scaling list. -/
def readExtensionLists : Reader (List (List Int) × List (List Int)) := do
  let transform8x8ModeFlag ← readFlag
  let matrixPresent ← readFlag
  readUnless !matrixPresent
  let lists4x4 ← readMany (readCodedList 16) 6
  let lists8x8 ← readMany (readCodedList 64) (if transform8x8ModeFlag then 2 else 0)
  return (lists4x4, lists8x8)

/-- The rows of `pic_parameter_set_rbsp()` up to the scaling lists, which are what is returned. -/
def readPpsLists : Reader (List (List Int) × List (List Int)) := do
  let _picParameterSetId ← readUe
  let _seqParameterSetId ← readUe
  let _entropyCodingModeFlag ← readFlag
  let _bottomFieldPicOrderInFramePresentFlag ← readFlag
  let numSliceGroupsMinus1 ← readUe
  readUnless (numSliceGroupsMinus1 != 0)
  let _numRefIdxL0DefaultActiveMinus1 ← readUe
  let _numRefIdxL1DefaultActiveMinus1 ← readUe
  let _weightedPredFlag ← readFlag
  let _weightedBipredIdc ← readU 2
  let _picInitQpMinus26 ← readSe
  let _picInitQsMinus26 ← readSe
  let _chromaQpIndexOffset ← readSe
  let _deblockingFilterControlPresentFlag ← readFlag
  let _constrainedIntraPredFlag ← readFlag
  let _redundantPicCntPresentFlag ← readFlag
  fun bits => if moreRbspData bits then readExtensionLists bits else none

/-- The 4x4 and the 8x8 scaling lists of a NAL unit of type 8, in raster order. -/
def ppsScalingLists : List UInt8 → Option (List (List (Option Int)) × List (List (Option Int)))
  | [] => none
  | header :: payload =>
    if nalUnitType header = 8 then
      (readPpsLists (bytesBits (unescape payload))).map fun read =>
        (read.1.1.map (Scan.raster 16 (Scan.zigZag 4)), read.1.2.map (Scan.raster 64 (Scan.zigZag 8)))
    else none

theorem scan4x4_eq : scan4x4.map Fin.val = Scan.zigZag 4 := by decide

theorem scan8x8_eq : scan8x8.map Fin.val = Scan.zigZag 8 := by decide +kernel

/-- The coded order of a list, put back along the scan. -/
theorem raster_listValues {n : Nat} {scan : List (Fin n)} {zigZag : List Nat}
    (same : scan.map Fin.val = zigZag) (covers : ∀ pos < n, pos ∈ zigZag) (list : Fin n → UInt8) :
    Scan.raster n zigZag (listValues scan list) = rasterEntries list := by
  have values : listValues scan list =
      zigZag.map fun pos => if h : pos < n then ((list ⟨pos, h⟩).toNat : Int) else 0 := by
    rw [← same, List.map_map, listValues]
    apply List.map_congr_left
    intro pos _
    simp
  rw [values, Scan.raster_map covers, rasterEntries]
  congr 1
  funext pos
  simp

theorem reads_deltaScale {delta : Int} (low : -128 ≤ delta) (high : delta ≤ 127) :
    Reads readDeltaScale (seBits delta) delta := by
  have ranged : (!(decide (-128 ≤ delta) && decide (delta ≤ 127))) = false := by simp [low, high]
  have check : Reads (do readUnless !(decide (-128 ≤ delta) && decide (delta ≤ 127)); return delta)
      [] delta := by
    rw [ranged]
    exact reads_unless_false.skip (reads_pure delta)
  have whole : Reads readDeltaScale (seBits delta ++ []) delta := (reads_se delta).bind check
  rwa [List.append_nil] at whole

/-- The decoder's modular sum undoes the wrapped difference. -/
theorem scalingDelta_sum {value last : Nat} (hv : value < 256) (hl : last < 256) :
    ((last : Int) + scalingDelta value last + 256) % 256 = value := by
  unfold scalingDelta
  dsimp only
  split
  · omega
  · split <;> omega

theorem reads_rangedList {n : Nat} (list : Fin n → UInt8) (nonzero : ∀ pos, list pos ≠ 0) :
    ∀ (scan : List (Fin n)) (last : Nat), 0 < last → last < 256 →
      Reads (readRangedList scan.length last last) (scalingListCodes list scan last).flatten
        (listValues scan list) := by
  intro scan
  induction scan with
  | nil => intro _ _ _; exact reads_pure []
  | cons pos scan ih =>
    intro last hpos hlast
    have hn := (list pos).toNat_lt
    have hnz : 0 < (list pos).toNat := by
      rw [Nat.pos_iff_ne_zero]
      intro h
      exact nonzero pos (UInt8.toNat.inj h)
    have present : ((last : Int) != 0) = true := by simp; omega
    obtain ⟨low, high⟩ := scalingDelta_range hn hlast
    have delta : Reads (do let delta ← readDeltaScale; return ((last : Int) + delta + 256) % 256)
        (seBits (scalingDelta (list pos).toNat last)) ((list pos).toNat : Int) := by
      have read := (reads_deltaScale low high).map (f := fun delta => ((last : Int) + delta + 256) % 256)
      rwa [scalingDelta_sum hn hlast] at read
    have keep : (if ((list pos).toNat : Int) = 0 then (last : Int) else (list pos).toNat) =
        (list pos).toNat := if_neg (by omega)
    rw [List.length_cons, readRangedList, present]
    refine Reads.cons delta ?_
    rw [keep]
    exact (ih _ hnz hn).map

theorem reads_codedLists {n : Nat} (scan : List (Fin n)) (lists : List (Fin n → UInt8))
    (nonzero : ∀ list ∈ lists, ∀ pos, list pos ≠ 0) :
    Reads (readMany (readCodedList scan.length) lists.length)
      (scalingListsCodes scan lists).flatten (lists.map (listValues scan)) := by
  refine reads_readMany lists fun list mem => ?_
  have body := reads_rangedList list (nonzero list mem) scan 8 (by norm_num) (by norm_num)
  exact (reads_flag true).bind (reads_unless_false.skip body)

/-- The lists of the extension are read back in the order they are coded. -/
theorem reads_extensionLists {transform8x8 : Bool} (iq : VAIQMatrixBufferH264)
    (nonzero : CodedNoZero (some iq) transform8x8) :
    Reads readExtensionLists
      ([[transform8x8], [true], (matrixCodes (some iq) transform8x8).flatten] : List _).flatten
      ((List.ofFn iq.scalingList4x4).map (listValues scan4x4),
        if transform8x8 then (List.ofFn iq.scalingList8x8).map (listValues scan8x8) else []) := by
  obtain ⟨h4, h8⟩ := nonzero iq rfl
  have lists4 := reads_codedLists scan4x4 (List.ofFn iq.scalingList4x4) (by
    intro list mem
    obtain ⟨i, rfl⟩ := List.mem_ofFn.mp mem
    exact h4 i)
  refine (reads_flag _).cons <| (reads_flag _).cons <| reads_unless_false.skip ?_
  rw [List.flatten_singleton]
  refine Reads.cons lists4 ?_
  cases transform8x8 with
  | false => exact reads_pure _
  | true =>
    have lists8 := reads_codedLists scan8x8 (List.ofFn iq.scalingList8x8) (by
      intro list mem
      obtain ⟨i, rfl⟩ := List.mem_ofFn.mp mem
      exact h8 rfl i)
    exact lists8.cons <| reads_pure _

/-- A negative default count is written as zero. -/
theorem h264WritePps_clamp (bufSize : Nat) (pp : VAPictureParameterBufferH264)
    (iq : Option VAIQMatrixBufferH264) (l0 l1 : Int) :
    h264WritePps bufSize pp iq l0 l1 = h264WritePps bufSize pp iq l0.toNat l1.toNat := by
  have clamp (l : Int) : (if l < 0 then 0 else l.toNat) =
      if ((l.toNat : Nat) : Int) < 0 then 0 else (l.toNat : Int).toNat := by
    split <;> split <;> omega
  unfold h264WritePps h264PpsRbsp
  rw [clamp l0, clamp l1]

/-- What fits into a buffer fits into a larger one. -/
theorem h264WritePps_larger {bufSize large : Nat} {pp : VAPictureParameterBufferH264}
    {iq : Option VAIQMatrixBufferH264} {l0 l1 : Int} {out : List UInt8} (le : bufSize ≤ large)
    (written : h264WritePps bufSize pp iq l0 l1 = some out) :
    h264WritePps large pp iq l0 l1 = some out := by
  obtain ⟨⟨_, bs⟩, run, finish⟩ := Option.bind_eq_some_iff.mp written
  unfold h264WritePps
  rw [run]
  show h264FinishNal large bs.output = some out
  change h264FinishNal bufSize bs.output = some out at finish
  unfold h264FinishNal at finish ⊢
  split at finish
  · cases finish
  · rename_i room
    have fits : (escape bs.output).length ≤ 2 * bs.output.length := length_escapeFrom_le _ 0
    have escaped (size : Nat) (le : bufSize ≤ size) :
        emulationPrevent bs.output (size - 4) = escape bs.output := by
      rw [emulationPrevent_eq, if_pos (by omega)]
    rw [escaped bufSize (Nat.le_refl _)] at finish
    rwa [if_neg (by omega), escaped large le]

/-- The scaling lists are found in the RBSP, whatever the chroma format is. -/
theorem reads_ppsLists (pp : VAPictureParameterBufferH264) (iq : VAIQMatrixBufferH264)
    (nonzero : CodedNoZero (some iq) pp.transform8x8ModeFlag) (l0 l1 : Nat) (rest : List Bool) :
    ∃ behind, readPpsLists (ppsBits pp (some iq) l0 l1 ++ rest) =
      some (((List.ofFn iq.scalingList4x4).map (listValues scan4x4),
        if pp.transform8x8ModeFlag then (List.ofFn iq.scalingList8x8).map (listValues scan8x8)
        else []), behind) := by
  let behind := seBits pp.secondChromaQpIndexOffset.toInt ++ rest
  let front : List (List Bool) := [[pp.transform8x8ModeFlag], [true],
    (matrixCodes (some iq) pp.transform8x8ModeFlag).flatten]
  have lists : readExtensionLists (front.flatten ++ behind) = some (_, behind) :=
    reads_extensionLists iq nonzero behind
  have more : moreRbspData (front.flatten ++ behind) = true := by
    apply moreRbspData_append
    simp [front]
  have bipred : pp.weightedBipredIdc.val < 2 ^ 2 := pp.weightedBipredIdc.isLt
  have shape : (List.append [] [if h264PpsExtension pp (some iq) then
      (extensionCodes pp (some iq)).flatten else []]).flatten ++ rest = front.flatten ++ behind := by
    simp [h264PpsExtension, extensionCodes, front, behind]
  refine ⟨behind, ?_⟩
  unfold ppsBits
  refine (reads_ue 0).consOn <| (reads_ue 0).consOn <| (reads_flag _).consOn <|
    (reads_flag _).consOn <| (reads_ue 0).consOn <| reads_unless_false.skipOn <|
    (reads_ue l0).consOn <| (reads_ue l1).consOn <| (reads_flag _).consOn <|
    (reads_u bipred).consOn <| (reads_se _).consOn <| (reads_se _).consOn <|
    (reads_se _).consOn <| (reads_flag _).consOn <| (reads_flag _).consOn <|
    (reads_flag _).consOn ?_
  rw [shape, if_pos more, lists]

/-- `h264_write_pps` refuses exactly the lists with a zero entry, for want of a code. -/
theorem h264WritePps_none_iff (pp : VAPictureParameterBufferH264) (iq : VAIQMatrixBufferH264)
    (l0 l1 : Int32) {bufSize : Nat} (buffer : 2048 ≤ bufSize) :
    h264WritePps bufSize pp (some iq) l0.toInt l1.toInt = none ↔
      ¬ CodedNoZero (some iq) pp.transform8x8ModeFlag := by
  constructor
  · intro failed nonzero
    have h0 := l0.toInt_lt
    have h1 := l1.toInt_lt
    obtain ⟨rbsp, -, written, -⟩ := h264WritePps_bits pp (some iq) nonzero l0.toInt.toNat
      l1.toInt.toNat (by omega) (by omega) buffer
    rw [h264WritePps_clamp, written] at failed
    cases failed
  · exact h264WritePps_zero pp (some iq) l0.toInt l1.toInt bufSize

/-- The lists of a PPS that is written are read back in raster order. -/
theorem ppsScalingLists_written {pp : VAPictureParameterBufferH264} {iq : VAIQMatrixBufferH264}
    {l0 l1 : Int32} {bufSize : Nat} {out : List UInt8}
    (written : h264WritePps bufSize pp (some iq) l0.toInt l1.toInt = some out) :
    ∃ nal, nalUnits out = [nal] ∧ ppsScalingLists nal =
      some ((List.ofFn iq.scalingList4x4).map rasterEntries,
        if pp.transform8x8ModeFlag then (List.ofFn iq.scalingList8x8).map rasterEntries else []) := by
  have large := h264WritePps_larger (Nat.le_max_right 2048 bufSize) written
  have nonzero : CodedNoZero (some iq) pp.transform8x8ModeFlag := by
    by_contra zero
    rw [h264WritePps_zero pp (some iq) l0.toInt l1.toInt bufSize zero] at written
    cases written
  have h0 := l0.toInt_lt
  have h1 := l1.toInt_lt
  obtain ⟨rbsp, bits, write, clean⟩ := h264WritePps_bits pp (some iq) nonzero l0.toInt.toNat
    l1.toInt.toNat (by omega) (by omega) (Nat.le_max_left 2048 bufSize)
  rw [h264WritePps_clamp, write] at large
  obtain rfl := Option.some.inj large
  refine ⟨_, clean.nalUnits, ?_⟩
  obtain ⟨behind, read⟩ := reads_ppsLists pp iq nonzero l0.toInt.toNat l1.toInt.toNat
    (trailingBits (ppsBits pp (some iq) l0.toInt.toNat l1.toInt.toNat).length)
  have lists4 : (Scan.raster 16 (Scan.zigZag 4) ∘ listValues scan4x4) = rasterEntries :=
    funext (raster_listValues scan4x4_eq fun _ inside => Scan.mem_zigZag.mpr inside)
  have lists8 : (Scan.raster 64 (Scan.zigZag 8) ∘ listValues scan8x8) = rasterEntries :=
    funext (raster_listValues scan8x8_eq fun _ inside => Scan.mem_zigZag.mpr inside)
  rw [ppsScalingLists, if_pos (by decide), unescape_escape, bits, read, Option.map_some]
  dsimp only
  rw [List.map_map, lists4]
  cases pp.transform8x8ModeFlag
  · rfl
  · rw [if_pos rfl, if_pos rfl, List.map_map, lists8]

end H264

namespace Hevc

/-! ## HEVC -/

/-- The coefficients of `scaling_list_data()` (7.3.4) behind `nextCoef`. -/
def addCoefs : Int → List Int → List Int
  | _, [] => []
  | next, delta :: deltas =>
    let next := (next + delta + 256) % 256
    next :: addCoefs next deltas

/-- The number of coefficients of a matrix, the first position of its scan to its last. -/
def coefNum (sizeId : Nat) : Nat := if sizeId = 0 then 16 else 64

/-- The scan of the coefficients of a matrix (6.5.3). -/
def coefScan (sizeId : Nat) : List Nat := Scan.upRight (if sizeId = 0 then 4 else 8)

/-- The DC coefficient of a large matrix and the coefficients in raster order, where they hold to
the ranges of 7.4.5. Predicted matrices are not decoded. -/
def ScalingListSyntax.decode (sizeId : Nat) :
    ScalingListSyntax → Option (Option Int × List (Option Int))
  | .predicted _ => none
  | .coded dcCoefMinus8 deltaCoefs =>
    if (1 < sizeId → -7 ≤ dcCoefMinus8 ∧ dcCoefMinus8 ≤ 247) ∧
        ∀ delta ∈ deltaCoefs, -128 ≤ delta ∧ delta ≤ 127 then
      some (if 1 < sizeId then some (dcCoefMinus8 + 8) else none,
        Scan.raster (coefNum sizeId) (coefScan sizeId)
          (addCoefs (if 1 < sizeId then dcCoefMinus8 + 8 else 8) deltaCoefs))
    else none

/-- The sizes of the matrices of `scaling_list_data()`, in order. -/
def dataSizes : List Nat := [0, 0, 0, 0, 0, 0, 1, 1, 1, 1, 1, 1, 2, 2, 2, 2, 2, 2, 3, 3]

/-- The matrices of a VA buffer: DC coefficient where there is one, and coefficients. -/
def VAIQMatrixBufferHEVC.matrices (iq : VAIQMatrixBufferHEVC) :
    List (Option Int × List (Option Int)) :=
  (List.ofFn fun i => (none, rasterEntries (iq.scalingList4x4 i))) ++
    (List.ofFn fun i => (none, rasterEntries (iq.scalingList8x8 i))) ++
    (List.ofFn fun i =>
      (some ((iq.scalingListDc16x16 i).toNat : Int), rasterEntries (iq.scalingList16x16 i))) ++
    (List.ofFn fun i =>
      (some ((iq.scalingListDc32x32 i).toNat : Int), rasterEntries (iq.scalingList32x32 i)))

theorem coefDelta_sum {value next : Nat} (hv : value < 2 ^ 8) (hn : next < 2 ^ 8) :
    ((next : Int) + coefDelta value next + 256) % 256 = value := by
  unfold coefDelta
  dsimp only
  split <;> split <;> omega

/-- Adding the differences up gives the entries along the scan. -/
theorem addCoefs_coefDeltas {entry : Nat → Nat} (small : ∀ pos, entry pos < 2 ^ 8) :
    ∀ (scan : List Nat) (next : Nat), next < 2 ^ 8 →
      addCoefs next (coefDeltas entry scan next) = scan.map fun pos => (entry pos : Int) := by
  intro scan
  induction scan with
  | nil => intro _ _; rfl
  | cons pos scan ih =>
    intro next hn
    rw [coefDeltas, addCoefs, coefDelta_sum (small pos) hn]
    exact congrArg _ (ih (entry pos) (small pos))

theorem diag_eq (sizeId : Nat) :
    (if sizeId = 0 then diag4x4 else diag8x8) = coefScan sizeId := by
  have four : diag4x4 = Scan.upRight 4 := by decide
  have eight : diag8x8 = Scan.upRight 8 := by decide +kernel
  unfold coefScan
  split
  · exact four
  · exact eight

theorem mem_coefScan {sizeId pos : Nat} (inside : pos < coefNum sizeId) : pos ∈ coefScan sizeId := by
  unfold coefNum at inside
  unfold coefScan
  rw [Scan.mem_upRight]
  split at inside <;> split <;> omega

/-- The syntax of one matrix is decoded to its entries. -/
theorem decode_matrixSyntax (iq : VAIQMatrixBufferHEVC) {sizeId : Nat} (matrixId : Fin 6)
    (nonzero : 1 < sizeId → scalingDc iq sizeId matrixId ≠ 0) :
    (matrixSyntax iq sizeId matrixId).decode sizeId =
      some (if 1 < sizeId then some (scalingDc iq sizeId matrixId : Int) else none,
        List.ofFn fun pos : Fin (coefNum sizeId) =>
          some (scalingMatrix iq sizeId matrixId pos : Int)) := by
  have dcLt := scalingDc_lt iq sizeId matrixId
  have small := scalingMatrix_lt iq sizeId matrixId
  have firstLt := firstCoef_lt iq sizeId matrixId
  have ranges := coefDeltas_range small (coefScan sizeId) (firstCoef iq sizeId matrixId) firstLt
  have sum := addCoefs_coefDeltas small (coefScan sizeId) (firstCoef iq sizeId matrixId) firstLt
  have first : (if 1 < sizeId then
      (if decide (1 < sizeId) then (scalingDc iq sizeId matrixId : Int) - 8 else 0) + 8 else 8) =
      firstCoef iq sizeId matrixId := by
    by_cases large : 1 < sizeId <;> simp [firstCoef, large]
  rw [matrixSyntax, diag_eq, firstCoef_cast, ScalingListSyntax.decode, if_pos ?ranges, first, sum,
    Scan.raster_map fun _ => mem_coefScan]
  case ranges =>
    refine ⟨?_, ranges⟩
    intro large
    have := nonzero large
    simp only [large, decide_true, if_true]
    omega
  by_cases large : 1 < sizeId <;> simp [large]

theorem entries_scalingMatrix {n : Nat} (matrix : Fin n → UInt8) :
    (List.ofFn fun pos : Fin n => some (matrixEntry matrix pos : Int)) = rasterEntries matrix := by
  unfold rasterEntries
  congr 1
  funext pos
  simp [matrixEntry]

/-- No DC coefficient of a VA buffer is zero. -/
theorem dcNonzero_iff (iq : VAIQMatrixBufferHEVC) :
    DcNonzero iq ↔
      ¬ ((∃ i, iq.scalingListDc16x16 i = 0) ∨ ∃ i, iq.scalingListDc32x32 i = 0) := by
  have toNat_ne (v : UInt8) : v.toNat ≠ 0 ↔ v ≠ 0 := by
    rw [← UInt8.toNat_zero, ne_eq, UInt8.toNat_inj]
  rw [not_or, not_exists, not_exists]
  constructor
  · intro nonzero
    constructor
    · intro i
      have all : i ∈ matrixIds 2 := by revert i; decide
      exact (toNat_ne _).mp (nonzero 2 (by decide) (by decide) i all)
    · intro i
      have all : (⟨3 * i.val, by omega⟩ : Fin 6) ∈ matrixIds 3 := by revert i; decide
      have large := nonzero 3 (by decide) (by decide) _ all
      have same : (⟨3 * i.val / 3, by omega⟩ : Fin 2) = i :=
        Fin.ext (Nat.mul_div_cancel_left i.val (by decide))
      simp only [scalingDc, same] at large
      exact (toNat_ne _).mp large
  · rintro ⟨dc16, dc32⟩ sizeId size large matrixId -
    have cases : sizeId = 2 ∨ sizeId = 3 := by
      have := List.mem_range.mp size
      omega
    rcases cases with rfl | rfl
    · exact (toNat_ne _).mpr (dc16 matrixId)
    · exact (toNat_ne _).mpr (dc32 _)

/-- All matrices are decoded to those of the VA buffer. -/
theorem decode_scalingSyntax (iq : VAIQMatrixBufferHEVC) (nonzero : DcNonzero iq) :
    List.zipWith ScalingListSyntax.decode dataSizes (scalingSyntax iq) =
      iq.matrices.map some := by
  have decoded {sizeId : Nat} (size : sizeId ∈ List.range 4) (matrixId : Fin 6)
      (mem : matrixId ∈ matrixIds sizeId) :=
    decode_matrixSyntax iq matrixId fun large => nonzero sizeId size large matrixId mem
  have size0 (matrixId : Fin 6) : (matrixSyntax iq 0 matrixId).decode 0 =
      some (none, rasterEntries (iq.scalingList4x4 matrixId)) := by
    rw [decode_matrixSyntax iq matrixId (by simp), ← entries_scalingMatrix]
    rfl
  have size1 (matrixId : Fin 6) : (matrixSyntax iq 1 matrixId).decode 1 =
      some (none, rasterEntries (iq.scalingList8x8 matrixId)) := by
    rw [decode_matrixSyntax iq matrixId (by simp), ← entries_scalingMatrix]
    rfl
  have size2 (matrixId : Fin 6) : (matrixSyntax iq 2 matrixId).decode 2 =
      some (some ((iq.scalingListDc16x16 matrixId).toNat : Int),
        rasterEntries (iq.scalingList16x16 matrixId)) := by
    have all : matrixId ∈ matrixIds 2 := by revert matrixId; decide
    rw [decoded (by decide) matrixId all, ← entries_scalingMatrix]
    rfl
  have size3 (i : Fin 2) : (matrixSyntax iq 3 ⟨3 * i.val, by omega⟩).decode 3 =
      some (some ((iq.scalingListDc32x32 i).toNat : Int), rasterEntries (iq.scalingList32x32 i)) := by
    have all : (⟨3 * i.val, by omega⟩ : Fin 6) ∈ matrixIds 3 := by revert i; decide
    have same : (⟨3 * i.val / 3, by omega⟩ : Fin 2) = i :=
      Fin.ext (Nat.mul_div_cancel_left i.val (by decide))
    rw [decoded (by decide) _ all, ← entries_scalingMatrix]
    simp only [scalingDc, scalingMatrix, same]
    rfl
  have zero := size3 0
  have one := size3 1
  simp [dataSizes, scalingSyntax, matrixIds, VAIQMatrixBufferHEVC.matrices, size0, size1, size2]
  exact ⟨zero, one⟩

end Hevc

/-! ## Both codecs -/

/-- A list with a zero entry that is coded, in terms of the buffer. -/
theorem H264.codedNoZero_iff (iq : H264.VAIQMatrixBufferH264) (transform8x8 : Bool) :
    H264.CodedNoZero (some iq) transform8x8 ↔
      ¬ ((∃ i pos, iq.scalingList4x4 i pos = 0) ∨
        transform8x8 = true ∧ ∃ i pos, iq.scalingList8x8 i pos = 0) := by
  constructor
  · rintro nonzero (⟨i, pos, zero⟩ | ⟨coded, i, pos, zero⟩)
    · exact (nonzero iq rfl).1 i pos zero
    · exact (nonzero iq rfl).2 coded i pos zero
  · rintro noZero m same
    obtain rfl := Option.some.inj same
    refine ⟨fun i pos zero => noZero (.inl ⟨i, pos, zero⟩), ?_⟩
    exact fun coded i pos zero => noZero (.inr ⟨coded, i, pos, zero⟩)

/-- Scaling lists are refused exactly where a value has no code: a zero entry of a list that is
coded in H.264, a zero DC coefficient in HEVC. All others are recovered in raster order, from
differences in the range the standards demand. -/
theorem scalingLists_recovered :
    (∀ (pp : H264.VAPictureParameterBufferH264) (iq : H264.VAIQMatrixBufferH264) (l0 l1 : Int32)
        (bufSize : Nat),
      (2048 ≤ bufSize →
        (H264.h264WritePps bufSize pp (some iq) l0.toInt l1.toInt = none ↔
          (∃ i pos, iq.scalingList4x4 i pos = 0) ∨
            pp.transform8x8ModeFlag = true ∧ ∃ i pos, iq.scalingList8x8 i pos = 0)) ∧
      ∀ out, H264.h264WritePps bufSize pp (some iq) l0.toInt l1.toInt = some out →
        ∃ nal, nalUnits out = [nal] ∧ H264.ppsScalingLists nal =
          some ((List.ofFn iq.scalingList4x4).map rasterEntries,
            if pp.transform8x8ModeFlag then (List.ofFn iq.scalingList8x8).map rasterEntries
            else [])) ∧
    (∀ iq : Hevc.VAIQMatrixBufferHEVC,
      (∀ bs : BSWriter, bs.Ok →
        (Hevc.writeScalingLists iq bs = none ↔
          (∃ i, iq.scalingListDc16x16 i = 0) ∨ ∃ i, iq.scalingListDc32x32 i = 0)) ∧
      (¬ ((∃ i, iq.scalingListDc16x16 i = 0) ∨ ∃ i, iq.scalingListDc32x32 i = 0) →
        ∃ bits data, Emits (Hevc.writeScalingLists iq) bits ∧
          Reads Hevc.readScalingListData bits data ∧
          List.zipWith Hevc.ScalingListSyntax.decode Hevc.dataSizes data =
            iq.matrices.map some)) ∧
    ∀ (pp : Hevc.VAPictureParameterBufferHEVC) (iq : Hevc.VAIQMatrixBufferHEVC) (profileIdc : Nat)
      (bytes : List UInt8), pp.scalingListEnabledFlag = true →
      Hevc.WritesPicture pp (some iq) profileIdc bytes →
      ∃ front ppsNal pps data, nalUnits bytes = front ++ [ppsNal] ∧
        Hevc.parseNal 34 Hevc.readPps ppsNal = some pps ∧ pps.scalingListData = some data ∧
        List.zipWith Hevc.ScalingListSyntax.decode Hevc.dataSizes data = iq.matrices.map some := by
  refine ⟨?_, ?_, ?_⟩
  · intro pp iq l0 l1 bufSize
    constructor
    · intro buffer
      rw [H264.h264WritePps_none_iff pp iq l0 l1 buffer, H264.codedNoZero_iff, not_not]
    · intro out written
      exact H264.ppsScalingLists_written written
  · intro iq
    rw [← Hevc.dcNonzero_iff]
    constructor
    · intro bs ok
      rw [← not_not (a := _ ∨ _), ← Hevc.dcNonzero_iff]
      constructor
      · intro failed nonzero
        obtain ⟨bs', run, -⟩ := Hevc.emits_scalingLists iq nonzero bs ok
        rw [run] at failed
        cases failed
      · intro zero
        exact Hevc.fails_scalingLists iq zero bs
    · intro nonzero
      exact ⟨_, _, Hevc.emits_scalingLists iq nonzero, Hevc.reads_scalingLists iq,
        Hevc.decode_scalingSyntax iq nonzero⟩
  · intro pp iq profileIdc bytes enabled writes
    obtain ⟨front, ppsNal, ppsId, nals, reads, scaling⟩ := Hevc.ppsOf_writesPicture writes
    obtain ⟨m, same, nonzero⟩ := scaling enabled
    obtain rfl := Option.some.inj same
    refine ⟨front, ppsNal, _, Hevc.scalingSyntax iq, nals, reads, ?_,
      Hevc.decode_scalingSyntax iq nonzero⟩
    simp [Hevc.ppsOf, enabled]

/-- The flat matrices of HEVC. -/
def Hevc.flatMatrices : Hevc.VAIQMatrixBufferHEVC :=
  ⟨fun _ _ => 16, fun _ _ => 16, fun _ _ => 16, fun _ _ => 16, fun _ => 16, fun _ => 16⟩

theorem scalingLists_recovered_flat :
    H264.h264WritePps 2048 H264.interlacedPicture (some H264.flatMatrices) (3 : Int32).toInt
      (1 : Int32).toInt ≠ none ∧
    ∃ bits data, Emits (Hevc.writeScalingLists Hevc.flatMatrices) bits ∧
      Reads Hevc.readScalingListData bits data ∧
      List.zipWith Hevc.ScalingListSyntax.decode Hevc.dataSizes data =
        Hevc.flatMatrices.matrices.map some := by
  obtain ⟨h264, hevc, -⟩ := scalingLists_recovered
  constructor
  · intro failed
    have zero := ((h264 H264.interlacedPicture H264.flatMatrices 3 1 2048).1 (Nat.le_refl _)).mp failed
    simp [H264.flatMatrices] at zero
  · exact (hevc Hevc.flatMatrices).2 (by simp [Hevc.flatMatrices])

end RockchipVaapi
