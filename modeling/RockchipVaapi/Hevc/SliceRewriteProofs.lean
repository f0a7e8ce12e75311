import RockchipVaapi.Hevc.RoundTrip
import RockchipVaapi.Hevc.SliceRewrite
import RockchipVaapi.Hevc.SliceSyntax

/-!
# Rewriting a slice keeps its meaning

`rk_hevc_rewrite_slice_nal` is compared with the slice segment header syntax of the standard.
The original header is read under the facts `pp` states, the rewritten one under the facts of
the parameter sets the driver emits. Between the two only the short-term reference picture set
changes: it becomes the set of the valid short-term `ReferenceFrames`.
-/

namespace RockchipVaapi.Hevc
open Bitstream HEVCBitReader

/-- What `pp` says about the stream's own parameter sets. -/
def SliceFacts.ofPicture (pp : VAPictureParameterBufferHEVC) : SliceFacts where
  chromaFormatIdc := pp.chromaFormatIdc.val
  separateColourPlaneFlag := pp.separateColourPlaneFlag
  picSizeInCtbs := widthCtbs pp * heightCtbs pp
  pocLsbBits := pp.log2MaxPicOrderCntLsbMinus4.toNat + 4
  numShortTermRefPicSets := pp.numShortTermRefPicSets.toNat
  longTermRefPicsPresentFlag := pp.longTermRefPicsPresentFlag
  numLongTermRefPicsSps := pp.numLongTermRefPicSps.toNat
  temporalMvpEnabledFlag := pp.spsTemporalMvpEnabledFlag
  sampleAdaptiveOffsetEnabledFlag := pp.sampleAdaptiveOffsetEnabledFlag
  dependentSliceSegmentsEnabledFlag := pp.dependentSliceSegmentsEnabledFlag
  outputFlagPresentFlag := pp.outputFlagPresentFlag
  numExtraSliceHeaderBits := pp.numExtraSliceHeaderBits.toNat
  cabacInitPresentFlag := pp.cabacInitPresentFlag
  numRefIdxL0DefaultActiveMinus1 := pp.numRefIdxL0DefaultActiveMinus1.toNat
  numRefIdxL1DefaultActiveMinus1 := pp.numRefIdxL1DefaultActiveMinus1.toNat
  sliceChromaQpOffsetsPresentFlag := pp.ppsSliceChromaQpOffsetsPresentFlag
  weightedPredFlag := pp.weightedPredFlag
  weightedBipredFlag := pp.weightedBipredFlag
  entryPointsPresent := pp.tilesEnabledFlag || pp.entropyCodingSyncEnabledFlag
  loopFilterAcrossSlicesEnabledFlag := pp.ppsLoopFilterAcrossSlicesEnabledFlag
  deblockingOverrideEnabledFlag := pp.deblockingFilterOverrideEnabledFlag
  deblockingDisabledFlag := pp.ppsDisableDeblockingFilterFlag
  listsModificationPresentFlag := pp.listsModificationPresentFlag
  headerExtensionPresentFlag := pp.sliceSegmentHeaderExtensionPresentFlag

/-- What the emitted parameter sets say: they hold no short-term sets and no long-term
pictures. -/
def SliceFacts.emitted (pp : VAPictureParameterBufferHEVC) : SliceFacts :=
  { SliceFacts.ofPicture pp with numShortTermRefPicSets := 0, numLongTermRefPicsSps := 0 }

/-- The facts of parameter sets that say what `pp` says, as the emitted ones do. -/
theorem SliceFacts.ofParameterSets_eq {pp : VAPictureParameterBufferHEVC} {ppsId : Nat} {sps : Sps}
    {pps : Pps} (hsps : SpsCarries pp sps) (hpps : PpsCarries pp ppsId pps) :
    SliceFacts.ofParameterSets sps pps = SliceFacts.emitted pp := by
  have size : Hevc.picSizeInCtbs sps.picWidthInLumaSamples sps.picHeightInLumaSamples
      sps.log2MinLumaCodingBlockSizeMinus3 sps.log2DiffMaxMinLumaCodingBlockSize =
        widthCtbs pp * heightCtbs pp := by
    rw [hsps.width, hsps.height, hsps.log2MinCodingBlock, hsps.log2DiffCodingBlock]
    rfl
  simp only [SliceFacts.ofParameterSets, SliceFacts.emitted, SliceFacts.ofPicture, size,
    hsps.chromaFormat, hsps.separateColourPlane, hsps.log2MaxPicOrderCntLsb, hsps.noShortTermSets,
    hsps.longTermRefPicsPresent, hsps.noLongTermPics.1, hsps.temporalMvp,
    hsps.sampleAdaptiveOffset, hpps.dependentSliceSegments, hpps.outputFlagPresent,
    hpps.extraSliceHeaderBits, hpps.cabacInitPresent, hpps.numRefIdxL0, hpps.numRefIdxL1,
    hpps.sliceChromaQpOffsetsPresent, hpps.weightedPred, hpps.weightedBipred, hpps.tilesEnabled,
    hpps.entropyCodingSync, hpps.loopFilterAcrossSlices, hpps.deblockingOverride,
    hpps.deblockingDisabled, hpps.listsModificationPresent, hpps.sliceHeaderExtensionPresent]

/-! ## Bytes -/

theorem ceilLog2U32_eq (value : Nat) : ceilLog2U32 value = Nat.clog 2 value := by
  unfold ceilLog2U32
  simp only
  split
  · rw [Nat.clog_of_right_le_one (by omega)]
  · rename_i more
    apply Nat.le_antisymm
    · rw [Nat.add_one_le_iff, Nat.lt_clog_iff_pow_lt (by decide)]
      have := Nat.log2_self_le more
      omega
    · apply Nat.clog_le_of_le_pow
      have : value - 1 < 2 ^ (Nat.log2 (value - 1) + 1) := Nat.lt_log2_self
      omega

/-- `unescape_prefix` undoes emulation prevention where the destination is large enough. It keeps
a `03` that no byte of value at most three follows, and escaping never leaves one after two
zeros. -/
theorem unescapePrefixLoop_escapeFrom (dstSize : Nat) : ∀ (rbsp : List UInt8) (zeros : Nat)
    (out : List UInt8), out.length + rbsp.length ≤ dstSize →
      unescapePrefixLoop dstSize (escapeFrom zeros rbsp) zeros out = out ++ rbsp := by
  intro rbsp
  induction rbsp with
  | nil => intro zeros out _; simp [escapeFrom, unescapePrefixLoop]
  | cons b rbsp ih =>
    intro zeros out room
    rw [List.length_cons] at room
    have next := ih (if b = 0 then zeros + 1 else 0) (out ++ [b]) (by simp; omega)
    rw [escapeFrom]
    split
    · rename_i escaped
      have first := ih (if b = 0 then 1 else 0) (out ++ [b]) (by simp; omega)
      have dropped : 2 ≤ zeros ∧ (3 : UInt8) = 3 ∧
          (b :: escapeFrom (if b = 0 then 1 else 0) rbsp).head?.any (· ≤ 3) = true :=
        ⟨escaped.1, rfl, by simpa using escaped.2⟩
      rw [unescapePrefixLoop, if_neg (by omega), if_pos dropped, unescapePrefixLoop,
        if_neg (by omega), if_neg (by omega), Nat.zero_add, first]
      simp
    · rename_i kept
      have keep : ¬ (2 ≤ zeros ∧ b = 3 ∧
          (escapeFrom (if b = 0 then zeros + 1 else 0) rbsp).head?.any (· ≤ 3) = true) := by
        rintro ⟨hz, rfl, -⟩
        exact kept ⟨hz, UInt8.le_refl _⟩
      rw [unescapePrefixLoop, if_neg (by omega), if_neg keep, next]
      simp

theorem length_le_escapeFrom (bytes : List UInt8) (zeros : Nat) :
    bytes.length ≤ (escapeFrom zeros bytes).length := by
  induction bytes generalizing zeros with
  | nil => simp
  | cons b bytes ih =>
    rw [escapeFrom]
    split
    · have := ih (if b = 0 then 1 else 0)
      simp only [List.length_cons]
      omega
    · have := ih (if b = 0 then zeros + 1 else 0)
      simp only [List.length_cons]
      omega

theorem unescapePrefix_escape {rbsp : List UInt8} {dstSize : Nat}
    (room : (escape rbsp).length ≤ dstSize) : unescapePrefix (escape rbsp) dstSize = rbsp := by
  have shorter := length_le_escapeFrom rbsp 0
  have room' : (escapeFrom 0 rbsp).length ≤ dstSize := room
  rw [unescapePrefix, escape, unescapePrefixLoop_escapeFrom dstSize rbsp 0 [] (by simp; omega)]
  rfl

/-- The start codes an Annex B stream puts in front of a NAL unit, and none. -/
def startCodes : List (List UInt8) := [[], [0, 0, 1], [0, 0, 0, 1]]

theorem nalOffset_startCode {startCode : List UInt8} (h : startCode ∈ startCodes) {nal0 nal1 : UInt8}
    (temporalId : nal1 &&& 7 ≠ 0) (payload : List UInt8) :
    nalOffset (startCode ++ nal0 :: nal1 :: payload) = startCode.length := by
  have nonzero : nal1 ≠ 0 := by
    rintro rfl
    exact temporalId rfl
  simp only [startCodes, List.mem_cons, List.not_mem_nil, or_false] at h
  rcases h with rfl | rfl | rfl
  · show nalOffset (nal0 :: nal1 :: payload) = 0
    unfold nalOffset
    split
    · rename_i eq
      exact absurd (List.cons.inj (List.cons.inj eq).2).1 nonzero
    · rename_i eq
      exact absurd (List.cons.inj (List.cons.inj eq).2).1 nonzero
    · rfl
  · rfl
  · rfl

/-! ## The walk over the original header -/

theorem forward_longTermPics (pp : VAPictureParameterBufferHEVC) (numLtSps : Nat) :
    Forward (skipLongTermPics pp numLtSps) := by
  have cycle : Forward skipMsbCycle :=
    forward_bit.bind fun _ => forward_ue.brIf.bind fun _ => forward_pure ()
  refine forward_ue.bind fun numLtPics => ?_
  simp only
  split
  · exact forward_fail
  · refine (Forward.brEach ((forward_skip _).bind fun _ => cycle) _).bind fun _ => ?_
    exact Forward.brEach ((forward_skip _).bind fun _ => cycle) _

theorem bitAt_eq {src : List UInt8} {bit : Nat} {b : Bool} (h : (bytesBits src)[bit]? = some b) :
    bitAt src bit = b.toNat := by
  rw [getElem?_bytesBits] at h
  obtain ⟨byte, hbyte, rfl⟩ := Option.map_eq_some_iff.mp h
  rw [bitAt, List.getD_eq_getElem?_getD, hbyte, Option.getD_some, Nat.toNat_testBit,
    Nat.shiftRight_eq_div_pow, Nat.and_one_is_mod]

/-- `copy_bits` copies the bits from `startBit` to `endBit`. -/
theorem emits_copyBits (src : List UInt8) : ∀ (n startBit : Nat),
    startBit + n ≤ (bytesBits src).length →
      Emits (bsEach (fun bit => bsWrite1 (bitAt src bit)) (List.range' startBit n))
        (((bytesBits src).drop startBit).take n) := by
  intro n
  induction n with
  | zero => intro startBit _; rw [List.take_zero]; exact emits_nil
  | succ n ih =>
    intro startBit room
    have inside : startBit < (bytesBits src).length := by omega
    have bit := bitAt_eq (List.getElem?_eq_getElem inside)
    have one : Emits (bsWrite1 (bitAt src startBit)) [(bytesBits src)[startBit]] := by
      rw [bit]
      exact emits_bit _
    rw [List.drop_eq_getElem_cons inside, List.take_succ_cons, List.range'_succ]
    exact one.seq (ih (startBit + 1) (by omega))

theorem emits_copy (src : List UInt8) {startBit endBit : Nat} (order : startBit ≤ endBit)
    (room : endBit ≤ 8 * src.length) :
    Emits (copyBits src startBit endBit) (((bytesBits src).drop startBit).take (endBit - startBit)) := by
  rw [copyBits, if_neg (by omega)]
  exact emits_copyBits src _ startBit (by rw [length_bytesBits]; omega)

/-- The syntax elements of a sorted list of distances. -/
def stRefPics : Nat → List HEVCRPSEntry → List (Nat × Bool)
  | _, [] => []
  | previous, entry :: entries =>
    (entry.delta - previous - 1, entry.used) :: stRefPics entry.delta entries

/-- The code of a picture of a short-term set. -/
def stRefPicCode (pic : Nat × Bool) : List Bool := ueBits pic.1 ++ [pic.2]

/-- The short-term set of a collected reference picture set. -/
def stRefPicSetOf (rps : HEVCRPS) : StRefPicSet where
  negativePics := stRefPics 0 rps.negative
  positivePics := stRefPics 0 rps.positive

theorem length_stRefPics : ∀ (entries : List HEVCRPSEntry) (previous : Nat),
    (stRefPics previous entries).length = entries.length := by
  intro entries
  induction entries with
  | nil => intro _; rfl
  | cons entry entries ih => intro previous; rw [stRefPics, List.length_cons, ih, List.length_cons]

/-- The distances that a decoder derives from the elements are the ones they were made from. -/
theorem distances_stRefPics : ∀ (entries : List HEVCRPSEntry) (previous : Nat),
    (∀ entry ∈ entries, previous < entry.delta) → entries.Pairwise (fun a b => a.delta < b.delta) →
      distances previous (stRefPics previous entries) =
        entries.map fun entry => (entry.delta, entry.used) := by
  intro entries
  induction entries with
  | nil => intro _ _ _; rfl
  | cons entry entries ih =>
    intro previous above sorted
    have first := above entry List.mem_cons_self
    obtain ⟨later, sorted⟩ := List.pairwise_cons.mp sorted
    have delta : previous + (entry.delta - previous - 1) + 1 = entry.delta := by omega
    rw [stRefPics, distances, delta, ih entry.delta later sorted, List.map_cons]

theorem sub32_of_le {a b : Nat} (h : b ≤ a) (small : a < 2 ^ 32) : sub32 a b = a - b := by
  unfold sub32
  rw [Int.emod_eq_of_lt (by omega) (by omega)]
  omega

theorem emits_rpsEntries : ∀ (entries : List HEVCRPSEntry) (previous : Nat),
    (∀ entry ∈ entries, previous < entry.delta ∧ entry.delta ≤ 65535) →
      entries.Pairwise (fun a b => a.delta < b.delta) →
        Emits (writeRpsEntries previous entries)
          ((stRefPics previous entries).map stRefPicCode).flatten := by
  intro entries
  induction entries with
  | nil => intro _ _ _; exact emits_nil
  | cons entry entries ih =>
    intro previous bounds sorted
    have first := bounds entry List.mem_cons_self
    obtain ⟨later, sorted⟩ := List.pairwise_cons.mp sorted
    have value : sub32 (sub32 entry.delta previous) 1 = entry.delta - previous - 1 := by
      have inner : sub32 entry.delta previous = entry.delta - previous :=
        sub32_of_le (by omega) (by omega)
      rw [inner, sub32_of_le (by omega) (by omega)]
    have tail := ih entry.delta
      (fun e he => ⟨later e he, (bounds e (List.mem_cons_of_mem _ he)).2⟩) sorted
    have head : Emits (bsWriteUe (sub32 (sub32 entry.delta previous) 1))
        (ueBits (entry.delta - previous - 1)) := by
      rw [value]
      exact emits_ue (by omega)
    rw [stRefPics, List.map_cons, List.flatten_cons, stRefPicCode, List.append_assoc]
    exact head.seq ((emits_flag entry.used).seq tail)

/-- The bits of a short-term set. -/
def stRefPicSetCodes (set : StRefPicSet) : List (List Bool) :=
  [ueBits set.negativePics.length, ueBits set.positivePics.length,
    (set.negativePics.map stRefPicCode).flatten, (set.positivePics.map stRefPicCode).flatten]

theorem emits_shortTermRps {pp : VAPictureParameterBufferHEVC} {rps : HEVCRPS}
    (sorted : ShortTermSorted pp rps) :
    Emits (writeShortTermRps rps 0) (stRefPicSetCodes (stRefPicSetOf rps)).flatten := by
  have room := sorted.room
  have negative := emits_rpsEntries rps.negative 0
    (fun e he => sorted.bounds e (List.mem_append_left _ he)) sorted.negative
  have positive := emits_rpsEntries rps.positive 0
    (fun e he => sorted.bounds e (List.mem_append_right _ he)) sorted.positive
  have negativeCount : rps.negative.length + 1 < 2 ^ 32 := by omega
  have positiveCount : rps.positive.length + 1 < 2 ^ 32 := by omega
  have counts := (emits_ue negativeCount).cons <| (emits_ue positiveCount).cons <|
    negative.cons positive.last
  rw [stRefPicSetCodes, stRefPicSetOf, length_stRefPics, length_stRefPics]
  exact counts

theorem reads_stRefPicSet (set : StRefPicSet) :
    Reads readStRefPicSet (stRefPicSetCodes set).flatten set := by
  have pics (pics : List (Nat × Bool)) :
      Reads (readMany readStRefPic pics.length) (pics.map stRefPicCode).flatten (pics.map id) :=
    reads_readMany pics fun pic _ => (reads_ue pic.1).bind (reads_flag pic.2).map
  have negative := pics set.negativePics
  have positive := pics set.positivePics
  rw [List.map_id] at negative positive
  refine (reads_ue _).cons <| (reads_ue _).cons <| negative.cons ?_
  rw [List.flatten_singleton]
  exact positive.map

/-- `find_byte_alignment_start` finds the last one in front of the slice data. -/
theorem findByteAlignmentStart_some {rbsp : List UInt8} {rpsEnd : Nat} : ∀ {n alignStart : Nat},
    findByteAlignmentStart rbsp rpsEnd n = some alignStart →
      rpsEnd ≤ alignStart ∧ alignStart < rpsEnd + n ∧ bitAt rbsp alignStart ≠ 0 ∧
        ∀ bit, alignStart < bit → bit < rpsEnd + n → bitAt rbsp bit = 0 := by
  intro n
  induction n with
  | zero => intro alignStart h; cases h
  | succ n ih =>
    intro alignStart h
    rw [findByteAlignmentStart] at h
    split at h
    · rename_i one
      obtain rfl := Option.some.inj h
      exact ⟨by omega, by omega, one, fun bit _ _ => by omega⟩
    · rename_i zero
      obtain ⟨low, high, one, later⟩ := ih h
      refine ⟨low, by omega, one, fun bit above below => ?_⟩
      by_cases last : bit = rpsEnd + n
      · rw [last]
        exact not_not.mp zero
      · exact later bit above (by omega)

/-- The short-term set holds exactly the valid short-term `ReferenceFrames`, the nearest picture
first on each side, with the pictures the current one may refer to marked. -/
structure DescribesReferences (pp : VAPictureParameterBufferHEVC) (set : StRefPicSet) : Prop where
  before : set.deltaPocS0.Pairwise (fun a b => b.1 < a.1) ∧ ∀ pic ∈ set.deltaPocS0, pic.1 < 0
  after : set.deltaPocS1.Pairwise (fun a b => a.1 < b.1) ∧ ∀ pic ∈ set.deltaPocS1, 0 < pic.1
  all : (set.deltaPocS0 ++ set.deltaPocS1).Perm
    ((shortTermRefs pp).map (shortTermEntry pp.currPic.picOrderCnt.toInt))

theorem describesReferences_stRefPicSetOf {pp : VAPictureParameterBufferHEVC} {rps : HEVCRPS}
    (sorted : ShortTermSorted pp rps) : DescribesReferences pp (stRefPicSetOf rps) := by
  have negativePos : ∀ entry ∈ rps.negative, 0 < entry.delta := fun entry hentry =>
    (sorted.bounds entry (List.mem_append_left _ hentry)).1
  have positivePos : ∀ entry ∈ rps.positive, 0 < entry.delta := fun entry hentry =>
    (sorted.bounds entry (List.mem_append_right _ hentry)).1
  have s0 : (stRefPicSetOf rps).deltaPocS0 =
      rps.negative.map fun entry => (-(entry.delta : Int), entry.used) := by
    rw [StRefPicSet.deltaPocS0, stRefPicSetOf, distances_stRefPics _ 0 negativePos sorted.negative,
      List.map_map]
    rfl
  have s1 : (stRefPicSetOf rps).deltaPocS1 =
      rps.positive.map fun entry => ((entry.delta : Int), entry.used) := by
    rw [StRefPicSet.deltaPocS1, stRefPicSetOf, distances_stRefPics _ 0 positivePos sorted.positive,
      List.map_map]
    rfl
  refine ⟨⟨?_, ?_⟩, ⟨?_, ?_⟩, ?_⟩
  · rw [s0, List.pairwise_map]
    exact sorted.negative.imp fun h => by omega
  · intro pic hpic
    rw [s0] at hpic
    obtain ⟨entry, hentry, rfl⟩ := List.mem_map.mp hpic
    have := negativePos entry hentry
    simp only
    omega
  · rw [s1, List.pairwise_map]
    exact sorted.positive.imp fun h => by omega
  · intro pic hpic
    rw [s1] at hpic
    obtain ⟨entry, hentry, rfl⟩ := List.mem_map.mp hpic
    have := positivePos entry hentry
    simp only
    omega
  · rw [s0, s1]
    exact sorted.perm

/-- A NAL unit of an independent slice segment that is not part of an IDR picture, as the stream
codes it: the header is read under the facts `pp` states, and takes no long-term picture from the
SPS. A coded short-term set may be predicted from the sets of the SPS, so only its length
`st_rps_bits` is known, and with it nothing of how `NumPicTotalCurr` comes about. -/
structure CodedSlice (pp : VAPictureParameterBufferHEVC) (count : PicCount (List Bool)) where
  startCode : List UInt8
  nal0 : UInt8
  nal1 : UInt8
  rbsp : List UInt8
  header : SliceSegmentHeader (List Bool)
  sliceData : List UInt8
  startCode_mem : startCode ∈ startCodes
  temporalId : nal1 &&& 7 ≠ 0
  notIdr : (nal0.toNat >>> 1) &&& 0x3f ≠ 19 ∧ (nal0.toNat >>> 1) &&& 0x3f ≠ 20
  coded : sliceSegmentLayer (SliceFacts.ofPicture pp) (readBits pp.stRpsBits.toNat) count
    ((nal0.toNat >>> 1) &&& 0x3f) rbsp = some (header, sliceData)
  noSpsPics : header.longTerm.spsPics = []

namespace CodedSlice

variable {pp : VAPictureParameterBufferHEVC} {count : PicCount (List Bool)}

/-- `nal_unit_type`. -/
def nalType (slice : CodedSlice pp count) : Nat := (slice.nal0.toNat >>> 1) &&& 0x3f

/-- The bytes the driver is handed. -/
def bytes (slice : CodedSlice pp count) : List UInt8 :=
  slice.startCode ++ slice.nal0 :: slice.nal1 :: escape slice.rbsp

end CodedSlice

/-- `blockPicture` at picture order count 10, with three short-term references and one more that it
does not use. -/
def interPicture : VAPictureParameterBufferHEVC :=
  { blockPicture with
    currPic := ⟨1, 10, 0⟩
    referenceFrames := fun i => match i with
      | 0 => ⟨2, 9, vaPictureRpsStCurrBefore⟩
      | 1 => ⟨3, 7, vaPictureRpsStCurrBefore⟩
      | 2 => ⟨4, 12, vaPictureRpsStCurrAfter⟩
      | 3 => ⟨5, 8, 0⟩
      | _ => ⟨0xffffffff, 0, 1⟩ }

/-- A P slice of `interPicture` that selects set 0 of the SPS and codes a long-term picture. -/
def interSlice : CodedSlice interPicture (fun _ _ => 4) where
  startCode := [0, 0, 1]
  nal0 := 0x02
  nal1 := 0x01
  rbsp := [208, 84, 128, 174, 124, 0, 0, 3, 128]
  header :=
    { segment := ⟨true, false, 0, 0⟩
      start := ⟨[], 1, true, 0, 10⟩
      shortTerm := .fromSps 0
      longTerm := ⟨[], [⟨2, true, none⟩]⟩
      tail :=
        { sliceTemporalMvpEnabledFlag := true, sliceSaoLumaFlag := true, sliceSaoChromaFlag := true
          inter := some ⟨1, 0, none, none, false, false, true, 0, none, 0⟩
          sliceQpDelta := 0, sliceCbQpOffset := 0, sliceCrQpOffset := 0
          deblockingFilterOverrideFlag := false, sliceDeblockingFilterDisabledFlag := false
          deblockingOffsets := none, sliceLoopFilterAcrossSlicesEnabledFlag := true
          entryPointOffsets := [], headerExtension := [] } }
  sliceData := [0, 0, 3, 128]
  startCode_mem := by decide
  temporalId := by decide
  notIdr := by decide
  coded := by decide +kernel
  noSpsPics := rfl

end RockchipVaapi.Hevc
