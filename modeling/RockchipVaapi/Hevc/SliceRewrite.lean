import RockchipVaapi.Hevc.BitReader
import RockchipVaapi.Hevc.ParameterSets

/-!
# Rewriting a slice segment header

The model of `rk_hevc_rewrite_slice_nal` and of the functions it calls. MPP is given an SPS
without short-term and long-term tables, so a slice that refers to the stream's own SPS gets
its reference picture set written out in the header.
-/

namespace RockchipVaapi.Hevc
open Bitstream

/-- `ceil_log2_u32` (`hevc.c:109-119`). The loop that halves `max` counts `Nat.log2`. -/
def ceilLog2U32 (value : Nat) : Nat :=
  let max := value - 1
  if max = 0 then 0 else Nat.log2 max + 1

/-- `nal_offset` (`hevc.c:121-131`). -/
def nalOffset : List UInt8 → Nat
  | 0 :: 0 :: 0 :: 1 :: _ => 4
  | 0 :: 0 :: 1 :: _ => 3
  | _ => 0

/-- The loop of `unescape_prefix`. -/
def unescapePrefixLoop (dstSize : Nat) : List UInt8 → Nat → List UInt8 → List UInt8
  | [], _, out => out
  | b :: src, zeros, out =>
    if dstSize ≤ out.length then out
    else if 2 ≤ zeros ∧ b = 3 ∧ src.head?.any (· ≤ 3) then unescapePrefixLoop dstSize src 0 out
    else unescapePrefixLoop dstSize src (if b = 0 then zeros + 1 else 0) (out ++ [b])

/-- `unescape_prefix` (`hevc.c:133-148`). -/
def unescapePrefix (src : List UInt8) (dstSize : Nat) : List UInt8 :=
  unescapePrefixLoop dstSize src 0 []

/-! ## Reading the original header -/

/-- What `rk_hevc_rewrite_slice_nal` reads of a header before it knows whether the slice segment
is dependent (`hevc.c:800-829`). -/
def brReadSegmentStart (pp : VAPictureParameterBufferHEVC) (nalType : Nat) : BrM Bool := do
  let firstSlice ← brReadBit
  let _ ← brIf (decide (16 ≤ nalType) && decide (nalType ≤ 23)) brReadBit 0
  let _ ← brReadUe
  let dependent ←
    brIf (firstSlice == 0 && pp.dependentSliceSegmentsEnabledFlag) brReadBit 0
  brIf (firstSlice == 0) (brSkipBits (ceilLog2U32 (widthCtbs pp * heightCtbs pp))) ()
  return dependent != 0

/-- The elements up to `slice_pic_order_cnt_lsb`, which is returned (`hevc.c:837-852`). -/
def brReadPocLsb (pp : VAPictureParameterBufferHEVC) : BrM Nat := do
  brEach brReadBit pp.numExtraSliceHeaderBits.toNat
  let _ ← brReadUe
  let _ ← brIf pp.outputFlagPresentFlag brReadBit 0
  brIf pp.separateColourPlaneFlag (brSkipBits 2) ()
  brReadBits (pp.log2MaxPicOrderCntLsbMinus4.toNat + 4)

/-- The short-term part of `skip_original_rps` (`hevc.c:713-725`). -/
def skipShortTerm (pp : VAPictureParameterBufferHEVC) : BrM Unit := do
  let flag ← brReadBit
  if flag = 0 then brSkipBits pp.stRpsBits.toNat
  else if pp.numShortTermRefPicSets = 0 then brFail
  else brSkipBits (ceilLog2U32 pp.numShortTermRefPicSets.toNat)

/-- `delta_present` and what follows it, in the loop of `skip_original_rps`. -/
def skipMsbCycle : BrM Unit := do
  let deltaPresent ← brReadBit
  let _ ← brIf (deltaPresent != 0) brReadUe 0
  return ()

/-- The part of `skip_original_rps` behind `num_long_term_sps` (`hevc.c:734-756`). -/
def skipLongTermPics (pp : VAPictureParameterBufferHEVC) (numLtSps : Nat) : BrM Unit := do
  let numLtPics ← brReadUe
  if pp.numLongTermRefPicSps.toNat < numLtSps ∨ 15 < (numLtSps + numLtPics) % 2 ^ 32 then brFail
  else
    let total := (numLtSps + numLtPics) % 2 ^ 32
    brEach (do brSkipBits (ceilLog2U32 pp.numLongTermRefPicSps.toNat); skipMsbCycle)
      (min numLtSps total)
    brEach (do brSkipBits (pp.log2MaxPicOrderCntLsbMinus4.toNat + 4 + 1); skipMsbCycle)
      (total - numLtSps)

/-- `skip_original_rps` (`hevc.c:704-760`): `lt_verbatim_bit` and `lt_verbatim`. -/
def skipOriginalRps (pp : VAPictureParameterBufferHEVC) : BrM (Nat × Bool) := do
  skipShortTerm pp
  brIf pp.longTermRefPicsPresentFlag (do
    let numLtSps ← brIf (decide (0 < pp.numLongTermRefPicSps.toNat)) brReadUe 0
    let ltVerbatimBit ← brPosition
    skipLongTermPics pp numLtSps
    return (ltVerbatimBit, numLtSps == 0)) (0, false)

/-! ## Writing the new header -/

/-- A difference of `uint32_t` values. -/
def sub32 (a b : Nat) : Nat := (((a : Int) - b) % 2 ^ 32).toNat

/-- One of the loops of `write_short_term_rps`. -/
def writeRpsEntries : Nat → List HEVCRPSEntry → BsM Unit
  | _, [] => pure ()
  | previous, entry :: entries => do
    bsWriteUe (sub32 (sub32 entry.delta previous) 1)
    bsWriteFlag entry.used
    writeRpsEntries entry.delta entries

/-- `write_short_term_rps` (`hevc.c:592-612`). -/
def writeShortTermRps (rps : HEVCRPS) (index : Nat) : BsM Unit := do
  bsIf (decide (0 < index)) (bsWrite 0 1)
  bsWriteUe rps.negative.length
  bsWriteUe rps.positive.length
  writeRpsEntries 0 rps.negative
  writeRpsEntries 0 rps.positive

/-- `(int32_t)poc` of an entry. -/
def HEVCRPSEntry.signedPoc (entry : HEVCRPSEntry) : Int := Int.bmod entry.poc (2 ^ 32)

/-- The loop of `write_long_term_rps`. C division truncates. -/
def writeLongTermEntries (pocBits : Nat) (currentPoc : Int) (pocLsb : Nat) :
    Int → List HEVCRPSEntry → BsM Unit
  | _, [] => pure ()
  | previousMsb, entry :: entries => do
    let refLsb := (entry.signedPoc % 2 ^ pocBits).toNat
    let msb := Int.tdiv (refLsb + currentPoc - pocLsb - entry.signedPoc) (2 ^ pocBits)
    bsWrite refLsb pocBits
    bsWriteFlag entry.used
    if msb < 0 ∨ msb < previousMsb ∨ 2 ^ 32 - 1 < msb - previousMsb then bsFail
    else do
      bsWrite 1 1
      bsWriteUe (msb - previousMsb).toNat
      writeLongTermEntries pocBits currentPoc pocLsb msb entries

/-- `write_long_term_rps` (`hevc.c:614-656`). -/
def writeLongTermRps (rps : HEVCRPS) (pp : VAPictureParameterBufferHEVC) (pocLsb : Nat) :
    BsM Unit :=
  bsIf pp.longTermRefPicsPresentFlag do
    bsWriteUe rps.longTerm.length
    writeLongTermEntries (pp.log2MaxPicOrderCntLsbMinus4.toNat + 4)
      pp.currPic.picOrderCnt.toInt pocLsb 0 rps.longTerm

/-- `bit_at` (`hevc.c:670-673`). -/
def bitAt (src : List UInt8) (bit : Nat) : Nat :=
  ((src.getD (bit / 8) 0).toNat >>> (7 - bit % 8)) &&& 1

/-- `copy_bits` (`hevc.c:658-668`). -/
def copyBits (src : List UInt8) (startBit endBit : Nat) : BsM Unit :=
  if endBit < startBit then bsFail
  else bsEach (fun bit => bsWrite1 (bitAt src bit)) (List.range' startBit (endBit - startBit))

/-- `find_byte_alignment_start` (`hevc.c:675-691`), from `bit = rpsEndBit + n` down. -/
def findByteAlignmentStart (rbsp : List UInt8) (rpsEndBit : Nat) : Nat → Option Nat
  | 0 => none
  | n + 1 =>
    if bitAt rbsp (rpsEndBit + n) ≠ 0 then some (rpsEndBit + n)
    else findByteAlignmentStart rbsp rpsEndBit n

/-- The rest of the slice segment behind the reference picture set (`hevc.c:877-894`). -/
def copyRemainder (rbsp : List UInt8) (sp : Option VASliceParameterBufferHEVC) (rpsEnd : Nat) :
    BsM Unit :=
  match sp.map (·.sliceDataByteOffset.toNat) with
  | none => copyBits rbsp rpsEnd (8 * rbsp.length)
  | some offset =>
    if offset < 2 then copyBits rbsp rpsEnd (8 * rbsp.length)
    else
      let sliceDataBit := (offset - 2) * 8
      if 8 * rbsp.length < sliceDataBit ∨ sliceDataBit < rpsEnd then bsFail
      else match findByteAlignmentStart rbsp rpsEnd (sliceDataBit - rpsEnd) with
        | none => bsFail
        | some alignStart => do
          copyBits rbsp rpsEnd alignStart
          bsRbspTrailing
          copyBits rbsp sliceDataBit (8 * rbsp.length)

/-- Where the original reference picture set lies, and where the long-term part that can be kept
begins. -/
structure RpsPlace where
  rpsStart : Nat
  ltVerbatimBit : Nat
  ltVerbatim : Bool
  rpsEnd : Nat
  pocLsb : Nat
  deriving DecidableEq, Repr

/-- The reads of an independent slice segment (`hevc.c:837-859`). -/
def findRps (pp : VAPictureParameterBufferHEVC) : BrM RpsPlace := do
  let pocLsb ← brReadPocLsb pp
  let rpsStart ← brPosition
  let (ltVerbatimBit, ltVerbatim) ← skipOriginalRps pp
  let rpsEnd ← brPosition
  return { rpsStart, ltVerbatimBit, ltVerbatim, rpsEnd, pocLsb }

/-- The long-term part: the stream's own bits, or the entries of `ReferenceFrames`
(`hevc.c:871-876`). -/
def copyOrWriteLongTerm (pp : VAPictureParameterBufferHEVC) (rbsp : List UInt8) (place : RpsPlace)
    (rps : HEVCRPS) : BsM Unit :=
  if place.ltVerbatim then copyBits rbsp place.ltVerbatimBit place.rpsEnd
  else writeLongTermRps rps pp place.pocLsb

/-- The new payload (`hevc.c:867-894`). -/
def rewriteRbsp (pp : VAPictureParameterBufferHEVC) (sp : Option VASliceParameterBufferHEVC)
    (rbsp : List UInt8) (place : RpsPlace) (rps : HEVCRPS) : BsM Unit := do
  copyBits rbsp 0 place.rpsStart
  bsWrite 0 1
  writeShortTermRps rps 0
  copyOrWriteLongTerm pp rbsp place rps
  copyRemainder rbsp sp place.rpsEnd

/-- The part of `rk_hevc_rewrite_slice_nal` for a slice segment that is not copied: the reader is
behind the start of the header (`hevc.c:837-911`). -/
def rewriteIndependent (bufSize : Nat) (startCode : List UInt8) (nal0 nal1 : UInt8)
    (nalSize : Nat) (pp : VAPictureParameterBufferHEVC) (sp : Option VASliceParameterBufferHEVC)
    (br : HEVCBitReader) : Option (List UInt8) := do
  let (place, _) ← findRps pp br
  let rps ← collectRps pp
  let (_, bs) ← rewriteRbsp pp sp br.data place rps (BSWriter.init (nalSize + 4096))
  if bufSize < startCode.length + 2 then none
  else
    let used := startCode.length + 2
    let escaped := emulationPrevent bs.output (bufSize - used)
    if escaped = [] ∨ 2 ^ 31 - 1 - used < escaped.length then none
    else some (startCode ++ nal0 :: nal1 :: escaped)

/-- `memcpy(buf, data, size)` where it fits. -/
def copyNal (bufSize : Nat) (data : List UInt8) : Option (List UInt8) :=
  if bufSize < data.length then none else some data

/-- `rk_hevc_rewrite_slice_nal` (`hevc.c:762-917`): the bytes of `buf` up to the returned length,
or `none` for `-1`. `allocated` says whether both calls of `malloc` succeed. -/
def rkHevcRewriteSliceNal (allocated : Bool) (bufSize : Nat) (data : List UInt8)
    (pp : VAPictureParameterBufferHEVC) (sp : Option VASliceParameterBufferHEVC) :
    Option (List UInt8) :=
  if !validateSliceSyntaxBounds pp then none
  else
    let startCode := data.take (nalOffset data)
    match data.drop (nalOffset data) with
    | nal0 :: nal1 :: byte :: bytes =>
      let payload := byte :: bytes
      let nalType := (nal0.toNat >>> 1) &&& 0x3f
      if 2 ^ 31 - 1 < data.length then none
      else if nal0 &&& 0x80 ≠ 0 ∨ 31 < nalType ∨ nal1 &&& 7 = 0 then none
      else if nalType = 19 ∨ nalType = 20 then copyNal bufSize data
      else if !allocated then none
      else do
        let nalSize := payload.length + 2
        let rbsp := unescapePrefix payload nalSize
        let (dependent, br) ← brReadSegmentStart pp nalType ⟨rbsp, 0⟩
        if dependent then copyNal bufSize data
        else rewriteIndependent bufSize startCode nal0 nal1 nalSize pp sp br
    | _ => none

/-- What a call that succeeds has found, and what it did: it copied, or it rewrote an independent
segment. -/
theorem rkHevcRewriteSliceNal_eq_some {allocated : Bool} {bufSize : Nat} {data out : List UInt8}
    {pp : VAPictureParameterBufferHEVC} {sp : Option VASliceParameterBufferHEVC}
    (h : rkHevcRewriteSliceNal allocated bufSize data pp sp = some out) :
    validateSliceSyntaxBounds pp = true ∧ ∃ nal0 nal1 byte bytes,
      data.drop (nalOffset data) = nal0 :: nal1 :: byte :: bytes ∧
      ¬(nal0 &&& 0x80 ≠ 0 ∨ 31 < (nal0.toNat >>> 1) &&& 0x3f ∨ nal1 &&& 7 = 0) ∧
      (((nal0.toNat >>> 1) &&& 0x3f = 19 ∨ (nal0.toNat >>> 1) &&& 0x3f = 20) ∧
          copyNal bufSize data = some out ∨
        ¬((nal0.toNat >>> 1) &&& 0x3f = 19 ∨ (nal0.toNat >>> 1) &&& 0x3f = 20) ∧
          ∃ dependent br, brReadSegmentStart pp ((nal0.toNat >>> 1) &&& 0x3f)
              ⟨unescapePrefix (byte :: bytes) ((byte :: bytes).length + 2), 0⟩ =
                some (dependent, br) ∧
            (if dependent = true then copyNal bufSize data
              else rewriteIndependent bufSize (data.take (nalOffset data)) nal0 nal1
                ((byte :: bytes).length + 2) pp sp br) = some out) := by
  unfold rkHevcRewriteSliceNal at h
  cases bounds : validateSliceSyntaxBounds pp with
  | false =>
    rw [bounds] at h
    cases h
  | true =>
    refine ⟨rfl, ?_⟩
    rw [bounds] at h
    simp only [Bool.not_true, Bool.false_eq_true, if_false] at h
    split at h
    · rename_i nal0 nal1 byte bytes nal
      refine ⟨nal0, nal1, byte, bytes, nal, ?_⟩
      split at h
      · cases h
      · split at h
        · cases h
        · rename_i valid
          refine ⟨valid, ?_⟩
          split at h
          · rename_i idr
            exact .inl ⟨idr, h⟩
          · rename_i notIdr
            split at h
            · cases h
            · obtain ⟨⟨dependent, br⟩, start, h⟩ := Option.bind_eq_some_iff.mp h
              exact .inr ⟨notIdr, dependent, br, start, h⟩
    · cases h

end RockchipVaapi.Hevc
