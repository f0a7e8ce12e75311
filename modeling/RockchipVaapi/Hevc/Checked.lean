import RockchipVaapi.Hevc.Job
import RockchipVaapi.Misc.Guarded

/-!
# The slice walks with checked accesses

`br_read_bit` returns a value for every position of a list, `bs_write1` drops what does not fit, and
a shift has a result whatever its amount is. Here the functions behind `rk_hevc_parse_slice_info`
and `rk_hevc_rewrite_slice_nal` stand once more, with the same words in the same order, but each
access to the payload, to a destination or to the writer stops at a fault where C leaves it
undefined or loses a bit, and so does each shift by a computed amount.
-/

namespace RockchipVaapi.Hevc.Checked
open Guarded

/-- What a checked function stops at. -/
inductive Fault
  /-- A bit of the unescaped payload is read behind its end. -/
  | read (bit : Nat)
  /-- A shift by a negative amount, or by the width of the type or more. -/
  | shift (amount : Int)
  /-- `bs_write1` drops a bit. -/
  | dropped
  /-- A byte is stored behind the end of its destination. -/
  | store (index : Nat)
  deriving DecidableEq, Repr

/-- A walk of the bit reader. -/
abbrev BrM (α : Type) := Program Fault HEVCBitReader α

/-- A program that writes through a `BSWriter`. -/
abbrev BsM (α : Type) := Program Fault BSWriter α

/-! ## Accesses -/

/-- A bit of a buffer. -/
def readBitAt (data : List UInt8) (bit : Nat) : Except Fault Nat :=
  if 8 * data.length ≤ bit then .error (.read bit) else .ok (Hevc.bitAt data bit)

/-- `value << amount` on a `uint32_t`. -/
def shiftLeft (value amount : Nat) : Except Fault Nat :=
  if 32 ≤ amount then .error (.shift amount) else .ok (value * 2 ^ amount % 2 ^ 32)

/-- `value >> amount` on a `uint32_t`. -/
def shiftRight (value amount : Nat) : Except Fault Nat :=
  if 32 ≤ amount then .error (.shift amount) else .ok (value >>> amount)

/-- `dst[out++] = byte`, where `dst` holds `size` bytes. -/
def store (size : Nat) (out : List UInt8) (byte : UInt8) : Except Fault (List UInt8) :=
  if size ≤ out.length then .error (.store out.length) else .ok (out ++ [byte])

/-- `memcpy(dst + out, bytes, ...)`, where `dst` holds `size` bytes. -/
def storeAll (size : Nat) (out bytes : List UInt8) : Except Fault (List UInt8) :=
  if size < out.length + bytes.length then .error (.store (out.length + bytes.length))
  else .ok (out ++ bytes)

/-! ## The bit reader -/

def brPosition : BrM Nat := fun br => .ok (some (br.bit, br))

def brReadBit : BrM Nat := fun br =>
  if br.data.length * 8 ≤ br.bit then .ok none
  else (readBitAt br.data br.bit).map fun bit => some (bit, { br with bit := br.bit + 1 })

def brCountZeros : Nat → Nat → BrM Nat
  | left, zeros => do
    let bit ← brReadBit
    if bit = 1 then return zeros
    else match left with
      | 0 => giveUp
      | left + 1 => brCountZeros left (zeros + 1)

def brReadInto : Nat → Nat → BrM Nat
  | 0, out => return out
  | n + 1, out => do
    let bit ← brReadBit
    let shifted ← access (shiftLeft out 1)
    brReadInto n ((shifted + bit) % 2 ^ 32)

/-- `(zeros == 31 ? UINT32_MAX : (UINT32_C(1) << zeros) - 1)`. -/
def ueBase (zeros : Nat) : Except Fault Nat :=
  if zeros = 31 then .ok (2 ^ 32 - 1) else (shiftLeft 1 zeros).map (· - 1)

def brReadUe : BrM Nat := do
  let zeros ← brCountZeros 31 0
  let suffix ← brReadInto zeros 0
  let base ← access (ueBase zeros)
  return (base + suffix) % 2 ^ 32

def brReadBits (count : Nat) : BrM Nat := fun br =>
  if 32 < count ∨ br.data.length * 8 < br.bit ∨ br.data.length * 8 - br.bit < count then .ok none
  else brReadInto count 0 br

def brSkipBits (count : Nat) : BrM Unit := fun br =>
  if br.data.length * 8 < br.bit ∨ br.data.length * 8 - br.bit < count then .ok none
  else .ok (some ((), { br with bit := br.bit + count }))

def brIf {α : Type} (condition : Bool) (m : BrM α) (absent : α) : BrM α :=
  if condition then m else pure absent

def brEach {α : Type} (m : BrM α) : Nat → BrM Unit
  | 0 => return ()
  | n + 1 => do
    let _ ← m
    brEach m n

/-! ## Reading the original header -/

/-- The width of `slice_segment_address`, with the shift of `ctb_size`. -/
def segmentAddressBits (pp : VAPictureParameterBufferHEVC) : Except Fault Nat := do
  let ctbSize ← shiftLeft 1 (ctbLog2 pp)
  let widthCtbs := (pp.picWidthInLumaSamples.toNat + ctbSize - 1) / ctbSize
  let heightCtbs := (pp.picHeightInLumaSamples.toNat + ctbSize - 1) / ctbSize
  return ceilLog2U32 (widthCtbs * heightCtbs)

def brReadSegmentStart (pp : VAPictureParameterBufferHEVC) (nalType : Nat) : BrM Bool := do
  let firstSlice ← brReadBit
  let _ ← brIf (decide (16 ≤ nalType) && decide (nalType ≤ 23)) brReadBit 0
  let _ ← brReadUe
  let dependent ←
    brIf (firstSlice == 0 && pp.dependentSliceSegmentsEnabledFlag) brReadBit 0
  brIf (firstSlice == 0) (do
    let bits ← access (segmentAddressBits pp)
    brSkipBits bits) ()
  return dependent != 0

def brReadPocLsb (pp : VAPictureParameterBufferHEVC) : BrM Nat := do
  brEach brReadBit pp.numExtraSliceHeaderBits.toNat
  let _ ← brReadUe
  let _ ← brIf pp.outputFlagPresentFlag brReadBit 0
  brIf pp.separateColourPlaneFlag (brSkipBits 2) ()
  brReadBits (pp.log2MaxPicOrderCntLsbMinus4.toNat + 4)

def skipShortTerm (pp : VAPictureParameterBufferHEVC) : BrM Unit := do
  let flag ← brReadBit
  if flag = 0 then brSkipBits pp.stRpsBits.toNat
  else if pp.numShortTermRefPicSets = 0 then giveUp
  else brSkipBits (ceilLog2U32 pp.numShortTermRefPicSets.toNat)

def skipMsbCycle : BrM Unit := do
  let deltaPresent ← brReadBit
  let _ ← brIf (deltaPresent != 0) brReadUe 0
  return ()

def skipLongTermPics (pp : VAPictureParameterBufferHEVC) (numLtSps : Nat) : BrM Unit := do
  let numLtPics ← brReadUe
  if pp.numLongTermRefPicSps.toNat < numLtSps ∨ 15 < (numLtSps + numLtPics) % 2 ^ 32 then giveUp
  else
    let total := (numLtSps + numLtPics) % 2 ^ 32
    brEach (do brSkipBits (ceilLog2U32 pp.numLongTermRefPicSps.toNat); skipMsbCycle)
      (min numLtSps total)
    brEach (do brSkipBits (pp.log2MaxPicOrderCntLsbMinus4.toNat + 4 + 1); skipMsbCycle)
      (total - numLtSps)

def skipOriginalRps (pp : VAPictureParameterBufferHEVC) : BrM (Nat × Bool) := do
  skipShortTerm pp
  brIf pp.longTermRefPicsPresentFlag (do
    let numLtSps ← brIf (decide (0 < pp.numLongTermRefPicSps.toNat)) brReadUe 0
    let ltVerbatimBit ← brPosition
    skipLongTermPics pp numLtSps
    return (ltVerbatimBit, numLtSps == 0)) (0, false)

def findRps (pp : VAPictureParameterBufferHEVC) : BrM RpsPlace := do
  let pocLsb ← brReadPocLsb pp
  let rpsStart ← brPosition
  let (ltVerbatimBit, ltVerbatim) ← skipOriginalRps pp
  let rpsEnd ← brPosition
  return { rpsStart, ltVerbatimBit, ltVerbatim, rpsEnd, pocLsb }

def brReadSliceInfo (nalType : Nat) : BrM (Bool × Nat) := do
  let first ← brReadBit
  let _ ← brIf (decide (16 ≤ nalType) && decide (nalType ≤ 23)) brReadBit 0
  let ppsId ← brReadUe
  if 63 < ppsId then giveUp else return (first != 0, ppsId)

/-! ## Writing the new header -/

def bsWrite1 (bit : Nat) : BsM Unit := fun bs =>
  if bs.capacity ≤ bs.bytePos then .error .dropped
  else if 7 < bs.bitPos then .error (.shift (7 - bs.bitPos))
  else .ok (some ((), bs.write1 bit))

def bsWrite (val : Nat) : Nat → BsM Unit
  | 0 => pure ()
  | n + 1 => do
    let shifted ← access (shiftRight val n)
    bsWrite1 (shifted &&& 1)
    bsWrite val n

def bsWriteFlag (flag : Bool) : BsM Unit := bsWrite flag.toNat 1

def bsWriteUe (val : Nat) : BsM Unit := do
  let val := (val + 1) % 2 ^ 32
  let bits := Nat.log2 val
  bsWrite 0 bits
  bsWrite val (bits + 1)

def alignLoop : Nat → BsM Unit
  | 0 => fun bs => .ok (if bs.bitPos = 0 then some ((), bs) else none)
  | fuel + 1 => fun bs =>
    if bs.bitPos = 0 then .ok (some ((), bs)) else (do bsWrite1 0; alignLoop fuel : BsM Unit) bs

def bsRbspTrailing : BsM Unit := do
  bsWrite1 1
  alignLoop 7

def bsIf (condition : Bool) (m : BsM Unit) : BsM Unit := if condition then m else pure ()

def bsEach {α : Type} (body : α → BsM Unit) : List α → BsM Unit
  | [] => pure ()
  | x :: xs => do
    body x
    bsEach body xs

def writeRpsEntries : Nat → List HEVCRPSEntry → BsM Unit
  | _, [] => pure ()
  | previous, entry :: entries => do
    bsWriteUe (sub32 (sub32 entry.delta previous) 1)
    bsWriteFlag entry.used
    writeRpsEntries entry.delta entries

def writeShortTermRps (rps : HEVCRPS) (index : Nat) : BsM Unit := do
  bsIf (decide (0 < index)) (bsWrite 0 1)
  bsWriteUe rps.negative.length
  bsWriteUe rps.positive.length
  writeRpsEntries 0 rps.negative
  writeRpsEntries 0 rps.positive

/-- The loop of `write_long_term_rps`, with `max_poc_lsb`. -/
def writeLongTermEntries (pocBits maxPocLsb : Nat) (currentPoc : Int) (pocLsb : Nat) :
    Int → List HEVCRPSEntry → BsM Unit
  | _, [] => pure ()
  | previousMsb, entry :: entries => do
    let refLsb := (entry.signedPoc % maxPocLsb).toNat
    let msb := Int.tdiv (refLsb + currentPoc - pocLsb - entry.signedPoc) maxPocLsb
    bsWrite refLsb pocBits
    bsWriteFlag entry.used
    if msb < 0 ∨ msb < previousMsb ∨ 2 ^ 32 - 1 < msb - previousMsb then giveUp
    else do
      bsWrite 1 1
      bsWriteUe (msb - previousMsb).toNat
      writeLongTermEntries pocBits maxPocLsb currentPoc pocLsb msb entries

def writeLongTermRps (rps : HEVCRPS) (pp : VAPictureParameterBufferHEVC) (pocLsb : Nat) :
    BsM Unit :=
  bsIf pp.longTermRefPicsPresentFlag do
    let pocBits := pp.log2MaxPicOrderCntLsbMinus4.toNat + 4
    let maxPocLsb ← access (shiftLeft 1 pocBits)
    bsWriteUe rps.longTerm.length
    writeLongTermEntries pocBits maxPocLsb pp.currPic.picOrderCnt.toInt pocLsb 0 rps.longTerm

def copyBits (src : List UInt8) (startBit endBit : Nat) : BsM Unit :=
  if endBit < startBit then giveUp
  else bsEach (fun bit => do
    let value ← access (readBitAt src bit)
    bsWrite1 value) (List.range' startBit (endBit - startBit))

def findByteAlignmentStart (rbsp : List UInt8) (rpsEndBit : Nat) : Nat → Except Fault (Option Nat)
  | 0 => return none
  | n + 1 => do
    let bit ← readBitAt rbsp (rpsEndBit + n)
    if bit ≠ 0 then return some (rpsEndBit + n)
    else findByteAlignmentStart rbsp rpsEndBit n

def copyRemainder (rbsp : List UInt8) (sp : Option VASliceParameterBufferHEVC) (rpsEnd : Nat) :
    BsM Unit :=
  match sp.map (·.sliceDataByteOffset.toNat) with
  | none => copyBits rbsp rpsEnd (8 * rbsp.length)
  | some offset =>
    if offset < 2 then copyBits rbsp rpsEnd (8 * rbsp.length)
    else
      let sliceDataBit := (offset - 2) * 8
      if 8 * rbsp.length < sliceDataBit ∨ sliceDataBit < rpsEnd then giveUp
      else do
        let found ← access (findByteAlignmentStart rbsp rpsEnd (sliceDataBit - rpsEnd))
        match found with
        | none => giveUp
        | some alignStart => do
          copyBits rbsp rpsEnd alignStart
          bsRbspTrailing
          copyBits rbsp sliceDataBit (8 * rbsp.length)

def copyOrWriteLongTerm (pp : VAPictureParameterBufferHEVC) (rbsp : List UInt8) (place : RpsPlace)
    (rps : HEVCRPS) : BsM Unit :=
  if place.ltVerbatim then copyBits rbsp place.ltVerbatimBit place.rpsEnd
  else writeLongTermRps rps pp place.pocLsb

def rewriteRbsp (pp : VAPictureParameterBufferHEVC) (sp : Option VASliceParameterBufferHEVC)
    (rbsp : List UInt8) (place : RpsPlace) (rps : HEVCRPS) : BsM Unit := do
  copyBits rbsp 0 place.rpsStart
  bsWrite 0 1
  writeShortTermRps rps 0
  copyOrWriteLongTerm pp rbsp place rps
  copyRemainder rbsp sp place.rpsEnd

/-! ## The two functions -/

def unescapePrefixLoop (dstSize : Nat) :
    List UInt8 → Nat → List UInt8 → Except Fault (List UInt8)
  | [], _, out => .ok out
  | b :: src, zeros, out =>
    if dstSize ≤ out.length then .ok out
    else if 2 ≤ zeros ∧ b = 3 ∧ src.head?.any (· ≤ 3) then unescapePrefixLoop dstSize src 0 out
    else do
      let out ← store dstSize out b
      unescapePrefixLoop dstSize src (if b = 0 then zeros + 1 else 0) out

def unescapePrefix (src : List UInt8) (dstSize : Nat) : Except Fault (List UInt8) :=
  unescapePrefixLoop dstSize src 0 []

def emulationPreventLoop (dstSize : Nat) :
    List UInt8 → Nat → List UInt8 → Except Fault (List UInt8)
  | [], _, out => .ok out
  | b :: src, zeros, out =>
    if 2 ≤ zeros ∧ b ≤ 3 then
      if dstSize ≤ out.length then .ok []
      else do
        let out ← store dstSize out 3
        if dstSize ≤ out.length then .ok []
        else do
          let out ← store dstSize out b
          emulationPreventLoop dstSize src (if b = 0 then 1 else 0) out
    else if dstSize ≤ out.length then .ok []
    else do
      let out ← store dstSize out b
      emulationPreventLoop dstSize src (if b = 0 then zeros + 1 else 0) out

def emulationPrevent (src : List UInt8) (dstSize : Nat) : Except Fault (List UInt8) :=
  emulationPreventLoop dstSize src 0 []

def copyNal (bufSize : Nat) (data : List UInt8) : OptionT (Except Fault) (List UInt8) :=
  if bufSize < data.length then OptionT.fail else (storeAll bufSize [] data : Except Fault _)

def rewriteIndependent (bufSize : Nat) (startCode : List UInt8) (nal0 nal1 : UInt8)
    (nalSize : Nat) (pp : VAPictureParameterBufferHEVC) (sp : Option VASliceParameterBufferHEVC)
    (br : HEVCBitReader) : OptionT (Except Fault) (List UInt8) := do
  let (place, _) ← findRps pp br
  let rps ← OptionT.mk (.ok (collectRps pp))
  let (_, bs) ← rewriteRbsp pp sp br.data place rps (BSWriter.init (nalSize + 4096))
  if bufSize < startCode.length + 2 then OptionT.fail
  else
    let used := startCode.length + 2
    let buf ← (storeAll bufSize [] startCode : Except Fault _)
    let buf ← (store bufSize buf nal0 : Except Fault _)
    let buf ← (store bufSize buf nal1 : Except Fault _)
    let escaped ← (emulationPrevent bs.output (bufSize - used) : Except Fault _)
    if escaped = [] ∨ 2 ^ 31 - 1 - used < escaped.length then OptionT.fail
    else (storeAll bufSize buf escaped : Except Fault _)

/-- `rk_hevc_rewrite_slice_nal`, checked. -/
def rkHevcRewriteSliceNal (allocated : Bool) (bufSize : Nat) (data : List UInt8)
    (pp : VAPictureParameterBufferHEVC) (sp : Option VASliceParameterBufferHEVC) :
    OptionT (Except Fault) (List UInt8) :=
  if !validateSliceSyntaxBounds pp then OptionT.fail
  else
    let startCode := data.take (nalOffset data)
    match data.drop (nalOffset data) with
    | nal0 :: nal1 :: byte :: bytes =>
      let payload := byte :: bytes
      let nalType := (nal0.toNat >>> 1) &&& 0x3f
      if 2 ^ 31 - 1 < data.length then OptionT.fail
      else if nal0 &&& 0x80 ≠ 0 ∨ 31 < nalType ∨ nal1 &&& 7 = 0 then OptionT.fail
      else if nalType = 19 ∨ nalType = 20 then copyNal bufSize data
      else if !allocated then OptionT.fail
      else do
        let nalSize := payload.length + 2
        let rbsp ← (unescapePrefix payload nalSize : Except Fault _)
        let (dependent, br) ← brReadSegmentStart pp nalType ⟨rbsp, 0⟩
        if dependent then copyNal bufSize data
        else rewriteIndependent bufSize startCode nal0 nal1 nalSize pp sp br
    | _ => OptionT.fail

/-- `rk_hevc_parse_slice_info`, checked. -/
def rkHevcParseSliceInfo (data : List UInt8) : OptionT (Except Fault) RKHEVCSliceInfo :=
  match data.drop (nalOffset data) with
  | nal0 :: nal1 :: byte :: bytes =>
    let nalType := (nal0.toNat >>> 1) &&& 0x3f
    let temporalIdPlus1 := nal1.toNat &&& 7
    if nal0 &&& 0x80 ≠ 0 ∨ 31 < nalType ∨ temporalIdPlus1 = 0 then OptionT.fail
    else do
      let rbsp ← (unescapePrefix (byte :: bytes) 128 : Except Fault _)
      let ((first, ppsId), _) ← brReadSliceInfo nalType ⟨rbsp, 0⟩
      return ⟨nalType, temporalIdPlus1, ppsId, first⟩
  | _ => OptionT.fail

end RockchipVaapi.Hevc.Checked
