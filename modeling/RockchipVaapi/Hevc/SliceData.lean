import RockchipVaapi.Hevc.Emulation

/-!
# The slice data behind a rewritten header

Whatever the header of a slice segment holds, `rk_hevc_rewrite_slice_nal` writes a new header that
ends in a byte alignment and copies the bytes from `slice_data_byte_offset` on. The new header is
longer by the reference picture set at most, which is bounded by the number of its entries, so
neither the intermediate buffer nor the output buffer of the caller runs out.
-/

namespace RockchipVaapi.Hevc
open Bitstream HEVCBitReader

/-! ## Where the reader goes -/

theorem forward_segmentStart (pp : VAPictureParameterBufferHEVC) (nalType : Nat) :
    Forward (brReadSegmentStart pp nalType) := by
  refine forward_bit.bind fun _ => forward_bit.brIf.bind fun _ => forward_ue.bind fun _ => ?_
  exact forward_bit.brIf.bind fun _ => (forward_skip _).brIf.bind fun _ => forward_pure _

theorem forward_readBits (n : Nat) : Forward (brReadBits n) := by
  intro br x br' ok h
  unfold brReadBits at h
  split at h
  · cases h
  · exact forward_readInto n 0 br x br' ok h

theorem forward_pocLsb (pp : VAPictureParameterBufferHEVC) : Forward (brReadPocLsb pp) := by
  refine (Forward.brEach forward_bit _).bind fun _ => forward_ue.bind fun _ => ?_
  exact forward_bit.brIf.bind fun _ => (forward_skip 2).brIf.bind fun _ => forward_readBits _

theorem forward_shortTerm (pp : VAPictureParameterBufferHEVC) : Forward (skipShortTerm pp) := by
  refine forward_bit.bind fun flag => ?_
  split
  · exact forward_skip _
  split
  · exact forward_fail
  · exact forward_skip _

/-- The long-term part that is kept lies between the start and the end of the walk. -/
theorem skipOriginalRps_walked {pp : VAPictureParameterBufferHEVC} {br br' : HEVCBitReader}
    {ltVerbatimBit : Nat} {ltVerbatim : Bool} (ok : br.Ok)
    (skip : skipOriginalRps pp br = some ((ltVerbatimBit, ltVerbatim), br')) :
    Walked br br' ∧
      (ltVerbatim = true → br.bit ≤ ltVerbatimBit ∧ ltVerbatimBit ≤ br'.bit) := by
  obtain ⟨⟨_, br₁⟩, short, skip⟩ := Option.bind_eq_some_iff.mp skip
  have walked := forward_shortTerm pp br () br₁ ok short
  cases present : pp.longTermRefPicsPresentFlag with
  | false =>
    rw [present] at skip
    obtain ⟨heq, rfl⟩ := Prod.mk.inj (Option.some.inj skip)
    obtain ⟨-, rfl⟩ := Prod.mk.inj heq
    exact ⟨walked, fun h => absurd h Bool.false_ne_true⟩
  | true =>
    rw [present] at skip
    obtain ⟨⟨numLtSps, br₂⟩, count, skip⟩ := Option.bind_eq_some_iff.mp skip
    obtain ⟨⟨_, br₄⟩, pics, skip⟩ := Option.bind_eq_some_iff.mp skip
    obtain ⟨heq, rfl⟩ := Prod.mk.inj (Option.some.inj skip)
    obtain ⟨rfl, -⟩ := Prod.mk.inj heq
    have walked₂ := walked.trans (forward_ue.brIf br₁ numLtSps br₂ walked.ok count)
    have walked₃ := forward_longTermPics pp numLtSps br₂ () br₄ walked₂.ok pics
    exact ⟨walked₂.trans walked₃, fun _ => ⟨walked₂.le, walked₃.le⟩⟩

/-- The positions of a reference picture set of a payload of `size` bytes are in order. -/
structure RpsPlace.Ordered (place : RpsPlace) (size : Nat) : Prop where
  start_le : place.rpsStart ≤ place.rpsEnd
  end_le : place.rpsEnd ≤ 8 * size
  verbatim : place.ltVerbatim = true →
    place.rpsStart ≤ place.ltVerbatimBit ∧ place.ltVerbatimBit ≤ place.rpsEnd

theorem findRps_ordered {pp : VAPictureParameterBufferHEVC} {br br' : HEVCBitReader}
    {place : RpsPlace} (ok : br.Ok) (find : findRps pp br = some (place, br')) :
    place.Ordered br.data.length := by
  obtain ⟨⟨pocLsb, br₁⟩, hpoc, find⟩ := Option.bind_eq_some_iff.mp find
  obtain ⟨⟨⟨ltVerbatimBit, ltVerbatim⟩, br₂⟩, hskip, find⟩ := Option.bind_eq_some_iff.mp find
  obtain ⟨rfl, rfl⟩ := Prod.mk.inj (Option.some.inj find)
  have walked := forward_pocLsb pp br pocLsb br₁ ok hpoc
  obtain ⟨walked', between⟩ := skipOriginalRps_walked walked.ok hskip
  have inside := walked'.ok
  unfold Ok at inside
  rw [walked'.data, walked.data] at inside
  exact ⟨walked'.le, inside, between⟩

/-! ## How long the new reference picture set is -/

theorem length_ueCode_le {val : Nat} (h : val < 2 ^ 32) : (ueCode val).length ≤ 63 := by
  unfold ueCode
  split
  · simp
  · exact length_ueBits_le (k := 31) (by omega)

theorem sub32_lt (a b : Nat) : sub32 a b < 2 ^ 32 := by
  unfold sub32
  omega

/-- The pictures of one side take 64 bits each at most, even where a difference wraps. -/
theorem writeRpsEntries_length : ∀ (entries : List HEVCRPSEntry) (previous : Nat),
    ∃ bits, Emits (writeRpsEntries previous entries) bits ∧ bits.length ≤ 64 * entries.length := by
  intro entries
  induction entries with
  | nil => intro _; exact ⟨[], emits_nil, by simp⟩
  | cons entry entries ih =>
    intro previous
    obtain ⟨bits, emits, bound⟩ := ih entry.delta
    have small := sub32_lt (sub32 entry.delta previous) 1
    have code := length_ueCode_le small
    refine ⟨_, (emits_ueCode small).seq ((emits_flag entry.used).seq emits), ?_⟩
    simp only [List.length_append, List.length_cons, List.length_nil]
    omega

theorem length_countCode {n : Nat} (h : n ≤ 15) : (ueBits n).length ≤ 9 :=
  length_ueBits_le (k := 4) (by omega)

theorem writeShortTermRps_length {rps : HEVCRPS}
    (room : rps.negative.length + rps.positive.length ≤ 15) :
    ∃ bits, Emits (writeShortTermRps rps 0) bits ∧
      bits.length ≤ 18 + 64 * (rps.negative.length + rps.positive.length) := by
  obtain ⟨negative, emits, bound⟩ := writeRpsEntries_length rps.negative 0
  obtain ⟨positive, emits', bound'⟩ := writeRpsEntries_length rps.positive 0
  have negativeCount : rps.negative.length + 1 < 2 ^ 32 := by omega
  have positiveCount : rps.positive.length + 1 < 2 ^ 32 := by omega
  have first := length_countCode (n := rps.negative.length) (by omega)
  have second := length_countCode (n := rps.positive.length) (by omega)
  refine ⟨_, (emits_ue negativeCount).seq ((emits_ue positiveCount).seq (emits.seq emits')), ?_⟩
  simp only [List.length_append]
  omega

/-- The long-term entries take at most 65 bits each beside their low bits. -/
theorem writeLongTermEntries_length (pocLsbBits : Nat) (currentPoc : Int) (pocLsb : Nat) :
    ∀ (entries : List HEVCRPSEntry) (previous : Int),
      Fails (writeLongTermEntries pocLsbBits currentPoc pocLsb previous entries) ∨
        ∃ bits, Emits (writeLongTermEntries pocLsbBits currentPoc pocLsb previous entries) bits ∧
          bits.length ≤ (pocLsbBits + 65) * entries.length := by
  intro entries
  induction entries with
  | nil => intro _; exact .inr ⟨[], emits_nil, by simp⟩
  | cons entry entries ih =>
    intro previous
    unfold writeLongTermEntries
    simp only
    split
    · exact .inl (Fails.after (Fails.after fun _ => rfl))
    · rename_i kept
      rcases ih (Int.tdiv (((entry.signedPoc % 2 ^ pocLsbBits).toNat : Int) + currentPoc - pocLsb -
        entry.signedPoc) (2 ^ pocLsbBits)) with fails | ⟨bits, emits, bound⟩
      · exact .inl (Fails.after (Fails.after (Fails.after (Fails.after fails))))
      · have small : (Int.tdiv (((entry.signedPoc % 2 ^ pocLsbBits).toNat : Int) + currentPoc -
            pocLsb - entry.signedPoc) (2 ^ pocLsbBits) - previous).toNat < 2 ^ 32 := by omega
        have code := length_ueCode_le small
        refine .inr ⟨_, (emits_write _ _).seq ((emits_flag _).seq ((emits_flag true).seq
          ((emits_ueCode small).seq emits))), ?_⟩
        simp only [List.length_append, List.length_cons, List.length_nil, length_uBits,
          Nat.mul_succ]
        omega

theorem writeLongTermRps_length {pp : VAPictureParameterBufferHEVC} {rps : HEVCRPS}
    (bounds : SliceSyntaxBounds pp) (room : rps.longTerm.length ≤ 15) (pocLsb : Nat) :
    Fails (writeLongTermRps rps pp pocLsb) ∨
      ∃ bits, Emits (writeLongTermRps rps pp pocLsb) bits ∧
        bits.length ≤ 9 + 81 * rps.longTerm.length := by
  unfold writeLongTermRps
  cases pp.longTermRefPicsPresentFlag with
  | false => exact .inr ⟨[], emits_nil, by simp⟩
  | true =>
    have width := bounds.pocLsb
    have small : rps.longTerm.length + 1 < 2 ^ 32 := by omega
    rcases writeLongTermEntries_length (pp.log2MaxPicOrderCntLsbMinus4.toNat + 4)
      pp.currPic.picOrderCnt.toInt pocLsb rps.longTerm 0 with fails | ⟨bits, emits, bound⟩
    · exact .inl (Fails.after fails)
    · refine .inr ⟨_, (emits_ue small).seq emits, ?_⟩
      have count := length_countCode room
      have entries := Nat.mul_le_mul_right rps.longTerm.length
        (by omega : pp.log2MaxPicOrderCntLsbMinus4.toNat + 4 + 65 ≤ 81)
      rw [List.length_append]
      omega

theorem copyOrWriteLongTerm_length {pp : VAPictureParameterBufferHEVC} {rps : HEVCRPS}
    {rbsp : List UInt8} {place : RpsPlace} (bounds : SliceSyntaxBounds pp)
    (room : rps.longTerm.length ≤ 15) (ordered : place.Ordered rbsp.length) :
    Fails (copyOrWriteLongTerm pp rbsp place rps) ∨
      ∃ bits, Emits (copyOrWriteLongTerm pp rbsp place rps) bits ∧
        bits.length ≤ place.rpsEnd - place.rpsStart + (9 + 81 * rps.longTerm.length) := by
  unfold copyOrWriteLongTerm
  split
  · rename_i verbatim
    obtain ⟨low, high⟩ := ordered.verbatim verbatim
    refine .inr ⟨_, emits_copy rbsp high ordered.end_le, ?_⟩
    have bound := List.length_take_le (place.rpsEnd - place.ltVerbatimBit)
      ((bytesBits rbsp).drop place.ltVerbatimBit)
    omega
  · rcases writeLongTermRps_length bounds room place.pocLsb with fails | ⟨bits, emits, bound⟩
    · exact .inl fails
    · exact .inr ⟨bits, emits, by omega⟩

/-! ## The new payload -/

/-- Where `sp` points behind `header`, the rest of the header is copied up to its last one, and what
follows the header behind a new alignment. -/
theorem copyRemainder_split {header data : List UInt8} {sp : VASliceParameterBufferHEVC}
    (rpsEnd : Nat) (offset : sp.sliceDataByteOffset.toNat = 2 + header.length) :
    Fails (copyRemainder (header ++ data) (some sp) rpsEnd) ∨ ∃ alignStart,
      findByteAlignmentStart (header ++ data) rpsEnd (8 * header.length - rpsEnd) =
        some alignStart ∧ rpsEnd ≤ alignStart ∧ alignStart < 8 * header.length ∧
      copyRemainder (header ++ data) (some sp) rpsEnd = (do
        copyBits (header ++ data) rpsEnd alignStart
        bsRbspTrailing
        copyBits (header ++ data) (8 * header.length) (8 * (header ++ data).length)) := by
  unfold copyRemainder
  simp only [Option.map_some, offset, Nat.add_sub_cancel_left]
  rw [if_neg (by omega), Nat.mul_comm header.length 8]
  split
  · exact .inl fun _ => rfl
  · rename_i inside
    cases found : findByteAlignmentStart (header ++ data) rpsEnd (8 * header.length - rpsEnd) with
    | none => exact .inl fun _ => rfl
    | some alignStart =>
      obtain ⟨low, high, -, -⟩ := findByteAlignmentStart_some found
      exact .inr ⟨alignStart, rfl, low, by omega, rfl⟩

/-- The bits that the rewriter puts together for a header: the original ones around the reference
picture set, and the new set. -/
def rewrittenBits (header : List UInt8) (place : RpsPlace) (alignStart : Nat)
    (shortTerm longTerm : List Bool) : List Bool :=
  (bytesBits header).take place.rpsStart ++ ([false] ++ (shortTerm ++ (longTerm ++
    ((bytesBits header).drop place.rpsEnd).take (alignStart - place.rpsEnd))))

/-- `newHeader` is what the rewriter makes of the header: the rewritten bits and a byte
alignment. -/
def RewritesHeader (pp : VAPictureParameterBufferHEVC) (place : RpsPlace) (rps : HEVCRPS)
    (header data newHeader : List UInt8) : Prop :=
  ∃ shortTerm longTerm alignStart bits, Emits (writeShortTermRps rps 0) shortTerm ∧
    Emits (copyOrWriteLongTerm pp (header ++ data) place rps) longTerm ∧
    findByteAlignmentStart (header ++ data) place.rpsEnd (8 * header.length - place.rpsEnd) =
      some alignStart ∧
    bits = rewrittenBits header place alignStart shortTerm longTerm ∧
    bytesBits newHeader = bits ++ trailingBits bits.length

/-- A copied range inside the front part of a payload. -/
theorem emits_copyFront (header data : List UInt8) {startBit endBit : Nat}
    (order : startBit ≤ endBit) (inside : endBit ≤ 8 * header.length) :
    Emits (copyBits (header ++ data) startBit endBit)
      (((bytesBits header).drop startBit).take (endBit - startBit)) := by
  have room : endBit ≤ 8 * (header ++ data).length := by rw [List.length_append]; omega
  have copied := emits_copy (header ++ data) order room
  have length : (bytesBits header).length = 8 * header.length := length_bytesBits header
  rw [bytesBits_append, List.drop_append_of_le_length (by omega),
    List.take_append_of_le_length (by rw [List.length_drop]; omega)] at copied
  exact copied

theorem emits_copyBack (header data : List UInt8) :
    Emits (copyBits (header ++ data) (8 * header.length) (8 * (header ++ data).length))
      (bytesBits data) := by
  have order : 8 * header.length ≤ 8 * (header ++ data).length := by
    rw [List.length_append]
    omega
  have copied := emits_copy (header ++ data) order (Nat.le_refl _)
  have position : (bytesBits header).length = 8 * header.length := length_bytesBits header
  rw [bytesBits_append, List.drop_left' position, List.take_of_length_le] at copied
  · exact copied
  · rw [length_bytesBits, List.length_append]
    omega

/-- Either the rewriter gives up in every buffer, or there is one new header that it writes in front
of the data wherever the buffer is 256 bytes longer than the payload. -/
theorem rewriteRbsp_newHeader {pp : VAPictureParameterBufferHEVC} {rps : HEVCRPS}
    {place : RpsPlace} {header data : List UInt8} {sp : VASliceParameterBufferHEVC}
    (bounds : SliceSyntaxBounds pp) (collect : collectRps pp = some rps)
    (ordered : place.Ordered (header ++ data).length)
    (offset : sp.sliceDataByteOffset.toNat = 2 + header.length) :
    Fails (rewriteRbsp pp (some sp) (header ++ data) place rps) ∨
      ∃ newHeader, RewritesHeader pp place rps header data newHeader ∧
        newHeader.length ≤ header.length + 156 ∧
        ∀ cap, (header ++ data).length + 256 ≤ cap →
          ∃ bs, rewriteRbsp pp (some sp) (header ++ data) place rps (BSWriter.init cap) =
            some ((), bs) ∧ bs.capacity = cap ∧ bs.output = newHeader ++ data := by
  have room := collectRps_room collect
  have shortRoom : rps.negative.length + rps.positive.length ≤ 15 := by omega
  have longRoom : rps.longTerm.length ≤ 15 := by omega
  obtain ⟨shortTerm, emitsShort, shortLength⟩ := writeShortTermRps_length shortRoom
  rcases copyOrWriteLongTerm_length bounds longRoom ordered with
    fails | ⟨longTerm, emitsLong, longLength⟩
  · exact .inl (Fails.after (Fails.after (Fails.after (Fails.before fails))))
  rcases copyRemainder_split place.rpsEnd offset with
    fails | ⟨alignStart, found, low, high, remainder⟩
  · exact .inl (Fails.after (Fails.after (Fails.after (Fails.after fails))))
  have start := ordered.start_le
  -- everything up to the alignment, as one emitter
  have front : Emits (do
      copyBits (header ++ data) 0 place.rpsStart
      bsWrite 0 1
      writeShortTermRps rps 0
      copyOrWriteLongTerm pp (header ++ data) place rps
      copyBits (header ++ data) place.rpsEnd alignStart)
        (rewrittenBits header place alignStart shortTerm longTerm) := by
    have first := emits_copyFront header data (Nat.zero_le place.rpsStart)
      (by omega : place.rpsStart ≤ 8 * header.length)
    have last := emits_copyFront header data low (Nat.le_of_lt high)
    exact first.seq ((emits_flag false).seq (emitsShort.seq (emitsLong.seq last)))
  have same : rewriteRbsp pp (some sp) (header ++ data) place rps = (do
      (do
        copyBits (header ++ data) 0 place.rpsStart
        bsWrite 0 1
        writeShortTermRps rps 0
        copyOrWriteLongTerm pp (header ++ data) place rps
        copyBits (header ++ data) place.rpsEnd alignStart)
      bsRbspTrailing
      copyBits (header ++ data) (8 * header.length) (8 * (header ++ data).length)) := by
    rw [rewriteRbsp, remainder]
    simp only [bind_assoc]
  generalize hbits : rewrittenBits header place alignStart shortTerm longTerm = bits at front
  have length : bits.length ≤ 8 * header.length + 1242 := by
    rw [← hbits, rewrittenBits]
    simp only [List.length_append, List.length_take, List.length_drop, List.length_singleton]
    omega
  have size : (header ++ data).length = header.length + data.length := List.length_append
  have written : ∀ cap, (header ++ data).length + 256 ≤ cap →
      ∃ bs, rewriteRbsp pp (some sp) (header ++ data) place rps (BSWriter.init cap) =
        some ((), bs) ∧ bs.capacity = cap ∧
          bytesBits bs.output = bits ++ (trailingBits bits.length ++ bytesBits data) := by
    intro cap enough
    rw [same]
    exact front.alignedThen (emits_copyBack header data) (by rw [length_bytesBits]; omega) cap
      (by rw [length_bytesBits]; omega)
  -- the new header is the front of what is written into any buffer
  obtain ⟨bs, -, -, output⟩ := written _ (Nat.le_refl _)
  have aligned := add_length_trailingBits bits.length
  have width := length_trailingBits bits.length
  have whole : 8 * ((bits ++ trailingBits bits.length).length / 8) =
      (bits ++ trailingBits bits.length).length := by
    rw [List.length_append]
    omega
  obtain ⟨newHeader, newBits⟩ : ∃ newHeader,
      bytesBits newHeader = bits ++ trailingBits bits.length := by
    refine ⟨bs.output.take ((bits ++ trailingBits bits.length).length / 8), ?_⟩
    rw [bytesBits_take, whole, output, ← List.append_assoc, List.take_left' rfl]
  refine .inr ⟨newHeader, ⟨shortTerm, longTerm, alignStart, bits, emitsShort, emitsLong, found, hbits.symm,
    newBits⟩, ?_, fun cap enough => ?_⟩
  · have count := congrArg List.length newBits
    rw [length_bytesBits, List.length_append] at count
    omega
  · obtain ⟨bs', run, capacity, output'⟩ := written cap enough
    refine ⟨bs', run, capacity, bytesBits_injective ?_⟩
    rw [output', bytesBits_append, newBits, List.append_assoc]

/-! ## The whole NAL unit -/

/-- The end of `rk_hevc_rewrite_slice_nal` (`hevc.c:896-911`), from the new payload on. -/
def finishRewrite (bufSize : Nat) (startCode : List UInt8) (nal0 nal1 : UInt8) (rbsp : List UInt8) :
    Option (List UInt8) :=
  if bufSize < startCode.length + 2 then none
  else
    let used := startCode.length + 2
    let escaped := emulationPrevent rbsp (bufSize - used)
    if escaped = [] ∨ 2 ^ 31 - 1 - used < escaped.length then none
    else some (startCode ++ nal0 :: nal1 :: escaped)

theorem finishRewrite_some {bufSize : Nat} {startCode rbsp out : List UInt8} {nal0 nal1 : UInt8}
    (h : finishRewrite bufSize startCode nal0 nal1 rbsp = some out) :
    out = startCode ++ nal0 :: nal1 :: escape rbsp := by
  unfold finishRewrite at h
  dsimp only at h
  split at h
  · cases h
  split at h
  · cases h
  rename_i fits
  rw [emulationPrevent_written fun empty => fits (.inl empty)] at h
  exact (Option.some.inj h).symm

/-- Once there is room for the escaped payload, more of it changes nothing. -/
theorem finishRewrite_room {bufSize : Nat} {startCode rbsp : List UInt8} (nal0 nal1 : UInt8)
    (room : startCode.length + 2 + (escape rbsp).length ≤ bufSize) (more : Nat) :
    finishRewrite bufSize startCode nal0 nal1 rbsp =
      finishRewrite (bufSize + more) startCode nal0 nal1 rbsp := by
  have escaped : ∀ size, bufSize ≤ size →
      emulationPrevent rbsp (size - (startCode.length + 2)) = escape rbsp := fun size le => by
    rw [emulationPrevent_eq, if_pos (by omega)]
  have fits : ¬ bufSize < startCode.length + 2 := by omega
  have fits' : ¬ bufSize + more < startCode.length + 2 := by omega
  simp only [finishRewrite, if_neg fits, if_neg fits', escaped _ (Nat.le_refl bufSize),
    escaped _ (Nat.le_add_right bufSize more)]

/-- The rewriter replaces `header` by `newHeader`: it walks over an independent slice segment, finds
its reference picture set and puts the one of `pp` in its place. -/
def ReplacesHeader (pp : VAPictureParameterBufferHEVC) (nalType : Nat)
    (header data newHeader : List UInt8) : Prop :=
  ∃ br br' place rps, brReadSegmentStart pp nalType ⟨header ++ data, 0⟩ = some (false, br) ∧
    findRps pp br = some (place, br') ∧ collectRps pp = some rps ∧
    RewritesHeader pp place rps header data newHeader

theorem ReplacesHeader.aligned {pp : VAPictureParameterBufferHEVC} {nalType : Nat}
    {header data newHeader : List UInt8} (h : ReplacesHeader pp nalType header data newHeader) :
    ∃ bits, bytesBits newHeader = bits ++ trailingBits bits.length := by
  obtain ⟨-, -, -, -, -, -, -, -, -, -, bits, -, -, -, -, newBits⟩ := h
  exact ⟨bits, newBits⟩

theorem unescapePrefixLoop_length (dstSize : Nat) : ∀ (src : List UInt8) (zeros : Nat)
    (out : List UInt8), (unescapePrefixLoop dstSize src zeros out).length ≤ out.length + src.length := by
  intro src
  induction src with
  | nil => intro _ out; exact Nat.le_refl _
  | cons b src ih =>
    intro zeros out
    rw [unescapePrefixLoop, List.length_cons]
    split
    · omega
    split
    · have := ih 0 out
      omega
    · have := ih (if b = 0 then zeros + 1 else 0) (out ++ [b])
      rw [List.length_append, List.length_singleton] at this
      omega

/-- A slice segment that is not copied: the rewriter gives up whatever the size of the buffer, or it
writes one new header in front of the data. -/
theorem rewriteIndependent_cases {pp : VAPictureParameterBufferHEVC}
    {sp : VASliceParameterBufferHEVC} {header data : List UInt8} {nalType : Nat}
    {br : HEVCBitReader} (bounds : SliceSyntaxBounds pp)
    (offset : sp.sliceDataByteOffset.toNat = 2 + header.length)
    (read : brReadSegmentStart pp nalType ⟨header ++ data, 0⟩ = some (false, br))
    (startCode : List UInt8) (nal0 nal1 : UInt8) {nalSize : Nat}
    (size : (header ++ data).length ≤ nalSize) :
    (∀ bufSize, rewriteIndependent bufSize startCode nal0 nal1 nalSize pp (some sp) br = none) ∨
      ∃ newHeader, ReplacesHeader pp nalType header data newHeader ∧
        newHeader.length ≤ header.length + 156 ∧
        ∀ bufSize, rewriteIndependent bufSize startCode nal0 nal1 nalSize pp (some sp) br =
          finishRewrite bufSize startCode nal0 nal1 (newHeader ++ data) := by
  have walked := forward_segmentStart pp nalType _ false br (Nat.zero_le _) read
  unfold rewriteIndependent
  cases find : findRps pp br with
  | none => exact .inl fun _ => rfl
  | some found =>
    obtain ⟨place, br'⟩ := found
    cases collect : collectRps pp with
    | none => exact .inl fun _ => rfl
    | some rps =>
      have ordered := findRps_ordered walked.ok find
      rw [walked.data] at ordered ⊢
      rcases rewriteRbsp_newHeader bounds collect ordered offset with
        fails | ⟨newHeader, rewrites, length, written⟩
      · refine .inl fun bufSize => ?_
        show (rewriteRbsp pp (some sp) (header ++ data) place rps _).bind _ = none
        rw [fails]
        rfl
      · obtain ⟨bs, run, -, output⟩ := written (nalSize + 4096) (by omega)
        refine .inr ⟨newHeader, ⟨br, br', place, rps, read, find, collect, rewrites⟩, length,
          fun bufSize => ?_⟩
        show (rewriteRbsp pp (some sp) (header ++ data) place rps _).bind _ = _
        rw [run, Option.bind_some, ← output]
        rfl

/-- What `rk_hevc_rewrite_slice_nal` does with a NAL unit whose slice data begins where `sp` says,
for all sizes of the buffer at once: it gives up, it copies, or it replaces the header. -/
theorem rkHevcRewriteSliceNal_cases {pp : VAPictureParameterBufferHEVC}
    {sp : VASliceParameterBufferHEVC} {startCode payload header data : List UInt8}
    {nal0 nal1 : UInt8} (mem : startCode ∈ startCodes) (temporalId : nal1 &&& 7 ≠ 0)
    (unescaped : unescapePrefix payload (payload.length + 2) = header ++ data)
    (offset : sp.sliceDataByteOffset.toNat = 2 + header.length) (allocated : Bool) :
    (∀ bufSize, rkHevcRewriteSliceNal allocated bufSize (startCode ++ nal0 :: nal1 :: payload) pp
      (some sp) = none) ∨
    (∀ bufSize, rkHevcRewriteSliceNal allocated bufSize (startCode ++ nal0 :: nal1 :: payload) pp
      (some sp) = copyNal bufSize (startCode ++ nal0 :: nal1 :: payload)) ∨
    ∃ newHeader, ReplacesHeader pp ((nal0.toNat >>> 1) &&& 0x3f) header data newHeader ∧
      newHeader.length ≤ header.length + 156 ∧
      ∀ bufSize, rkHevcRewriteSliceNal allocated bufSize (startCode ++ nal0 :: nal1 :: payload) pp
        (some sp) = finishRewrite bufSize startCode nal0 nal1 (newHeader ++ data) := by
  have prefixed := @nalOffset_startCode _ mem nal0 nal1 temporalId payload
  have behind : (startCode ++ nal0 :: nal1 :: payload).drop startCode.length =
      nal0 :: nal1 :: payload := List.drop_left' rfl
  have before : (startCode ++ nal0 :: nal1 :: payload).take startCode.length = startCode :=
    List.take_left' rfl
  have size := unescapePrefixLoop_length (payload.length + 2) payload 0 []
  rw [show unescapePrefixLoop (payload.length + 2) payload 0 [] = header ++ data from unescaped,
    List.length_nil, Nat.zero_add] at size
  unfold rkHevcRewriteSliceNal
  by_cases valid : validateSliceSyntaxBounds pp = true
  swap
  · exact .inl fun _ => by simp [valid]
  have bounds := sliceSyntaxBounds_of_validate valid
  simp only [valid, Bool.not_true, Bool.false_eq_true, if_false, prefixed, behind, before]
  cases payload with
  | nil => exact .inl fun _ => rfl
  | cons byte bytes =>
    dsimp only
    split
    · exact .inl fun _ => rfl
    split
    · exact .inl fun _ => rfl
    split
    · exact .inr (.inl fun _ => rfl)
    split
    · exact .inl fun _ => rfl
    rw [unescaped]
    cases read : brReadSegmentStart pp ((nal0.toNat >>> 1) &&& 0x3f) ⟨header ++ data, 0⟩ with
    | none => exact .inl fun _ => rfl
    | some start =>
      obtain ⟨dependent, br⟩ := start
      cases dependent with
      | true => exact .inr (.inl fun _ => rfl)
      | false =>
        rcases rewriteIndependent_cases bounds offset read startCode nal0 nal1
          (by omega : (header ++ data).length ≤ (byte :: bytes).length + 2) with gaveUp | rewrites
        · exact .inl gaveUp
        · exact .inr (.inr rewrites)

/-- The result of a successful call is the input or a new header in front of the same data, escaped
together. -/
theorem rkHevcRewriteSliceNal_output {pp : VAPictureParameterBufferHEVC}
    {sp : VASliceParameterBufferHEVC} {startCode payload header data out : List UInt8}
    {nal0 nal1 : UInt8} {allocated : Bool} {bufSize : Nat} (mem : startCode ∈ startCodes)
    (temporalId : nal1 &&& 7 ≠ 0)
    (unescaped : unescapePrefix payload (payload.length + 2) = header ++ data)
    (offset : sp.sliceDataByteOffset.toNat = 2 + header.length)
    (h : rkHevcRewriteSliceNal allocated bufSize (startCode ++ nal0 :: nal1 :: payload) pp
      (some sp) = some out) :
    out = startCode ++ nal0 :: nal1 :: payload ∨
      ∃ newHeader, ReplacesHeader pp ((nal0.toNat >>> 1) &&& 0x3f) header data newHeader ∧
        out = startCode ++ nal0 :: nal1 :: escape (newHeader ++ data) := by
  rcases rkHevcRewriteSliceNal_cases mem temporalId unescaped offset allocated with
    gaveUp | copied | ⟨newHeader, replaces, -, rewritten⟩
  · rw [gaveUp] at h
    cases h
  · rw [copied] at h
    unfold copyNal at h
    split at h
    · cases h
    · exact .inl (Option.some.inj h).symm
  · rw [rewritten] at h
    exact .inr ⟨newHeader, replaces, finishRewrite_some h⟩

/-! ## Conforming NAL units -/

/-- Where `sp` points at slice data of this RBSP, the output of a successful rewrite carries the same
slice data at its end, as the standard unescapes it. -/
def KeepsSliceData (rbsp : List UInt8) : Prop :=
  ∀ (header data startCode : List UInt8) (nal0 nal1 : UInt8) (pp : VAPictureParameterBufferHEVC)
    (sp : VASliceParameterBufferHEVC) (allocated : Bool) (bufSize : Nat) (out : List UInt8),
    rbsp = header ++ data → startCode ∈ startCodes → nal1 &&& 7 ≠ 0 →
    sp.sliceDataByteOffset.toNat = 2 + header.length →
    rkHevcRewriteSliceNal allocated bufSize (startCode ++ nal0 :: nal1 :: encapsulate rbsp) pp
      (some sp) = some out →
    ∃ newHeader payload, out = startCode ++ nal0 :: nal1 :: payload ∧
      unescape payload = newHeader ++ data

theorem keepsSliceData {rbsp : List UInt8} (other : ¬ [0, 0] <:+ rbsp) : KeepsSliceData rbsp := by
  rintro header data startCode nal0 nal1 pp sp allocated bufSize out rfl mem temporalId offset h
  have plain : encapsulate (header ++ data) = escape (header ++ data) := if_neg other
  have unescaped := unescapePrefix_encapsulate (header ++ data)
    (Nat.le_add_right (encapsulate (header ++ data)).length 2)
  rw [driverRbsp, if_neg other] at unescaped
  rcases rkHevcRewriteSliceNal_output mem temporalId unescaped offset h with
    rfl | ⟨newHeader, -, rfl⟩
  · exact ⟨header, _, rfl, by rw [plain, unescape_escape]⟩
  · exact ⟨newHeader, _, rfl, unescape_escape _⟩

/-- `unescape_prefix` agrees with the standard, and a rewritten slice keeps its slice data, exactly
where the RBSP does not end in two zero bytes. -/
theorem unescapes_and_keeps_iff (rbsp : List UInt8) :
    Unescapes rbsp ∧ KeepsSliceData rbsp ↔ ¬ [0, 0] <:+ rbsp := by
  constructor
  · rintro ⟨unescapes, -⟩
    exact (unescapes_iff rbsp).mp unescapes
  · intro other
    exact ⟨(unescapes_iff rbsp).mpr other, keepsSliceData other⟩

/-- The header of `interSlice` with slice data that ends in a `cabac_zero_word`. -/
def zeroWordRbsp : List UInt8 := [208, 84, 128, 174, 124, 128, 0, 0]

/-- The driver takes the final `03` for slice data, and escapes it once more. -/
theorem zeroWord_kept : ¬ Unescapes zeroWordRbsp ∧ ¬ KeepsSliceData zeroWordRbsp := by
  refine ⟨fun unescapes => (unescapes_iff zeroWordRbsp).mp unescapes (by decide), fun keeps => ?_⟩
  have rewritten : rkHevcRewriteSliceNal true 64
      ([0, 0, 1] ++ 0x02 :: 0x01 :: encapsulate zeroWordRbsp) interPicture (some ⟨7⟩) =
        some ([0, 0, 1] ++ 0x02 :: 0x01 :: [208, 80, 139, 181, 64, 87, 62, 128, 0, 0, 3, 3]) := by
    decide +kernel
  obtain ⟨newHeader, payload, shape, back⟩ := keeps [208, 84, 128, 174, 124] [128, 0, 0] [0, 0, 1]
    0x02 0x01 interPicture ⟨7⟩ true 64 _ rfl (by decide) (by decide) rfl rewritten
  have same := List.append_cancel_left shape
  obtain rfl := (List.cons.inj (List.cons.inj same).2).2
  have last := congrArg List.getLast? back
  rw [List.getLast?_append, show [128, 0, 0].getLast? = some (0 : UInt8) from rfl,
    Option.some_or] at last
  exact absurd last (by decide +kernel)

/-! ## Headers that end in a byte alignment -/

section

variable {header : List UInt8} {bits : List Bool}

theorem ne_nil_of_aligned (h : bytesBits header = bits ++ trailingBits bits.length) :
    header ≠ [] := by
  rintro rfl
  have length := congrArg List.length h
  rw [List.length_append, length_trailingBits, bytesBits_nil, List.length_nil] at length
  omega

/-- Behind a byte alignment the zeros in front do not matter to the escaping. -/
theorem escape_aligned (h : bytesBits header = bits ++ trailingBits bits.length)
    (data : List UInt8) : escape (header ++ data) = escape header ++ escape data :=
  escape_append (ne_nil_of_aligned h) (getLast?_ne_zero_of_trailing h)

end

/-- The escaped slice data of a rewritten NAL unit is that of the input, byte for byte: in both it
stands behind a header that ends in a byte alignment, so entry points that count emulation
prevention bytes stay valid. -/
theorem sliceData_copied (pp : VAPictureParameterBufferHEVC) (sp : VASliceParameterBufferHEVC)
    (header data startCode : List UInt8) (bits : List Bool) (nal0 nal1 : UInt8) (allocated : Bool)
    (bufSize : Nat) (out : List UInt8)
    (aligned : bytesBits header = bits ++ trailingBits bits.length)
    (mem : startCode ∈ startCodes) (temporalId : nal1 &&& 7 ≠ 0)
    (offset : sp.sliceDataByteOffset.toNat = 2 + header.length)
    (rewritten : rkHevcRewriteSliceNal allocated bufSize
      (startCode ++ nal0 :: nal1 :: escape (header ++ data)) pp (some sp) = some out) :
    startCode ++ nal0 :: nal1 :: escape (header ++ data) =
      (startCode ++ nal0 :: nal1 :: escape header) ++ escape data ∧
    ∃ newHeader, (newHeader = header ∨
        ReplacesHeader pp ((nal0.toNat >>> 1) &&& 0x3f) header data newHeader) ∧
      out = (startCode ++ nal0 :: nal1 :: escape newHeader) ++ escape data := by
  have unescaped := unescapePrefix_escape
    (Nat.le_add_right (escape (header ++ data)).length 2)
  have split : startCode ++ nal0 :: nal1 :: escape (header ++ data) =
      (startCode ++ nal0 :: nal1 :: escape header) ++ escape data := by
    rw [escape_aligned aligned]
    simp
  refine ⟨split, ?_⟩
  rcases rkHevcRewriteSliceNal_output mem temporalId unescaped offset rewritten with
    rfl | ⟨newHeader, replaces, rfl⟩
  · exact ⟨header, .inl rfl, split⟩
  · obtain ⟨newBits, newAligned⟩ := replaces.aligned
    refine ⟨newHeader, .inr replaces, ?_⟩
    rw [escape_aligned newAligned]
    simp

theorem sliceData_copied_inter : ∃ newHeader,
    (newHeader = [208, 84, 128, 174, 124] ∨
      ReplacesHeader interPicture 1 [208, 84, 128, 174, 124] [0, 0, 3, 128] newHeader) ∧
    [0, 0, 1, 2, 1, 208, 80, 139, 181, 64, 87, 62, 0, 0, 3, 3, 128] =
      ([0, 0, 1] ++ 0x02 :: 0x01 :: escape newHeader) ++ [0, 0, 3, 3, 128] :=
  (sliceData_copied interPicture ⟨7⟩ [208, 84, 128, 174, 124] [0, 0, 3, 128] [0, 0, 1]
    ((bytesBits [208, 84, 128, 174, 124]).take 37) 0x02 0x01 true 64 _ (by decide +kernel)
    (by decide) (by decide) rfl (by decide +kernel)).2

/-- With the capacity that `build_hevc_job` gives it, the rewriter never lacks room: the position of
the intermediate writer stays inside its buffer, so `bs_write1` drops no bit, and a larger output
buffer would not change the result. -/
theorem rewriteBuffers_suffice (pp : VAPictureParameterBufferHEVC) (sp : VASliceParameterBufferHEVC)
    (header data startCode : List UInt8) (bits : List Bool) (nal0 nal1 : UInt8) (allocated : Bool)
    (aligned : bytesBits header = bits ++ trailingBits bits.length)
    (mem : startCode ∈ startCodes) (temporalId : nal1 &&& 7 ≠ 0)
    (offset : sp.sliceDataByteOffset.toNat = 2 + header.length)
    (early : sp.sliceDataByteOffset.toNat ≤ 4096) :
    (∀ br br' place rps bs, validateSliceSyntaxBounds pp = true →
      brReadSegmentStart pp ((nal0.toNat >>> 1) &&& 0x3f) ⟨header ++ data, 0⟩ = some (false, br) →
      findRps pp br = some (place, br') → collectRps pp = some rps →
      rewriteRbsp pp (some sp) (header ++ data) place rps
        (BSWriter.init ((escape (header ++ data)).length + 2 + 4096)) = some ((), bs) →
      bs.bytePos < bs.capacity) ∧
    ∀ more, rkHevcRewriteSliceNal allocated
        ((startCode ++ nal0 :: nal1 :: escape (header ++ data)).length + 4096)
        (startCode ++ nal0 :: nal1 :: escape (header ++ data)) pp (some sp) =
      rkHevcRewriteSliceNal allocated
        ((startCode ++ nal0 :: nal1 :: escape (header ++ data)).length + 4096 + more)
        (startCode ++ nal0 :: nal1 :: escape (header ++ data)) pp (some sp) := by
  have longer : (header ++ data).length ≤ (escape (header ++ data)).length :=
    length_le_escapeFrom _ 0
  constructor
  · intro br br' place rps bs valid read find collect run
    have walked := forward_segmentStart pp _ _ false br (Nat.zero_le _) read
    have ordered := findRps_ordered walked.ok find
    rw [walked.data] at ordered
    rcases rewriteRbsp_newHeader (sliceSyntaxBounds_of_validate valid) collect ordered offset with
      fails | ⟨newHeader, -, length, written⟩
    · rw [fails] at run
      cases run
    · obtain ⟨bs', run', capacity, output⟩ := written _ (by omega :
        (header ++ data).length + 256 ≤ (escape (header ++ data)).length + 2 + 4096)
      obtain ⟨-, rfl⟩ := Prod.mk.inj (Option.some.inj (run'.symm.trans run))
      have taken := congrArg List.length output
      rw [BSWriter.output, List.length_take, List.length_append] at taken
      rw [List.length_append] at longer
      unfold BSWriter.capacity at capacity ⊢
      unfold BSWriter.bytes at taken
      omega
  · intro more
    have unescaped := unescapePrefix_escape
      (Nat.le_add_right (escape (header ++ data)).length 2)
    rcases rkHevcRewriteSliceNal_cases mem temporalId unescaped offset allocated with
      gaveUp | copied | ⟨newHeader, replaces, length, rewritten⟩
    · rw [gaveUp, gaveUp]
    · rw [copied, copied, copyNal, copyNal, if_neg (by omega), if_neg (by omega)]
    · obtain ⟨newBits, newAligned⟩ := replaces.aligned
      have growth := length_escape_le newHeader
      have kept : header.length ≤ (escape header).length := length_le_escapeFrom header 0
      rw [rewritten, rewritten]
      refine finishRewrite_room nal0 nal1 ?_ more
      rw [escape_aligned newAligned, escape_aligned aligned]
      simp only [List.length_append, List.length_cons]
      omega

theorem rewriteBuffers_suffice_inter :
    rkHevcRewriteSliceNal true (interSlice.bytes.length + 4096) interSlice.bytes interPicture
        (some ⟨7⟩) =
      rkHevcRewriteSliceNal true (interSlice.bytes.length + 4096 + 4096) interSlice.bytes
        interPicture (some ⟨7⟩) :=
  (rewriteBuffers_suffice interPicture ⟨7⟩ [208, 84, 128, 174, 124] [0, 0, 3, 128] [0, 0, 1]
    ((bytesBits [208, 84, 128, 174, 124]).take 37) 0x02 0x01 true (by decide +kernel) (by decide)
    (by decide) rfl (by decide)).2 4096

end RockchipVaapi.Hevc
