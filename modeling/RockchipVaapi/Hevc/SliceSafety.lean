import RockchipVaapi.Hevc.Checked
import RockchipVaapi.Hevc.SliceData

/-!
# Slices of hostile streams

The checked walks never stop at a fault. The reader tests each position before it reads there; the
writer is given room for every bit that stands in the payload and for the longest reference picture
set, and `Needs n` says of a program that it does with room for `n` bits.
-/

namespace RockchipVaapi.Hevc.Checked
open Guarded Bitstream

section

variable {α β : Type}

/-! ## Reading -/

/-- A walk without faults. -/
abbrev SafeRead (g : BrM α) (m : Hevc.BrM α) : Prop := Faultless Always g m fun _ => Always

theorem safe_pure (x : α) : SafeRead (pure x) (pure x) := faultless_pure fun _ _ => trivial

theorem safe_position : SafeRead brPosition Hevc.brPosition := fun _ _ => ⟨rfl, fun _ _ _ => trivial⟩

theorem safe_fail : SafeRead (giveUp : BrM α) brFail := faultless_giveUp fun _ => rfl

theorem readBitAt_ok {data : List UInt8} {bit : Nat} (inside : bit < 8 * data.length) :
    readBitAt data bit = .ok (Hevc.bitAt data bit) := if_neg (Nat.not_le.mpr inside)

theorem shiftLeft_ok {amount : Nat} (value : Nat) (small : amount < 32) :
    shiftLeft value amount = .ok (value * 2 ^ amount % 2 ^ 32) := if_neg (Nat.not_le.mpr small)

theorem shiftRight_ok {amount : Nat} (value : Nat) (small : amount < 32) :
    shiftRight value amount = .ok (value >>> amount) := if_neg (Nat.not_le.mpr small)

theorem safe_bit : SafeRead brReadBit Hevc.brReadBit := by
  intro br _
  refine ⟨?_, fun _ _ _ => trivial⟩
  unfold brReadBit Hevc.brReadBit
  split
  · rfl
  · rename_i room
    have inside : br.bit < 8 * br.data.length := by omega
    rw [readBitAt_ok inside]
    rfl

theorem SafeRead.brIf {c : Bool} {g : BrM α} {m : Hevc.BrM α} {absent : α} (h : SafeRead g m) :
    SafeRead (brIf c g absent) (Hevc.brIf c m absent) := by
  cases c with
  | false => exact safe_pure absent
  | true => exact h

theorem SafeRead.brEach {g : BrM α} {m : Hevc.BrM α} (h : SafeRead g m) :
    ∀ n, SafeRead (brEach g n) (Hevc.brEach m n)
  | 0 => safe_pure ()
  | n + 1 => Faultless.bind h fun _ => SafeRead.brEach h n

theorem safe_skip (n : Nat) : SafeRead (brSkipBits n) (Hevc.brSkipBits n) := by
  intro br _
  refine ⟨?_, fun _ _ _ => trivial⟩
  unfold brSkipBits Hevc.brSkipBits
  split
  · rfl
  · rfl

theorem safe_readInto : ∀ n out, SafeRead (brReadInto n out) (Hevc.brReadInto n out)
  | 0, out => safe_pure out
  | n + 1, out => by
    refine Faultless.bind safe_bit fun bit => ?_
    rw [shiftLeft_ok out (by decide), access_ok_bind, Nat.mod_add_mod]
    exact safe_readInto n _

/-- The loop counts no more zeros than it is allowed. -/
theorem faultless_countZeros : ∀ left zeros, Faultless Always (brCountZeros left zeros)
    (Hevc.brCountZeros left zeros) fun n _ => n ≤ zeros + left := by
  intro left
  induction left with
  | zero =>
    intro zeros
    unfold brCountZeros Hevc.brCountZeros
    refine Faultless.bind safe_bit fun bit => ?_
    split
    · exact faultless_pure fun _ _ => Nat.le_refl _
    · exact faultless_giveUp fun _ => rfl
  | succ left ih =>
    intro zeros
    unfold brCountZeros Hevc.brCountZeros
    refine Faultless.bind safe_bit fun bit => ?_
    split
    · exact faultless_pure fun _ _ => Nat.le_add_right _ _
    · exact (ih (zeros + 1)).mono (fun _ h => h) fun n _ bound => by omega

theorem ueBase_ok {zeros : Nat} (short : zeros ≤ 31) :
    ueBase zeros = .ok (if zeros = 31 then 2 ^ 32 - 1 else 2 ^ zeros - 1) := by
  unfold ueBase
  split
  · rfl
  · have small : zeros < 32 := by omega
    have fits : 2 ^ zeros < 2 ^ 32 := Nat.pow_lt_pow_right (by decide) small
    rw [shiftLeft_ok 1 small, Nat.one_mul, Nat.mod_eq_of_lt fits]
    rfl

theorem safe_ue : SafeRead brReadUe Hevc.brReadUe := by
  refine (faultless_countZeros 31 0).bind fun zeros => faultless_of_fact fun short => ?_
  refine Faultless.bind (safe_readInto zeros 0) fun suffix => ?_
  rw [ueBase_ok (by omega), access_ok_bind]
  exact safe_pure _

theorem safe_readBits (n : Nat) : SafeRead (brReadBits n) (Hevc.brReadBits n) := by
  intro br _
  unfold brReadBits Hevc.brReadBits
  split
  · exact ⟨rfl, fun _ _ _ => trivial⟩
  · exact safe_readInto n 0 br trivial

/-! ### The header -/

theorem segmentAddressBits_ok {pp : VAPictureParameterBufferHEVC} (bounds : SliceSyntaxBounds pp) :
    segmentAddressBits pp = .ok (ceilLog2U32 (widthCtbs pp * heightCtbs pp)) := by
  have ctb := bounds.ctb
  have fits : 2 ^ ctbLog2 pp < 2 ^ 32 := Nat.pow_lt_pow_right (by decide) (by omega)
  unfold segmentAddressBits
  rw [shiftLeft_ok 1 (by omega), Nat.one_mul, Nat.mod_eq_of_lt fits]
  rfl

theorem safe_segmentStart {pp : VAPictureParameterBufferHEVC} (bounds : SliceSyntaxBounds pp)
    (nalType : Nat) :
    SafeRead (brReadSegmentStart pp nalType) (Hevc.brReadSegmentStart pp nalType) := by
  unfold brReadSegmentStart
  rw [segmentAddressBits_ok bounds]
  simp only [access_ok_bind]
  refine Faultless.bind safe_bit fun _ => Faultless.bind safe_bit.brIf fun _ => ?_
  refine Faultless.bind safe_ue fun _ => Faultless.bind safe_bit.brIf fun _ => ?_
  exact Faultless.bind (safe_skip _).brIf fun _ => safe_pure _

theorem safe_pocLsb (pp : VAPictureParameterBufferHEVC) :
    SafeRead (brReadPocLsb pp) (Hevc.brReadPocLsb pp) := by
  refine Faultless.bind (safe_bit.brEach _) fun _ => Faultless.bind safe_ue fun _ => ?_
  refine Faultless.bind safe_bit.brIf fun _ => Faultless.bind (safe_skip 2).brIf fun _ => ?_
  exact safe_readBits _

theorem safe_shortTerm (pp : VAPictureParameterBufferHEVC) :
    SafeRead (skipShortTerm pp) (Hevc.skipShortTerm pp) := by
  refine Faultless.bind safe_bit fun flag => ?_
  split
  · exact safe_skip _
  split
  · exact safe_fail
  · exact safe_skip _

theorem safe_msbCycle : SafeRead skipMsbCycle Hevc.skipMsbCycle :=
  Faultless.bind safe_bit fun _ => Faultless.bind safe_ue.brIf fun _ => safe_pure ()

theorem safe_longTermPics (pp : VAPictureParameterBufferHEVC) (numLtSps : Nat) :
    SafeRead (skipLongTermPics pp numLtSps) (Hevc.skipLongTermPics pp numLtSps) := by
  have pic : ∀ bits, SafeRead (do brSkipBits bits; skipMsbCycle)
      (do Hevc.brSkipBits bits; Hevc.skipMsbCycle) :=
    fun bits => Faultless.bind (safe_skip bits) fun _ => safe_msbCycle
  refine Faultless.bind safe_ue fun numLtPics => ?_
  dsimp only
  split
  · exact safe_fail
  · exact Faultless.bind ((pic _).brEach _) fun _ => (pic _).brEach _

theorem safe_originalRps (pp : VAPictureParameterBufferHEVC) :
    SafeRead (skipOriginalRps pp) (Hevc.skipOriginalRps pp) := by
  refine Faultless.bind (safe_shortTerm pp) fun _ => SafeRead.brIf ?_
  refine Faultless.bind safe_ue.brIf fun numLtSps => Faultless.bind safe_position fun _ => ?_
  exact Faultless.bind (safe_longTermPics pp numLtSps) fun _ => safe_pure _

theorem safe_findRps (pp : VAPictureParameterBufferHEVC) :
    SafeRead (findRps pp) (Hevc.findRps pp) := by
  refine Faultless.bind (safe_pocLsb pp) fun _ => Faultless.bind safe_position fun _ => ?_
  refine Faultless.bind (safe_originalRps pp) fun _ => Faultless.bind safe_position fun _ => ?_
  exact safe_pure _

theorem safe_sliceInfo (nalType : Nat) :
    SafeRead (brReadSliceInfo nalType) (Hevc.brReadSliceInfo nalType) := by
  refine Faultless.bind safe_bit fun _ => Faultless.bind safe_bit.brIf fun _ => ?_
  refine Faultless.bind safe_ue fun ppsId => ?_
  split
  · exact safe_fail
  · exact safe_pure _

end

/-! ## Writing -/

/-- There is room for `n` more bits. -/
structure Room (n : Nat) (bs : BSWriter) : Prop where
  ok : bs.Ok
  fits : bs.pos + n ≤ 8 * bs.capacity

theorem Room.mono {n n' : Nat} {bs : BSWriter} (h : Room n' bs) (le : n ≤ n') : Room n bs where
  ok := h.ok
  fits := Nat.le_trans (Nat.add_le_add_left le _) h.fits

/-- With room for `n` bits the program has no faults, and it leaves the room behind them. -/
def Needs (n : Nat) (g : BsM Unit) (m : RockchipVaapi.BsM Unit) : Prop :=
  ∀ k, Faultless (Room (n + k)) g m fun _ => Room k

section

variable {g g' : BsM Unit} {m m' : RockchipVaapi.BsM Unit} {n n' : Nat}

theorem Needs.mono (h : Needs n g m) (le : n ≤ n') : Needs n' g m := fun k =>
  (h k).mono (fun _ room => room.mono (Nat.add_le_add_right le k)) fun _ _ room => room

theorem Needs.seq (h : Needs n g m) (h' : Needs n' g' m') :
    Needs (n + n') (do g; g') (do m; m') := by
  intro k
  refine Faultless.bind ((h (n' + k)).mono (fun _ room => ?_) fun _ _ room => room) fun _ => h' k
  rwa [← Nat.add_assoc]

theorem needs_nothing (n : Nat) : Needs n (pure ()) (pure ()) := fun k =>
  faultless_pure fun _ room => room.mono (Nat.le_add_left k n)

theorem needs_fail (n : Nat) : Needs n giveUp bsFail := fun _ => faultless_giveUp fun _ => rfl

theorem needs_write1 (bit : Nat) : Needs 1 (bsWrite1 bit) (RockchipVaapi.bsWrite1 bit) := by
  intro k bs room
  have fits := room.fits
  have short := room.ok.bitPos_lt
  have inside : bs.pos < 8 * bs.capacity := by omega
  obtain ⟨capacity, moved, -, -⟩ := BSWriter.write1_room room.ok bit inside
  constructor
  · have byte : ¬ bs.capacity ≤ bs.bytePos := by
      unfold BSWriter.pos at inside
      omega
    rw [bsWrite1, if_neg byte, if_neg (by omega)]
    rfl
  · intro _ bs' run
    obtain ⟨-, rfl⟩ := Prod.mk.inj (Option.some.inj run)
    exact ⟨BSWriter.write1_ok room.ok bit, by rw [capacity, moved]; omega⟩

theorem needs_write (val : Nat) : ∀ n ≤ 32,
    Needs n (bsWrite val n) (RockchipVaapi.bsWrite val n) := by
  intro n
  induction n with
  | zero => intro _; exact needs_nothing 0
  | succ n ih =>
    intro small
    have rest := (needs_write1 ((val >>> n) &&& 1)).seq (ih (by omega))
    rw [Nat.add_comm] at rest
    unfold bsWrite
    rw [shiftRight_ok val (by omega), access_ok_bind]
    exact rest

theorem needs_flag (flag : Bool) : Needs 1 (bsWriteFlag flag) (RockchipVaapi.bsWriteFlag flag) :=
  needs_write _ 1 (by decide)

/-- A 32-bit value has a code of at most 63 bits. -/
theorem needs_ue (val : Nat) : Needs 63 (bsWriteUe val) (RockchipVaapi.bsWriteUe val) := by
  have width : Nat.log2 ((val + 1) % 2 ^ 32) ≤ 31 := by
    by_cases zero : (val + 1) % 2 ^ 32 = 0
    · rw [zero]
      decide
    · exact Nat.le_of_lt_succ ((Nat.log2_lt zero).mpr (Nat.mod_lt _ (by decide)))
  have code := (needs_write 0 (Nat.log2 ((val + 1) % 2 ^ 32)) (by omega)).seq
    (needs_write ((val + 1) % 2 ^ 32) (Nat.log2 ((val + 1) % 2 ^ 32) + 1) (by omega))
  exact code.mono (by omega)

theorem Needs.bsIf {c : Bool} (h : Needs n g m) :
    Needs n (bsIf c g) (RockchipVaapi.bsIf c m) := by
  cases c with
  | false => exact needs_nothing n
  | true => exact h

theorem needs_each {α : Type} {body : α → BsM Unit} {body' : α → RockchipVaapi.BsM Unit} :
    ∀ xs : List α, (∀ x ∈ xs, Needs n (body x) (body' x)) →
      Needs (xs.length * n) (bsEach body xs) (RockchipVaapi.bsEach body' xs) := by
  intro xs
  induction xs with
  | nil => intro _; exact needs_nothing _
  | cons x xs ih =>
    intro each
    have first := each x List.mem_cons_self
    have rest := ih fun y mem => each y (List.mem_cons_of_mem x mem)
    have total : n + xs.length * n ≤ (x :: xs).length * n := by
      rw [List.length_cons, Nat.succ_mul, Nat.add_comm]
    exact (first.seq rest).mono total

theorem needs_alignLoop : ∀ fuel, Needs fuel (alignLoop fuel)
    (fun bs => (BSWriter.alignLoop fuel bs).map fun bs => ((), bs)) := by
  intro fuel
  induction fuel with
  | zero =>
    intro k bs room
    by_cases aligned : bs.bitPos = 0
    · simp only [alignLoop, BSWriter.alignLoop, if_pos aligned, Option.map_some]
      exact ⟨trivial, (needs_nothing 0 k bs room).2⟩
    · simp only [alignLoop, BSWriter.alignLoop, if_neg aligned, Option.map_none]
      exact ⟨trivial, (needs_fail 0 k bs room).2⟩
  | succ fuel ih =>
    intro k bs room
    by_cases aligned : bs.bitPos = 0
    · simp only [alignLoop, BSWriter.alignLoop, if_pos aligned, Option.map_some]
      exact ⟨trivial, (needs_nothing (fuel + 1) k bs room).2⟩
    · simp only [alignLoop, BSWriter.alignLoop, if_neg aligned]
      have turn := (needs_write1 0).seq ih
      rw [Nat.add_comm] at turn
      exact turn k bs room

theorem needs_trailing : Needs 8 bsRbspTrailing RockchipVaapi.bsRbspTrailing :=
  (needs_write1 1).seq (needs_alignLoop 7)

end

/-! ### The new payload -/

/-- A copied range takes as many bits as it has, and is read inside the payload. -/
theorem needs_copy (src : List UInt8) (startBit endBit : Nat)
    (inside : endBit ≤ 8 * src.length) :
    Needs (endBit - startBit) (copyBits src startBit endBit) (Hevc.copyBits src startBit endBit) := by
  unfold copyBits Hevc.copyBits
  split
  · exact needs_fail _
  · have each : ∀ bit ∈ List.range' startBit (endBit - startBit),
        Needs 1 (do let value ← access (readBitAt src bit); bsWrite1 value)
          (RockchipVaapi.bsWrite1 (Hevc.bitAt src bit)) := by
      intro bit mem
      have bound := (List.mem_range'_1.mp mem).2
      rw [readBitAt_ok (by omega), access_ok_bind]
      exact needs_write1 _
    have whole := needs_each _ each
    rw [List.length_range', Nat.mul_one] at whole
    exact whole

-- in a full buffer the copied bit would be lost
example : copyBits [0xff] 3 4 (BSWriter.init 0) = .error .dropped := rfl

theorem needs_rpsEntries : ∀ (entries : List HEVCRPSEntry) (previous : Nat),
    Needs (64 * entries.length) (writeRpsEntries previous entries)
      (Hevc.writeRpsEntries previous entries) := by
  intro entries
  induction entries with
  | nil => intro _; exact needs_nothing _
  | cons entry entries ih =>
    intro previous
    have pic := (needs_ue (sub32 (sub32 entry.delta previous) 1)).seq
      ((needs_flag entry.used).seq (ih entry.delta))
    exact pic.mono (by rw [List.length_cons]; omega)

theorem needs_shortTermRps (rps : HEVCRPS) :
    Needs (127 + 64 * (rps.negative.length + rps.positive.length)) (writeShortTermRps rps 0)
      (Hevc.writeShortTermRps rps 0) := by
  have predicted : Needs 1 (bsIf (decide (0 < 0)) (bsWrite 0 1))
      (RockchipVaapi.bsIf (decide (0 < 0)) (RockchipVaapi.bsWrite 0 1)) :=
    (needs_write 0 1 (by decide)).bsIf
  have entries := (needs_rpsEntries rps.negative 0).seq (needs_rpsEntries rps.positive 0)
  have counts := (needs_ue rps.negative.length).seq ((needs_ue rps.positive.length).seq entries)
  exact (predicted.seq counts).mono (by omega)

theorem needs_longTermEntries {pocBits : Nat} (small : pocBits ≤ 16) (currentPoc : Int)
    (pocLsb : Nat) : ∀ (entries : List HEVCRPSEntry) (previousMsb : Int),
      Needs (81 * entries.length)
        (writeLongTermEntries pocBits (2 ^ pocBits) currentPoc pocLsb previousMsb entries)
        (Hevc.writeLongTermEntries pocBits currentPoc pocLsb previousMsb entries) := by
  intro entries
  induction entries with
  | nil => intro _; exact needs_nothing _
  | cons entry entries ih =>
    intro previousMsb
    have power : ((2 ^ pocBits : Nat) : Int) = 2 ^ pocBits := by simp
    have pic (refLsb : Nat) {g : BsM Unit} {m : RockchipVaapi.BsM Unit}
        (rest : Needs (64 + 81 * entries.length) g m) : Needs (81 * (entry :: entries).length)
          (do bsWrite refLsb pocBits; bsWriteFlag entry.used; g)
          (do RockchipVaapi.bsWrite refLsb pocBits; RockchipVaapi.bsWriteFlag entry.used; m) :=
      ((needs_write refLsb pocBits (by omega)).seq ((needs_flag entry.used).seq rest)).mono
        (by rw [List.length_cons]; omega)
    unfold writeLongTermEntries Hevc.writeLongTermEntries
    rw [power]
    dsimp only
    refine pic _ ?_
    split
    · exact needs_fail _
    · have cycle (msb : Int) := (needs_write 1 1 (by decide)).seq
        ((needs_ue (msb - previousMsb).toNat).seq (ih msb))
      exact (cycle _).mono (by omega)

theorem needs_longTermRps {pp : VAPictureParameterBufferHEVC} (bounds : SliceSyntaxBounds pp)
    (rps : HEVCRPS) (pocLsb : Nat) :
    Needs (63 + 81 * rps.longTerm.length) (writeLongTermRps rps pp pocLsb)
      (Hevc.writeLongTermRps rps pp pocLsb) := by
  have width := bounds.pocLsb
  have small : pp.log2MaxPicOrderCntLsbMinus4.toNat + 4 ≤ 16 := by omega
  have fits : 2 ^ (pp.log2MaxPicOrderCntLsbMinus4.toNat + 4) < 2 ^ 32 :=
    Nat.pow_lt_pow_right (by decide) (by omega)
  unfold writeLongTermRps
  dsimp only
  rw [shiftLeft_ok 1 (by omega), Nat.one_mul, Nat.mod_eq_of_lt fits, access_ok_bind]
  exact ((needs_ue _).seq (needs_longTermEntries small _ pocLsb rps.longTerm 0)).bsIf

theorem findByteAlignmentStart_ok {rbsp : List UInt8} {rpsEndBit : Nat} : ∀ {n : Nat},
    rpsEndBit + n ≤ 8 * rbsp.length → findByteAlignmentStart rbsp rpsEndBit n =
      .ok (Hevc.findByteAlignmentStart rbsp rpsEndBit n) := by
  intro n
  induction n with
  | zero => intro _; rfl
  | succ n ih =>
    intro inside
    unfold findByteAlignmentStart Hevc.findByteAlignmentStart
    rw [readBitAt_ok (by omega)]
    show (if _ then _ else _) = _
    split
    · rfl
    · exact ih (by omega)

/-- Behind the reference picture set at most the rest of the payload and an alignment are
written. -/
theorem needs_remainder (rbsp : List UInt8) (sp : Option VASliceParameterBufferHEVC) (rpsEnd : Nat) :
    Needs (8 * rbsp.length - rpsEnd + 8) (copyRemainder rbsp sp rpsEnd)
      (Hevc.copyRemainder rbsp sp rpsEnd) := by
  have rest := (needs_copy rbsp rpsEnd _ (Nat.le_refl _)).mono (Nat.le_add_right _ 8)
  cases sp with
  | none => exact rest
  | some sp =>
    simp only [copyRemainder, Hevc.copyRemainder, Option.map_some]
    split
    · exact rest
    split
    · exact needs_fail _
    rename_i inside
    rw [findByteAlignmentStart_ok (by omega), access_ok_bind]
    cases found : Hevc.findByteAlignmentStart rbsp rpsEnd
        ((sp.sliceDataByteOffset.toNat - 2) * 8 - rpsEnd) with
    | none => exact needs_fail _
    | some alignStart =>
      obtain ⟨low, high, -, -⟩ := findByteAlignmentStart_some found
      have front := needs_copy rbsp rpsEnd alignStart (by omega)
      have back := needs_copy rbsp ((sp.sliceDataByteOffset.toNat - 2) * 8) _ (Nat.le_refl _)
      exact (front.seq (needs_trailing.seq back)).mono (by omega)

theorem needs_longTerm {pp : VAPictureParameterBufferHEVC} (bounds : SliceSyntaxBounds pp)
    {rbsp : List UInt8} {place : RpsPlace} (ordered : place.Ordered rbsp.length) (rps : HEVCRPS) :
    Needs (place.rpsEnd - place.rpsStart + (63 + 81 * rps.longTerm.length))
      (copyOrWriteLongTerm pp rbsp place rps) (Hevc.copyOrWriteLongTerm pp rbsp place rps) := by
  unfold copyOrWriteLongTerm Hevc.copyOrWriteLongTerm
  split
  · rename_i verbatim
    obtain ⟨low, -⟩ := ordered.verbatim verbatim
    exact (needs_copy rbsp place.ltVerbatimBit _ ordered.end_le).mono (by omega)
  · exact (needs_longTermRps bounds rps place.pocLsb).mono (Nat.le_add_left _ _)

/-- The new payload takes 300 bytes more than the old one at most. -/
theorem needs_rewriteRbsp {pp : VAPictureParameterBufferHEVC} (bounds : SliceSyntaxBounds pp)
    {rps : HEVCRPS} (collect : collectRps pp = some rps) {rbsp : List UInt8} {place : RpsPlace}
    (ordered : place.Ordered rbsp.length) (sp : Option VASliceParameterBufferHEVC) :
    Needs (8 * (rbsp.length + 300)) (rewriteRbsp pp sp rbsp place rps)
      (Hevc.rewriteRbsp pp sp rbsp place rps) := by
  have count := collectRps_room collect
  have start := ordered.start_le
  have stop := ordered.end_le
  have front := needs_copy rbsp 0 place.rpsStart (by omega)
  have behind := (needs_longTerm bounds ordered rps).seq (needs_remainder rbsp sp place.rpsEnd)
  have set := (needs_write 0 1 (by decide)).seq ((needs_shortTermRps rps).seq behind)
  exact (front.seq set).mono (by omega)

/-! ## The two functions -/

theorem store_ok {size : Nat} {out : List UInt8} (byte : UInt8) (room : ¬ size ≤ out.length) :
    store size out byte = .ok (out ++ [byte]) := if_neg room

theorem storeAll_ok {size : Nat} {out bytes : List UInt8}
    (room : out.length + bytes.length ≤ size) : storeAll size out bytes = .ok (out ++ bytes) :=
  if_neg (Nat.not_lt.mpr room)

theorem unescapePrefixLoop_ok (dstSize : Nat) : ∀ (src : List UInt8) (zeros : Nat)
    (out : List UInt8), unescapePrefixLoop dstSize src zeros out =
      .ok (Hevc.unescapePrefixLoop dstSize src zeros out) := by
  intro src
  induction src with
  | nil => intro _ _; rfl
  | cons b src ih =>
    intro zeros out
    unfold unescapePrefixLoop Hevc.unescapePrefixLoop
    split
    · rfl
    rename_i room
    split
    · exact ih 0 out
    · rw [store_ok b room]
      exact ih _ _

theorem unescapePrefix_ok (src : List UInt8) (dstSize : Nat) :
    unescapePrefix src dstSize = .ok (Hevc.unescapePrefix src dstSize) :=
  unescapePrefixLoop_ok dstSize src 0 []

theorem emulationPreventLoop_ok (dstSize : Nat) : ∀ (src : List UInt8) (zeros : Nat)
    (out : List UInt8), emulationPreventLoop dstSize src zeros out =
      .ok (RockchipVaapi.emulationPreventLoop dstSize src zeros out) := by
  intro src
  induction src with
  | nil => intro _ _; rfl
  | cons b src ih =>
    intro zeros out
    unfold emulationPreventLoop RockchipVaapi.emulationPreventLoop
    split
    · split
      · rfl
      rename_i room
      have longer : (out ++ [3]).length = out.length + 1 := by simp
      have pair : out ++ [3, b] = out ++ [3] ++ [b] := by simp
      rw [store_ok 3 room, pair]
      show (if dstSize ≤ (out ++ [3]).length then _ else _) = _
      rw [longer]
      split
      · rfl
      · rename_i room'
        rw [store_ok b (by omega)]
        exact ih _ _
    · split
      · rfl
      · rename_i room
        rw [store_ok b room]
        exact ih _ _

theorem emulationPrevent_ok (src : List UInt8) (dstSize : Nat) :
    emulationPrevent src dstSize = .ok (RockchipVaapi.emulationPrevent src dstSize) :=
  emulationPreventLoop_ok dstSize src 0 []

theorem length_emulationPrevent_le (src : List UInt8) (dstSize : Nat) :
    (RockchipVaapi.emulationPrevent src dstSize).length ≤ dstSize := by
  rw [emulationPrevent_eq]
  split
  · assumption
  · exact Nat.zero_le _

theorem copyNal_ok (bufSize : Nat) (data : List UInt8) :
    copyNal bufSize data = OptionT.mk (.ok (Hevc.copyNal bufSize data)) := by
  unfold copyNal Hevc.copyNal
  split
  · rfl
  · rw [storeAll_ok (by simpa using Nat.not_lt.mp ‹_›)]
    rfl

theorem room_init {n cap : Nat} (fits : n ≤ 8 * cap) : Room n (BSWriter.init cap) where
  ok := BSWriter.init_ok cap
  fits := by
    have start : (BSWriter.init cap).pos = 0 := rfl
    rw [start, Nat.zero_add, BSWriter.init_capacity]
    exact fits

/-- The bytes of a rewritten slice are stored inside `buf`. -/
theorem finish_ok (bufSize : Nat) (startCode rbsp : List UInt8) (nal0 nal1 : UInt8) :
    (if bufSize < startCode.length + 2 then OptionT.fail
      else do
        let buf ← (storeAll bufSize [] startCode : Except Fault _)
        let buf ← (store bufSize buf nal0 : Except Fault _)
        let buf ← (store bufSize buf nal1 : Except Fault _)
        let escaped ← (emulationPrevent rbsp (bufSize - (startCode.length + 2)) : Except Fault _)
        if escaped = [] ∨ 2 ^ 31 - 1 - (startCode.length + 2) < escaped.length then OptionT.fail
        else (storeAll bufSize buf escaped : Except Fault _) : OptionT (Except Fault) (List UInt8)) =
      OptionT.mk (.ok (finishRewrite bufSize startCode nal0 nal1 rbsp)) := by
  unfold finishRewrite
  split
  · rfl
  rename_i room
  have escaped := length_emulationPrevent_le rbsp (bufSize - (startCode.length + 2))
  have header : storeAll bufSize [] startCode = .ok startCode := storeAll_ok (by simp; omega)
  have first : store bufSize startCode nal0 = .ok (startCode ++ [nal0]) := store_ok _ (by omega)
  have second : store bufSize (startCode ++ [nal0]) nal1 = .ok (startCode ++ [nal0] ++ [nal1]) :=
    store_ok _ (by simp; omega)
  rw [lift_ok_bind _ header, lift_ok_bind _ first, lift_ok_bind _ second,
    lift_ok_bind _ (emulationPrevent_ok _ _)]
  dsimp only
  split
  · rfl
  · rw [storeAll_ok (by simp; omega)]
    simp only [List.append_assoc, List.singleton_append]
    rfl

/-- The intermediate writer has room for every bit. -/
theorem rewriteIndependent_ok {nalSize nalType : Nat} {rbsp : List UInt8}
    {pp : VAPictureParameterBufferHEVC} {br : HEVCBitReader} (bounds : SliceSyntaxBounds pp)
    (read : Hevc.brReadSegmentStart pp nalType ⟨rbsp, 0⟩ = some (false, br))
    (size : rbsp.length ≤ nalSize) (bufSize : Nat) (startCode : List UInt8) (nal0 nal1 : UInt8)
    (sp : Option VASliceParameterBufferHEVC) :
    rewriteIndependent bufSize startCode nal0 nal1 nalSize pp sp br =
      OptionT.mk (.ok (Hevc.rewriteIndependent bufSize startCode nal0 nal1 nalSize pp sp br)) := by
  have walked := forward_segmentStart pp nalType _ false br (Nat.zero_le _) read
  have reads := (safe_findRps pp).run (s := br) trivial
  unfold rewriteIndependent Hevc.rewriteIndependent
  cases find : Hevc.findRps pp br with
  | none =>
    rw [find] at reads
    exact option_bind_none _ _ reads
  | some found =>
    obtain ⟨place, br'⟩ := found
    have ordered := findRps_ordered walked.ok find
    rw [find] at reads
    rw [option_bind_some _ _ reads]
    rw [walked.data] at ordered ⊢
    cases collect : collectRps pp with
    | none => rfl
    | some rps =>
      have enough : 8 * (rbsp.length + 300) ≤ 8 * (nalSize + 4096) := by omega
      have writes := (needs_rewriteRbsp bounds collect ordered sp 0).run (room_init enough)
      dsimp only
      rw [option_bind_some _ _ rfl]
      show _ = OptionT.mk (Except.ok ((Hevc.rewriteRbsp pp sp rbsp place rps
        (BSWriter.init (nalSize + 4096))).bind fun r =>
          finishRewrite bufSize startCode nal0 nal1 r.2.output))
      cases write : Hevc.rewriteRbsp pp sp rbsp place rps (BSWriter.init (nalSize + 4096)) with
      | none =>
        rw [write] at writes
        exact option_bind_none _ _ writes
      | some written =>
        obtain ⟨_, bs⟩ := written
        rw [write] at writes
        rw [option_bind_some _ _ writes]
        exact finish_ok bufSize startCode bs.output nal0 nal1

theorem rkHevcRewriteSliceNal_ok (allocated : Bool) (bufSize : Nat) (data : List UInt8)
    (pp : VAPictureParameterBufferHEVC) (sp : Option VASliceParameterBufferHEVC) :
    rkHevcRewriteSliceNal allocated bufSize data pp sp =
      OptionT.mk (.ok (Hevc.rkHevcRewriteSliceNal allocated bufSize data pp sp)) := by
  unfold rkHevcRewriteSliceNal Hevc.rkHevcRewriteSliceNal
  split
  · rfl
  rename_i valid
  have bounds : SliceSyntaxBounds pp := sliceSyntaxBounds_of_validate (by simpa using valid)
  dsimp only
  cases nal : data.drop (nalOffset data) with
  | nil => rfl
  | cons nal0 rest =>
    rcases rest with _ | ⟨nal1, _ | ⟨byte, bytes⟩⟩
    · rfl
    · rfl
    dsimp only
    split
    · rfl
    split
    · rfl
    split
    · exact copyNal_ok bufSize data
    split
    · rfl
    have size := unescapePrefixLoop_length ((byte :: bytes).length + 2) (byte :: bytes) 0 []
    rw [List.length_nil, Nat.zero_add] at size
    rw [lift_ok_bind _ (unescapePrefix_ok _ _)]
    have reads := (safe_segmentStart bounds ((nal0.toNat >>> 1) &&& 0x3f)).run
      (s := ⟨Hevc.unescapePrefix (byte :: bytes) ((byte :: bytes).length + 2), 0⟩) trivial
    cases start : Hevc.brReadSegmentStart pp ((nal0.toNat >>> 1) &&& 0x3f)
        ⟨Hevc.unescapePrefix (byte :: bytes) ((byte :: bytes).length + 2), 0⟩ with
    | none =>
      rw [start] at reads
      exact option_bind_none _ _ reads
    | some read =>
      obtain ⟨dependent, br⟩ := read
      rw [start] at reads
      rw [option_bind_some _ _ reads]
      cases dependent with
      | true => exact copyNal_ok bufSize data
      | false =>
        exact rewriteIndependent_ok bounds start (Nat.le_trans size (Nat.le_add_right _ 2)) bufSize
          _ nal0 nal1 sp

theorem rkHevcParseSliceInfo_ok (data : List UInt8) :
    rkHevcParseSliceInfo data = OptionT.mk (.ok (Hevc.rkHevcParseSliceInfo data)) := by
  unfold rkHevcParseSliceInfo Hevc.rkHevcParseSliceInfo
  cases nal : data.drop (nalOffset data) with
  | nil => rfl
  | cons nal0 rest =>
    rcases rest with _ | ⟨nal1, _ | ⟨byte, bytes⟩⟩
    · rfl
    · rfl
    dsimp only
    split
    · rfl
    rw [lift_ok_bind _ (unescapePrefix_ok _ _)]
    have reads := (safe_sliceInfo ((nal0.toNat >>> 1) &&& 0x3f)).run
      (s := ⟨Hevc.unescapePrefix (byte :: bytes) 128, 0⟩) trivial
    cases info : Hevc.brReadSliceInfo ((nal0.toNat >>> 1) &&& 0x3f)
        ⟨Hevc.unescapePrefix (byte :: bytes) 128, 0⟩ with
    | none =>
      rw [info] at reads
      exact option_bind_none _ _ reads
    | some read =>
      rw [info] at reads
      rw [option_bind_some _ _ reads]
      rfl

theorem length_copyNal {bufSize : Nat} {data out : List UInt8}
    (h : Hevc.copyNal bufSize data = some out) : out.length ≤ bufSize := by
  unfold Hevc.copyNal at h
  split at h
  · cases h
  · obtain rfl := Option.some.inj h
    exact Nat.not_lt.mp ‹_›

theorem length_rewriteIndependent {bufSize nalSize : Nat} {startCode out : List UInt8}
    {nal0 nal1 : UInt8} {pp : VAPictureParameterBufferHEVC}
    {sp : Option VASliceParameterBufferHEVC} {br : HEVCBitReader}
    (h : Hevc.rewriteIndependent bufSize startCode nal0 nal1 nalSize pp sp br = some out) :
    out.length ≤ bufSize := by
  obtain ⟨⟨place, br'⟩, -, h⟩ := Option.bind_eq_some_iff.mp h
  obtain ⟨rps, -, h⟩ := Option.bind_eq_some_iff.mp h
  obtain ⟨⟨u, bs⟩, -, h⟩ := Option.bind_eq_some_iff.mp h
  have escaped := length_emulationPrevent_le bs.output (bufSize - (startCode.length + 2))
  dsimp only at h
  split at h
  · cases h
  split at h
  · cases h
  obtain rfl := Option.some.inj h
  simp only [List.length_append, List.length_cons]
  omega

/-- The rewriter returns no more bytes than `buf` holds. -/
theorem length_rkHevcRewriteSliceNal {allocated : Bool} {bufSize : Nat} {data out : List UInt8}
    {pp : VAPictureParameterBufferHEVC} {sp : Option VASliceParameterBufferHEVC}
    (h : Hevc.rkHevcRewriteSliceNal allocated bufSize data pp sp = some out) :
    out.length ≤ bufSize := by
  unfold Hevc.rkHevcRewriteSliceNal at h
  split at h
  · cases h
  dsimp only at h
  split at h
  case h_2 => cases h
  split at h
  · cases h
  split at h
  · cases h
  split at h
  · exact length_copyNal h
  split at h
  · cases h
  obtain ⟨⟨dependent, br⟩, -, h⟩ := Option.bind_eq_some_iff.mp h
  cases dependent with
  | true => exact length_copyNal h
  | false => exact length_rewriteIndependent h

/-- Slice parsing is safe on hostile input: whatever the bytes, the picture and slice parameters and
the buffer are, the checked functions return without a fault what the plain ones return, and a
rewritten slice fits into the buffer. -/
theorem sliceParsing_safe (allocated : Bool) (bufSize : Nat) (data : List UInt8)
    (pp : VAPictureParameterBufferHEVC) (sp : Option VASliceParameterBufferHEVC) :
    (rkHevcRewriteSliceNal allocated bufSize data pp sp).run =
      .ok (Hevc.rkHevcRewriteSliceNal allocated bufSize data pp sp) ∧
    (rkHevcParseSliceInfo data).run = .ok (Hevc.rkHevcParseSliceInfo data) ∧
    ∀ out, Hevc.rkHevcRewriteSliceNal allocated bufSize data pp sp = some out →
      out.length ≤ bufSize :=
  ⟨rkHevcRewriteSliceNal_ok allocated bufSize data pp sp, rkHevcParseSliceInfo_ok data,
    fun _ h => length_rkHevcRewriteSliceNal h⟩

end RockchipVaapi.Hevc.Checked
