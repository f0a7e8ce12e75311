import RockchipVaapi.Bs.Calls
import RockchipVaapi.Hevc.SliceIdentity

/-!
# The writer inside the slice rewriter

`rk_hevc_rewrite_slice_nal` has an alignment loop of its own, behind the reference picture set it
wrote and the header bits it copied. Whatever was written there, the writer still satisfies its
invariant, so the loop ends, also when the buffer was too small.
-/

namespace RockchipVaapi.Hevc
open Bitstream

/-- What is written in front of the alignment loop (`hevc.c:867-888`). -/
def rewriteFront (pp : VAPictureParameterBufferHEVC) (rbsp : List UInt8) (place : RpsPlace)
    (rps : HEVCRPS) (alignStart : Nat) : BsM Unit := do
  copyBits rbsp 0 place.rpsStart
  bsWrite 0 1
  writeShortTermRps rps 0
  copyOrWriteLongTerm pp rbsp place rps
  copyBits rbsp place.rpsEnd alignStart

/-- A slice whose data offset is known is rewritten by the front, the alignment and a copy of the
data. -/
theorem rewriteRbsp_eq_front (pp : VAPictureParameterBufferHEVC) (sp : VASliceParameterBufferHEVC)
    (rbsp : List UInt8) (place : RpsPlace) (rps : HEVCRPS) {alignStart : Nat}
    (known : 2 ≤ sp.sliceDataByteOffset.toNat)
    (inside : ¬(8 * rbsp.length < (sp.sliceDataByteOffset.toNat - 2) * 8 ∨
      (sp.sliceDataByteOffset.toNat - 2) * 8 < place.rpsEnd))
    (found : findByteAlignmentStart rbsp place.rpsEnd
      ((sp.sliceDataByteOffset.toNat - 2) * 8 - place.rpsEnd) = some alignStart) :
    rewriteRbsp pp (some sp) rbsp place rps = (do
      rewriteFront pp rbsp place rps alignStart
      bsRbspTrailing
      copyBits rbsp ((sp.sliceDataByteOffset.toNat - 2) * 8) (8 * rbsp.length)) := by
  have remainder : copyRemainder rbsp (some sp) place.rpsEnd = (do
      copyBits rbsp place.rpsEnd alignStart
      bsRbspTrailing
      copyBits rbsp ((sp.sliceDataByteOffset.toNat - 2) * 8) (8 * rbsp.length)) := by
    simp only [copyRemainder, Option.map_some, if_neg (Nat.not_lt.mpr known), if_neg inside, found]
  unfold rewriteRbsp rewriteFront
  rw [remainder]
  simp only [bind_assoc]

/-! ## What keeps the invariant -/

/-- `bs_write_ue` only appends, also where its argument wraps. -/
theorem appends_ue (val : Nat) : Appends (bsWriteUe val) :=
  ((emits_write 0 (Nat.log2 ((val + 1) % 2 ^ 32))).seq
    (emits_write ((val + 1) % 2 ^ 32) (Nat.log2 ((val + 1) % 2 ^ 32) + 1))).appends

theorem appends_flag (flag : Bool) : Appends (bsWriteFlag flag) := (emits_flag flag).appends

theorem appends_rpsEntries : ∀ (entries : List HEVCRPSEntry) (previous : Nat),
    Appends (writeRpsEntries previous entries) := by
  intro entries
  induction entries with
  | nil => intro _; exact emits_nil.appends
  | cons entry entries ih =>
    intro previous
    exact (appends_ue _).seq ((appends_flag entry.used).seq (ih entry.delta))

theorem appends_shortTermRps (rps : HEVCRPS) : Appends (writeShortTermRps rps 0) :=
  emits_nil.appends.seq <| (appends_ue _).seq <| (appends_ue _).seq <|
    (appends_rpsEntries rps.negative 0).seq (appends_rpsEntries rps.positive 0)

theorem appends_longTermEntries (pocBits : Nat) (currentPoc : Int) (pocLsb : Nat) :
    ∀ (entries : List HEVCRPSEntry) (previousMsb : Int),
      Appends (writeLongTermEntries pocBits currentPoc pocLsb previousMsb entries) := by
  intro entries
  induction entries with
  | nil => intro _; exact emits_nil.appends
  | cons entry entries ih =>
    intro previousMsb
    refine (emits_write _ _).appends.seq ((appends_flag entry.used).seq ?_)
    split
    · exact Fails.appends fun _ => rfl
    · exact (emits_write 1 1).appends.seq ((appends_ue _).seq (ih _))

theorem appends_copyOrWriteLongTerm (pp : VAPictureParameterBufferHEVC) (rbsp : List UInt8)
    (place : RpsPlace) (rps : HEVCRPS) : Appends (copyOrWriteLongTerm pp rbsp place rps) := by
  unfold copyOrWriteLongTerm
  split
  · exact appends_copy _ _ _
  · unfold writeLongTermRps
    cases pp.longTermRefPicsPresentFlag with
    | false => exact emits_nil.appends
    | true => exact (appends_ue _).seq (appends_longTermEntries _ _ _ _ 0)

theorem appends_rewriteFront (pp : VAPictureParameterBufferHEVC) (rbsp : List UInt8)
    (place : RpsPlace) (rps : HEVCRPS) (alignStart : Nat) :
    Appends (rewriteFront pp rbsp place rps alignStart) :=
  (appends_copy _ _ _).seq <| (emits_write 0 1).appends.seq <| (appends_shortTermRps rps).seq <|
    (appends_copyOrWriteLongTerm pp rbsp place rps).seq (appends_copy _ _ _)

/-! ## The bit writer appends, and its loops end -/

/-- The alignment loop of the slice rewriter ends, whatever was written in front of it into a
buffer of `cap` bytes. -/
def RewriteAligns (cap : Nat) : Prop :=
  ∀ (pp : VAPictureParameterBufferHEVC) (rbsp : List UInt8) (place : RpsPlace) (rps : HEVCRPS)
    (alignStart : Nat) (bs : BSWriter),
    rewriteFront pp rbsp place rps alignStart (BSWriter.init cap) = some ((), bs) →
      ∃ bs', BSWriter.alignLoop 7 (bs.write1 1) = some bs' ∧ bs'.bitPos = 0

theorem rewriteAligns (cap : Nat) : RewriteAligns cap := by
  intro pp rbsp place rps alignStart bs run
  obtain ⟨ok, -⟩ := appends_rewriteFront pp rbsp place rps alignStart _ bs
    (BSWriter.init_ok cap) run
  exact BSWriter.alignLoop_ends (BSWriter.write1_ok ok 1)

/-- Every sequence of calls leaves the front of the fields it wrote, cut off at the end of the
buffer, and every alignment loop ends, those inside the calls and that of the slice rewriter. -/
theorem bitWriter_appends (cap : Nat) (calls : List BsCall)
    (inRange : ∀ call ∈ calls, call.InRange) :
    (∃ bs, runCalls calls (BSWriter.init cap) = some ((), bs) ∧ bs.Written cap calls) ∧
      RewriteAligns cap :=
  ⟨runCalls_written cap inRange, rewriteAligns cap⟩

/-- Sixteen bits on a buffer of one byte. -/
theorem bitWriter_appends_full :
    (∃ bs, runCalls [.write1 (-1), .write 5 3, .writeUe 4, .writeSe (-3), .rbspTrailing]
        (BSWriter.init 1) = some ((), bs) ∧
      bs.Written 1 [.write1 (-1), .write 5 3, .writeUe 4, .writeSe (-3), .rbspTrailing]) ∧
      RewriteAligns 1 :=
  bitWriter_appends 1 _ (by simp [BsCall.InRange])

/-- `bs_write_se` doubles its argument in `int`, and `2 ^ 30` doubled is beyond `INT_MAX`. -/
theorem bitWriter_overflow :
    Int32.toInt 1073741824 = 2 ^ 30 ∧
      ¬∃ bs, runCalls [.writeSe 1073741824] (BSWriter.init 8) = some ((), bs) ∧
        bs.Written 8 [.writeSe 1073741824] := by
  refine ⟨by decide, ?_⟩
  rintro ⟨bs, run, -⟩
  have undefined : runCalls [.writeSe 1073741824] (BSWriter.init 8) = none := rfl
  rw [undefined] at run
  cases run

end RockchipVaapi.Hevc
