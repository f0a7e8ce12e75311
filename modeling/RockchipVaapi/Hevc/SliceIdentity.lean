import RockchipVaapi.Hevc.Job
import RockchipVaapi.Hevc.SliceData
import RockchipVaapi.Hevc.ExpGolomb

/-!
# The identity of a rewritten slice

`build_hevc_job` emits the PPS under the id that `rk_hevc_parse_slice_info` finds in a 128-byte
prefix of the slice, and puts `rk_hevc_rewrite_slice_nal`'s output behind it. Both walks begin with
the same elements, which end in front of the reference picture set, so a rewritten slice has the NAL
unit type, the temporal id, the PPS id, the first-slice flag and the start code of the slice it was
made from.
-/

namespace RockchipVaapi.Hevc
open Bitstream HEVCBitReader

/-- The start code that a NAL unit comes with, if any. -/
def annexBPrefix (data : List UInt8) : List UInt8 := data.take (nalOffset data)

theorem annexBPrefix_mem (data : List UInt8) : annexBPrefix data ∈ startCodes := by
  unfold annexBPrefix startCodes
  rcases nalOffset_cases data with ⟨offset, -⟩ | ⟨rest, rfl, offset⟩ | ⟨rest, rfl, offset⟩
  · simp [offset]
  · simp [offset]
  · simp [offset]

/-! ## Prefixes of the unescaped payload -/

theorem unescapePrefixLoop_prefix (dstSize : Nat) : ∀ (src : List UInt8) (zeros : Nat)
    (out : List UInt8), out <+: unescapePrefixLoop dstSize src zeros out := by
  intro src
  induction src with
  | nil => intro _ out; exact List.prefix_refl out
  | cons b src ih =>
    intro zeros out
    rw [unescapePrefixLoop]
    split
    · exact List.prefix_refl out
    split
    · exact ih 0 out
    · exact (List.prefix_append out [b]).trans (ih _ _)

/-- A smaller destination gets the front of what a large one gets. -/
theorem unescapePrefixLoop_take {small large : Nat} : ∀ (src : List UInt8) (zeros : Nat)
    (out : List UInt8), out.length ≤ small → out.length + src.length ≤ large →
      unescapePrefixLoop small src zeros out =
        (unescapePrefixLoop large src zeros out).take small := by
  intro src
  induction src with
  | nil =>
    intro zeros out room _
    rw [unescapePrefixLoop, unescapePrefixLoop, List.take_of_length_le room]
  | cons b src ih =>
    intro zeros out room whole
    rw [List.length_cons] at whole
    by_cases full : small ≤ out.length
    · -- nothing more fits, and the large destination begins with what is there
      have begins := unescapePrefixLoop_prefix large (b :: src) zeros out
      rw [unescapePrefixLoop, if_pos full, Nat.le_antisymm full room]
      exact List.prefix_iff_eq_take.mp begins
    · have notFull : ¬ large ≤ out.length := by omega
      rw [unescapePrefixLoop, unescapePrefixLoop, if_neg full, if_neg notFull]
      split
      · exact ih 0 out room (by omega)
      · have next : (out ++ [b]).length = out.length + 1 := by simp
        exact ih _ _ (by omega) (by omega)

theorem unescapePrefix_take (src : List UInt8) {large : Nat} (whole : src.length ≤ large)
    (small : Nat) : unescapePrefix src small = (unescapePrefix src large).take small :=
  unescapePrefixLoop_take src 0 [] (Nat.zero_le _) (by simpa using whole)

theorem unescapePrefix_escape_take (rbsp : List UInt8) (small : Nat) :
    unescapePrefix (escape rbsp) small = rbsp.take small := by
  rw [unescapePrefix_take _ (Nat.le_refl _) small, unescapePrefix_escape (Nat.le_refl _)]

/-! ## Reads that depend on few bits -/

/-- Where `m` succeeds it has taken `limit` bits at most, and it does the same in front of the same
bits of any other payload. -/
def Takes {α : Type} (m : BrM α) (limit : Nat) : Prop :=
  ∀ br x br', m br = some (x, br') → ∃ taken, taken.length ≤ limit ∧ br.rest = taken ++ br'.rest ∧
    br' = br.advance taken.length ∧
      ∀ br₂ behind, br₂.rest = taken ++ behind → m br₂ = some (x, br₂.advance taken.length)

section

variable {α β : Type}

theorem takes_pure (x : α) : Takes (pure x : BrM α) 0 := by
  intro br y br' h
  obtain ⟨rfl, rfl⟩ := Prod.mk.inj (Option.some.inj h)
  exact ⟨[], Nat.le_refl _, rfl, rfl, fun _ _ _ => rfl⟩

theorem Takes.bind {m : BrM α} {f : α → BrM β} {j k : Nat} (hm : Takes m j)
    (hf : ∀ x, Takes (f x) k) : Takes (m >>= f) (j + k) := by
  intro br y br' h
  obtain ⟨⟨x, middle⟩, hx, hy⟩ := Option.bind_eq_some_iff.mp h
  obtain ⟨first, length₁, front₁, rfl, again₁⟩ := hm br x middle hx
  obtain ⟨second, length₂, front₂, rfl, again₂⟩ := hf x _ y br' hy
  refine ⟨first ++ second, ?_, ?_, ?_, fun br₂ behind front => ?_⟩
  · rw [List.length_append]
    omega
  · rw [front₁, front₂, List.append_assoc]
  · rw [advance_advance, List.length_append]
  · rw [List.append_assoc] at front
    rw [brBind_apply, again₁ br₂ _ front, Option.bind_some, again₂ _ _ (rest_advance front),
      advance_advance, List.length_append]

theorem takes_bit : Takes brReadBit 1 := by
  intro br x br' h
  obtain ⟨bit, rfl, front, rfl, -⟩ := brReadBit_some h
  exact ⟨[bit], Nat.le_refl _, front, rfl, fun br₂ behind same => brReadBit_rest same⟩

theorem Takes.brIf {c : Bool} {m : BrM α} {absent : α} {k : Nat} (h : Takes m k) :
    Takes (brIf c m absent) k := by
  cases c with
  | true => exact h
  | false =>
    intro br x br' run
    obtain ⟨taken, length, rest⟩ := takes_pure absent br x br' run
    exact ⟨taken, Nat.le_trans length (Nat.zero_le k), rest⟩

/-- A code of `br_read_ue` has 31 leading zeros at most. -/
theorem takes_ue : Takes brReadUe 63 := by
  intro br x br' h
  obtain ⟨zeros, suffix, short, code, rfl, moved⟩ := brReadUe_some h
  have length : (List.replicate zeros false ++ true :: suffix).length = 2 * zeros + 1 := by
    rw [List.length_append, List.length_replicate, List.length_cons, code.length]
    omega
  refine ⟨List.replicate zeros false ++ true :: suffix, by omega, ?_, ?_, fun br₂ behind same => ?_⟩
  · rw [code.front]
    simp
  · rw [length]
    exact moved
  · have again : CodeAt br₂ zeros suffix behind := ⟨code.length, by rw [same]; simp⟩
    rw [length]
    exact brReadUe_code again short

end

/-! ## What both walks read first -/

/-- The first elements of a slice segment header: the first-slice flag, a flag that only some NAL
unit types have, and the PPS id. -/
def brReadIdentity (nalType : Nat) : BrM (Nat × Nat) := do
  let first ← brReadBit
  let _ ← brIf (decide (16 ≤ nalType) && decide (nalType ≤ 23)) brReadBit 0
  let ppsId ← brReadUe
  return (first, ppsId)

theorem takes_identity (nalType : Nat) : Takes (brReadIdentity nalType) 65 :=
  takes_bit.bind fun _ => (takes_bit.brIf).bind fun _ => takes_ue.bind fun _ => takes_pure _

/-- `rk_hevc_parse_slice_info` reads the identity and checks the PPS id. -/
theorem brReadSliceInfo_identity (nalType : Nat) (br : HEVCBitReader) :
    brReadSliceInfo nalType br = (brReadIdentity nalType br).bind fun r =>
      if 63 < r.1.2 then none else some ((r.1.1 != 0, r.1.2), r.2) := by
  unfold brReadSliceInfo brReadIdentity
  simp only [brBind_apply, Option.bind_assoc]
  congr 1
  funext first
  congr 1
  funext flag
  congr 1
  funext ppsId
  show _ = ite _ _ _
  split
  · rfl
  · rfl

theorem forward_identity (nalType : Nat) : Forward (brReadIdentity nalType) :=
  forward_bit.bind fun _ => (forward_bit.brIf).bind fun _ => forward_ue.bind fun _ => forward_pure _

/-- `rk_hevc_rewrite_slice_nal` reads the identity and goes on. -/
theorem brReadSegmentStart_identity {pp : VAPictureParameterBufferHEVC} {nalType : Nat}
    {br br' : HEVCBitReader} {dependent : Bool} (ok : br.Ok)
    (read : brReadSegmentStart pp nalType br = some (dependent, br')) :
    ∃ x br₁, brReadIdentity nalType br = some (x, br₁) ∧ br₁.bit ≤ br'.bit := by
  obtain ⟨⟨first, br₁⟩, hfirst, read⟩ := Option.bind_eq_some_iff.mp read
  obtain ⟨⟨flag, br₂⟩, hflag, read⟩ := Option.bind_eq_some_iff.mp read
  obtain ⟨⟨ppsId, br₃⟩, hppsId, read⟩ := Option.bind_eq_some_iff.mp read
  have identity : brReadIdentity nalType br = some ((first, ppsId), br₃) := by
    unfold brReadIdentity
    rw [brBind_apply, hfirst, Option.bind_some, brBind_apply, hflag, Option.bind_some,
      brBind_apply, hppsId]
    rfl
  have walked := forward_identity nalType br _ br₃ ok identity
  have rest : Forward (do
      let dependent ←
        brIf (first == 0 && pp.dependentSliceSegmentsEnabledFlag) brReadBit 0
      brIf (first == 0) (brSkipBits (ceilLog2U32 (widthCtbs pp * heightCtbs pp))) ()
      return dependent != 0 : BrM Bool) :=
    forward_bit.brIf.bind fun _ => (forward_skip _).brIf.bind fun _ => forward_pure _
  exact ⟨(first, ppsId), br₃, identity, (rest br₃ dependent br' walked.ok read).le⟩

/-- Payloads that agree up to the end of the identity look the same to
`rk_hevc_parse_slice_info`, which sees 128 bytes of them. -/
theorem brReadSliceInfo_congr {nalType bound : Nat} {rbsp rbsp' : List UInt8} {x : Nat × Nat}
    {br : HEVCBitReader} (read : brReadIdentity nalType ⟨rbsp, 0⟩ = some (x, br))
    (inside : br.bit ≤ bound) (agree : (bytesBits rbsp).take bound <+: bytesBits rbsp') :
    (brReadSliceInfo nalType ⟨rbsp'.take 128, 0⟩).map (·.1) =
      (brReadSliceInfo nalType ⟨rbsp.take 128, 0⟩).map (·.1) := by
  obtain ⟨taken, short, front, rfl, again⟩ := takes_identity nalType _ _ _ read
  have position : taken.length ≤ bound := by
    have moved : ((⟨rbsp, 0⟩ : HEVCBitReader).advance taken.length).bit = 0 + taken.length := rfl
    omega
  have begins : taken <+: bytesBits rbsp := ⟨_, front.symm⟩
  have begins' : taken <+: bytesBits rbsp' := (List.prefix_take_iff.mpr ⟨begins, position⟩).trans agree
  have seen : ∀ bytes : List UInt8, taken <+: bytesBits bytes →
      brReadIdentity nalType ⟨bytes.take 128, 0⟩ =
        some (x, (⟨bytes.take 128, 0⟩ : HEVCBitReader).advance taken.length) := by
    intro bytes start
    obtain ⟨behind, whole⟩ : taken <+: bytesBits (bytes.take 128) := by
      rw [bytesBits_take]
      exact List.prefix_take_iff.mpr ⟨start, by omega⟩
    exact again _ behind whole.symm
  rw [brReadSliceInfo_identity, brReadSliceInfo_identity, seen rbsp begins, seen rbsp' begins',
    Option.bind_some, Option.bind_some]
  split
  · rfl
  · rfl

/-! ## What the rewriter keeps -/

theorem appends_copy (src : List UInt8) (startBit endBit : Nat) :
    Appends (copyBits src startBit endBit) := by
  unfold copyBits
  split
  · exact Fails.appends fun _ => rfl
  · exact appends_each (fun _ => (emits_write1 _).appends) _

theorem appends_remainder (rbsp : List UInt8) (sp : Option VASliceParameterBufferHEVC)
    (rpsEnd : Nat) : Appends (copyRemainder rbsp sp rpsEnd) := by
  unfold copyRemainder
  split
  · exact appends_copy _ _ _
  split
  · exact appends_copy _ _ _
  dsimp only
  split
  · exact Fails.appends fun _ => rfl
  split
  · exact Fails.appends fun _ => rfl
  · exact (appends_copy _ _ _).seq (appends_trailing.seq (appends_copy _ _ _))

/-- The new payload begins like the old one, up to the reference picture set. -/
theorem rewriteRbsp_front {pp : VAPictureParameterBufferHEVC}
    {sp : Option VASliceParameterBufferHEVC} {rbsp : List UInt8} {place : RpsPlace} {rps : HEVCRPS}
    {cap : Nat} {bs : BSWriter} (bounds : SliceSyntaxBounds pp) (collect : collectRps pp = some rps)
    (ordered : place.Ordered rbsp.length) (room : rbsp.length ≤ cap)
    (run : rewriteRbsp pp sp rbsp place rps (BSWriter.init cap) = some ((), bs)) :
    (bytesBits rbsp).take place.rpsStart <+: bytesBits bs.output := by
  have count := collectRps_room collect
  have start := ordered.start_le
  have stop := ordered.end_le
  obtain ⟨⟨_, bs₁⟩, first, rest⟩ := Option.bind_eq_some_iff.mp run
  -- the copied front fits into the buffer
  have copied := emits_copy rbsp (Nat.zero_le place.rpsStart) (by omega)
  obtain ⟨w, run₁, ok₁, -, bits₁⟩ := copied _ (BSWriter.init_ok cap)
  obtain ⟨-, rfl⟩ := Prod.mk.inj (Option.some.inj (run₁.symm.trans first))
  rw [BSWriter.init_bits, List.nil_append, BSWriter.init_capacity, List.drop_zero, Nat.sub_zero,
    List.take_of_length_le (by rw [List.length_take]; omega)] at bits₁
  -- everything behind it only appends
  have flag : Appends (bsWrite 0 1) := (emits_write 0 1).appends
  have shortTerm : Appends (writeShortTermRps rps 0) := by
    have room : rps.negative.length + rps.positive.length ≤ 15 := by omega
    obtain ⟨code, emits, -⟩ := writeShortTermRps_length room
    exact emits.appends
  have longTerm : Appends (copyOrWriteLongTerm pp rbsp place rps) := by
    rcases copyOrWriteLongTerm_length bounds (by omega : rps.longTerm.length ≤ 15) ordered with
      fails | ⟨code, emits, -⟩
    · exact fails.appends
    · exact emits.appends
  have behind := flag.seq (shortTerm.seq (longTerm.seq (appends_remainder rbsp sp place.rpsEnd)))
  obtain ⟨ok, kept⟩ := behind _ bs ok₁ rest
  rw [← bits₁]
  exact kept.trans (bs.bits_prefix_output ok)

/-- The reference picture set stands behind everything that was read before. -/
theorem findRps_start {pp : VAPictureParameterBufferHEVC} {br br' : HEVCBitReader}
    {place : RpsPlace} (ok : br.Ok) (find : findRps pp br = some (place, br')) :
    br.bit ≤ place.rpsStart := by
  obtain ⟨⟨pocLsb, br₁⟩, hpoc, find⟩ := Option.bind_eq_some_iff.mp find
  obtain ⟨⟨⟨ltVerbatimBit, ltVerbatim⟩, br₂⟩, hskip, find⟩ := Option.bind_eq_some_iff.mp find
  obtain ⟨rfl, rfl⟩ := Prod.mk.inj (Option.some.inj find)
  exact (forward_pocLsb pp br pocLsb br₁ ok hpoc).le

/-- A slice that is not copied gets a new payload that begins like the old one, beyond the
identity. -/
theorem rewriteIndependent_front {bufSize nalSize nalType : Nat} {startCode rbsp out : List UInt8}
    {nal0 nal1 : UInt8} {pp : VAPictureParameterBufferHEVC}
    {sp : Option VASliceParameterBufferHEVC} {br : HEVCBitReader} (bounds : SliceSyntaxBounds pp)
    (read : brReadSegmentStart pp nalType ⟨rbsp, 0⟩ = some (false, br))
    (size : rbsp.length ≤ nalSize)
    (h : rewriteIndependent bufSize startCode nal0 nal1 nalSize pp sp br = some out) :
    ∃ rbsp' bound, out = startCode ++ nal0 :: nal1 :: escape rbsp' ∧ rbsp' ≠ [] ∧ br.bit ≤ bound ∧
      (bytesBits rbsp).take bound <+: bytesBits rbsp' := by
  have walked := forward_segmentStart pp nalType _ false br (Nat.zero_le _) read
  obtain ⟨⟨place, br'⟩, find, h⟩ := Option.bind_eq_some_iff.mp h
  obtain ⟨rps, collect, h⟩ := Option.bind_eq_some_iff.mp h
  obtain ⟨⟨u, bs⟩, write, h⟩ := Option.bind_eq_some_iff.mp h
  have ordered := findRps_ordered walked.ok find
  have beyond := findRps_start walked.ok find
  rw [walked.data] at ordered write
  have kept := rewriteRbsp_front bounds collect ordered (by dsimp only; omega) write
  have shape : out = startCode ++ nal0 :: nal1 :: escape bs.output := finishRewrite_some h
  refine ⟨bs.output, place.rpsStart, shape, fun empty => ?_, beyond, kept⟩
  change finishRewrite bufSize startCode nal0 nal1 bs.output = some out at h
  rw [empty] at h
  unfold finishRewrite at h
  dsimp only at h
  split at h
  · cases h
  · rw [if_pos (.inl ((emulationPrevent_eq_nil [] _).mpr (.inr rfl)))] at h
    cases h

/-- What `rk_hevc_parse_slice_info` makes of a NAL unit whose start code and header are known. -/
theorem rkHevcParseSliceInfo_nal {data payload : List UInt8} {nal0 nal1 : UInt8}
    (nal : data.drop (nalOffset data) = nal0 :: nal1 :: payload) (nonempty : payload ≠ [])
    (valid : ¬ (nal0 &&& 0x80 ≠ 0 ∨ 31 < (nal0.toNat >>> 1) &&& 0x3f ∨ nal1 &&& 7 = 0)) :
    rkHevcParseSliceInfo data =
      ((brReadSliceInfo ((nal0.toNat >>> 1) &&& 0x3f) ⟨unescapePrefix payload 128, 0⟩).map
        (·.1)).map fun r => ⟨(nal0.toNat >>> 1) &&& 0x3f, nal1.toNat &&& 7, r.2, r.1⟩ := by
  obtain ⟨byte, bytes, rfl⟩ := List.exists_cons_of_ne_nil nonempty
  have temporalId : nal1.toNat &&& 7 = 0 ↔ nal1 &&& 7 = 0 := by
    rw [← UInt8.toNat_inj, UInt8.toNat_and]
    rfl
  rw [← temporalId] at valid
  unfold rkHevcParseSliceInfo
  rw [nal]
  dsimp only
  rw [if_neg valid]
  cases brReadSliceInfo ((nal0.toNat >>> 1) &&& 0x3f) ⟨unescapePrefix (byte :: bytes) 128, 0⟩ with
  | none => rfl
  | some r => rfl

/-- Rewriting keeps the identity of a slice: the output has the start code of the input, and
`rk_hevc_parse_slice_info` finds in it what it finds in the input, or fails on both. -/
theorem rewriteSliceNal_keepsIdentity (allocated : Bool) (bufSize : Nat) (data out : List UInt8)
    (pp : VAPictureParameterBufferHEVC) (sp : Option VASliceParameterBufferHEVC)
    (rewritten : rkHevcRewriteSliceNal allocated bufSize data pp sp = some out) :
    rkHevcParseSliceInfo out = rkHevcParseSliceInfo data ∧ annexBPrefix out = annexBPrefix data := by
  have copied : out = data →
      rkHevcParseSliceInfo out = rkHevcParseSliceInfo data ∧ annexBPrefix out = annexBPrefix data := by
    rintro rfl
    exact ⟨rfl, rfl⟩
  obtain ⟨passed, nal0, nal1, byte, bytes, nal, valid, result⟩ :=
    rkHevcRewriteSliceNal_eq_some rewritten
  have bounds : SliceSyntaxBounds pp := sliceSyntaxBounds_of_validate passed
  rcases result with ⟨-, result⟩ | ⟨-, dependent, br, start, result⟩
  · exact copied (copyNal_some result)
  · cases dependent with
    | true => exact copied (copyNal_some result)
    | false =>
      have whole : (byte :: bytes).length ≤ (byte :: bytes).length + 2 := Nat.le_add_right _ _
      have size := unescapePrefixLoop_length ((byte :: bytes).length + 2) (byte :: bytes) 0 []
      rw [List.length_nil, Nat.zero_add] at size
      obtain ⟨rbsp', bound, shape, nonempty, inside, agree⟩ :=
        rewriteIndependent_front bounds start (Nat.le_trans size whole) result
      obtain ⟨x, br₁, identity, before⟩ := brReadSegmentStart_identity (Nat.zero_le _) start
      have temporalId : nal1 &&& 7 ≠ 0 := fun zero => valid (.inr (.inr zero))
      -- the start code of the output
      have offset : nalOffset out = (annexBPrefix data).length := by
        rw [shape]
        exact nalOffset_startCode (annexBPrefix_mem data) temporalId _
      have newNal : out.drop (nalOffset out) = nal0 :: nal1 :: escape rbsp' := by
        rw [offset, shape]
        exact List.drop_left' rfl
      have samePrefix : annexBPrefix out = annexBPrefix data := by
        rw [annexBPrefix, offset, shape]
        exact List.take_left' rfl
      refine ⟨?_, samePrefix⟩
      -- what is found behind it
      rw [rkHevcParseSliceInfo_nal newNal (mt escape_eq_nil.mp nonempty) valid,
        rkHevcParseSliceInfo_nal nal (List.cons_ne_nil byte bytes) valid,
        unescapePrefix_escape_take, unescapePrefix_take (byte :: bytes) whole,
        brReadSliceInfo_congr identity (Nat.le_trans before inside) agree]

theorem rewriteSliceNal_keepsIdentity_inter :
    rkHevcParseSliceInfo [0, 0, 1, 2, 1, 208, 80, 139, 181, 64, 87, 62, 0, 0, 3, 3, 128] =
        rkHevcParseSliceInfo interSlice.bytes ∧
      annexBPrefix [0, 0, 1, 2, 1, 208, 80, 139, 181, 64, 87, 62, 0, 0, 3, 3, 128] =
        annexBPrefix interSlice.bytes :=
  rewriteSliceNal_keepsIdentity true 64 interSlice.bytes _ interPicture (some ⟨7⟩)
    (by decide +kernel)

end RockchipVaapi.Hevc
