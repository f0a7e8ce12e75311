import RockchipVaapi.Decode.Buffers
import RockchipVaapi.Hevc.SliceData

/-!
# HEVC access units

The model of `build_hevc_job` and of `rk_hevc_parse_slice_info`, which finds the PPS id of a
slice.
-/

namespace RockchipVaapi.Hevc
open Bitstream

/-- `RKHEVCSliceInfo`. -/
structure RKHEVCSliceInfo where
  nalUnitType : Nat
  temporalIdPlus1 : Nat
  ppsId : Nat
  firstSliceSegmentInPic : Bool
  deriving DecidableEq, Repr

/-- The reads of `rk_hevc_parse_slice_info` (`hevc.c:174-180`): the first-slice flag and the PPS
id. -/
def brReadSliceInfo (nalType : Nat) : BrM (Bool × Nat) := do
  let first ← brReadBit
  let _ ← brIf (decide (16 ≤ nalType) && decide (nalType ≤ 23)) brReadBit 0
  let ppsId ← brReadUe
  if 63 < ppsId then brFail else return (first != 0, ppsId)

/-- `rk_hevc_parse_slice_info` (`hevc.c:150-189`). -/
def rkHevcParseSliceInfo (data : List UInt8) : Option RKHEVCSliceInfo :=
  match data.drop (nalOffset data) with
  | nal0 :: nal1 :: byte :: bytes =>
    let nalType := (nal0.toNat >>> 1) &&& 0x3f
    let temporalIdPlus1 := nal1.toNat &&& 7
    if nal0 &&& 0x80 ≠ 0 ∨ 31 < nalType ∨ temporalIdPlus1 = 0 then none
    else do
      let ((first, ppsId), _) ← brReadSliceInfo nalType ⟨unescapePrefix (byte :: bytes) 128, 0⟩
      return ⟨nalType, temporalIdPlus1, ppsId, first⟩
  | _ => none

/-- `has_annex_b_prefix` (`mpp_dec.c:929-935`). -/
def hasAnnexBPrefix : List UInt8 → Bool
  | 0 :: 0 :: 1 :: _ => true
  | 0 :: 0 :: 0 :: 1 :: _ => true
  | _ => false

/-- The loop that looks for the first slice (`mpp_dec.c:956-967`): the first slice data buffer
with any data decides. -/
def firstSliceInfo : List (Option VABuffer) → Option RKHEVCSliceInfo
  | [] => none
  | some (.sliceData (first :: data)) :: _ => rkHevcParseSliceInfo (first :: data)
  | _ :: pending => firstSliceInfo pending

/-- The rewriting of slice `n` of a picture (`mpp_dec.c:1039-1054`). -/
def rewriteSlice (memory : BuildMemory) (pp : VAPictureParameterBufferHEVC)
    (sp : Option VASliceParameterBufferHEVC) (n : Nat) (data : List UInt8) :
    Except VAError (List UInt8) :=
  if !memory.rewritten n then .error .allocationFailed
  else
    match rkHevcRewriteSliceNal (memory.scratch n) (data.length + 4096) data pp sp with
    | none => .error .decodingError
    | some nal => .ok nal

/-- A slice goes into the packet with its own start code, or with a new one
(`mpp_dec.c:1057-1068`). -/
def appendNal (alloc : Nat → Bool) (packet : Packet) (nal : List UInt8) : Except VAError Packet :=
  if hasAnnexBPrefix nal then packetAppend alloc packet nal
  else do
    let packet ← packetAppend alloc packet [0, 0, 0, 1]
    packetAppend alloc packet nal

/-- The loop over the pending buffers (`mpp_dec.c:1024-1070`): `sp` is the last slice parameter
buffer, `n` the number of slices so far. -/
def appendSlices (memory : BuildMemory) (pp : VAPictureParameterBufferHEVC) :
    List (Option VABuffer) → Option VASliceParameterBufferHEVC → Nat → Packet →
      Except VAError (Packet × Nat)
  | [], _, n, packet => .ok (packet, n)
  | some (.sliceParameter _ (some sp)) :: pending, _, n, packet =>
    appendSlices memory pp pending (some sp) n packet
  | some (.sliceData (first :: data)) :: pending, sp, n, packet => do
    let nal ← rewriteSlice memory pp sp n (first :: data)
    let packet ← appendNal memory.alloc packet nal
    appendSlices memory pp pending sp (n + 1) packet
  | _ :: pending, sp, n, packet => appendSlices memory pp pending sp n packet

/-- `last_hevc_pp`, `last_hevc_iq` with its flag, and the cached VPS and SPS. -/
structure HevcState where
  pp : Option VAPictureParameterBufferHEVC
  iq : Option VAIQMatrixBufferHEVC
  sequenceHeaders : Option (List UInt8)

/-- The headers in front of the slices (`mpp_dec.c:984-1013`): the sequence headers where they
differ from the cached ones, and the PPS. The first component is what the job carries to the
cache. -/
def pictureHeaders (profileIdc : Nat) (c : HevcState) (pp : VAPictureParameterBufferHEVC)
    (ppsId : Nat) : Except VAError (Option (List UInt8) × List UInt8) :=
  match rkHevcWriteSequenceParameterSets 4096 pp c.iq profileIdc with
  | none => .error .decodingError
  | some sequence =>
    let sent := if c.sequenceHeaders = some sequence then none else some sequence
    let headers := sent.getD []
    match rkHevcWritePictureParameterSet (65536 - headers.length) pp c.iq ppsId profileIdc with
    | none => .error .decodingError
    | some pps => .ok (sent, headers ++ pps)

/-- `build_hevc_job` (`mpp_dec.c:939-1095`). `c.pp` is `none` without `has_hevc_pp`. -/
def buildHevcJob (profileIdc : Nat) (c : HevcState) (memory : BuildMemory)
    (pending : List (Option VABuffer)) (target : Nat × UInt64) : Except VAError DecodeJob :=
  match c.pp, firstSliceInfo pending with
  | none, _ => .error .decodingError
  | some _, none => .error .decodingError
  | some pp, some sliceInfo =>
    if !memory.headers then .error .allocationFailed
    else do
      let (sent, headers) ← pictureHeaders profileIdc c pp sliceInfo.ppsId
      let packet ← packetAppend memory.alloc .empty headers
      let (packet, sliceCount) ← appendSlices memory pp pending none 0 packet
      if sliceCount = 0 then throw .decodingError
      else
        let job ← decodeJobCreate memory target packet.data
        if sent.isSome && !memory.cached then throw .allocationFailed
        else return { job with hevcSequenceHeaders := sent }

/-! ## The slices of a job -/

/-- The slice data buffers of a picture, each with the last slice parameter buffer in front of
it. -/
def slices : List (Option VABuffer) → Option VASliceParameterBufferHEVC →
    List (Option VASliceParameterBufferHEVC × List UInt8)
  | [], _ => []
  | some (.sliceParameter _ (some sp)) :: pending, _ => slices pending (some sp)
  | some (.sliceData (first :: data)) :: pending, sp => (sp, first :: data) :: slices pending sp
  | _ :: pending, sp => slices pending sp

/-- The loop of `appendSlices` over the slices alone. -/
def appendRewritten (memory : BuildMemory) (pp : VAPictureParameterBufferHEVC) :
    List (Option VASliceParameterBufferHEVC × List UInt8) → Nat → Packet →
      Except VAError (Packet × Nat)
  | [], n, packet => .ok (packet, n)
  | (sp, data) :: rest, n, packet => do
    let nal ← rewriteSlice memory pp sp n data
    let packet ← appendNal memory.alloc packet nal
    appendRewritten memory pp rest (n + 1) packet

theorem appendSlices_eq (memory : BuildMemory) (pp : VAPictureParameterBufferHEVC)
    (pending : List (Option VABuffer)) (sp : Option VASliceParameterBufferHEVC) (n : Nat)
    (packet : Packet) :
    appendSlices memory pp pending sp n packet =
      appendRewritten memory pp (slices pending sp) n packet := by
  fun_induction slices pending sp generalizing n packet with
  | case1 sp => rfl
  | case2 h264 sp pending sp' ih => exact ih n packet
  | case3 first data pending sp ih =>
    unfold appendSlices appendRewritten
    simp only [ih]
  | case4 buffer pending sp notParameter notData ih =>
    rcases buffer with _ | (_ | _ | ⟨h264, _ | sp'⟩ | (_ | ⟨first, data⟩) | _)
    case some.sliceParameter.some => exact (notParameter h264 sp' rfl).elim
    case some.sliceData.cons => exact (notData first data rfl).elim
    all_goals exact ih n packet

/-- A slice as it stands in the packet. -/
def annexB (nal : List UInt8) : List UInt8 :=
  if hasAnnexBPrefix nal then nal else withStartCode nal

theorem annexB_three (rest : List UInt8) : annexB (0 :: 0 :: 1 :: rest) = 0 :: 0 :: 1 :: rest := rfl

theorem annexB_withStartCode (rest : List UInt8) :
    annexB (withStartCode rest) = withStartCode rest := rfl

theorem annexB_bare {nal : List UInt8} (bare : hasAnnexBPrefix nal = false) :
    annexB nal = withStartCode nal := by
  rw [annexB, bare, if_neg Bool.false_ne_true]

theorem appendNal_ok {alloc : Nat → Bool} {packet packet' : Packet} {nal : List UInt8}
    (h : appendNal alloc packet nal = .ok packet') : packet'.data = packet.data ++ annexB nal := by
  unfold appendNal at h
  unfold annexB
  split at h
  · rename_i hasPrefix
    rw [if_pos hasPrefix]
    exact packetAppend_ok h
  · rename_i hasPrefix
    rw [if_neg hasPrefix]
    cases start : packetAppend alloc packet [0, 0, 0, 1] with
    | error e => simp [start, bind, Except.bind] at h
    | ok packet₁ =>
      have rest : packetAppend alloc packet₁ nal = .ok packet' := by
        simpa [start, bind, Except.bind] using h
      rw [packetAppend_ok rest, packetAppend_ok start]
      simp [withStartCode]

/-- `nal` is what `rk_hevc_rewrite_slice_nal` returns for a slice of the picture. -/
def Rewritten (pp : VAPictureParameterBufferHEVC)
    (slice : Option VASliceParameterBufferHEVC × List UInt8) (nal : List UInt8) : Prop :=
  rkHevcRewriteSliceNal true (slice.2.length + 4096) slice.2 pp slice.1 = some nal

/-- Without memory the function only ever returns what it returns with memory. -/
theorem rkHevcRewriteSliceNal_allocated {allocated : Bool} {bufSize : Nat} {data out : List UInt8}
    {pp : VAPictureParameterBufferHEVC} {sp : Option VASliceParameterBufferHEVC}
    (h : rkHevcRewriteSliceNal allocated bufSize data pp sp = some out) :
    rkHevcRewriteSliceNal true bufSize data pp sp = some out := by
  cases allocated with
  | true => exact h
  | false =>
    unfold rkHevcRewriteSliceNal at h ⊢
    split at h
    · cases h
    · rename_i bounds
      rw [if_neg bounds]
      dsimp only at h ⊢
      split at h
      · split at h
        · cases h
        · split at h
          · cases h
          · split at h
            · rename_i small valid copied
              rw [if_neg small, if_neg valid, if_pos copied]
              exact h
            · cases h
      · cases h

theorem rewriteSlice_ok {memory : BuildMemory} {pp : VAPictureParameterBufferHEVC}
    {sp : Option VASliceParameterBufferHEVC} {n : Nat} {data nal : List UInt8}
    (h : rewriteSlice memory pp sp n data = .ok nal) : Rewritten pp (sp, data) nal := by
  unfold rewriteSlice at h
  split at h
  · cases h
  · split at h
    · cases h
    · rename_i rewritten
      obtain rfl := Except.ok.inj h
      exact rkHevcRewriteSliceNal_allocated rewritten

/-! ### The bytes of a rewritten slice -/

/-- The slice is copied: an IDR picture, or a dependent slice segment. -/
def isCopied (pp : VAPictureParameterBufferHEVC) (data : List UInt8) : Bool :=
  match data.drop (nalOffset data) with
  | nal0 :: _ :: byte :: bytes =>
    let nalType := (nal0.toNat >>> 1) &&& 0x3f
    nalType == 19 || nalType == 20 ||
      (brReadSegmentStart pp nalType
        ⟨unescapePrefix (byte :: bytes) ((byte :: bytes).length + 2), 0⟩).any (·.1)
  | _ => false

theorem nalOffset_cases (data : List UInt8) :
    (nalOffset data = 0 ∧ hasAnnexBPrefix data = false) ∨
      (∃ rest, data = 0 :: 0 :: 1 :: rest ∧ nalOffset data = 3) ∨
      (∃ rest, data = 0 :: 0 :: 0 :: 1 :: rest ∧ nalOffset data = 4) := by
  unfold nalOffset
  split
  · exact .inr (.inr ⟨_, rfl, rfl⟩)
  · exact .inr (.inl ⟨_, rfl, rfl⟩)
  · rename_i notFour notThree
    refine .inl ⟨rfl, ?_⟩
    unfold hasAnnexBPrefix
    split
    · exact absurd rfl (notThree _)
    · exact absurd rfl (notFour _)
    · rfl

/-- A slice that is not copied keeps its start code and NAL unit header, and gets a new payload. -/
structure Reworked (data out : List UInt8) : Prop where
  shape : ∃ nal0 nal1 rbsp, nal1 ≠ 0 ∧
    out = data.take (nalOffset data) ++ nal0 :: nal1 :: escape rbsp

theorem rewriteIndependent_some {bufSize nalSize : Nat} {startCode out : List UInt8}
    {nal0 nal1 : UInt8} {pp : VAPictureParameterBufferHEVC}
    {sp : Option VASliceParameterBufferHEVC} {br : HEVCBitReader}
    (h : rewriteIndependent bufSize startCode nal0 nal1 nalSize pp sp br = some out) :
    ∃ rbsp, out = startCode ++ nal0 :: nal1 :: escape rbsp := by
  obtain ⟨⟨place, br'⟩, -, h⟩ := Option.bind_eq_some_iff.mp h
  obtain ⟨rps, -, h⟩ := Option.bind_eq_some_iff.mp h
  obtain ⟨⟨u, bs⟩, -, h⟩ := Option.bind_eq_some_iff.mp h
  exact ⟨bs.output, finishRewrite_some h⟩

theorem copyNal_some {bufSize : Nat} {data out : List UInt8} (h : copyNal bufSize data = some out) :
    out = data := by
  unfold copyNal at h
  split at h
  · cases h
  · exact (Option.some.inj h).symm

theorem rkHevcRewriteSliceNal_shape {allocated : Bool} {bufSize : Nat} {data out : List UInt8}
    {pp : VAPictureParameterBufferHEVC} {sp : Option VASliceParameterBufferHEVC}
    (h : rkHevcRewriteSliceNal allocated bufSize data pp sp = some out) :
    if isCopied pp data then out = data else Reworked data out := by
  obtain ⟨-, nal0, nal1, byte, bytes, nal, valid, result⟩ := rkHevcRewriteSliceNal_eq_some h
  have condition : isCopied pp data =
      ((nal0.toNat >>> 1) &&& 0x3f == 19 || (nal0.toNat >>> 1) &&& 0x3f == 20 ||
        (brReadSegmentStart pp ((nal0.toNat >>> 1) &&& 0x3f)
          ⟨unescapePrefix (byte :: bytes) ((byte :: bytes).length + 2), 0⟩).any (·.1)) := by
    unfold isCopied
    rw [nal]
  rw [condition]
  rcases result with ⟨idr, copied⟩ | ⟨notIdr, dependent, br, start, result⟩
  · rw [if_pos (by rcases idr with idr | idr <;> simp [idr])]
    exact copyNal_some copied
  · rw [start]
    cases dependent with
    | true =>
      rw [if_pos (by simp)]
      exact copyNal_some result
    | false =>
      rw [if_neg (by simpa using notIdr)]
      obtain ⟨rbsp, shape⟩ := rewriteIndependent_some result
      refine ⟨nal0, nal1, rbsp, ?_, shape⟩
      rintro rfl
      exact valid (.inr (.inr rfl))

/-- The start code of a slice decides how it goes into the packet. -/
theorem Reworked.start {data out : List UInt8} (h : Reworked data out) :
    hasAnnexBPrefix out = hasAnnexBPrefix data ∧ startCodeCount (annexB out) = 1 ∧
      ∀ out', Reworked data out' → SameStart (annexB out) (annexB out') := by
  obtain ⟨nal0, nal1, rbsp, nonzero, rfl⟩ := h
  have clean : startCodeCount (nal0 :: nal1 :: escape rbsp) = 0 := by
    rw [startCodeCount_cons_cons nonzero]
    exact startCodeCount_noStartCode (noStartCode_escape rbsp)
  have bare : ∀ (nal0 nal1 : UInt8) (payload : List UInt8), nal1 ≠ 0 →
      hasAnnexBPrefix (nal0 :: nal1 :: payload) = false := by
    intro nal0 nal1 payload nonzero
    unfold hasAnnexBPrefix
    split
    · rename_i eq
      exact absurd (List.cons.inj (List.cons.inj eq).2).1 nonzero
    · rename_i eq
      exact absurd (List.cons.inj (List.cons.inj eq).2).1 nonzero
    · rfl
  rcases nalOffset_cases data with ⟨offset, noPrefix⟩ | ⟨rest, rfl, offset⟩ | ⟨rest, rfl, offset⟩
  · simp only [offset, List.take_zero, List.nil_append]
    refine ⟨by rw [bare _ _ _ nonzero, noPrefix], ?_, ?_⟩
    · rw [annexB_bare (bare _ _ _ nonzero), startCodeCount_withStartCode, clean]
    · rintro out' ⟨nal0', nal1', rbsp', nonzero', rfl⟩
      simp only [offset, List.take_zero, List.nil_append]
      rw [annexB_bare (bare _ _ _ nonzero), annexB_bare (bare _ _ _ nonzero')]
      exact .four _ _
  · simp only [offset, List.take_succ_cons, List.take_zero, List.cons_append, List.nil_append]
    refine ⟨rfl, ?_, ?_⟩
    · rw [annexB_three, startCodeCount_three, clean]
    · rintro out' ⟨nal0', nal1', rbsp', nonzero', rfl⟩
      simp only [offset, List.take_succ_cons, List.take_zero, List.cons_append, List.nil_append]
      exact .three _ _
  · simp only [offset, List.take_succ_cons, List.take_zero, List.cons_append, List.nil_append]
    refine ⟨rfl, ?_, ?_⟩
    · rw [← withStartCode, annexB_withStartCode, startCodeCount_withStartCode, clean]
    · rintro out' ⟨nal0', nal1', rbsp', nonzero', rfl⟩
      simp only [offset, List.take_succ_cons, List.take_zero, List.cons_append, List.nil_append]
      exact .four _ _

/-- The number of start codes a slice takes into the packet, whatever its slice parameters are. -/
def sliceStartCodes (pp : VAPictureParameterBufferHEVC) (data : List UInt8) : Nat :=
  if isCopied pp data then startCodeCount (annexB data) else 1

section

variable {pp : VAPictureParameterBufferHEVC} {sp sp' : Option VASliceParameterBufferHEVC}
  {data nal nal' : List UInt8}

theorem Rewritten.count (h : Rewritten pp (sp, data) nal) :
    startCodeCount (annexB nal) = sliceStartCodes pp data := by
  have shape := rkHevcRewriteSliceNal_shape h
  unfold sliceStartCodes
  by_cases copied : isCopied pp data = true
  · rw [if_pos copied] at shape ⊢
    rw [shape]
  · rw [if_neg copied] at shape ⊢
    exact shape.start.2.1

theorem Rewritten.hasPrefix (h : Rewritten pp (sp, data) nal) :
    hasAnnexBPrefix nal = hasAnnexBPrefix data := by
  have shape := rkHevcRewriteSliceNal_shape h
  by_cases copied : isCopied pp data = true
  · rw [if_pos copied] at shape
    rw [shape]
  · rw [if_neg copied] at shape
    exact shape.start.1

end

/-! ### The whole packet -/

/-- The packet that the loop leaves: every slice rewritten, in order, behind a start code. -/
theorem appendRewritten_ok {memory : BuildMemory} {pp : VAPictureParameterBufferHEVC} :
    ∀ {parts : List (Option VASliceParameterBufferHEVC × List UInt8)} {n : Nat}
      {packet : Packet} {result : Packet × Nat},
      appendRewritten memory pp parts n packet = .ok result →
        result.2 = n + parts.length ∧ ∃ nals, List.Forall₂ (Rewritten pp) parts nals ∧
          result.1.data = packet.data ++ (nals.map annexB).flatten := by
  intro parts
  induction parts with
  | nil =>
    intro n packet result h
    obtain rfl := Except.ok.inj h
    exact ⟨rfl, [], .nil, by simp⟩
  | cons slice parts ih =>
    intro n packet result h
    obtain ⟨sp, data⟩ := slice
    unfold appendRewritten at h
    cases rewrite : rewriteSlice memory pp sp n data with
    | error e => simp [rewrite, bind, Except.bind] at h
    | ok nal =>
      cases append : appendNal memory.alloc packet nal with
      | error e => simp [rewrite, append, bind, Except.bind] at h
      | ok packet₁ =>
        have rest : appendRewritten memory pp parts (n + 1) packet₁ = .ok result := by
          simpa [rewrite, append, bind, Except.bind] using h
        obtain ⟨count, nals, rewritten, data_eq⟩ := ih rest
        refine ⟨by rw [count, List.length_cons]; omega, nal :: nals,
          .cons (rewriteSlice_ok rewrite) rewritten, ?_⟩
        rw [data_eq, appendNal_ok append, List.append_assoc]
        rfl

/-- The parts of a packet that `build_hevc_job` made. -/
theorem buildHevcJob_ok {profileIdc : Nat} {c : HevcState} {memory : BuildMemory}
    {pending : List (Option VABuffer)} {target : Nat × UInt64} {job : DecodeJob}
    (h : buildHevcJob profileIdc c memory pending target = .ok job) :
    ∃ pp info headers nals, c.pp = some pp ∧ firstSliceInfo pending = some info ∧
      pictureHeaders profileIdc c pp info.ppsId = .ok (job.hevcSequenceHeaders, headers) ∧
      List.Forall₂ (Rewritten pp) (slices pending none) nals ∧
      job.data = headers ++ (nals.map annexB).flatten := by
  unfold buildHevcJob at h
  cases hasPp : c.pp with
  | none => simp [hasPp] at h
  | some pp =>
    cases found : firstSliceInfo pending with
    | none => simp [hasPp, found] at h
    | some info =>
      simp only [hasPp, found] at h
      split at h
      · cases h
      · cases headers : pictureHeaders profileIdc c pp info.ppsId with
        | error e => simp [headers, bind, Except.bind] at h
        | ok sets =>
          obtain ⟨sent, bytes⟩ := sets
          cases front : packetAppend memory.alloc .empty bytes with
          | error e => simp [headers, front, bind, Except.bind] at h
          | ok packet =>
            cases append : appendSlices memory pp pending none 0 packet with
            | error e => simp [headers, front, append, bind, Except.bind] at h
            | ok result =>
              simp only [headers, front, append, bind, Except.bind] at h
              split at h
              · cases h
              · unfold decodeJobCreate at h
                split at h
                · cases h
                · rename_i created
                  split at created
                  · obtain rfl := Except.ok.inj created
                    split at h
                    · cases h
                    · obtain rfl := Except.ok.inj h
                      rw [appendSlices_eq] at append
                      obtain ⟨-, nals, rewritten, data⟩ := appendRewritten_ok append
                      refine ⟨pp, info, bytes, nals, rfl, rfl, headers, rewritten, ?_⟩
                      rw [data, packetAppend_ok front]
                      rfl
                  · cases created

end RockchipVaapi.Hevc
