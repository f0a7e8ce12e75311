import RockchipVaapi.Decode.Packet
import RockchipVaapi.H264.RoundTrip

/-!
# H.264 access units

The model of `build_h264_job`: the default reference counts it takes from the first slice, the
parameter sets in front of the slices, and the failure exits on the way.
`buildH264Job_units` says what a job that was built contains, NAL unit by NAL unit. The last
section settles which reference counts the slices of a picture get from the emitted PPS.
-/

namespace RockchipVaapi.H264
open Bitstream

/-- The fields of `VASliceParameterBufferH264` the driver reads. -/
structure VASliceParameterBufferH264 where
  numRefIdxL0ActiveMinus1 : UInt8
  numRefIdxL1ActiveMinus1 : UInt8
  deriving DecidableEq, Repr

/-- A VA buffer among the pending ones. A slice parameter buffer holds as many elements as its
capacity has room for; the content of a buffer of another type is not read here. -/
inductive RKBuffer
  | sliceParameter (elements : List VASliceParameterBufferH264)
  | sliceData (data : List UInt8)
  | other
  deriving DecidableEq, Repr

/-- `VAProfile`, as far as `h264_profile_idc` tells its values apart. -/
inductive VAProfile
  | h264ConstrainedBaseline
  | h264Main
  | h264High
  | h264High10
  | other
  deriving DecidableEq, Repr

/-- `h264_profile_idc` (`mpp_dec.c:138-146`). -/
def h264ProfileIdc : VAProfile → Nat
  | .h264ConstrainedBaseline => 66
  | .h264Main => 77
  | .h264High => 100
  | .h264High10 => 110
  | .other => 100

/-- What one `rk_EndPicture` finds: the render target with its fence, the snapshot of the
parameter buffers, the pending buffers (`none` for an id that no longer resolves) and the
outcomes of the requests for memory, for the surface reference and for a place in the queue. -/
structure EndPictureCall where
  render : Option (Nat × UInt64)
  lastPp : VAPictureParameterBufferH264
  lastIq : VAIQMatrixBufferH264
  hasIq : Bool
  pending : List (Option RKBuffer)
  alloc : Nat → Bool
  jobCreated : Bool
  workerStop : Bool

/-- `RKDecodeJob` as `build_h264_job` fills it. -/
structure H264Job where
  data : List UInt8
  surface : Nat
  fence : UInt64
  h264Field : Bool
  deriving DecidableEq, Repr

/-- The loop over the slice parameter buffers (`mpp_dec.c:833-848`): the counts of the first
element of the first live buffer that holds one. -/
def firstSliceCounts : List (Option RKBuffer) → Int × Int
  | [] => (0, 0)
  | some (.sliceParameter (sp :: _)) :: _ =>
    (sp.numRefIdxL0ActiveMinus1.toNat, sp.numRefIdxL1ActiveMinus1.toNat)
  | _ :: pending => firstSliceCounts pending

/-- The loop over the slice data buffers (`mpp_dec.c:853-865`): the first one with data decides. -/
def isIdr : List (Option RKBuffer) → Bool
  | [] => false
  | some (.sliceData (first :: _)) :: _ => first &&& 0x1F == 5
  | _ :: pending => isIdr pending

/-- The IQ matrix handed to `h264_write_pps` (`mpp_dec.c:883-884`). -/
def ppsMatrix (profile : VAProfile) (call : EndPictureCall) : Option VAIQMatrixBufferH264 :=
  if call.hasIq && decide (100 ≤ h264ProfileIdc profile) then some call.lastIq else none

/-- The SPS branch of `build_h264_job` (`mpp_dec.c:871-881`): the packet, and `sps_sent`
afterwards. -/
def appendSps (profile : VAProfile) (spsSent : Bool) (call : EndPictureCall) :
    Except VAError Packet × Bool :=
  if isIdr call.pending || !spsSent then
    match h264WriteSps 2048 call.lastPp (h264ProfileIdc profile) with
    | none => (.error .decodingError, spsSent)
    | some hdr =>
      match packetAppend call.alloc .empty hdr with
      | .error e => (.error e, spsSent)
      | .ok packet => (.ok packet, true)
  else (.ok .empty, spsSent)

/-- The PPS in front of every picture (`mpp_dec.c:882-891`). -/
def appendPps (profile : VAProfile) (call : EndPictureCall) (packet : Packet) :
    Except VAError Packet :=
  let (l0, l1) := firstSliceCounts call.pending
  match h264WritePps 2048 call.lastPp (ppsMatrix profile call) l0 l1 with
  | none => .error .decodingError
  | some hdr => packetAppend call.alloc packet hdr

/-- The loop that appends the slices (`mpp_dec.c:895-914`). -/
def appendSlices (alloc : Nat → Bool) : List (Option RKBuffer) → Packet → Except VAError Packet
  | [], packet => .ok packet
  | some (.sliceData data) :: pending, packet => do
    let packet ← packetAppend alloc packet [0, 0, 0, 1]
    let packet ← packetAppend alloc packet data
    appendSlices alloc pending packet
  | _ :: pending, packet => appendSlices alloc pending packet

/-- `build_h264_job` (`mpp_dec.c:808-927`) for the render target `target`: its result, and
`sps_sent` afterwards. -/
def buildH264Job (profile : VAProfile) (spsSent : Bool) (call : EndPictureCall)
    (target : Nat × UInt64) : Except VAError H264Job × Bool :=
  let (packet, spsSent) := appendSps profile spsSent call
  (do
    let packet ← packet
    let packet ← appendPps profile call packet
    let packet ← appendSlices call.alloc call.pending packet
    -- `decode_job_create` fails without memory or without a reference to the surface
    if call.jobCreated then
      return { data := packet.data, surface := target.1, fence := target.2
               h264Field := call.lastPp.fieldPicFlag }
    else throw .allocationFailed, spsSent)

/-! ## What a job contains -/

/-- The slice data buffers that go into the packet. -/
def sliceUnits (pending : List (Option RKBuffer)) : List (List UInt8) :=
  pending.filterMap fun
    | some (.sliceData data) => some data
    | _ => none

theorem appendSlices_ok {alloc : Nat → Bool} :
    ∀ {pending : List (Option RKBuffer)} {packet packet' : Packet},
      appendSlices alloc pending packet = .ok packet' →
        packet'.data = packet.data ++ (sliceUnits pending).flatMap withStartCode := by
  intro pending
  induction pending with
  | nil =>
    intro packet packet' h
    obtain rfl := Except.ok.inj h
    simp [sliceUnits]
  | cons buffer pending ih =>
    intro packet packet' h
    rcases buffer with _ | (elements | data | _)
    · exact ih h
    · exact ih h
    · cases first : packetAppend alloc packet [0, 0, 0, 1] with
      | error e => simp [appendSlices, first, bind, Except.bind] at h
      | ok packet₁ =>
        cases second : packetAppend alloc packet₁ data with
        | error e => simp [appendSlices, first, second, bind, Except.bind] at h
        | ok packet₂ =>
          have rest : appendSlices alloc pending packet₂ = .ok packet' := by
            simpa [appendSlices, first, second, bind, Except.bind] using h
          rw [ih rest, packetAppend_ok second, packetAppend_ok first]
          simp [sliceUnits, withStartCode]
    · exact ih h

theorem firstSliceCounts_range (pending : List (Option RKBuffer)) :
    ∃ l0 l1 : Nat, firstSliceCounts pending = (↑l0, ↑l1) ∧ l0 < 2 ^ 31 ∧ l1 < 2 ^ 31 := by
  fun_induction firstSliceCounts pending with
  | case1 => exact ⟨0, 0, rfl, by norm_num, by norm_num⟩
  | case2 sp rest pending =>
    have h0 := sp.numRefIdxL0ActiveMinus1.toNat_lt
    have h1 := sp.numRefIdxL1ActiveMinus1.toNat_lt
    exact ⟨_, _, rfl, by omega, by omega⟩
  | case3 buffer pending _ ih => exact ih

/-- `appendSps` that does not fail: the packet holds an SPS unit exactly under the condition
of its branch. -/
theorem appendSps_ok {profile : VAProfile} {spsSent : Bool} {call : EndPictureCall}
    {packet : Packet} (h : (appendSps profile spsSent call).1 = .ok packet) :
    ∃ sps : List UInt8, Clean (0x67 :: sps) ∧ packet.data =
      if isIdr call.pending || !spsSent then withStartCode (0x67 :: sps) else [] := by
  obtain ⟨rbsp, write, clean, -⟩ :=
    h264WriteSps_spec call.lastPp (h264ProfileIdc profile) (Nat.le_refl 2048)
  refine ⟨_, clean, ?_⟩
  unfold appendSps at h
  by_cases branch : (isIdr call.pending || !spsSent) = true
  · rw [if_pos branch, write] at h
    rw [if_pos branch]
    cases append : packetAppend call.alloc .empty (withStartCode (0x67 :: escape rbsp)) with
    | error e => simp [append] at h
    | ok packet' =>
      obtain rfl : packet' = packet := by simpa [append] using h
      rw [packetAppend_ok append]
      rfl
  · rw [if_neg branch] at h
    obtain rfl := Except.ok.inj h
    rw [if_neg branch]
    rfl

/-- `appendPps` that does not fail: the packet is continued by a PPS unit with the default
counts of the first slice. -/
theorem appendPps_ok {profile : VAProfile} {call : EndPictureCall} {packet packet' : Packet}
    (h : appendPps profile call packet = .ok packet') :
    ∃ (pps : List UInt8) (l0 l1 : Nat), firstSliceCounts call.pending = (↑l0, ↑l1) ∧
      Clean (0x68 :: pps) ∧ ppsRefDefaults (0x68 :: pps) = some (l0, l1) ∧
      packet'.data = packet.data ++ withStartCode (0x68 :: pps) := by
  obtain ⟨l0, l1, counts, h0, h1⟩ := firstSliceCounts_range call.pending
  unfold appendPps at h
  rw [counts] at h
  dsimp only at h
  by_cases nonzero : CodedNoZero (ppsMatrix profile call) call.lastPp.transform8x8ModeFlag
  · obtain ⟨rbsp, write, clean, defaults, -⟩ :=
      h264WritePps_spec call.lastPp _ nonzero l0 l1 h0 h1 (Nat.le_refl 2048)
    rw [write] at h
    exact ⟨_, l0, l1, counts, clean, defaults, packetAppend_ok h⟩
  · rw [h264WritePps_zero _ _ _ _ _ nonzero] at h
    cases h

/-- The parts of a job: an SPS where the picture is an IDR picture or none was sent, the PPS with
the default counts of the first slice, and the slices. -/
theorem buildH264Job_parts {profile : VAProfile} {spsSent : Bool} {call : EndPictureCall}
    {target : Nat × UInt64} {job : H264Job}
    (h : (buildH264Job profile spsSent call target).1 = .ok job) :
    ∃ (sps pps : List UInt8) (l0 l1 : Nat), firstSliceCounts call.pending = (↑l0, ↑l1) ∧
      ppsRefDefaults (0x68 :: pps) = some (l0, l1) ∧ Clean (0x67 :: sps) ∧ Clean (0x68 :: pps) ∧
      job.data = ((if isIdr call.pending || !spsSent then [0x67 :: sps] else []) ++
        (0x68 :: pps) :: sliceUnits call.pending).flatMap withStartCode := by
  unfold buildH264Job at h
  cases hsps : (appendSps profile spsSent call).1 with
  | error e => simp [hsps, bind, Except.bind] at h
  | ok packet₁ =>
    cases hpps : appendPps profile call packet₁ with
    | error e => simp [hsps, hpps, bind, Except.bind] at h
    | ok packet₂ =>
      cases hslices : appendSlices call.alloc call.pending packet₂ with
      | error e => simp [hsps, hpps, hslices, bind, Except.bind] at h
      | ok packet₃ =>
        simp only [hsps, hpps, hslices, bind, Except.bind] at h
        split at h
        · obtain rfl := Except.ok.inj h
          obtain ⟨sps, cleanSps, data₁⟩ := appendSps_ok hsps
          obtain ⟨pps, l0, l1, counts, cleanPps, defaults, data₂⟩ := appendPps_ok hpps
          refine ⟨sps, pps, l0, l1, counts, defaults, cleanSps, cleanPps, ?_⟩
          rw [appendSlices_ok hslices, data₂, data₁]
          split <;> simp
        · cases h

/-- The NAL units of a job. -/
theorem buildH264Job_units {profile : VAProfile} {spsSent : Bool} {call : EndPictureCall}
    {target : Nat × UInt64} {job : H264Job}
    (h : (buildH264Job profile spsSent call target).1 = .ok job) :
    ∃ (sps pps : List UInt8) (l0 l1 : Nat), firstSliceCounts call.pending = (↑l0, ↑l1) ∧
      ppsRefDefaults (0x68 :: pps) = some (l0, l1) ∧
      nalUnits job.data = (if isIdr call.pending || !spsSent then [0x67 :: sps] else []) ++
        (0x68 :: pps) :: nalUnits ((sliceUnits call.pending).flatMap withStartCode) := by
  obtain ⟨sps, pps, l0, l1, counts, defaults, cleanSps, cleanPps, data⟩ := buildH264Job_parts h
  refine ⟨sps, pps, l0, l1, counts, defaults, ?_⟩
  have units := nalUnits_cons cleanPps (sliceUnits call.pending)
  rw [data]
  split
  · have both := nalUnits_cons cleanSps ((0x68 :: pps) :: sliceUnits call.pending)
    rw [List.flatMap_cons] at both
    rw [List.singleton_append, List.flatMap_cons, List.flatMap_cons, both, units]
    rfl
  · rw [List.nil_append, List.nil_append, List.flatMap_cons, units]

/-- The two reference picture lists. -/
inductive RefList
  | l0
  | l1
  deriving DecidableEq, Repr

/-- The slice types that decide which lists a slice uses. -/
inductive SliceType
  | i
  | p
  | b
  deriving DecidableEq, Repr

/-- The lists a slice of a type uses. -/
def SliceType.uses : SliceType → RefList → Bool
  | .i, _ => false
  | .p, .l0 => true
  | .p, .l1 => false
  | .b, _ => true

/-- What decides the active reference counts of a slice: its type, the override flag and the
count of each list, coded as one less. The counts of a list that the type does not use mean
nothing. -/
structure Slice where
  sliceType : SliceType
  numRefIdxActiveOverrideFlag : Bool
  activeMinus1 : RefList → UInt8

/-- A slice of a stream whose PPS has the defaults `d`: without the override flag it has the
default counts. -/
def Slice.CodedUnder (s : Slice) (d : RefList → Nat) : Prop :=
  s.numRefIdxActiveOverrideFlag = false →
    ∀ list, s.sliceType.uses list = true → (s.activeMinus1 list).toNat = d list

/-- The count VA reports for a list of a slice: zero where the type does not use the list. -/
def Slice.vaCount (s : Slice) (list : RefList) : UInt8 :=
  if s.sliceType.uses list then s.activeMinus1 list else 0

/-- The VA slice parameters of a slice. -/
def Slice.parameters (s : Slice) : VASliceParameterBufferH264 :=
  ⟨s.vaCount .l0, s.vaCount .l1⟩

/-- The default of a list in a PPS. -/
def refDefault (defaults : Nat × Nat) : RefList → Nat
  | .l0 => defaults.1
  | .l1 => defaults.2

/-- The active count of a list under a PPS with these defaults (7.4.3). -/
def Slice.effective (s : Slice) (defaults : Nat × Nat) (list : RefList) : Nat :=
  if s.numRefIdxActiveOverrideFlag then (s.activeMinus1 list).toNat else refDefault defaults list

/-- Every slice gets the counts VA reports for the lists it uses. -/
def CountsAgree (slices : List Slice) (defaults : Nat × Nat) : Prop :=
  ∀ s ∈ slices, ∀ list, s.sliceType.uses list = true →
    s.effective defaults list = (s.vaCount list).toNat

/-- The elements of the live slice parameter buffers, in order. -/
def sliceParameters (pending : List (Option RKBuffer)) : List VASliceParameterBufferH264 :=
  pending.flatMap fun
    | some (.sliceParameter elements) => elements
    | _ => []

/-- Whether a NAL unit has type `t`. -/
def hasNalType (t : Nat) (nal : List UInt8) : Bool := nal.head?.map nalUnitType == some t

/-- The PPS of an access unit: its first NAL unit of type 8. -/
def emittedPps (data : List UInt8) : Option (List UInt8) := (nalUnits data).find? (hasNalType 8)

theorem firstSliceCounts_eq {pending : List (Option RKBuffer)} {sp : VASliceParameterBufferH264}
    {rest : List VASliceParameterBufferH264} (h : sliceParameters pending = sp :: rest) :
    firstSliceCounts pending =
      (↑sp.numRefIdxL0ActiveMinus1.toNat, ↑sp.numRefIdxL1ActiveMinus1.toNat) := by
  fun_induction firstSliceCounts pending with
  | case1 => simp [sliceParameters] at h
  | case2 first others pending =>
    simp only [sliceParameters, List.flatMap_cons, List.cons_append, List.cons.injEq] at h
    rw [h.1]
  | case3 buffer pending notFirst ih =>
    -- a buffer the loop passes over contributes no element
    apply ih
    rcases buffer with _ | ((_ | ⟨e, es⟩) | _ | _)
    · simpa [sliceParameters] using h
    · simpa [sliceParameters] using h
    · exact absurd rfl (notFirst e es)
    · simpa [sliceParameters] using h
    · simpa [sliceParameters] using h

/-- The access unit of a picture with slices holds a PPS, and its defaults are the counts VA
reports for the first slice. -/
theorem emittedPps_defaults {profile : VAProfile} {spsSent : Bool} {call : EndPictureCall}
    {target : Nat × UInt64} {job : H264Job} (first : Slice) (rest : List Slice)
    (params : sliceParameters call.pending = (first :: rest).map Slice.parameters)
    (built : (buildH264Job profile spsSent call target).1 = .ok job) :
    ∃ nal, emittedPps job.data = some nal ∧
      ppsRefDefaults nal = some ((first.vaCount .l0).toNat, (first.vaCount .l1).toNat) := by
  obtain ⟨sps, pps, l0, l1, counts, defaults, units⟩ := buildH264Job_units built
  rw [firstSliceCounts_eq params] at counts
  obtain ⟨h0, h1⟩ := Prod.mk.inj counts
  have e0 : (first.vaCount .l0).toNat = l0 := Int.ofNat.inj h0
  have e1 : (first.vaCount .l1).toNat = l1 := Int.ofNat.inj h1
  refine ⟨0x68 :: pps, ?_, by rw [defaults, e0, e1]⟩
  have isPps : hasNalType 8 (0x68 :: pps) = true := rfl
  have isSps : ¬ hasNalType 8 (0x67 :: sps) = true := Bool.false_ne_true
  rw [emittedPps, units]
  split
  · rw [List.singleton_append, List.find?_cons_of_neg isSps, List.find?_cons_of_pos isPps]
  · rw [List.nil_append, List.find?_cons_of_pos isPps]

/-- Under the defaults of the first slice the slices get their counts exactly when these
defaults are the original ones, for every list of a slice that relies on them. -/
theorem countsAgree_iff {slices : List Slice} {d : RefList → Nat} {defaults : Nat × Nat}
    (coded : ∀ s ∈ slices, s.CodedUnder d) :
    CountsAgree slices defaults ↔
      ∀ s ∈ slices, s.numRefIdxActiveOverrideFlag = false →
        ∀ list, s.sliceType.uses list = true → refDefault defaults list = d list := by
  constructor
  · intro agree s hs override list used
    have count := agree s hs list used
    rw [Slice.effective, override, if_neg Bool.false_ne_true, Slice.vaCount, if_pos used] at count
    rw [count]
    exact coded s hs override list used
  · intro same s hs list used
    rw [Slice.vaCount, if_pos used, Slice.effective]
    split
    · rfl
    · rename_i override
      have override' : s.numRefIdxActiveOverrideFlag = false := by simpa using override
      rw [same s hs override' list used]
      exact (coded s hs override' list used).symm

/-- The PPS of the access unit gives every slice its counts if and only if VA reports for the
first slice the original default of every list that some slice without the override flag
uses. -/
theorem buildH264Job_countsAgree_iff (profile : VAProfile) (spsSent : Bool) (call : EndPictureCall)
    (target : Nat × UInt64) (job : H264Job) (d : RefList → Nat) (first : Slice) (rest : List Slice)
    (coded : ∀ s ∈ first :: rest, s.CodedUnder d)
    (params : sliceParameters call.pending = (first :: rest).map Slice.parameters)
    (built : (buildH264Job profile spsSent call target).1 = .ok job) :
    ∃ nal defaults, emittedPps job.data = some nal ∧ ppsRefDefaults nal = some defaults ∧
      (CountsAgree (first :: rest) defaults ↔
        ∀ s ∈ first :: rest, s.numRefIdxActiveOverrideFlag = false →
          ∀ list, s.sliceType.uses list = true → (first.vaCount list).toNat = d list) := by
  obtain ⟨nal, found, defaults⟩ := emittedPps_defaults first rest params built
  refine ⟨nal, _, found, defaults, ?_⟩
  rw [countsAgree_iff coded]
  have reported : ∀ list, refDefault ((first.vaCount .l0).toNat, (first.vaCount .l1).toNat) list =
      (first.vaCount list).toNat := by
    intro list
    cases list <;> rfl
  simp only [reported]

/-- A progressive 16x16 picture. -/
def smallPicture : VAPictureParameterBufferH264 :=
  { interlacedPicture with
    pictureWidthInMbsMinus1 := 0, pictureHeightInMbsMinus1 := 0, frameMbsOnlyFlag := true
    transform8x8ModeFlag := false, secondChromaQpIndexOffset := -2, fieldPicFlag := false }

/-- An I slice. -/
def intraSlice : Slice := ⟨.i, false, fun _ => 0⟩

/-- A P slice without the override flag in a stream whose default is three references. -/
def interSlice : Slice := ⟨.p, false, fun _ => 2⟩

/-- A picture that is submitted with these slices and with memory for everything. -/
def pictureOf (slices : List Slice) : EndPictureCall :=
  { render := some (1, 1), lastPp := smallPicture, lastIq := flatMatrices, hasIq := false
    pending := slices.flatMap fun s =>
      [some (.sliceParameter [s.parameters]), some (.sliceData [0x41, 0x80])]
    alloc := fun _ => true, jobCreated := true, workerStop := false }

theorem exists_ok {ε α : Type} {result : Except ε α} (h : result.toOption.isSome = true) :
    ∃ value, result = .ok value := by
  cases result with
  | error e => simp [Except.toOption] at h
  | ok value => exact ⟨value, rfl⟩

theorem buildH264Job_countsAgree_interOnly :
    ∃ job nal defaults,
      (buildH264Job .h264Main true (pictureOf [interSlice, interSlice]) (1, 1)).1 = .ok job ∧
      emittedPps job.data = some nal ∧ ppsRefDefaults nal = some defaults ∧
      (CountsAgree [interSlice, interSlice] defaults ↔
        ∀ s ∈ [interSlice, interSlice], s.numRefIdxActiveOverrideFlag = false →
          ∀ list, s.sliceType.uses list = true → (interSlice.vaCount list).toNat = 2) := by
  obtain ⟨job, built⟩ : ∃ job,
      (buildH264Job .h264Main true (pictureOf [interSlice, interSlice]) (1, 1)).1 = .ok job :=
    exists_ok (by decide +kernel)
  have coded : ∀ s ∈ [interSlice, interSlice], s.CodedUnder fun _ => 2 := by
    intro s hs
    obtain rfl : s = interSlice := by simpa using hs
    exact fun _ _ _ => rfl
  obtain ⟨nal, defaults, facts⟩ := buildH264Job_countsAgree_iff .h264Main true
    (pictureOf [interSlice, interSlice]) (1, 1) job (fun _ => 2) interSlice [interSlice] coded rfl
    built
  exact ⟨job, nal, defaults, built, facts⟩

/-- An I slice in front of a P slice that relies on the default of three references: the PPS
says one reference. -/
theorem countsDiffer_intraFirst :
    (∀ s ∈ [intraSlice, interSlice], s.CodedUnder fun _ => 2) ∧
      sliceParameters (pictureOf [intraSlice, interSlice]).pending =
        [intraSlice, interSlice].map Slice.parameters ∧
      ∃ job nal defaults,
        (buildH264Job .h264Main true (pictureOf [intraSlice, interSlice]) (1, 1)).1 = .ok job ∧
        emittedPps job.data = some nal ∧ ppsRefDefaults nal = some defaults ∧
        ¬ CountsAgree [intraSlice, interSlice] defaults := by
  refine ⟨?_, rfl, ?_⟩
  · intro s hs
    rcases List.mem_pair.mp hs with rfl | rfl
    · intro _ list used
      exact absurd used Bool.false_ne_true
    · exact fun _ _ _ => rfl
  · obtain ⟨job, built⟩ : ∃ job,
        (buildH264Job .h264Main true (pictureOf [intraSlice, interSlice]) (1, 1)).1 = .ok job :=
      exists_ok (by decide +kernel)
    obtain ⟨nal, found, defaults⟩ := emittedPps_defaults intraSlice [interSlice] rfl built
    refine ⟨job, nal, _, built, found, defaults, ?_⟩
    intro agree
    have count := agree interSlice (by simp) .l0 rfl
    exact absurd count (by decide)

end RockchipVaapi.H264
