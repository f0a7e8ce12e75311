import RockchipVaapi.Picture.State

/-!
# What a picture takes over from earlier pictures

`rk_BeginPicture` clears the flags of the snapshots it knows a flag for. `last_pp` of H.264 has
none: a picture without a picture parameter buffer is built from the one before. `isolated_iff`
says for every decode profile which pictures depend on what was decoded before them.
-/

namespace RockchipVaapi.Picture
open H264 Hevc
open Decode (Coding)

/-- The parameter sets a picture needs in front of it were sent before it. -/
def SetsSent (profile : DecodeProfile) (c : PictureState) : Prop :=
  match profile.coding with
  | .avc => c.spsSent = true
  | .hevc => ∃ headers, rkHevcWriteSequenceParameterSets 4096 c.lastHevcPp c.hevcState.iq
      profile.idc = some headers ∧ c.hevcSequenceHeaders = some headers
  | .vp9 => True

/-- The context at the end of a picture that follows any calls on a created context. -/
def pictureAfter (profile : DecodeProfile) (history : List PictureCall) (target : RenderTarget)
    (calls : List RenderCall) : PictureState :=
  renderAll profile.coding calls
    (rkBeginPicture target (performCalls profile .created history))

/-- Two pictures render buffers of the same contents, which are the same at the end too. -/
structure SameRendered (calls : List RenderCall) (buffers : Buffers) (calls' : List RenderCall)
    (buffers' : Buffers) : Prop where
  contents : (takenBy [] calls).2 = (takenBy [] calls').2
  resolved : (takenBy [] calls).1.map buffers = (takenBy [] calls').1.map buffers'

/-- The packet of a picture, or the error, is the same after any two histories. -/
def Isolated (profile : DecodeProfile) (calls : List RenderCall) (buffers : Buffers) : Prop :=
  ∀ (history history' : List PictureCall) (target target' : RenderTarget)
    (calls' : List RenderCall) (buffers' : Buffers) (memory : BuildMemory) (workerStop : Bool),
    SameRendered calls buffers calls' buffers' →
    (SetsSent profile (pictureAfter profile history target calls) ↔
      SetsSent profile (pictureAfter profile history' target' calls')) →
    (rkEndPicture profile ⟨buffers, memory, workerStop⟩
        (pictureAfter profile history target calls)).2.packet =
      (rkEndPicture profile ⟨buffers', memory, workerStop⟩
        (pictureAfter profile history' target' calls')).2.packet

/-- A call of the picture that `reserve_pending` let through has an H.264 picture parameter buffer
of full size. -/
def RendersPictureParameters (calls : List RenderCall) : Prop :=
  ∃ pp hevc, some (.pictureParameter (some pp) hevc) ∈ (takenBy [] calls).2

/-! ## Snapshots -/

/-- Two contexts whose H.264 builds use the same IQ matrix. -/
structure SameIq (c c' : PictureState) : Prop where
  has : c.hasIq = c'.hasIq
  iq : c.hasIq = true → c.lastIq = c'.lastIq

/-- Two contexts whose HEVC builds use the same parameters. -/
structure SameHevc (c c' : PictureState) : Prop where
  hasPp : c.hasHevcPp = c'.hasHevcPp
  pp : c.hasHevcPp = true → c.lastHevcPp = c'.lastHevcPp
  hasIq : c.hasHevcIq = c'.hasHevcIq
  iq : c.hasHevcIq = true → c.lastHevcIq = c'.lastHevcIq

section

variable {c c' : PictureState}

theorem snapshot_sameIq (same : SameIq c c') (buffer : Option VABuffer) :
    SameIq (snapshot .avc c buffer) (snapshot .avc c' buffer) := by
  rcases buffer with _ | ⟨_ | pp, hevc⟩ | ⟨_ | iq, hevc⟩ | _ | _ | _
  case some.iqMatrix.some => exact ⟨rfl, fun _ => rfl⟩
  all_goals exact ⟨same.has, same.iq⟩

theorem snapshot_sameHevc (same : SameHevc c c') (buffer : Option VABuffer) :
    SameHevc (snapshot .hevc c buffer) (snapshot .hevc c' buffer) := by
  rcases buffer with _ | ⟨h264, _ | pp⟩ | ⟨h264, _ | iq⟩ | _ | _ | _
  case some.pictureParameter.some => exact ⟨rfl, fun _ => rfl, same.hasIq, same.iq⟩
  case some.iqMatrix.some => exact ⟨same.hasPp, same.pp, rfl, fun _ => rfl⟩
  all_goals exact ⟨same.hasPp, same.pp, same.hasIq, same.iq⟩

theorem snapshot_samePp (same : c.lastPp = c'.lastPp) (buffer : Option VABuffer) :
    (snapshot .avc c buffer).lastPp = (snapshot .avc c' buffer).lastPp := by
  rcases buffer with _ | ⟨_ | pp, hevc⟩ | ⟨_ | iq, hevc⟩ | _ | _ | _
  case some.pictureParameter.some => rfl
  all_goals exact same

/-- With a picture parameter buffer among the contents the snapshot does not depend on the context
before. -/
theorem snapshots_lastPp {buffers : List (Option VABuffer)} {pp : VAPictureParameterBufferH264}
    {hevc : Option VAPictureParameterBufferHEVC}
    (rendered : some (.pictureParameter (some pp) hevc) ∈ buffers) (c c' : PictureState) :
    (buffers.foldl (snapshot .avc) c).lastPp = (buffers.foldl (snapshot .avc) c').lastPp := by
  obtain ⟨before, after, rfl⟩ := List.append_of_mem rendered
  rw [List.foldl_append, List.foldl_append, List.foldl_cons, List.foldl_cons]
  refine List.foldl_rel (r := fun (c c' : PictureState) => c.lastPp = c'.lastPp) rfl ?_
  intro buffer _ c c' same
  exact snapshot_samePp same buffer

/-- Without one, `last_pp` stays. -/
theorem snapshots_keep_lastPp {buffers : List (Option VABuffer)}
    (none : ∀ pp hevc, some (.pictureParameter (some pp) hevc) ∉ buffers) (c : PictureState) :
    (buffers.foldl (snapshot .avc) c).lastPp = c.lastPp := by
  induction buffers generalizing c with
  | nil => rfl
  | cons buffer buffers ih =>
    have rest := ih (fun pp hevc mem => none pp hevc (List.mem_cons_of_mem _ mem))
      (snapshot .avc c buffer)
    rw [List.foldl_cons, rest]
    rcases buffer with _ | ⟨_ | pp, hevc⟩ | ⟨_ | iq, hevc⟩ | _ | _ | _
    case some.pictureParameter.some => exact absurd List.mem_cons_self (none pp hevc)
    all_goals rfl

theorem snapshot_spsSent (coding : Coding) (c : PictureState) (buffer : Option VABuffer) :
    (snapshot coding c buffer).spsSent = c.spsSent := by
  unfold snapshot
  split
  · split <;> rfl
  · split <;> rfl
  · rfl

theorem snapshots_spsSent (coding : Coding) (buffers : List (Option VABuffer)) (c : PictureState) :
    (buffers.foldl (snapshot coding) c).spsSent = c.spsSent := by
  induction buffers generalizing c with
  | nil => rfl
  | cons buffer buffers ih => rw [List.foldl_cons, ih, snapshot_spsSent]

end

/-- The end of a picture: the snapshots of its contents on top of what `rk_BeginPicture` left. -/
theorem pictureAfter_eq (profile : DecodeProfile) (history : List PictureCall)
    (target : RenderTarget) (calls : List RenderCall) :
    pictureAfter profile history target calls =
      { (takenBy [] calls).2.foldl (snapshot profile.coding)
          (rkBeginPicture target (performCalls profile .created history)) with
        pending := (takenBy [] calls).1 } :=
  renderAll_eq profile.coding calls (rkBeginPicture target (performCalls profile .created history))

theorem pictureAfter_render (profile : DecodeProfile) (history : List PictureCall)
    (target : RenderTarget) (calls : List RenderCall) :
    (pictureAfter profile history target calls).render = some target := by
  rw [pictureAfter_eq]
  exact snapshots_render _ _ _

/-! ## Pictures that are isolated -/

section

variable {calls calls' : List RenderCall} {buffers buffers' : Buffers} (profile : DecodeProfile)
  (history history' : List PictureCall) (target target' : RenderTarget)

/-- The pending buffers of two pictures of the same contents. -/
theorem SameRendered.pending_eq (same : SameRendered calls buffers calls' buffers') :
    (pictureAfter profile history target calls).resolved buffers =
      (pictureAfter profile history' target' calls').resolved buffers' := by
  rw [pictureAfter_eq, pictureAfter_eq]
  exact same.resolved

theorem SameRendered.sameIq (same : SameRendered calls buffers calls' buffers')
    (avc : profile.coding = .avc) :
    SameIq (pictureAfter profile history target calls)
      (pictureAfter profile history' target' calls') := by
  rw [pictureAfter_eq, pictureAfter_eq, avc, same.contents]
  have folded := List.foldl_rel (l := (takenBy [] calls').2) (r := SameIq)
    (f := snapshot .avc) (g := snapshot .avc)
    (a := rkBeginPicture target (performCalls profile .created history))
    (b := rkBeginPicture target' (performCalls profile .created history'))
    ⟨rfl, fun has => absurd has Bool.false_ne_true⟩
    (fun buffer _ c c' agree => snapshot_sameIq agree buffer)
  exact ⟨folded.has, folded.iq⟩

theorem SameRendered.sameHevc (same : SameRendered calls buffers calls' buffers')
    (hevc : profile.coding = .hevc) :
    SameHevc (pictureAfter profile history target calls)
      (pictureAfter profile history' target' calls') := by
  rw [pictureAfter_eq, pictureAfter_eq, hevc, same.contents]
  have folded := List.foldl_rel (l := (takenBy [] calls').2) (r := SameHevc)
    (f := snapshot .hevc) (g := snapshot .hevc)
    (a := rkBeginPicture target (performCalls profile .created history))
    (b := rkBeginPicture target' (performCalls profile .created history'))
    ⟨rfl, fun has => absurd has Bool.false_ne_true, rfl, fun has => absurd has Bool.false_ne_true⟩
    (fun buffer _ c c' agree => snapshot_sameHevc agree buffer)
  exact ⟨folded.hasPp, folded.pp, folded.hasIq, folded.iq⟩

theorem SameRendered.samePp (same : SameRendered calls buffers calls' buffers')
    (avc : profile.coding = .avc) (renders : RendersPictureParameters calls) :
    (pictureAfter profile history target calls).lastPp =
      (pictureAfter profile history' target' calls').lastPp := by
  obtain ⟨pp, hevc, rendered⟩ := renders
  rw [pictureAfter_eq, pictureAfter_eq, avc, ← same.contents]
  exact snapshots_lastPp rendered _ _

end

theorem hevcState_eq {c c' : PictureState} (same : SameHevc c c') :
    c.hevcState.pp = c'.hevcState.pp ∧ c.hevcState.iq = c'.hevcState.iq := by
  have hasPp := same.hasPp
  have hasIq := same.hasIq
  constructor
  · unfold PictureState.hevcState
    dsimp only
    by_cases has : c.hasHevcPp = true
    · rw [if_pos has, if_pos (hasPp ▸ has), same.pp has]
    · rw [if_neg has, if_neg (hasPp ▸ has)]
  · unfold PictureState.hevcState
    dsimp only
    by_cases has : c.hasHevcIq = true
    · rw [if_pos has, if_pos (hasIq ▸ has), same.iq has]
    · rw [if_neg has, if_neg (hasIq ▸ has)]

/-- The HEVC build of two contexts whose cached sequence headers are both current or both not. -/
theorem hevcBuild_congr {profile : DecodeProfile} (hevc : profile.coding = .hevc)
    {c c' : PictureState} (same : SameHevc c c')
    (sent : SetsSent profile c ↔ SetsSent profile c') (memory : BuildMemory)
    (pending : List (Option VABuffer)) (target target' : Nat × UInt64) :
    (Hevc.buildHevcJob profile.idc c.hevcState memory pending target).map DecodeJob.data =
      (Hevc.buildHevcJob profile.idc c'.hevcState memory pending target').map DecodeJob.data := by
  obtain ⟨pp, iq⟩ := hevcState_eq same
  refine buildHevcJob_data_congr pp iq ?_ memory rfl (fun _ _ _ => rfl) target target'
  intro sets headers hasSets written
  unfold SetsSent at sent
  rw [hevc] at sent
  dsimp only at sent
  have has' : c'.hasHevcPp = true := by
    by_contra has
    simp [PictureState.hevcState, has] at hasSets
  have sets_eq : c'.lastHevcPp = sets := by simpa [PictureState.hevcState, has'] using hasSets
  have sets_eq' : c.lastHevcPp = sets := (same.pp (same.hasPp ▸ has')).trans sets_eq
  rw [sets_eq, sets_eq', iq, written] at sent
  simpa [PictureState.hevcState] using sent

/-- The H.264 build of two contexts with the same parameters. -/
theorem h264Build_congr {c c' : PictureState} {buffers buffers' : Buffers}
    (pp : c.lastPp = c'.lastPp) (iq : SameIq c c') (pending : c.resolved buffers = c'.resolved buffers')
    (sent : c.spsSent = true ↔ c'.spsSent = true) (profile : H264.VAProfile) (memory : BuildMemory)
    (target target' : RenderTarget) :
    (rkMppDecBuildJob (.h264 profile) buffers memory target c).1.map DecodeJob.data =
      (rkMppDecBuildJob (.h264 profile) buffers' memory target' c').1.map DecodeJob.data := by
  have matrix : ppsMatrix profile (c.h264Call buffers memory target) =
      ppsMatrix profile (c'.h264Call buffers' memory target') := by
    unfold ppsMatrix PictureState.h264Call
    dsimp only
    by_cases has : c.hasIq = true
    · rw [← iq.has, iq.iq has]
    · have has' : c'.hasIq ≠ true := iq.has ▸ has
      simp [has, has']
  have pendings : (c.h264Call buffers memory target).pending =
      (c'.h264Call buffers' memory target').pending := by
    unfold PictureState.h264Call
    rw [pending]
  have data := buildH264Job_data_congr _ _ pp matrix (congrArg isIdr pendings)
    (congrArg firstSliceCounts pendings) (fun packet => by rw [pendings]) rfl rfl c.spsSent
    (target.surface, target.fence) (target'.surface, target'.fence)
  have spsSent : c.spsSent = c'.spsSent := Bool.eq_iff_iff.mpr sent
  unfold rkMppDecBuildJob
  dsimp only
  rw [ofH264Job_data, ofH264Job_data, data, spsSent]

/-- The build of two pictures of the same contents. -/
theorem rkMppDecBuildJob_congr {profile : DecodeProfile} {calls calls' : List RenderCall}
    {buffers buffers' : Buffers} (same : SameRendered calls buffers calls' buffers')
    (renders : profile.coding = .avc → RendersPictureParameters calls)
    (history history' : List PictureCall) (target target' : RenderTarget)
    (sent : SetsSent profile (pictureAfter profile history target calls) ↔
      SetsSent profile (pictureAfter profile history' target' calls')) (memory : BuildMemory) :
    (rkMppDecBuildJob profile buffers memory target
        (pictureAfter profile history target calls)).1.map DecodeJob.data =
      (rkMppDecBuildJob profile buffers' memory target'
        (pictureAfter profile history' target' calls')).1.map DecodeJob.data := by
  have pending := same.pending_eq profile history history' target target'
  cases profile with
  | h264 vaProfile =>
    have pp := same.samePp (.h264 vaProfile) history history' target target' rfl (renders rfl)
    have iq := same.sameIq (.h264 vaProfile) history history' target target' rfl
    exact h264Build_congr pp iq pending sent vaProfile memory target target'
  | hevcMain =>
    have hevc := same.sameHevc .hevcMain history history' target target' rfl
    unfold rkMppDecBuildJob
    dsimp only
    rw [pending]
    exact hevcBuild_congr rfl hevc sent memory _ _ _
  | hevcMain10 =>
    have hevc := same.sameHevc .hevcMain10 history history' target target' rfl
    unfold rkMppDecBuildJob
    dsimp only
    rw [pending]
    exact hevcBuild_congr rfl hevc sent memory _ _ _
  | vp9Profile0 =>
    unfold rkMppDecBuildJob
    dsimp only
    rw [pending]
    exact buildGenericJob_data_congr _ _ rfl _ _
  | vp9Profile2 =>
    unfold rkMppDecBuildJob
    dsimp only
    rw [pending]
    exact buildGenericJob_data_congr _ _ rfl _ _

/-! ## Pictures that are not -/

/-- A picture parameter buffer with the longest width code. -/
def widePp : VAPictureParameterBufferH264 := { zeroPp with pictureWidthInMbsMinus1 := 65535 }

/-- The SPS of `zeroPp` and that of `widePp` differ in length, in every profile. -/
theorem widePp_longer (profile : H264.VAProfile) :
    ∃ narrow wide, h264WriteSps 2048 zeroPp (h264ProfileIdc profile) = some narrow ∧
      h264WriteSps 2048 widePp (h264ProfileIdc profile) = some wide ∧
      0 < narrow.length ∧ narrow.length < wide.length ∧ wide.length ≤ 2048 := by
  have compare : ((h264WriteSps 2048 zeroPp (h264ProfileIdc profile)).any fun narrow =>
      (h264WriteSps 2048 widePp (h264ProfileIdc profile)).any fun wide =>
        decide (0 < narrow.length ∧ narrow.length < wide.length ∧ wide.length ≤ 2048)) = true := by
    cases profile <;> decide +kernel
  cases narrowSps : h264WriteSps 2048 zeroPp (h264ProfileIdc profile) with
  | none => simp [narrowSps] at compare
  | some narrow =>
    cases wideSps : h264WriteSps 2048 widePp (h264ProfileIdc profile) with
    | none => simp [narrowSps, wideSps] at compare
    | some wide =>
      obtain ⟨nonempty, longer, bounded⟩ := by simpa [narrowSps, wideSps] using compare
      exact ⟨narrow, wide, rfl, rfl, nonempty, longer, bounded⟩

/-- An append to a block of at least `k` bytes asks only for larger blocks. -/
theorem packetAppend_grows {alloc : Nat → Bool} {k : Nat} (grants : ∀ n, k < n → alloc n = true)
    {packet : Packet} (room : k ≤ packet.capacity) (data : List UInt8) :
    packetAppend alloc packet data ≠ .error .allocationFailed ∧
      ∀ packet', packetAppend alloc packet data = .ok packet' → k ≤ packet'.capacity := by
  have grown : ∀ needed, needed ≤ grownCapacity needed := by
    intro needed
    unfold grownCapacity
    split <;> omega
  unfold packetAppend
  split
  · exact ⟨by simp, fun packet' same => by obtain rfl := Except.ok.inj same; exact room⟩
  · split
    · exact ⟨by simp, fun packet' same => by cases same⟩
    · dsimp only
      split
      · rename_i short
        have larger := grown (packet.data.length + data.length)
        rw [if_pos (grants _ (by omega))]
        refine ⟨by simp, fun packet' same => ?_⟩
        obtain rfl := Except.ok.inj same
        dsimp only
        omega
      · refine ⟨by simp, fun packet' same => ?_⟩
        obtain rfl := Except.ok.inj same
        exact room

theorem appendSlices_grows {alloc : Nat → Bool} {k : Nat} (grants : ∀ n, k < n → alloc n = true)
    (pending : List (Option H264.RKBuffer)) :
    ∀ packet : Packet, k ≤ packet.capacity →
      H264.appendSlices alloc pending packet ≠ .error .allocationFailed := by
  induction pending with
  | nil => intro packet _; simp [H264.appendSlices]
  | cons buffer pending ih =>
    intro packet room
    rcases buffer with _ | (elements | data | _)
    case some.sliceData =>
      obtain ⟨first, firstRoom⟩ := packetAppend_grows grants room [0, 0, 0, 1]
      unfold H264.appendSlices
      cases start : packetAppend alloc packet [0, 0, 0, 1] with
      | error e =>
        intro failed
        rw [start] at first
        exact first (by simpa [bind, Except.bind] using failed)
      | ok packet₁ =>
        obtain ⟨second, secondRoom⟩ := packetAppend_grows grants (firstRoom _ start) data
        cases slice : packetAppend alloc packet₁ data with
        | error e =>
          intro failed
          rw [slice] at second
          exact second (by simpa [bind, Except.bind, slice] using failed)
        | ok packet₂ => simpa [bind, Except.bind, slice] using ih packet₂ (secondRoom _ slice)
    all_goals exact ih packet room

theorem appendPps_grows {alloc : Nat → Bool} {k : Nat} (grants : ∀ n, k < n → alloc n = true)
    (profile : H264.VAProfile) {call : EndPictureCall} (same : call.alloc = alloc)
    {packet : Packet} (room : k ≤ packet.capacity) :
    appendPps profile call packet ≠ .error .allocationFailed ∧
      ∀ packet', appendPps profile call packet = .ok packet' → k ≤ packet'.capacity := by
  unfold appendPps
  obtain ⟨l0, l1⟩ := firstSliceCounts call.pending
  dsimp only
  cases h264WritePps 2048 call.lastPp (ppsMatrix profile call) l0 l1 with
  | none => exact ⟨by simp, fun packet' ok => by cases ok⟩
  | some hdr =>
    dsimp only
    rw [same]
    exact packetAppend_grows grants room hdr

/-- The allocator refuses exactly the block that `narrow` bytes ask for. -/
def refusing (narrow : Nat) (n : Nat) : Bool := n != grownCapacity narrow

/-- The first block of a packet. -/
theorem packetAppend_first (alloc : Nat → Bool) {data : List UInt8} (nonempty : 0 < data.length)
    (small : data.length ≤ 2048) :
    packetAppend alloc .empty data =
      if alloc (grownCapacity data.length) then .ok ⟨data, grownCapacity data.length⟩
      else .error .allocationFailed := by
  unfold packetAppend Packet.empty
  rw [if_neg (by omega), if_neg (by simp [sizeMax])]
  simp only [List.length_nil, Nat.zero_add, List.nil_append]
  rw [if_pos nonempty]

/-- An allocator that refuses the block of the shorter SPS fails the build with `zeroPp`. -/
theorem narrowBuild_refused (profile : H264.VAProfile) (call : EndPictureCall) {narrow : List UInt8}
    (pp : call.lastPp = zeroPp)
    (written : h264WriteSps 2048 zeroPp (h264ProfileIdc profile) = some narrow)
    (nonempty : 0 < narrow.length) (small : narrow.length ≤ 2048)
    (alloc : call.alloc = refusing narrow.length) (target : Nat × UInt64) :
    (buildH264Job profile false call target).1 = .error .allocationFailed := by
  have refused : packetAppend call.alloc .empty narrow = .error .allocationFailed := by
    rw [packetAppend_first _ nonempty small, alloc]
    simp [refusing]
  have sps : appendSps profile false call = (.error .allocationFailed, false) := by
    unfold appendSps
    rw [if_pos (by simp), pp, written]
    dsimp only
    rw [refused]
  unfold buildH264Job
  rw [sps]
  rfl

/-- The build with `widePp` asks for larger blocks only. -/
theorem wideBuild_allocates (profile : H264.VAProfile) (call : EndPictureCall) {narrow : Nat}
    {wide : List UInt8} (pp : call.lastPp = widePp)
    (written : h264WriteSps 2048 widePp (h264ProfileIdc profile) = some wide)
    (longer : narrow < wide.length) (small : wide.length ≤ 2048)
    (alloc : call.alloc = refusing narrow) (created : call.jobCreated = true)
    (target : Nat × UInt64) :
    (buildH264Job profile false call target).1 ≠ .error .allocationFailed := by
  have ordered : grownCapacity narrow < grownCapacity wide.length := by
    unfold grownCapacity sizeMax
    rw [if_pos (by omega), if_pos (by omega)]
    omega
  have grants : ∀ n, grownCapacity narrow < n → call.alloc n = true := by
    intro n larger
    rw [alloc]
    simp only [refusing, bne_iff_ne]
    omega
  have sps : appendSps profile false call =
      (.ok ⟨wide, grownCapacity wide.length⟩, true) := by
    unfold appendSps
    rw [if_pos (by simp), pp, written]
    dsimp only
    rw [packetAppend_first _ (by omega) small, if_pos (grants _ ordered)]
  have pps := appendPps_grows grants profile rfl
    (show grownCapacity narrow ≤ (⟨wide, grownCapacity wide.length⟩ : Packet).capacity from
      Nat.le_of_lt ordered)
  unfold buildH264Job
  rw [sps]
  dsimp only [bind, Except.bind]
  cases append : appendPps profile call ⟨wide, grownCapacity wide.length⟩ with
  | error e =>
    intro failed
    rw [append] at pps
    exact pps.1 (congrArg Except.error (Except.error.inj failed))
  | ok packet =>
    dsimp only
    have slices := appendSlices_grows grants call.pending packet (pps.2 packet append)
    cases append' : H264.appendSlices call.alloc call.pending packet with
    | error e =>
      intro failed
      rw [append'] at slices
      exact slices (congrArg Except.error (Except.error.inj failed))
    | ok packet => simp [created, pure, Except.pure]

/-- A context whose only call rendered one H.264 picture parameter buffer. -/
def rendered (pp : VAPictureParameterBufferH264) : List PictureCall :=
  [.render { ids := [0], buffers := fun _ => some (.pictureParameter (some pp) none)
             granted := true }]

/-- After `rendered pp`, an H.264 picture without a picture parameter buffer has `pp`. -/
theorem pictureAfter_rendered (vaProfile : H264.VAProfile) (pp : VAPictureParameterBufferH264)
    (target : RenderTarget) {calls : List RenderCall} (none : ¬ RendersPictureParameters calls) :
    (pictureAfter (.h264 vaProfile) (rendered pp) target calls).lastPp = pp ∧
      (pictureAfter (.h264 vaProfile) (rendered pp) target calls).spsSent = false := by
  rw [pictureAfter_eq]
  refine ⟨(snapshots_keep_lastPp ?_ _).trans rfl, (snapshots_spsSent _ _ _).trans rfl⟩
  intro pp hevc mem
  exact none ⟨pp, hevc, mem⟩

/-- For every profile and every picture: the packet or error of the picture is the same after all
histories exactly when the context is no H.264 context or the picture renders a picture parameter
buffer. -/
theorem isolated_iff (profile : DecodeProfile) (calls : List RenderCall) (buffers : Buffers) :
    Isolated profile calls buffers ↔
      (profile.coding = .avc → RendersPictureParameters calls) := by
  constructor
  · intro isolated avc
    obtain ⟨vaProfile, rfl⟩ : ∃ vaProfile, profile = .h264 vaProfile := by
      cases profile with
      | h264 vaProfile => exact ⟨vaProfile, rfl⟩
      | _ => cases avc
    by_contra none
    obtain ⟨narrow, wide, narrowSps, wideSps, nonempty, longer, small⟩ := widePp_longer vaProfile
    let target : RenderTarget := ⟨0, 1, by decide⟩
    let memory : BuildMemory := { BuildMemory.ample with alloc := refusing narrow.length }
    obtain ⟨narrowPp, narrowSent⟩ := pictureAfter_rendered vaProfile zeroPp target none
    obtain ⟨widerPp, wideSent⟩ := pictureAfter_rendered vaProfile widePp target none
    have same := isolated (rendered zeroPp) (rendered widePp) target target calls buffers memory
      false ⟨rfl, rfl⟩ (by
        unfold SetsSent
        simp only [DecodeProfile.coding]
        rw [narrowSent, wideSent])
    rw [rkEndPicture_packet _ _ (pictureAfter_render _ _ _ _),
      rkEndPicture_packet _ _ (pictureAfter_render _ _ _ _)] at same
    have refused := narrowBuild_refused vaProfile
      ((pictureAfter (.h264 vaProfile) (rendered zeroPp) target calls).h264Call buffers memory target)
      narrowPp narrowSps nonempty (by omega) rfl (target.surface, target.fence)
    have allocates := wideBuild_allocates vaProfile
      ((pictureAfter (.h264 vaProfile) (rendered widePp) target calls).h264Call buffers memory target)
      widerPp wideSps longer small rfl rfl (target.surface, target.fence)
    unfold rkMppDecBuildJob at same
    dsimp only at same
    rw [narrowSent, wideSent, refused] at same
    cases built : (buildH264Job vaProfile false
        ((pictureAfter (.h264 vaProfile) (rendered widePp) target calls).h264Call buffers memory
          target) (target.surface, target.fence)).1 with
    | ok job => simp [built, Except.map] at same
    | error e =>
      have isAllocation : VAError.allocationFailed = e := by
        simpa [built, Except.map] using same
      exact allocates (isAllocation ▸ built)
  · intro renders history history' target target' calls' buffers' memory workerStop same sent
    rw [rkEndPicture_packet _ _ (pictureAfter_render _ _ _ _),
      rkEndPicture_packet _ _ (pictureAfter_render _ _ _ _)]
    have built := rkMppDecBuildJob_congr same renders history history' target target' sent memory
    dsimp only
    rw [built]

/-- A P slice without any parameter buffer. -/
def sliceBuffers : Buffers := fun _ => some (.sliceData [0x41, 0x80])

/-- A picture that renders only the slice. -/
def sliceOnly : List RenderCall := [⟨[1], sliceBuffers, true⟩]

/-- That picture on an H.264 context whose application rendered `pp` before. -/
def sliceAfter (pp : VAPictureParameterBufferH264) : EndResult :=
  (rkEndPicture (.h264 .h264Main) ⟨sliceBuffers, .ample, false⟩
    (pictureAfter (.h264 .h264Main) (rendered pp) ⟨0, 1, by decide⟩ sliceOnly)).2

/-- Both contexts sent no SPS yet, both calls succeed, and the packets differ. -/
theorem lastPp_leaks :
    (sliceAfter zeroPp).status = none ∧ (sliceAfter widePp).status = none ∧
      (sliceAfter zeroPp).packet ≠ (sliceAfter widePp).packet ∧
      ¬ Isolated (.h264 .h264Main) sliceOnly sliceBuffers := by
  have outcome : (sliceAfter zeroPp).status = none ∧ (sliceAfter widePp).status = none ∧
      (sliceAfter zeroPp).packet ≠ (sliceAfter widePp).packet := by
    decide +kernel
  obtain ⟨first, second, differ⟩ := outcome
  refine ⟨first, second, differ, ?_⟩
  intro isolated
  have sent : ∀ pp, ¬ SetsSent (.h264 .h264Main)
      (pictureAfter (.h264 .h264Main) (rendered pp) ⟨0, 1, by decide⟩ sliceOnly) :=
    fun pp sent => absurd sent Bool.false_ne_true
  exact differ (isolated (rendered zeroPp) (rendered widePp) _ _ sliceOnly sliceBuffers .ample false
    ⟨rfl, rfl⟩ (iff_of_false (sent zeroPp) (sent widePp)))

end RockchipVaapi.Picture
