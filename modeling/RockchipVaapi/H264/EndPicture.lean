import RockchipVaapi.H264.Job

/-!
# Sequences of `rk_EndPicture` on an H.264 context

The context state that outlives a picture is `sps_sent`; `queued` records the jobs that
reached the worker. The main result says for every sequence of calls when the first job that
is queued starts with an SPS.
-/

namespace RockchipVaapi.H264
open Bitstream

/-- The context between two pictures: `sps_sent`, and the jobs enqueued so far. -/
structure H264Context where
  spsSent : Bool
  queued : List H264Job
  deriving DecidableEq, Repr

/-- A context after `rk_CreateContext` (`context.c:246`). -/
def H264Context.created : H264Context := ⟨false, []⟩

/-- `rk_EndPicture` on a decode context (`context.c:519-559`): the context afterwards and the
error it returns. The fences of the surfaces are not part of this model. -/
def endPicture (profile : VAProfile) (c : H264Context) (call : EndPictureCall) :
    H264Context × Option VAError :=
  match call.render with
  | none => (c, some .operationFailed)
  | some target =>
    if target.2 = 0 then (c, some .operationFailed)
    else
      match buildH264Job profile c.spsSent call target with
      | (.error e, spsSent) => ({ c with spsSent := spsSent }, some e)
      | (.ok job, spsSent) =>
        if call.workerStop then ({ c with spsSent := spsSent }, some .operationFailed)
        else (⟨spsSent, c.queued ++ [job]⟩, none)

/-- The context after a sequence of calls. -/
def endPictures (profile : VAProfile) (c : H264Context) (calls : List EndPictureCall) :
    H264Context :=
  calls.foldl (fun c call => (endPicture profile c call).1) c

/-- The call reaches the SPS branch with a place to write to, and the packet has room for the
SPS. -/
def EndPictureCall.AppendsSps (profile : VAProfile) (call : EndPictureCall) : Prop :=
  ∃ target sps packet, call.render = some target ∧ target.2 ≠ 0 ∧
    h264WriteSps 2048 call.lastPp (h264ProfileIdc profile) = some sps ∧
    packetAppend call.alloc .empty sps = .ok packet

/-- An access unit with an SPS in front of its PPS. -/
def spsBeforePps (data : List UInt8) : Prop :=
  ∃ nal ∈ (nalUnits data).takeWhile (fun nal => !hasNalType 8 nal), hasNalType 7 nal = true

/-! ## One call -/

/-- `sps_sent` after the SPS branch: it is set exactly where the SPS was appended. -/
theorem appendSps_spsSent (profile : VAProfile) {call : EndPictureCall} {target : Nat × UInt64}
    (render : call.render = some target) (fence : target.2 ≠ 0) (spsSent : Bool) :
    (appendSps profile spsSent call).2 = true ↔ spsSent = true ∨ call.AppendsSps profile := by
  cases spsSent with
  | true =>
    refine iff_of_true ?_ (.inl rfl)
    unfold appendSps
    split
    · split
      · rfl
      · split <;> rfl
    · rfl
  | false =>
    unfold appendSps
    rw [Bool.not_false, Bool.or_true, if_pos rfl]
    constructor
    · intro sent
      right
      split at sent
      · exact absurd sent Bool.false_ne_true
      · rename_i sps write
        split at sent
        · exact absurd sent Bool.false_ne_true
        · rename_i packet append
          exact ⟨target, sps, packet, render, fence, write, append⟩
    · rintro (sent | ⟨_, sps, packet, -, -, write, append⟩)
      · exact absurd sent Bool.false_ne_true
      · rw [write]
        dsimp only
        rw [append]

theorem buildH264Job_spsSent (profile : VAProfile) (spsSent : Bool) (call : EndPictureCall)
    (target : Nat × UInt64) :
    (buildH264Job profile spsSent call target).2 = (appendSps profile spsSent call).2 := rfl

/-- What a call can do: fail and perhaps set `sps_sent`, or append one job. -/
theorem endPicture_cases (profile : VAProfile) (c : H264Context) (call : EndPictureCall) :
    ((endPicture profile c call).1.spsSent = true ↔
        c.spsSent = true ∨ call.AppendsSps profile) ∧
      ((∃ e, (endPicture profile c call).2 = some e ∧
          (endPicture profile c call).1.queued = c.queued) ∨
        (∃ target job, (endPicture profile c call).2 = none ∧
          (buildH264Job profile c.spsSent call target).1 = .ok job ∧
          (endPicture profile c call).1.queued = c.queued ++ [job])) := by
  have unchanged : (∀ target, call.render = some target → target.2 = 0) →
      (c.spsSent = true ↔ c.spsSent = true ∨ call.AppendsSps profile) := by
    intro bad
    refine ⟨.inl, ?_⟩
    rintro (sent | ⟨target, _, _, render, fence, _⟩)
    · exact sent
    · exact absurd (bad target render) fence
  unfold endPicture
  cases render : call.render with
  | none =>
    exact ⟨unchanged (by simp [render]), .inl ⟨_, rfl, rfl⟩⟩
  | some target =>
    dsimp only
    by_cases fence : target.2 = 0
    · rw [if_pos fence]
      refine ⟨unchanged ?_, .inl ⟨_, rfl, rfl⟩⟩
      intro t ht
      obtain rfl : target = t := by simpa [render] using ht
      exact fence
    · rw [if_neg fence]
      have sent := appendSps_spsSent profile render fence c.spsSent
      rw [← buildH264Job_spsSent profile c.spsSent call target] at sent
      rcases build : buildH264Job profile c.spsSent call target with ⟨e | job, spsSent⟩
      · rw [build] at sent
        exact ⟨sent, .inl ⟨e, rfl, rfl⟩⟩
      · rw [build] at sent
        dsimp only
        split
        · exact ⟨sent, .inl ⟨_, rfl, rfl⟩⟩
        · exact ⟨sent, .inr ⟨target, job, rfl, by rw [build], rfl⟩⟩

/-- A job starts with an SPS exactly when its picture is an IDR picture or no SPS was sent. -/
theorem spsBeforePps_iff {profile : VAProfile} {spsSent : Bool} {call : EndPictureCall}
    {target : Nat × UInt64} {job : H264Job}
    (built : (buildH264Job profile spsSent call target).1 = .ok job) :
    spsBeforePps job.data ↔ isIdr call.pending = true ∨ spsSent = false := by
  obtain ⟨sps, pps, -, -, -, -, units⟩ := buildH264Job_units built
  have isPps : hasNalType 8 (0x68 :: pps) = true := rfl
  have isSps : hasNalType 8 (0x67 :: sps) = false := rfl
  unfold spsBeforePps
  rw [units]
  by_cases branch : (isIdr call.pending || !spsSent) = true
  · refine iff_of_true ⟨0x67 :: sps, ?_, rfl⟩ (by simpa using branch)
    simp [branch, isSps]
  · refine iff_of_false ?_ (by simpa using branch)
    simp [branch, isPps]

/-! ## Sequences of calls -/

/-- `sps_sent` after a sequence of calls. -/
theorem endPictures_spsSent (profile : VAProfile) :
    ∀ (calls : List EndPictureCall) (c : H264Context),
      (endPictures profile c calls).spsSent = true ↔
        c.spsSent = true ∨ ∃ call ∈ calls, call.AppendsSps profile := by
  intro calls
  induction calls with
  | nil => intro c; simp [endPictures]
  | cons call calls ih =>
    intro c
    have step := (endPicture_cases profile c call).1
    have run := ih (endPicture profile c call).1
    rw [step] at run
    simpa [endPictures, or_assoc] using run

/-- After any calls on a created context: a call that returns an error leaves `sps_sent` as it
was exactly when an SPS was sent before or the call does not get past its own, and the first
job that is enqueued has an SPS in front of its PPS exactly when its picture is an IDR picture
or no earlier call got past its SPS. -/
theorem firstJob_spsBeforePps_iff (profile : VAProfile) (before : List EndPictureCall)
    (call : EndPictureCall) (c : H264Context) (reached : c = endPictures profile .created before) :
    (∀ e, (endPicture profile c call).2 = some e →
      ((endPicture profile c call).1.spsSent = c.spsSent ↔
        c.spsSent = true ∨ ¬ call.AppendsSps profile)) ∧
    (∀ job, c.queued = [] → (endPicture profile c call).1.queued = [job] →
      (spsBeforePps job.data ↔
        isIdr call.pending = true ∨ ∀ earlier ∈ before, ¬ earlier.AppendsSps profile)) := by
  obtain ⟨sent, outcome⟩ := endPicture_cases profile c call
  have history := endPictures_spsSent profile before .created
  rw [← reached] at history
  refine ⟨?_, ?_⟩
  · intro e _
    cases before : c.spsSent with
    | true => exact iff_of_true (sent.mpr (.inl before)) (.inl rfl)
    | false =>
      rw [before] at sent
      have only : (endPicture profile c call).1.spsSent = true ↔ call.AppendsSps profile :=
        sent.trans (or_iff_right Bool.false_ne_true)
      rw [or_iff_right Bool.false_ne_true, ← only, Bool.not_eq_true]
  · intro job empty queued
    rcases outcome with ⟨e, -, same⟩ | ⟨target, job', -, built, appended⟩
    · rw [same, empty] at queued
      cases queued
    · obtain rfl : job' = job := by simpa [appended, empty] using queued
      rw [spsBeforePps_iff built, Bool.eq_false_iff, ne_eq, history]
      simp [H264Context.created]

/-- Scaling matrices with zero entries, which `h264_write_pps` rejects. -/
def zeroMatrices : VAIQMatrixBufferH264 := ⟨fun _ _ => 0, fun _ _ => 16⟩

/-- A picture whose PPS cannot be written. -/
def rejectedPicture : EndPictureCall :=
  { pictureOf [interSlice] with lastIq := zeroMatrices, hasIq := true }

theorem firstJob_spsBeforePps_alone :
    ∃ job, (endPicture .h264High .created (pictureOf [interSlice])).1.queued = [job] ∧
      (spsBeforePps job.data ↔ isIdr (pictureOf [interSlice]).pending = true ∨
        ∀ earlier ∈ ([] : List EndPictureCall), ¬ earlier.AppendsSps .h264High) := by
  obtain ⟨-, outcome⟩ := endPicture_cases .h264High .created (pictureOf [interSlice])
  rcases outcome with ⟨e, failed, -⟩ | ⟨target, job, -, -, appended⟩
  · have succeeds : (endPicture .h264High .created (pictureOf [interSlice])).2 = none := by
      decide +kernel
    rw [succeeds] at failed
    cases failed
  · exact ⟨job, appended, (firstJob_spsBeforePps_iff .h264High [] (pictureOf [interSlice])
      .created rfl).2 job rfl appended⟩

/-- A picture that fails behind its SPS, then a good one that is no IDR picture: the first call
returns an error and sets `sps_sent`, and the first job on the queue has no SPS. -/
theorem firstJob_withoutSps :
    (endPicture .h264High .created rejectedPicture).2 = some .decodingError ∧
      (endPicture .h264High .created rejectedPicture).1 = ⟨true, []⟩ ∧
      ∃ job, (endPictures .h264High .created [rejectedPicture, pictureOf [interSlice]]).queued =
          [job] ∧ ¬ spsBeforePps job.data := by
  have failed : (endPicture .h264High .created rejectedPicture).2 = some .decodingError := by
    decide +kernel
  have after : (endPicture .h264High .created rejectedPicture).1 = ⟨true, []⟩ := by decide +kernel
  refine ⟨failed, after, ?_⟩
  have run : endPictures .h264High .created [rejectedPicture, pictureOf [interSlice]] =
      (endPicture .h264High ⟨true, []⟩ (pictureOf [interSlice])).1 := by
    rw [← after]
    rfl
  rw [run]
  rcases (endPicture_cases .h264High ⟨true, []⟩ (pictureOf [interSlice])).2 with
    ⟨e, error, -⟩ | ⟨target, job, -, built, appended⟩
  · have succeeds : (endPicture .h264High ⟨true, []⟩ (pictureOf [interSlice])).2 = none := by
      decide +kernel
    rw [succeeds] at error
    cases error
  · refine ⟨job, appended, ?_⟩
    rw [spsBeforePps_iff built]
    decide

end RockchipVaapi.H264
