import RockchipVaapi.Encoder.Slices

/-!
# Refused encoder parameters

Rate control and single slices are checked before they are stored. The other parameter sets are
copied into the context first, and the slices of a buffer are added up to the one that is refused.
This module says for which buffers a refusal leaves the context as it was, and what that means for
the settings of the encoder.
-/

namespace RockchipVaapi.Encoder

/-- A refused buffer leaves the context as it was. -/
def Kept (sizes : VaSizes) (c : RKContext) (b : RKBuffer) : Prop :=
  (rkMppEncRenderBuffer sizes c b).1 ≠ .success → (rkMppEncRenderBuffer sizes c b).2 = c

/-! ## The condition -/

/-- Each slice passes the checks behind the ones before it. -/
def EachFits {σ : Type} (take : RKContext → σ → Option RKContext) : RKContext → List σ → Prop
  | _, [] => True
  | c, slice :: slices => ∃ d, take c slice = some d ∧ EachFits take d slices

/-- All slices pass the checks, or the first one does not. -/
def AllOrNone {σ : Type} (take : RKContext → σ → Option RKContext) (c : RKContext)
    (slices : List σ) : Prop :=
  EachFits take c slices ∨ slices.head?.bind (take c) = none

/-- The frame rate has a numerator, or the context holds already what is written without one. -/
def FrameRateHarmless (c : RKContext) (framerate : UInt32) : Prop :=
  framerate &&& 0xffff ≠ 0 ∨
    (c.encFpsNum = 0 ∧ c.encFpsDen = (if framerate >>> 16 = 0 then 1 else framerate >>> 16 : UInt32))

/-- The buffer passes its checks or fails them where nothing has been written yet, or what has been
written is what was there. -/
def Harmless (sizes : VaSizes) (c : RKContext) (b : RKBuffer) : Prop :=
  match b.type, c.coding with
  | .encSequenceParameter, .avc =>
    b.bytes < sizes.seqH264 ∨ validSeqH264 c b.data.seqH264 = true ∨ b.data.seqH264 = c.encSeq
  | .encSequenceParameter, .hevc =>
    b.bytes < sizes.seqHevc ∨ validSeqHevc c b.data.seqHevc = true ∨
      b.data.seqHevc = c.encHevcSeq
  | .encPictureParameter, .avc => True
  | .encPictureParameter, .hevc =>
    b.bytes < sizes.picHevc ∨ validPicHevc b.data.picHevc = true ∨ b.data.picHevc = c.encHevcPic
  | .encSliceParameter, .avc =>
    b.size.toNat < sizes.sliceH264 ∨ AllOrNone takeSliceH264 c b.slicesH264
  | .encSliceParameter, .hevc =>
    b.size.toNat < sizes.sliceHevc ∨ AllOrNone takeSliceHevc c b.slicesHevc
  | .encMiscParameter, _ =>
    b.data.miscType = .frameRate → b.bytes < sizes.misc + sizes.frameRate ∨
      FrameRateHarmless c b.data.framerate
  | .other, _ => True

/-! ## The slices of a buffer -/

theorem takeSlices_true_iff {σ : Type} {take : RKContext → σ → Option RKContext} :
    ∀ {slices : List σ} {c : RKContext},
      (takeSlices take slices c).1 = true ↔ EachFits take c slices := by
  intro slices
  induction slices with
  | nil => intro c; simp [takeSlices, EachFits]
  | cons slice slices ih =>
    intro c
    rw [takeSlices, EachFits]
    cases took : take c slice with
    | none => simp
    | some d => simp [ih]

/-- Every slice that is taken is counted. -/
theorem takeSlices_count {σ : Type} {take : RKContext → σ → Option RKContext}
    (counted : ∀ {c slice d}, take c slice = some d → d.encSliceCount = c.encSliceCount + 1) :
    ∀ {slices : List σ} {c : RKContext}, (takeSlices take slices c).1 = false →
      ∃ k < slices.length,
        (takeSlices take slices c).2.encSliceCount = c.encSliceCount + UInt32.ofNat k ∧
        (slices.head?.bind (take c) = none ∨ 0 < k) := by
  intro slices
  induction slices with
  | nil => intro c ended; cases ended
  | cons slice slices ih =>
    intro c ended
    rw [takeSlices] at ended ⊢
    cases took : take c slice with
    | none =>
      refine ⟨0, Nat.succ_pos _, ?_, Or.inl ?_⟩
      · simp
      · simpa using took
    | some d =>
      rw [took] at ended
      obtain ⟨k, few, count, -⟩ := ih ended
      refine ⟨k + 1, Nat.succ_lt_succ few, ?_, Or.inr (Nat.succ_pos k)⟩
      have step : UInt32.ofNat (k + 1) = 1 + UInt32.ofNat k := by
        rw [Nat.add_comm, UInt32.ofNat_add]
        rfl
      dsimp only
      rw [count, counted took, step, UInt32.add_assoc]

/-- A loop that returns early has left the context alone only at the first slice. -/
theorem takeSlices_kept_iff {σ : Type} {take : RKContext → σ → Option RKContext}
    (counted : ∀ {c slice d}, take c slice = some d → d.encSliceCount = c.encSliceCount + 1)
    {slices : List σ} {c : RKContext} (few : slices.length < 2 ^ 32)
    (ended : (takeSlices take slices c).1 = false) :
    (takeSlices take slices c).2 = c ↔ slices.head?.bind (take c) = none := by
  constructor
  · intro same
    obtain ⟨k, less, count, first⟩ := takeSlices_count counted ended
    refine first.resolve_right fun pos => ?_
    have zero : UInt32.ofNat k = 0 := by
      rw [same] at count
      exact UInt32.left_eq_add.mp count
    have toNat := congrArg UInt32.toNat zero
    rw [UInt32.toNat_ofNat', Nat.mod_eq_of_lt (less.trans few)] at toNat
    exact absurd toNat pos.ne'
  · intro first
    cases slices with
    | nil => rfl
    | cons slice slices =>
      have refused : take c slice = none := first
      rw [takeSlices, refused]

theorem takeSliceH264_counted {c d : RKContext} {slice : VAEncSliceParameterBufferH264}
    (took : takeSliceH264 c slice = some d) : d.encSliceCount = c.encSliceCount + 1 := by
  unfold takeSliceH264 at took
  split at took
  · cases took
  · obtain ⟨e, added, rfl⟩ := Option.map_eq_some_iff.mp took
    have count : e.encSliceCount = c.encSliceCount + 1 := by rw [(addEncoderSlice_some added).2]
    split <;> exact count

theorem takeSliceHevc_counted {c d : RKContext} {slice : VAEncSliceParameterBufferHEVC}
    (took : takeSliceHevc c slice = some d) : d.encSliceCount = c.encSliceCount + 1 := by
  unfold takeSliceHevc at took
  split at took
  · cases took
  · obtain ⟨e, added, rfl⟩ := Option.map_eq_some_iff.mp took
    have count : e.encSliceCount = c.encSliceCount + 1 := by rw [(addEncoderSlice_some added).2]
    split
    · exact count
    · split <;> exact count

/-! ## One buffer -/

/-- The slices of one buffer, behind the check of their size. -/
theorem finishSlices_kept_iff {σ : Type} {take : RKContext → σ → Option RKContext}
    (counted : ∀ {c slice d}, take c slice = some d → d.encSliceCount = c.encSliceCount + 1)
    {slices : List σ} (c : RKContext) (few : slices.length < 2 ^ 32) :
    ((finishSlices (takeSlices take slices c)).1 ≠ .success →
      (finishSlices (takeSlices take slices c)).2 = c) ↔ AllOrNone take c slices := by
  cases ended : (takeSlices take slices c).1 with
  | true =>
    have pair : takeSlices take slices c = (true, (takeSlices take slices c).2) := by rw [← ended]
    rw [pair]
    simp [finishSlices, AllOrNone, takeSlices_true_iff.mp ended]
  | false =>
    have pair : takeSlices take slices c = (false, (takeSlices take slices c).2) := by rw [← ended]
    have notAll : ¬EachFits take c slices := by
      rw [← takeSlices_true_iff, ended]
      decide
    rw [AllOrNone, or_iff_right notAll, ← takeSlices_kept_iff counted few ended, pair]
    simp [finishSlices]

theorem encSeq_kept_iff {c : RKContext} {seq : VAEncSequenceParameterBufferH264} :
    { c with encSeq := seq } = c ↔ seq = c.encSeq :=
  ⟨fun same => congrArg RKContext.encSeq same, by rintro rfl; rfl⟩

theorem encHevcSeq_kept_iff {c : RKContext} {seq : VAEncSequenceParameterBufferHEVC} :
    { c with encHevcSeq := seq } = c ↔ seq = c.encHevcSeq :=
  ⟨fun same => congrArg RKContext.encHevcSeq same, by rintro rfl; rfl⟩

theorem encHevcPic_kept_iff {c : RKContext} {pic : VAEncPictureParameterBufferHEVC} :
    { c with encHevcPic := pic } = c ↔ pic = c.encHevcPic :=
  ⟨fun same => congrArg RKContext.encHevcPic same, by rintro rfl; rfl⟩

theorem renderSequence_kept_iff (sizes : VaSizes) (c : RKContext) {b : RKBuffer}
    (type : b.type = .encSequenceParameter) :
    ((renderSequence sizes c b).1 ≠ .success → (renderSequence sizes c b).2 = c) ↔
      Harmless sizes c b := by
  unfold renderSequence Harmless
  rw [type]
  cases c.coding with
  | avc =>
    have same : validSeqH264 { c with encSeq := b.data.seqH264 } b.data.seqH264 =
        validSeqH264 c b.data.seqH264 := rfl
    dsimp only
    rw [same]
    by_cases short : b.bytes < sizes.seqH264
    · simp [short]
    · cases validSeqH264 c b.data.seqH264 <;> simp [short, encSeq_kept_iff]
  | hevc =>
    have same : validSeqHevc { c with encHevcSeq := b.data.seqHevc } b.data.seqHevc =
        validSeqHevc c b.data.seqHevc := rfl
    dsimp only
    rw [same]
    by_cases short : b.bytes < sizes.seqHevc
    · simp [short]
    · cases validSeqHevc c b.data.seqHevc <;> simp [short, encHevcSeq_kept_iff]

theorem renderPicture_kept_iff (sizes : VaSizes) (c : RKContext) {b : RKBuffer}
    (type : b.type = .encPictureParameter) :
    ((renderPicture sizes c b).1 ≠ .success → (renderPicture sizes c b).2 = c) ↔
      Harmless sizes c b := by
  unfold renderPicture Harmless
  rw [type]
  cases c.coding with
  | avc =>
    by_cases short : b.bytes < sizes.picH264 <;> simp [short]
  | hevc =>
    dsimp only
    by_cases short : b.bytes < sizes.picHevc
    · simp [short]
    · cases validPicHevc b.data.picHevc <;> simp [short, encHevcPic_kept_iff]

theorem renderSlices_kept_iff (sizes : VaSizes) (c : RKContext) {b : RKBuffer}
    (type : b.type = .encSliceParameter) :
    ((renderSlices sizes c b).1 ≠ .success → (renderSlices sizes c b).2 = c) ↔
      Harmless sizes c b := by
  have few := b.numElements.toNat_lt
  unfold renderSlices Harmless
  rw [type]
  by_cases none : b.numElements = 0
  · have noH264 : b.slicesH264 = [] := by rw [RKBuffer.slicesH264, none]; rfl
    have noHevc : b.slicesHevc = [] := by rw [RKBuffer.slicesHevc, none]; rfl
    cases c.coding <;> simp [none, noH264, noHevc, AllOrNone, EachFits]
  · rw [if_neg none]
    cases c.coding with
    | avc =>
      dsimp only
      by_cases short : b.size.toNat < sizes.sliceH264
      · simp [short]
      · rw [if_neg short, or_iff_right short]
        exact finishSlices_kept_iff takeSliceH264_counted c (by simpa [RKBuffer.slicesH264] using few)
    | hevc =>
      dsimp only
      by_cases short : b.size.toNat < sizes.sliceHevc
      · simp [short]
      · rw [if_neg short, or_iff_right short]
        exact finishSlices_kept_iff takeSliceHevc_counted c (by simpa [RKBuffer.slicesHevc] using few)

theorem takeFrameRate_kept_iff {c : RKContext} {framerate : UInt32} :
    ((takeFrameRate c framerate).1 ≠ .success → (takeFrameRate c framerate).2 = c) ↔
      FrameRateHarmless c framerate := by
  have kept {num den : UInt32} :
      { c with encFpsNum := num, encFpsDen := den } = c ↔ num = c.encFpsNum ∧ den = c.encFpsDen :=
    ⟨fun same => ⟨congrArg RKContext.encFpsNum same, congrArg RKContext.encFpsDen same⟩,
      by rintro ⟨rfl, rfl⟩; rfl⟩
  unfold takeFrameRate FrameRateHarmless
  by_cases num : framerate &&& 0xffff = 0
  · by_cases den : framerate >>> 16 = 0 <;> simp [num, den, kept, eq_comm]
  · by_cases den : framerate >>> 16 = 0 <;> simp [num, den]

theorem renderMisc_kept_iff (sizes : VaSizes) (c : RKContext) {b : RKBuffer}
    (type : b.type = .encMiscParameter) :
    ((renderMisc sizes c b).1 ≠ .success → (renderMisc sizes c b).2 = c) ↔
      Harmless sizes c b := by
  unfold renderMisc Harmless
  rw [type]
  dsimp only
  by_cases short : b.bytes < sizes.misc
  · simp [short, Nat.lt_add_right sizes.frameRate short]
  · rw [if_neg short]
    cases misc : b.data.miscType with
    | rateControl =>
      dsimp only
      split
      · simp
      · split <;> simp
    | frameRate =>
      dsimp only
      by_cases shortRate : b.bytes < sizes.misc + sizes.frameRate
      · simp [shortRate]
      · rw [if_neg shortRate, or_iff_right shortRate]
        exact takeFrameRate_kept_iff.trans ⟨fun harmless _ => harmless, fun harmless => harmless rfl⟩
    | other => simp

/-- A refusal leaves the context alone for exactly the harmless buffers. -/
theorem kept_iff_harmless (sizes : VaSizes) (c : RKContext) (b : RKBuffer) :
    Kept sizes c b ↔ Harmless sizes c b := by
  unfold Kept rkMppEncRenderBuffer
  cases type : b.type with
  | encSequenceParameter => exact renderSequence_kept_iff sizes c type
  | encPictureParameter => exact renderPicture_kept_iff sizes c type
  | encSliceParameter => exact renderSlices_kept_iff sizes c type
  | encMiscParameter => exact renderMisc_kept_iff sizes c type
  | other => simp [Harmless, type]

/-! ## What the slices leave alone -/

/-- The fields that a slice parameter buffer leaves alone. -/
structure SameSets (c c' : RKContext) : Prop where
  picture : SamePicture c c'
  encSeq : c'.encSeq = c.encSeq
  encHevcSeq : c'.encHevcSeq = c.encHevcSeq
  encHevcPic : c'.encHevcPic = c.encHevcPic
  hasEncSeq : c'.hasEncSeq = c.hasEncSeq
  hasEncPic : c'.hasEncPic = c.hasEncPic

theorem SameSets.refl (c : RKContext) : SameSets c c := ⟨.refl c, rfl, rfl, rfl, rfl, rfl⟩

theorem SameSets.trans {c c' c'' : RKContext} (first : SameSets c c') (second : SameSets c' c'') :
    SameSets c c'' :=
  ⟨first.picture.trans second.picture, second.encSeq.trans first.encSeq,
    second.encHevcSeq.trans first.encHevcSeq, second.encHevcPic.trans first.encHevcPic,
    second.hasEncSeq.trans first.hasEncSeq, second.hasEncPic.trans first.hasEncPic⟩

theorem addEncoderSlice_sameSets {c c' : RKContext} {address units : UInt32} {unitsPerRow : Nat}
    (added : addEncoderSlice c address units unitsPerRow = some c') : SameSets c c' := by
  rw [(addEncoderSlice_some added).2]
  exact ⟨⟨rfl, rfl, rfl⟩, rfl, rfl, rfl, rfl, rfl⟩

theorem takeSliceH264_sameSets {c c' : RKContext} {slice : VAEncSliceParameterBufferH264}
    (took : takeSliceH264 c slice = some c') : SameSets c c' := by
  unfold takeSliceH264 at took
  split at took
  · cases took
  · obtain ⟨d, added, rfl⟩ := Option.map_eq_some_iff.mp took
    refine (addEncoderSlice_sameSets added).trans ?_
    split
    · exact ⟨⟨rfl, rfl, rfl⟩, rfl, rfl, rfl, rfl, rfl⟩
    · exact .refl d

theorem takeSliceHevc_sameSets {c c' : RKContext} {slice : VAEncSliceParameterBufferHEVC}
    (took : takeSliceHevc c slice = some c') : SameSets c c' := by
  unfold takeSliceHevc at took
  split at took
  · cases took
  · obtain ⟨d, added, rfl⟩ := Option.map_eq_some_iff.mp took
    refine (addEncoderSlice_sameSets added).trans ?_
    split
    · exact ⟨⟨rfl, rfl, rfl⟩, rfl, rfl, rfl, rfl, rfl⟩
    · split
      · exact ⟨⟨rfl, rfl, rfl⟩, rfl, rfl, rfl, rfl, rfl⟩
      · exact .refl d

theorem finishSlices_sameSets {σ : Type} {take : RKContext → σ → Option RKContext}
    (same : ∀ {c slice d}, take c slice = some d → SameSets c d) :
    ∀ (slices : List σ) (c : RKContext),
      SameSets c (finishSlices (takeSlices take slices c)).2 := by
  intro slices
  induction slices with
  | nil => intro c; exact ⟨⟨rfl, rfl, rfl⟩, rfl, rfl, rfl, rfl, rfl⟩
  | cons slice slices ih =>
    intro c
    rw [takeSlices]
    cases took : take c slice with
    | none => exact .refl c
    | some d => exact (same took).trans (ih d)

/-- No buffer, accepted or not, changes what kind of picture is encoded. -/
theorem rkMppEncRenderBuffer_samePicture (sizes : VaSizes) (c : RKContext) (b : RKBuffer) :
    SamePicture c (rkMppEncRenderBuffer sizes c b).2 := by
  by_cases type : b.type = .encSliceParameter
  · have move := rkMppEncRenderBuffer_move sizes c b
    generalize rkMppEncRenderBuffer sizes c b = r at move ⊢
    obtain ⟨status, d⟩ := r
    dsimp only at move ⊢
    cases move with
    | slicesH264 _ _ => exact (finishSlices_sameSets takeSliceH264_sameSets _ c).picture
    | slicesHevc _ _ => exact (finishSlices_sameSets takeSliceHevc_sameSets _ c).picture
    | kept _ => exact .refl c
    | seqH264 other | badSeqH264 other | seqHevc other | badSeqHevc other | picH264 other
    | picHevc other | badPicHevc other | bitrate other | frameRate other | otherMisc other =>
      rw [type] at other
      cases other
  · exact (render_otherType sizes c type).2.1

/-! ## Runs of calls -/

/-- The calls on an encoder context. `rk_RenderPicture` is one call for each of its buffers up to
the one it refuses. -/
inductive Call
  | beginPicture (s : RenderSurface)
  | renderBuffer (b : RKBuffer)
  | endPicture (env : EncodeEnv)

/-- What a call leaves. -/
def Call.run (sizes : VaSizes) (c : RKContext) : Call → RKContext
  | .beginPicture s => (rkBeginPicture c s).2
  | .renderBuffer b => if c.renderSurface = none then c else (rkMppEncRenderBuffer sizes c b).2
  | .endPicture env => (rkEndPicture env c).2

/-- The call hands over a buffer that is refused. -/
def Call.refused (sizes : VaSizes) (c : RKContext) : Call → Bool
  | .renderBuffer b =>
    c.renderSurface.isSome && (rkMppEncRenderBuffer sizes c b).1 != .success
  | _ => false

/-- A buffer that is handed over is harmless. -/
def Call.Harmless (sizes : VaSizes) (c : RKContext) : Call → Prop
  | .renderBuffer b => c.renderSurface.isSome → Encoder.Harmless sizes c b
  | _ => True

/-- The context behind a run. -/
def runCalls (sizes : VaSizes) (c : RKContext) (calls : List Call) : RKContext :=
  calls.foldl (Call.run sizes) c

/-- Every buffer of the run is harmless where it is handed over. -/
def HarmlessRun (sizes : VaSizes) : RKContext → List Call → Prop
  | _, [] => True
  | c, call :: calls => call.Harmless sizes c ∧ HarmlessRun sizes (call.run sizes c) calls

/-- The calls that are left when those with a refused buffer are struck out. -/
def withoutRefused (sizes : VaSizes) : RKContext → List Call → List Call
  | _, [] => []
  | c, call :: calls =>
    if call.refused sizes c then withoutRefused sizes (call.run sizes c) calls
    else call :: withoutRefused sizes (call.run sizes c) calls

/-- No buffer of the run is refused. -/
def NoneRefused (sizes : VaSizes) : RKContext → List Call → Prop
  | _, [] => True
  | c, call :: calls => call.refused sizes c = false ∧ NoneRefused sizes (call.run sizes c) calls

/-- `rk_RenderPicture` is a run of calls with the buffers it comes to. -/
theorem rkRenderPicture_run (sizes : VaSizes) :
    ∀ (buffers : List (Option RKBuffer)) (c : RKContext), ∃ front : List RKBuffer,
      front.map some <+: buffers ∧
        (rkRenderPicture sizes c buffers).2 = runCalls sizes c (front.map Call.renderBuffer) := by
  intro buffers c
  unfold rkRenderPicture
  by_cases surface : c.renderSurface = none
  · exact ⟨[], List.nil_prefix, by rw [if_pos surface]; rfl⟩
  · rw [if_neg surface]
    induction buffers generalizing c with
    | nil => exact ⟨[], List.nil_prefix, rfl⟩
    | cons b buffers ih =>
      cases b with
      | none => exact ⟨[], List.nil_prefix, rfl⟩
      | some b =>
        have first : (Call.renderBuffer b).run sizes c = (rkMppEncRenderBuffer sizes c b).2 :=
          if_neg surface
        have still : (rkMppEncRenderBuffer sizes c b).2.renderSurface = c.renderSurface :=
          (rkMppEncRenderBuffer_samePicture sizes c b).surface
        obtain ⟨front, inside, eq⟩ := ih (rkMppEncRenderBuffer sizes c b).2 (by rwa [still])
        rw [renderBuffers]
        split
        · rename_i d accepted
          rw [accepted] at eq first
          refine ⟨b :: front, ?_, ?_⟩
          · exact (List.prefix_cons_inj (some b)).mpr inside
          · rw [eq, List.map_cons, runCalls, runCalls, List.foldl_cons, first]
        · refine ⟨[b], ?_, ?_⟩
          · exact (List.prefix_cons_inj (some b)).mpr List.nil_prefix
          · rw [List.map_singleton, runCalls, List.foldl_cons, first]
            rfl

/-- A harmless call that is refused is no call at all. -/
theorem Call.run_refused {sizes : VaSizes} {c : RKContext} {call : Call}
    (harmless : call.Harmless sizes c) (refused : call.refused sizes c = true) :
    call.run sizes c = c := by
  cases call with
  | renderBuffer b =>
    obtain ⟨surface, status⟩ := (Bool.and_eq_true _ _).mp refused
    have kept := (kept_iff_harmless sizes c b).mpr (harmless surface)
    have some_surface : c.renderSurface ≠ none := Option.isSome_iff_ne_none.mp surface
    exact (if_neg some_surface).trans (kept (bne_iff_ne.mp status))
  | beginPicture s => cases refused
  | endPicture env => cases refused

/-- A run whose buffers are harmless is the run without the refused ones. -/
theorem runCalls_withoutRefused {sizes : VaSizes} :
    ∀ {calls : List Call} {c : RKContext}, HarmlessRun sizes c calls →
      runCalls sizes c calls = runCalls sizes c (withoutRefused sizes c calls) ∧
        NoneRefused sizes c (withoutRefused sizes c calls) := by
  intro calls
  induction calls with
  | nil => intro c _; exact ⟨rfl, trivial⟩
  | cons call calls ih =>
    intro c harmless
    obtain ⟨now, later⟩ := harmless
    obtain ⟨same, none⟩ := ih later
    rw [withoutRefused]
    cases refused : call.refused sizes c with
    | true =>
      have kept := Call.run_refused now refused
      rw [kept] at same none
      rw [if_pos rfl, kept, runCalls, List.foldl_cons, kept]
      exact ⟨same, none⟩
    | false =>
      rw [if_neg Bool.false_ne_true, runCalls, runCalls, List.foldl_cons, List.foldl_cons]
      exact ⟨same, refused, none⟩

/-! ## Parameter sets in use -/

/-- The parameter sets that the flags of the context vouch for have passed their checks. Those of
an HEVC sequence were made against the render surface of its time. -/
structure SetsValid (c : RKContext) : Prop where
  seqH264 : c.hasEncSeq = true → c.coding = .avc → validSeqH264 c c.encSeq = true
  seqHevc : c.hasEncSeq = true → c.coding = .hevc →
    ∃ s, validSeqHevc { c with renderSurface := some s } c.encHevcSeq = true
  picHevc : c.hasEncPic = true → c.coding = .hevc → validPicHevc c.encHevcPic = true

/-- The checks of an HEVC sequence read the size of the context and the surface. -/
theorem validSeqHevc_congr {c c' : RKContext} (size : c'.size = c.size)
    (seq : VAEncSequenceParameterBufferHEVC) (s : Option RenderSurface) :
    validSeqHevc { c' with renderSurface := s } seq =
      validSeqHevc { c with renderSurface := s } seq := by
  simp only [validSeqHevc, size]

theorem SetsValid.of_sameSets {c c' : RKContext} (valid : SetsValid c) (size : c'.size = c.size)
    (profile : c'.profile = c.profile) (encSeq : c'.encSeq = c.encSeq)
    (encHevcSeq : c'.encHevcSeq = c.encHevcSeq) (encHevcPic : c'.encHevcPic = c.encHevcPic)
    (hasEncSeq : c'.hasEncSeq = c.hasEncSeq)
    (hasEncPic : c'.hasEncPic = true → c.hasEncPic = true) : SetsValid c' := by
  have coding : c'.coding = c.coding := by
    rw [RKContext.coding, profile]
    rfl
  constructor
  case seqH264 =>
    rw [hasEncSeq, coding, encSeq]
    intro has avc
    have checked := valid.seqH264 has avc
    rwa [validSeqH264, ← size] at checked
  case seqHevc =>
    rw [hasEncSeq, coding, encHevcSeq]
    intro has hevc
    obtain ⟨s, checked⟩ := valid.seqHevc has hevc
    exact ⟨s, (validSeqHevc_congr size _ _).trans checked⟩
  case picHevc =>
    rw [coding, encHevcPic]
    exact fun has => valid.picHevc (hasEncPic has)

/-- An accepted buffer leaves the parameter sets valid. -/
theorem SetsValid.accept {sizes : VaSizes} {c : RKContext} {b : RKBuffer} (valid : SetsValid c)
    (begun : c.renderSurface ≠ none)
    (accepted : (rkMppEncRenderBuffer sizes c b).1 = .success) :
    SetsValid (rkMppEncRenderBuffer sizes c b).2 := by
  have move := rkMppEncRenderBuffer_move sizes c b
  generalize rkMppEncRenderBuffer sizes c b = r at accepted move ⊢
  obtain ⟨status, d⟩ := r
  dsimp only at accepted move ⊢
  have other {d : RKContext} (same : SameSets c d) : SetsValid d :=
    valid.of_sameSets same.picture.size same.picture.profile same.encSeq same.encHevcSeq
      same.encHevcPic same.hasEncSeq (by rw [same.hasEncPic]; exact id)
  cases move with
  | kept refused => exact absurd accepted refused
  | badSeqH264 | badSeqHevc | badPicHevc => cases accepted
  | seqH264 _ avc checked =>
    constructor
    case seqH264 => exact fun _ _ => checked
    case seqHevc =>
      intro _ hevc
      rw [show c.coding = .hevc from hevc] at avc
      cases avc
    case picHevc => exact valid.picHevc
  | seqHevc _ hevc checked =>
    obtain ⟨s, surface⟩ := Option.ne_none_iff_exists'.mp begun
    constructor
    case seqH264 =>
      intro _ avc
      rw [show c.coding = .avc from avc] at hevc
      cases hevc
    case seqHevc =>
      intro _ _
      refine ⟨s, ?_⟩
      rw [validSeqHevc, surface] at checked
      exact checked
    case picHevc => exact valid.picHevc
  | picH264 _ avc =>
    constructor
    case seqH264 => exact valid.seqH264
    case seqHevc => exact valid.seqHevc
    case picHevc =>
      intro _ hevc
      rw [show c.coding = .hevc from hevc] at avc
      cases avc
  | picHevc _ _ checked => exact ⟨valid.seqH264, valid.seqHevc, fun _ _ => checked⟩
  | slicesH264 _ _ => exact other (finishSlices_sameSets takeSliceH264_sameSets _ c)
  | slicesHevc _ _ => exact other (finishSlices_sameSets takeSliceHevc_sameSets _ c)
  | bitrate _ _ => exact other ⟨⟨rfl, rfl, rfl⟩, rfl, rfl, rfl, rfl, rfl⟩
  | otherMisc _ _ => exact valid
  | frameRate _ _ =>
    apply other
    unfold takeFrameRate
    dsimp only
    split <;> split <;> exact ⟨⟨rfl, rfl, rfl⟩, rfl, rfl, rfl, rfl, rfl⟩

/-- One call that refuses nothing leaves the parameter sets valid. -/
theorem SetsValid.run {sizes : VaSizes} {c : RKContext} {call : Call} (valid : SetsValid c)
    (accepted : call.refused sizes c = false) : SetsValid (call.run sizes c) := by
  cases call with
  | renderBuffer b =>
    rw [Call.run]
    split
    · exact valid
    · rename_i begun
      have surface : c.renderSurface.isSome = true := Option.isSome_iff_ne_none.mpr begun
      rw [Call.refused, surface, Bool.true_and, bne_eq_false_iff_eq] at accepted
      exact valid.accept begun accepted
  | beginPicture s =>
    rw [Call.run, rkBeginPicture]
    dsimp only
    split
    · exact valid
    · split
      · exact valid
      · exact valid.of_sameSets rfl rfl rfl rfl rfl rfl (by simp [RKContext.noSlices])
  | endPicture env =>
    rw [Call.run, rkEndPicture]
    split
    · exact valid
    · exact valid.of_sameSets rfl rfl rfl rfl rfl rfl (by simp [RKContext.noSlices])

theorem SetsValid.runCalls {sizes : VaSizes} :
    ∀ {calls : List Call} {c : RKContext}, SetsValid c → NoneRefused sizes c calls →
      SetsValid (runCalls sizes c calls) := by
  intro calls
  induction calls with
  | nil => intro c valid _; exact valid
  | cons call calls ih =>
    intro c valid none
    exact ih (valid.run none.1) none.2

/-- The encoder is only configured where the flags vouch for the parameter sets. -/
theorem rkMppEncEncode_configures {env : EncodeEnv} {c : RKContext}
    (configured : (rkMppEncEncode env c).settings ≠ []) :
    c.hasEncSeq = true ∧ c.hasEncPic = true ∧ c.hasEncSlice = true := by
  unfold rkMppEncEncode at configured
  split at configured
  · exact absurd rfl configured
  · split at configured
    · exact absurd rfl configured
    · rename_i ready
      simp only [Bool.or_eq_true, Bool.not_eq_true', not_or, Bool.not_eq_false] at ready
      exact ⟨ready.1.1.1.1, ready.1.1.1.2, ready.1.1.2⟩

/-- A refused buffer changes nothing if and only if it is harmless: it fails before anything is
written, or what is written is there already. In a run of harmless buffers the refused ones could
as well be missing, and the encoder is configured from valid parameter sets only. -/
theorem refusedBuffer_kept_iff (sizes : VaSizes) (c : RKContext) :
    (∀ b, Kept sizes c b ↔ Harmless sizes c b) ∧
      ∀ calls, c.hasEncSeq = false → c.hasEncPic = false → HarmlessRun sizes c calls →
        runCalls sizes c calls = runCalls sizes c (withoutRefused sizes c calls) ∧
        NoneRefused sizes c (withoutRefused sizes c calls) ∧
        ∀ env, (rkMppEncEncode env (runCalls sizes c calls)).settings ≠ [] →
          (runCalls sizes c calls).hasEncSeq = true ∧ (runCalls sizes c calls).hasEncPic = true ∧
            SetsValid (runCalls sizes c calls) := by
  refine ⟨kept_iff_harmless sizes c, ?_⟩
  intro calls noSeq noPic harmless
  obtain ⟨same, none⟩ := runCalls_withoutRefused harmless
  refine ⟨same, none, ?_⟩
  intro env configured
  obtain ⟨hasSeq, hasPic, -⟩ := rkMppEncEncode_configures configured
  refine ⟨hasSeq, hasPic, ?_⟩
  rw [same]
  apply SetsValid.runCalls _ none
  exact ⟨by simp [noSeq], by simp [noSeq], by simp [noPic]⟩

/-- A buffer of the given type for a `smallEncoder`, with the intra period of its sequence. -/
def smallBuffer (type : VABufferType) (intraPeriod : UInt32) : RKBuffer :=
  { twoSlices with
    type := type
    numElements := 1
    data := { twoSlices.data with seqH264 := { smallEncoder.encSeq with intraPeriod } } }

/-- The structures of these tests take one byte each. -/
def smallSizes : VaSizes := ⟨1, 1, 1, 1, 1, 1, 1, 1, 1⟩

/-- A picture with one buffer of a type that the encoder does not know. -/
def smallRun : List Call :=
  [.beginPicture smallSurface, .renderBuffer (smallBuffer .encSequenceParameter 60),
    .renderBuffer (smallBuffer .encPictureParameter 0), .renderBuffer (smallBuffer .other 0),
    .renderBuffer twoSlices]

theorem refusedBuffer_kept_iff_smallRun :
    let c := { smallEncoder with hasEncSeq := false, hasEncPic := false }
    (Kept smallSizes c (smallBuffer .encSequenceParameter 60) ↔
        Harmless smallSizes c (smallBuffer .encSequenceParameter 60)) ∧
      (withoutRefused smallSizes c smallRun).length = 4 ∧
      runCalls smallSizes c smallRun =
        runCalls smallSizes c (withoutRefused smallSizes c smallRun) := by
  refine ⟨(refusedBuffer_kept_iff smallSizes _).1 _, by decide, ?_⟩
  refine ((refusedBuffer_kept_iff smallSizes _).2 smallRun rfl rfl ?_).1
  refine ⟨trivial, fun _ => Or.inr (Or.inl (by decide)), fun _ => trivial, fun _ => trivial,
    fun _ => Or.inr (Or.inl ?_), trivial⟩
  exact ⟨_, rfl, _, rfl, trivial⟩

/-- A world in which everything works. -/
def smallEnv : EncodeEnv where
  codedBuffer := fun _ => some true
  inputReady := true
  accepts := fun _ => true
  setCfg := true
  frameInit := true
  setIdrFrame := true
  putFrame := true
  packet := some 1
  storeCoded := .success

/-- A sequence whose period is no `int32_t` is refused but kept, and the flag of an earlier picture
lets the encoder be configured with it. -/
theorem refusedSequence_configured :
    (¬∀ sizes c b, Kept sizes c b) ∧
      let c := runCalls smallSizes smallEncoder
        [.beginPicture smallSurface, .renderBuffer (smallBuffer .encPictureParameter 0),
          .renderBuffer twoSlices]
      let refused := rkMppEncRenderBuffer smallSizes c (smallBuffer .encSequenceParameter 0x80000000)
      refused.1 = .invalidParameter ∧
        ("rc:gop", ConfigValue.number (-2147483648)) ∈
          (rkMppEncEncode smallEnv refused.2).settings := by
  refine ⟨?_, by decide, by decide⟩
  intro kept
  have same := kept smallSizes smallEncoder (smallBuffer .encSequenceParameter 0x80000000)
    (by decide)
  exact absurd (congrArg (fun c => c.encSeq.intraPeriod) same) (by decide)

end RockchipVaapi.Encoder
