import Mathlib.Logic.Relation
import RockchipVaapi.Surface.Assign

/-!
# Layouts that enclose the picture

A frame is published only with a layout that fits its buffer. That the rows are as long as the
picture is wide is checked for NV15, linear or compressed, but not for linear NV12.
-/

namespace RockchipVaapi.Surface

/-- The stride and the vertical stride enclose the picture, and the linear layout that they make
fits the buffer of the picture. -/
def RKSurface.Encloses (s : RKSurface) : Prop :=
  s.width ≤ s.hstride ∧ s.height ≤ s.vstride ∧ s.vstride % 2 = 0 ∧
    ∃ buffer size, s.boundBuffer = some buffer ∧
      layoutSize s.is10bit s.hstride.toNat s.vstride.toNat = some size ∧ size ≤ buffer.size

/-! ## What the other threads do -/

/-- The sections that another thread can run on a surface while a call for `fence` is in progress.
A call does not last for the 2 ^ 64 pictures after which a fence comes back. Only the worker of the
context that began the picture publishes under its fence, and it runs one call at a time. -/
inductive Section (fence : Nat) (s : RKSurface) : RKSurface → Prop
  | began (ctxId : Nat) (avc : Bool) (other : nextFence s.fence ≠ fence) :
    Section fence s (beginPicture s ctxId avc)
  | marked (f : Nat) (field : Bool) : Section fence s (markField s f field)
  | completed (f : Nat) (success : Bool) : Section fence s (completeSurfaceRef s f success)
  | failed (f : Nat) : Section fence s (rkMppDecFailSurface s f)
  | exported (env : ExportEnv) : Section fence s (exportSection s env).1
  | published (output : FrameOutput) (other : s.fence ≠ fence) : Section fence s (publish s output)

/-- Any number of sections of other threads. -/
def Interference (fence : Nat) : RKSurface → RKSurface → Prop :=
  Relation.ReflTransGen (Section fence)

/-- Where the fence is still the same, so is the size. -/
def SizeKept (fence : Nat) (s s' : RKSurface) : Prop :=
  s'.fence = fence → s.fence = fence ∧ s'.width = s.width ∧ s'.height = s.height

theorem Section.sizeKept {fence : Nat} {s s' : RKSurface} (move : Section fence s s') :
    SizeKept fence s s' := by
  intro current
  cases move with
  | began ctxId avc other =>
    rcases beginPicture_cases s ctxId avc with ⟨same, -⟩ | same
    · rw [same] at current ⊢
      exact ⟨current, rfl, rfl⟩
    · rw [same] at current
      exact absurd current other
  | marked f field =>
    obtain ⟨pending, same⟩ := markField_settle s f field
    rw [same] at current ⊢
    exact ⟨current, rfl, rfl⟩
  | completed f success =>
    obtain ⟨decoded, failed, pending, same, -⟩ := completeSurfaceRef_settle s f success
    rw [same] at current ⊢
    exact ⟨current, rfl, rfl⟩
  | failed f =>
    obtain ⟨failed, same⟩ := rkMppDecFailSurface_settle s f
    rw [same] at current ⊢
    exact ⟨current, rfl, rfl⟩
  | exported env =>
    have same := (exportSection_decoding s env).1
    have fence' : (exportSection s env).1.fence = s.fence := (congrArg RKSurface.fence same :)
    exact ⟨fence'.symm.trans current, (congrArg RKSurface.width same :),
      (congrArg RKSurface.height same :)⟩
  | published output other => exact absurd current other

theorem Interference.sizeKept {fence : Nat} {s s' : RKSurface} (others : Interference fence s s') :
    SizeKept fence s s' := by
  intro current
  induction others with
  | refl => exact ⟨current, rfl, rfl⟩
  | tail _ move ih =>
    obtain ⟨before, width, height⟩ := move.sizeKept current
    obtain ⟨first, width', height'⟩ := ih before
    exact ⟨first, width.trans width', height.trans height'⟩

/-! ## What the checks establish -/

section

variable {d : Delivery} {env : AssignEnv} {g : FrameGeometry} {fence : Nat}
  {s s₁ s₂ s₃ : RKSurface} {output : FrameOutput} {surfaceWidth surfaceHeight : Int}

/-- The buffer that a surface is bound to where an output is published. -/
def FrameOutput.boundBuffer (output : FrameOutput) : Option MppBuffer :=
  match output.backing, output.storedFrame with
  | some backing, _ => some backing
  | none, some frame => frame.buffer
  | none, none => none

theorem publish_boundBuffer (s : RKSurface) (output : FrameOutput) :
    (publish s output).boundBuffer = output.boundBuffer := by
  unfold RKSurface.boundBuffer FrameOutput.boundBuffer publish
  cases output.backing with
  | some backing => rfl
  | none =>
    cases output.storedFrame with
    | some frame => rfl
    | none => rfl

theorem linearLayoutFits_iff :
    linearLayoutFits g = true ↔ 0 < g.srcHs ∧ g.frameH ≤ g.srcVs ∧
      ∃ size, rkNv12LayoutSize g.srcHs.toNat g.srcVs.toNat = some size ∧ size ≤ g.srcSize := by
  simp [linearLayoutFits, Option.any_eq_true, and_assoc]

/-- What `checkFrame` has established about an output. -/
structure Checked (d : Delivery) (env : AssignEnv) (g : FrameGeometry) (output : FrameOutput) :
    Prop where
  fmt : output.fmt = d.frame.fmt
  width : output.width = d.frame.width
  height : output.height = d.frame.height
  vstride : output.vstride = g.srcVs
  tall : g.frameH ≤ g.srcVs
  uncopied : output.stableExportCopy = false
  matched : d.matches = true
  picture :
    (d.frame.fmt.linearNv12 = true ∧ linearLayoutFits g = true ∧ output.converted10bit = false ∧
      output.storedFrame = some d.frame ∧ output.outputBuffer = d.frame.buffer ∧
      output.backing = none ∧ output.hstride = g.srcHs) ∨
    (d.frame.fmt.nv15 = true ∧ g.frameW ≤ g.srcHsPixels ∧ output.converted10bit = true ∧
      output.storedFrame = none ∧ output.hstride = g.srcHsPixels ∧
      ∃ converted, convertFrame d env g = some converted ∧
        output.outputBuffer = some converted ∧ output.backing = some converted)

theorem linearLayoutValid_true (frame : MppFrame) (h : linearLayoutValid frame g = true) :
    linearLayoutFits g = true ∧
      (frame.fmt.linearNv12 = true ∨ frame.fmt.linearNv15 = true ∧ g.frameW ≤ g.srcHsPixels) := by
  simp only [linearLayoutValid, nv15StrideValid, Bool.and_eq_true, Bool.or_eq_true,
    Bool.not_eq_true', decide_eq_true_eq] at h
  obtain ⟨⟨format, fits⟩, stride⟩ := h
  refine ⟨fits, ?_⟩
  rcases format with nv12 | nv15
  · exact .inl nv12
  · rcases stride with not15 | ⟨⟨wide, -⟩, -⟩
    · rw [nv15] at not15
      cases not15
    · exact .inr ⟨nv15, wide⟩

theorem afbcLayoutValid_true (frame : MppFrame) (h : afbcLayoutValid frame g = true) :
    frame.fmt.afbcNv15 = true ∧ g.frameW ≤ g.srcHsPixels ∧ g.frameH ≤ g.srcVs := by
  simp only [afbcLayoutValid, Bool.and_eq_true, decide_eq_true_eq] at h
  obtain ⟨⟨⟨⟨⟨⟨⟨⟨⟨⟨⟨format, wide⟩, -⟩, tall⟩, -⟩, -⟩, -⟩, -⟩, -⟩, -⟩, -⟩, -⟩ := h
  exact ⟨format, wide, tall⟩

theorem checkFrame_some (h : checkFrame d env g = some output) : Checked d env g output := by
  unfold checkFrame at h
  simp only at h
  split at h
  · rename_i valid
    rw [Bool.and_eq_true, Bool.or_eq_true] at valid
    obtain ⟨layout, matched⟩ := valid
    have tall : g.frameH ≤ g.srcVs := by
      rcases layout with linear | afbc
      · exact (linearLayoutFits_iff.mp (linearLayoutValid_true _ linear).1).2.1
      · exact (afbcLayoutValid_true _ afbc).2.2
    split at h
    · rename_i nv15
      obtain ⟨converted, made, rfl⟩ := Option.map_eq_some_iff.mp h
      have wide : g.frameW ≤ g.srcHsPixels := by
        rcases layout with linear | afbc
        · rcases (linearLayoutValid_true _ linear).2 with nv12 | ⟨-, wide⟩
          · simp only [MppFrameFormat.linearNv12, MppFrameFormat.nv12, MppFrameFormat.nv15,
              Bool.and_eq_true, beq_iff_eq] at nv12 nv15
            rw [nv15] at nv12
            cases nv12.1
          · exact wide
        · exact (afbcLayoutValid_true _ afbc).2.1
      exact ⟨rfl, rfl, rfl, rfl, tall, rfl, matched,
        .inr ⟨nv15, wide, rfl, rfl, rfl, converted, made, rfl, rfl⟩⟩
    · rename_i not15
      obtain rfl := Option.some.inj h
      have nv12 : linearLayoutFits g = true ∧ d.frame.fmt.linearNv12 = true := by
        rcases layout with linear | afbc
        · obtain ⟨fits, nv12 | ⟨nv15, -⟩⟩ := linearLayoutValid_true _ linear
          · exact ⟨fits, nv12⟩
          · exact absurd (Bool.and_eq_true_iff.mp nv15).1 not15
        · exact absurd (Bool.and_eq_true_iff.mp (afbcLayoutValid_true _ afbc).1).1 not15
      exact ⟨rfl, rfl, rfl, rfl, tall, rfl, matched,
        .inl ⟨nv12.2, nv12.1, rfl, rfl, rfl, rfl, rfl⟩⟩
  · cases h

theorem externalBufferMatchesPool_some {pool : RKDecodePool} {buffer : Option MppBuffer}
    {backing : MppBuffer} (h : externalBufferMatchesPool pool buffer = some backing) :
    backing ∈ pool.buffers ∧ ∃ b, buffer = some b ∧ b.fd = backing.fd := by
  unfold externalBufferMatchesPool at h
  split at h
  · cases h
  · rename_i b
    split at h
    · cases h
    · split at h
      · cases h
      · rename_i found
        split at h
        · rename_i same
          obtain rfl := Option.some.inj h
          exact ⟨List.mem_of_getElem? found, b, rfl, same.2⟩
        · cases h

/-- An output that was not copied leaves the second section as it came. -/
theorem copySection_uncopied {checked : FrameOutput}
    (h : copySection s env fence g checked = some output)
    (uncopied : output.stableExportCopy = false) :
    output = checked ∧ s.stableExport = false := by
  unfold copySection at h
  split at h
  · cases h
  · rename_i answer
    refine ⟨(Option.some.inj h).symm, ?_⟩
    by_contra stable
    unfold rkSurfaceCopyToStableExport at answer
    rw [if_neg stable] at answer
    split at answer
    · cases answer
    · split at answer <;> cases answer
  · obtain rfl := Option.some.inj h
    cases uncopied

theorem copySection_notStable {checked : FrameOutput} (unstable : s.stableExport = false) :
    copySection s env fence g checked = some checked := by
  unfold copySection rkSurfaceCopyToStableExport
  rw [if_pos unstable]

/-- The references are there for an output that is not copied. -/
def refsHeld (d : Delivery) (env : AssignEnv) : Prop :=
  d.pool = none ∨ env.poolRefs = true ∧ (d.frame.fmt.nv15 = true ∨ env.incRefs = true)

/-- What is published of a frame that is not copied. -/
structure Uncopied (d : Delivery) (env : AssignEnv) (g : FrameGeometry) (output : FrameOutput) :
    Prop where
  fmt : output.fmt = d.frame.fmt
  width : output.width = d.frame.width
  height : output.height = d.frame.height
  tall : g.frameH ≤ output.vstride
  wide : output.hstride = g.srcHs ∧ d.frame.fmt.linearNv12 = true ∨
    g.frameW ≤ output.hstride ∧ d.frame.fmt.nv15 = true
  room : ∃ buffer size, output.boundBuffer = some buffer ∧
    layoutSize output.fmt.is10bit output.hstride.toNat output.vstride.toNat = some size ∧
    size ≤ buffer.size

theorem linearNv12_not15 {fmt : MppFrameFormat} (nv12 : fmt.linearNv12 = true) :
    fmt.nv15 = false := by
  simp only [MppFrameFormat.linearNv12, MppFrameFormat.nv12, MppFrameFormat.nv15,
    Bool.and_eq_true, beq_iff_eq] at nv12 ⊢
  rw [nv12.1]
  rfl

/-- What `retain` does: nothing without a pool or for a copy, else it takes the references. -/
theorem retain_cases {checked : FrameOutput} (h : retain d env checked = some output) :
    output = checked ∧ (d.pool = none ∨ checked.stableExportCopy = true) ∨
      ∃ pool, d.pool = some pool ∧ checked.stableExportCopy = false ∧ env.poolRefs = true ∧
        (checked.converted10bit = true ∨ env.incRefs = true) ∧
        output = { checked with
          backing :=
            if checked.converted10bit then checked.backing
            else externalBufferMatchesPool pool d.frame.buffer
          retainedPool := some pool.id } := by
  unfold retain at h
  split at h
  · rename_i internal
    exact .inl ⟨(Option.some.inj h).symm, .inl internal⟩
  · rename_i pool external
    split at h
    · rename_i copied
      exact .inl ⟨(Option.some.inj h).symm, .inr copied⟩
    · rename_i uncopied
      split at h
      · cases h
      · rename_i held
        simp only [Bool.or_eq_true, Bool.and_eq_true, Bool.not_eq_true', not_or, not_and,
          Bool.not_eq_false] at held
        refine .inr ⟨pool, external, Bool.not_eq_true _ ▸ uncopied, held.2, ?_,
          (Option.some.inj h).symm⟩
        cases converted : checked.converted10bit with
        | false => exact .inr (held.1 converted)
        | true => exact .inl rfl

/-- A frame whose layout fits has a buffer. -/
theorem linearLayoutFits_buffer {frame : MppFrame} (fits : linearLayoutFits g = true)
    (srcSize : g.srcSize = (frame.buffer.map MppBuffer.size).getD 0) :
    ∃ buffer, frame.buffer = some buffer ∧ buffer.size = g.srcSize := by
  obtain ⟨-, -, layout, same, room⟩ := linearLayoutFits_iff.mp fits
  obtain ⟨wide, tall, -, size⟩ := rkNv12LayoutSize_some same
  have luma := Nat.mul_pos wide tall
  cases present : frame.buffer with
  | none =>
    rw [present] at srcSize
    simp only [Option.map_none, Option.getD_none] at srcSize
    omega
  | some buffer =>
    rw [present] at srcSize
    exact ⟨buffer, rfl, srcSize.symm⟩

/-- A picture that is not converted is bound to a buffer of the size that the frame reports. -/
theorem retain_plain {checked : FrameOutput} (kept : retain d env checked = some output)
    (plain : checked.converted10bit = false) (uncopied : checked.stableExportCopy = false)
    (stored : checked.storedFrame = some d.frame) (noBacking : checked.backing = none)
    (matched : d.matches = true) {buffer : MppBuffer} (source : d.frame.buffer = some buffer) :
    ∃ bound, output.boundBuffer = some bound ∧ bound.size = buffer.size := by
  rcases retain_cases kept with ⟨rfl, -⟩ | ⟨pool, external, -, -, -, rfl⟩
  · refine ⟨buffer, ?_, rfl⟩
    rw [FrameOutput.boundBuffer, noBacking, stored]
    exact source
  · rw [Delivery.matches, external] at matched
    obtain ⟨backing, found⟩ := Option.isSome_iff_exists.mp matched
    obtain ⟨mem, b, same, fd⟩ := externalBufferMatchesPool_some found
    have size := d.committed external mem same fd
    obtain rfl := Option.some.inj (source.symm.trans same)
    refine ⟨backing, ?_, size.symm⟩
    rw [FrameOutput.boundBuffer]
    simp only [plain, found, Bool.false_eq_true, if_false]

theorem retain_converted {checked : FrameOutput} (kept : retain d env checked = some output)
    (converted : checked.converted10bit = true) : output.boundBuffer = checked.boundBuffer := by
  rcases retain_cases kept with ⟨rfl, -⟩ | ⟨pool, -, -, -, -, rfl⟩
  · rfl
  · unfold FrameOutput.boundBuffer
    simp only [converted, if_true]

/-- Retaining changes neither the layout nor what is known of the frame. -/
theorem retain_layout {checked : FrameOutput} (kept : retain d env checked = some output) :
    output.fmt = checked.fmt ∧ output.width = checked.width ∧ output.height = checked.height ∧
      output.hstride = checked.hstride ∧ output.vstride = checked.vstride ∧
      output.stableExportCopy = checked.stableExportCopy := by
  rcases retain_cases kept with ⟨rfl, -⟩ | ⟨pool, -, -, -, -, rfl⟩
  · exact ⟨rfl, rfl, rfl, rfl, rfl, rfl⟩
  · exact ⟨rfl, rfl, rfl, rfl, rfl, rfl⟩

theorem retain_refs {checked : FrameOutput} (kept : retain d env checked = some output)
    (uncopied : checked.stableExportCopy = false)
    (converted : checked.converted10bit = true → d.frame.fmt.nv15 = true) : refsHeld d env := by
  rcases retain_cases kept with ⟨-, internal | copied⟩ | ⟨pool, -, -, poolRefs, incRefs, -⟩
  · exact .inl internal
  · rw [uncopied] at copied
    cases copied
  · exact .inr ⟨poolRefs, incRefs.imp_left converted⟩

theorem convertFrame_some {buffer : MppBuffer} (h : convertFrame d env g = some buffer) :
    ∃ size, layoutSize true g.srcHsPixels.toNat g.srcVs.toNat = some size ∧
      size ≤ buffer.size ∧ size ≤ intMax := by
  unfold convertFrame at h
  split at h
  · cases h
  · exact (rkConvertNv15ToP010_some h).2.2

theorem prepare_uncopied (h : prepare d env fence g s = some output)
    (uncopied : output.stableExportCopy = false)
    (srcSize : g.srcSize = (d.frame.buffer.map MppBuffer.size).getD 0) :
    Uncopied d env g output ∧ refsHeld d env ∧ s.stableExport = false ∧
      (d.frame.fmt.linearNv12 = true → linearLayoutFits g = true ∧ d.matches = true) := by
  obtain ⟨first, check, h⟩ := Option.bind_eq_some_iff.mp h
  obtain ⟨second, copy, kept⟩ := Option.bind_eq_some_iff.mp h
  have checked := checkFrame_some check
  obtain ⟨fmt, width, height, hstride, vstride, copied⟩ := retain_layout kept
  obtain ⟨rfl, unstable⟩ := copySection_uncopied copy (copied.symm.trans uncopied)
  have format : output.fmt = d.frame.fmt := fmt.trans checked.fmt
  have tall : g.frameH ≤ output.vstride := by
    rw [vstride, checked.vstride]
    exact checked.tall
  rcases checked.picture with ⟨nv12, fits, plain, stored, source, noBacking, stride⟩ |
    ⟨nv15, wide, converted, noStored, stride, buffer, made, outputBuffer, backing⟩
  · have not15 := linearNv12_not15 nv12
    obtain ⟨buffer, present, size⟩ := linearLayoutFits_buffer fits srcSize
    obtain ⟨bound, isBound, sameSize⟩ :=
      retain_plain kept plain checked.uncopied stored noBacking checked.matched present
    obtain ⟨-, -, layout, layoutEq, room⟩ := linearLayoutFits_iff.mp fits
    refine ⟨⟨format, width.trans checked.width, height.trans checked.height, tall,
      .inl ⟨hstride.trans stride, nv12⟩, bound, layout, isBound, ?_, by omega⟩,
      retain_refs kept checked.uncopied ?_, unstable, fun _ => ⟨fits, checked.matched⟩⟩
    · rw [format, MppFrameFormat.is10bit, not15, hstride, stride, vstride, checked.vstride]
      exact layoutEq
    · intro converted
      rw [plain] at converted
      cases converted
  · obtain ⟨layout, layoutEq, room, -⟩ := convertFrame_some made
    refine ⟨⟨format, width.trans checked.width, height.trans checked.height, tall,
      .inr ⟨(hstride.trans stride).symm ▸ wide, nv15⟩, buffer, layout, ?_, ?_, room⟩,
      retain_refs kept checked.uncopied fun _ => nv15, unstable, fun nv12 => ?_⟩
    · rw [retain_converted kept converted, FrameOutput.boundBuffer, backing]
    · rw [format, MppFrameFormat.is10bit, nv15, hstride, stride, vstride, checked.vstride]
      exact layoutEq
    · rw [linearNv12_not15 nv12] at nv15
      cases nv15

/-- A linear NV12 frame that fits is published as it is, if nothing else keeps it from that. -/
theorem prepare_nv12 (nv12 : d.frame.fmt.linearNv12 = true) (fits : linearLayoutFits g = true)
    (matched : d.matches = true) (refs : refsHeld d env) (unstable : s.stableExport = false) :
    ∃ output, prepare d env fence g s = some output ∧ output.stableExportCopy = false := by
  have not15 := linearNv12_not15 nv12
  have valid : linearLayoutValid d.frame g = true := by
    simp [linearLayoutValid, nv12, fits, MppFrameFormat.linearNv15, not15]
  unfold prepare checkFrame
  simp only [valid, matched, not15, Bool.true_or, Bool.and_self, if_true, Bool.false_eq_true,
    if_false, Option.bind_some, copySection_notStable unstable]
  unfold retain
  split
  · exact ⟨_, rfl, rfl⟩
  · rename_i pool external
    rcases refs with internal | ⟨poolRefs, incRefs⟩
    · rw [external] at internal
      cases internal
    · rw [not15] at incRefs
      rw [poolRefs, incRefs.resolve_left Bool.false_ne_true]
      exact ⟨_, rfl, rfl⟩

/-- Published without a copy, a picture is in a buffer with room for its layout, and what remains
to be checked is the width. -/
theorem Uncopied.encloses (out : Uncopied d env g output)
    (geometry : g = frameGeometry d.frame s₁.width s₁.height)
    (size : s₃.width = s₁.width ∧ s₃.height = s₁.height) :
    (publish s₃ output).Encloses ↔ g.frameW ≤ output.hstride := by
  obtain ⟨buffer, layout, bound, layoutEq, room⟩ := out.room
  obtain ⟨stridePos, vstridePos, even, -⟩ := layoutSize_some layoutEq
  have width : (publish s₃ output).width = g.frameW := by
    rw [geometry]
    simp only [publish, frameGeometry, out.width, size.1]
  have height : (publish s₃ output).height = g.frameH := by
    rw [geometry]
    simp only [publish, frameGeometry, out.height, size.2]
  have hstride : (publish s₃ output).hstride = output.hstride := if_pos (by omega)
  have vstride : (publish s₃ output).vstride = output.vstride := if_pos (by omega)
  have fmt : (publish s₃ output).is10bit = output.fmt.is10bit := rfl
  unfold RKSurface.Encloses
  rw [publish_boundBuffer, width, height, hstride, vstride, fmt]
  constructor
  · exact fun h => h.1
  · exact fun wide => ⟨wide, out.tall, by omega, buffer, layout, bound, layoutEq, room⟩

/-! ## The call -/

/-- A frame that is published without a copy leaves a layout that encloses it, and otherwise the
fence has failed, where it is still current at the end. -/
def LayoutLaw (fence : Nat) (s₃ : RKSurface) (result : Outcome × RKSurface) : Prop :=
  s₃.fence = fence →
    match result.1 with
    | .published output => output.stableExportCopy = true ∨ result.2.Encloses
    | _ => result.2.decoded = false ∧ result.2.decodeFailed = true

/-- A linear NV12 frame whose rows are shorter than the picture is wide, and which nothing else
keeps from being published: the fence stays current, the layout fits the buffer, the buffer is one
of the pool, the references are there, and the surface is not permanent storage. -/
structure NarrowFrame (fence : Nat) (d : Delivery) (env : AssignEnv) (s₁ s₂ s₃ : RKSurface) :
    Prop where
  linearNv12 : d.frame.fmt.linearNv12 = true
  narrow : (frameGeometry d.frame s₁.width s₁.height).srcHs <
    (frameGeometry d.frame s₁.width s₁.height).frameW
  fits : linearLayoutFits (frameGeometry d.frame s₁.width s₁.height) = true
  matched : d.matches = true
  refs : refsHeld d env
  intact : d.frame.errinfo = 0 ∧ d.frame.discard = 0
  unstable : s₂.stableExport = false
  current : s₁.fence = fence ∧ s₃.fence = fence

theorem completeSurfaceRef_failed (current : s.fence = fence) :
    (completeSurfaceRef s fence false).decoded = false ∧
      (completeSurfaceRef s fence false).decodeFailed = true := by
  unfold completeSurfaceRef
  rw [if_pos current]
  exact ⟨rfl, rfl⟩

/-- Where the fence is current from the first section to the last, the call fails it or publishes
what it has prepared. -/
theorem assignMppFrame_current (first : s₁.fence = fence) (last : s₃.fence = fence) :
    (∃ outcome, (outcome = .errored ∨ outcome = .refused) ∧
      assignMppFrame fence d env s₁ s₂ s₃ = (outcome, completeSurfaceRef s₃ fence false)) ∨
    ∃ output, (d.frame.errinfo = 0 ∧ d.frame.discard = 0) ∧
      prepare d env fence (frameGeometry d.frame s₁.width s₁.height) s₂ = some output ∧
      assignMppFrame fence d env s₁ s₂ s₃ = (.published output, publish s₃ output) := by
  unfold assignMppFrame
  rw [if_neg (not_not.mpr first)]
  split
  · exact .inl ⟨.errored, .inl rfl, rfl⟩
  · rename_i intact
    split
    · exact .inl ⟨.refused, .inr rfl, rfl⟩
    · rename_i output prepared
      rw [if_neg (not_not.mpr last)]
      exact .inr ⟨output, by simpa only [ne_eq, not_or, not_not] using intact, prepared, rfl⟩

/-- Every layout that is published encloses the picture, except that of a linear NV12 frame whose
stride is below its width. -/
theorem layoutLaw_iff (others : Interference fence s₁ s₂) (others' : Interference fence s₂ s₃) :
    LayoutLaw fence s₃ (assignMppFrame fence d env s₁ s₂ s₃) ↔
      ¬ NarrowFrame fence d env s₁ s₂ s₃ := by
  have kept : SizeKept fence s₁ s₃ := Interference.sizeKept (others.trans others')
  generalize geometry : frameGeometry d.frame s₁.width s₁.height = g
  have srcSize : g.srcSize = (d.frame.buffer.map MppBuffer.size).getD 0 := by
    rw [← geometry]
    rfl
  constructor
  · intro law frame
    obtain ⟨linearNv12, narrow, fits, matched, refs, intact, unstable, current, current'⟩ := frame
    rw [geometry] at narrow fits
    obtain ⟨output, prepared, uncopied⟩ : ∃ output, prepare d env fence g s₂ = some output ∧
        output.stableExportCopy = false := prepare_nv12 linearNv12 fits matched refs unstable
    have result : assignMppFrame fence d env s₁ s₂ s₃ = (.published output, publish s₃ output) := by
      unfold assignMppFrame
      rw [if_neg (not_not.mpr current), if_neg (by simp [intact]), geometry, prepared]
      exact if_neg (not_not.mpr current')
    rw [result] at law
    obtain ⟨out, -⟩ := prepare_uncopied prepared uncopied srcSize
    rcases law current' with copied | encloses
    · exact absurd (uncopied.symm.trans copied) Bool.false_ne_true
    · have wide := (out.encloses geometry.symm (kept current').2).mp encloses
      rcases out.wide with ⟨stride, -⟩ | ⟨-, nv15⟩
      · omega
      · rw [linearNv12_not15 linearNv12] at nv15
        cases nv15
  · intro regular current'
    obtain ⟨current, size⟩ := kept current'
    rcases assignMppFrame_current current current' with
      ⟨outcome, failed, result⟩ | ⟨output, intact, prepared, result⟩
    · rw [result]
      rcases failed with rfl | rfl
      · exact completeSurfaceRef_failed current'
      · exact completeSurfaceRef_failed current'
    · rw [result]
      rw [geometry] at prepared
      cases uncopied : output.stableExportCopy with
      | true => exact .inl uncopied
      | false =>
        obtain ⟨out, refs, unstable, nv12⟩ := prepare_uncopied prepared uncopied srcSize
        refine .inr ((out.encloses geometry.symm size).mpr ?_)
        rcases out.wide with ⟨stride, linearNv12⟩ | ⟨wide, -⟩
        · by_contra narrow
          obtain ⟨fits, matched⟩ := nv12 linearNv12
          refine regular ⟨linearNv12, ?_, ?_, matched, refs, intact, unstable, current, current'⟩
          · rw [geometry]
            omega
          · rw [geometry]
            exact fits
        · exact wide

end

/-! ## A narrow frame -/

/-- A surface of 1920x1080 in NV12, in its first picture. -/
def begunSurface : RKSurface where
  width := 1920
  height := 1080
  width_pos := by decide
  height_pos := by decide
  frame := none
  backingBuf := none
  decodePool := none
  hstride := 1920
  vstride := 1088
  privBuf := ⟨0, 10, -1, 4456448⟩
  stableExport := false
  exportBuf := none
  exportFence := 0
  exportHstride := 0
  exportVstride := 0
  imported := none
  encoderInput := false
  fmt := ⟨.yuv420sp, false⟩
  fourcc := .nv12
  decoded := false
  decodeFailed := false
  h264FieldPending := false
  ctxId := 1
  fence := 1

/-- A linear NV12 frame of that size with a stride, in a buffer of MPP's own. -/
def strideDelivery (horStride : Int) : Delivery where
  frame :=
    { errinfo := 0, discard := 0, buffer := some ⟨1, 11, 0, 3133440⟩, width := 1920
      height := 1080, horStride := horStride, verStride := 1088, horStridePixel := horStride
      fbcHdrStride := 0, offsetX := 0, offsetY := 0, fmt := ⟨.yuv420sp, false⟩ }
  pool := none
  committed := fun external => by cases external

/-- Nothing can be allocated. -/
def noMemory : Allocator := ⟨fun _ => none, fun h => by cases h⟩

def plainEnv : AssignEnv := ⟨noMemory, true, true, true, true⟩

theorem layoutLaw_iff_wide :
    LayoutLaw 1 begunSurface
      (assignMppFrame 1 (strideDelivery 1920) plainEnv begunSurface begunSurface begunSurface) :=
  (layoutLaw_iff .refl .refl).mpr fun frame => absurd frame.narrow (by decide)

/-- Rows of 1024 bytes are published for a picture that is 1920 wide. -/
theorem narrowFrame_published :
    (assignMppFrame 1 (strideDelivery 1024) plainEnv begunSurface begunSurface
        begunSurface).2.width = 1920 ∧
      (assignMppFrame 1 (strideDelivery 1024) plainEnv begunSurface begunSurface
        begunSurface).2.hstride = 1024 ∧
      ¬ LayoutLaw 1 begunSurface
        (assignMppFrame 1 (strideDelivery 1024) plainEnv begunSurface begunSurface
          begunSurface) := by
  have published : ∃ output, assignMppFrame 1 (strideDelivery 1024) plainEnv begunSurface
      begunSurface begunSurface = (.published output, publish begunSurface output) ∧
      output.stableExportCopy = false ∧ (publish begunSurface output).width = 1920 ∧
      (publish begunSurface output).hstride = 1024 := ⟨_, rfl, rfl, rfl, rfl⟩
  obtain ⟨output, result, uncopied, width, hstride⟩ := published
  rw [result]
  refine ⟨width, hstride, fun law => ?_⟩
  rcases law rfl with copied | ⟨wide, -⟩
  · exact absurd (uncopied.symm.trans copied) Bool.false_ne_true
  · rw [width, hstride] at wide
    exact absurd wide (by decide)

end RockchipVaapi.Surface
