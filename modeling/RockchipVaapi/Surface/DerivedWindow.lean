import RockchipVaapi.Surface.Derived

/-!
# The access window of a derived image

`derived_still_valid` drops the cached mapping and changes the recorded number wherever it finds the
surface bound to another buffer of the same geometry, also while a client uses the mapping. Then the
access that was started for the client is never ended.
-/

namespace RockchipVaapi.Surface
open Transition DerivedState

/-! ## Windows -/

/-- The access that is open behind a history, where every one that was started was ended on the same
buffer before the next was started. -/
def window : List CpuSync → Option (Option Nat)
  | [] => some none
  | .start buffer :: syncs => if window syncs = some none then some (some buffer) else none
  | .end_ buffer :: syncs => if window syncs = some (some buffer) then some none else none

/-- The mapping of the client is there, and the accesses are bracketed: one is open exactly while
the client has a mapping. -/
def Bracketed (st : DerivedState) : Prop :=
  (∀ m buffer, st.held = some (m, buffer) → m ∈ st.mappings) ∧
    window st.syncs = some (st.held.map Prod.snd)

/-- Successful maps and unmaps alternate. -/
def Alternates (st : DerivedState) (a : DerivedAction) : Prop :=
  ∀ st', derivedStep st a = some st' →
    (∀ m, st'.answer = .mapped m → st.held = none) ∧ (st'.answer = .unmapped → st.held.isSome)

/-- While the client has a mapping, no call finds the surface bound to another buffer of the same
geometry under another number, and an access is ended under a number that still denotes the buffer
for which it was started. -/
def KeepsWindow (st : DerivedState) : DerivedAction → Prop
  | .map _ => st.held.isSome → ¬st.Switches
  | .unmap ends => ∀ m buffer, st.held = some (m, buffer) → ends = true →
      ∀ buffer', st.fds st.buffer.derivedFd = some buffer' → buffer' = buffer
  | .acquire memType _ rebinding => st.held.isSome → memType ≠ .other → ¬st.Switches ∧
      ∀ surface fds, rebinding = some (surface, fds) → (∃ layout, st.Describes layout) →
        st.buffer.acquired = none → ¬(st.rebind surface fds).Switches
  | _ => True

/-! ## Steps -/

section

variable {image : DerivedBuffer} {st st' : DerivedState}

/-- A call that hands out no mapping and takes none back. -/
theorem bracketed_iff_kept {Q : Prop} (good : Bracketed st) (held : st'.held = st.held)
    (syncs : st'.syncs = st.syncs)
    (mappings : ∀ m buffer, st.held = some (m, buffer) → (m ∈ st'.mappings ↔ m ∈ st.mappings ∧ Q)) :
    Bracketed st' ↔ (st.held.isSome → Q) := by
  unfold Bracketed
  rw [held, syncs, and_iff_left good.2]
  constructor
  · intro all some_held
    obtain ⟨⟨m, buffer⟩, same⟩ := Option.isSome_iff_exists.mp some_held
    exact ((mappings m buffer same).mp (all m buffer same)).2
  · intro kept m buffer same
    exact (mappings m buffer same).mpr
      ⟨good.1 m buffer same, kept (Option.isSome_iff_exists.mpr ⟨_, same⟩)⟩

/-- A look at the surface only drops mappings, and all of them. -/
theorem DerivedInv.mem_check (h : DerivedInv image st) {valid : Bool} (check : Check st (st', valid))
    (m : Mapping) : m ∈ st'.mappings ↔ m ∈ st.mappings ∧ ¬st.Switches := by
  cases check with
  | refused gone => rw [and_iff_left (not_switches_of_refused gone)]
  | same here number => rw [and_iff_left (not_switches_of_same here number)]
  | switched here number =>
    rw [h.switch_mappings]
    exact ⟨fun no => absurd no List.not_mem_nil, fun kept => absurd ⟨_, here, number⟩ kept.2⟩

theorem DerivedState.Check.access {valid : Bool} (check : Check st (st', valid)) :
    st'.held = st.held ∧ st'.syncs = st.syncs := by
  cases check with
  | refused gone => exact ⟨rfl, rfl⟩
  | same here number => exact ⟨rfl, rfl⟩
  | switched here number => exact ⟨rfl, rfl⟩

theorem bracketed_map (h : DerivedInv image st) (good : Bracketed st) {env : MapEnv}
    (alternates : ∀ m, st'.answer = .mapped m → st.held = none) (move : MapMove st env st') :
    Bracketed st' ↔ (st.held.isSome → ¬st.Switches) := by
  -- a mapping that is handed out lies in an access that has just been started
  have handed {st₁ st₂ : DerivedState} {m : Mapping} {buffer : Nat} (check : Check st (st₁, true))
      (syncs : st₂.syncs = st₁.syncs) (mem : m ∈ st₂.mappings) (unheld : st.held = none) :
      Bracketed (st₂.started m buffer) ↔ (st.held.isSome → ¬st.Switches) := by
    refine iff_of_true ⟨fun m' buffer' same => ?_, ?_⟩ fun some_held => ?_
    · obtain ⟨rfl, -⟩ := Prod.mk.inj (Option.some.inj same)
      exact mem
    · have before := good.2
      rw [unheld, ← check.access.2, ← syncs] at before
      exact if_pos before
    · rw [unheld] at some_held
      cases some_held
  cases move with
  | refused gone =>
    exact bracketed_iff_kept good rfl rfl fun m _ _ => h.mem_check (.refused gone) m
  | unmappable check new =>
    exact bracketed_iff_kept good check.access.1 check.access.2 fun m _ _ => h.mem_check check m
  | unstarted check cached failed =>
    exact bracketed_iff_kept good check.access.1 check.access.2 fun m _ _ => h.mem_check check m
  | again check cached starts denotes =>
    exact handed check rfl ((h.check check).cached_mem cached) (alternates _ rfl)
  | onlyMapped check new =>
    rename_i st₁ buffer
    refine bracketed_iff_kept good check.access.1 check.access.2 fun m b same => ?_
    -- the new mapping is not the one of the client
    have older : m ∉ ([] : List Mapping) := List.not_mem_nil
    have empty : st₁.mappings = [] := by rw [(h.check check).cached, new, Option.toList_none]
    rw [← h.mem_check check m, empty]
    refine ⟨fun mem => ?_, fun no => absurd no older⟩
    have serial := (h.check check).heldSerial m b (check.access.1.trans same)
    rw [show ((st₁.addMapping buffer).1.fail .operationFailed).mappings =
      (st₁.addMapping buffer).2 :: st₁.mappings from rfl, empty, List.mem_singleton] at mem
    rw [mem] at serial
    exact absurd serial (Nat.lt_irrefl st₁.nextMapping)
  | fresh check new denotes =>
    exact handed check rfl List.mem_cons_self (alternates _ rfl)

theorem bracketed_unmap (h : DerivedInv image st) (good : Bracketed st) {ends : Bool}
    (alternates : (st.unmapBuffer ends).answer = .unmapped → st.held.isSome) :
    Bracketed (st.unmapBuffer ends) ↔ KeepsWindow st (.unmap ends) := by
  unfold unmapBuffer at alternates ⊢
  split
  · -- the client has a mapping, and it is the cached one
    rename_i uncached
    rw [if_pos uncached] at alternates
    obtain ⟨⟨m, buffer⟩, held⟩ := Option.isSome_iff_exists.mp (alternates rfl)
    have mem := good.1 m buffer held
    rw [h.cached, Option.isNone_iff_eq_none.mp uncached] at mem
    cases mem
  · rename_i cached
    rw [if_neg cached] at alternates
    cases ended : (if ends then st.fds st.buffer.derivedFd else none) with
    | none =>
      refine iff_of_true good fun m buffer held all buffer' denotes => ?_
      rw [if_pos all, denotes] at ended
      cases ended
    | some buffer' =>
      rw [ended] at alternates
      obtain ⟨⟨m, buffer⟩, held⟩ := Option.isSome_iff_exists.mp (alternates rfl)
      have opened := good.2
      rw [held, Option.map_some] at opened
      have denotes : ends = true ∧ st.fds st.buffer.derivedFd = some buffer' := by
        split at ended
        · rename_i all
          exact ⟨all, ended⟩
        · cases ended
      constructor
      · intro after m₁ buffer₁ held₁ _ buffer₂ denotes₂
        obtain ⟨rfl, rfl⟩ := Prod.mk.inj (Option.some.inj (held.symm.trans held₁))
        obtain rfl := Option.some.inj (denotes.2.symm.trans denotes₂)
        have closed : window (.end_ buffer' :: st.syncs) = some none := after.2
        by_contra other
        rw [window, opened,
          if_neg fun same => other (Option.some.inj (Option.some.inj same)).symm] at closed
        cases closed
      · intro keeps
        obtain rfl := keeps m buffer held denotes.1 buffer' denotes.2
        refine ⟨fun m buffer no => (by cases no), ?_⟩
        show window (.end_ buffer' :: st.syncs) = some none
        rw [window, if_pos opened]

theorem DerivedState.meanwhile_switches (st : DerivedState) (dup : Option Int)
    (rebinding : Option (RKSurface × FdTable)) (settled : ¬st.Switches) :
    ¬((st.duplicate dup).meanwhile rebinding).Switches ↔
      ∀ surface fds, rebinding = some (surface, fds) → ¬(st.rebind surface fds).Switches := by
  cases rebinding with
  | none => exact iff_of_true settled fun _ _ no => by cases no
  | some r =>
    constructor
    · intro stays surface fds same
      obtain rfl := Option.some.inj same
      exact stays
    · intro stays
      exact stays r.1 r.2 rfl

theorem bracketed_acquire (h : DerivedInv image st) (good : Bracketed st) {memType : MemType}
    {dup : Option Int} {rebinding : Option (RKSurface × FdTable)}
    (alive : rebinding.all (fun r => bound r.1 r.2) = true)
    (move : AcquireMove st memType dup rebinding st') :
    Bracketed st' ↔ KeepsWindow st (.acquire memType dup rebinding) := by
  -- the call goes as far as the second look
  have twice {st₁ st₂ : DerivedState} {valid : Bool} (supported : memType ≠ .other)
      (check : Check st (st₁, true)) (new : st₁.buffer.acquired = none)
      (checkAgain : Check ((st₁.duplicate dup).meanwhile rebinding) (st₂, valid))
      (held : st'.held = st₂.held) (syncs : st'.syncs = st₂.syncs)
      (mappings : st'.mappings = st₂.mappings) :
      Bracketed st' ↔ KeepsWindow st (.acquire memType dup rebinding) := by
    have inv := ((h.check check).duplicate dup).meanwhile alive
    have between : ((st₁.duplicate dup).meanwhile rebinding).held = st₁.held ∧
        ((st₁.duplicate dup).meanwhile rebinding).syncs = st₁.syncs ∧
        ((st₁.duplicate dup).meanwhile rebinding).mappings = st₁.mappings := by
      cases rebinding <;> exact ⟨rfl, rfl, rfl⟩
    have access := checkAgain.access
    rw [between.1, between.2.1, check.access.1, check.access.2] at access
    refine (bracketed_iff_kept (Q := ¬st.Switches ∧
      ¬((st₁.duplicate dup).meanwhile rebinding).Switches) good (held.trans access.1)
      (syncs.trans access.2) fun m _ _ => ?_).trans ?_
    · rw [mappings, inv.mem_check checkAgain, between.2.2, h.mem_check check, and_assoc]
    · refine imp_congr_right fun _ => ?_
      rw [imp_iff_right supported]
      refine and_congr_right fun settled => ?_
      cases check with
      | switched here number => exact absurd ⟨_, here, number⟩ settled
      | same here number =>
        rw [meanwhile_switches st dup rebinding settled]
        exact forall_congr' fun surface => forall_congr' fun fds => imp_congr_right fun _ =>
          ⟨fun stays _ _ => stays, fun stays => stays ⟨_, here⟩ new⟩
  cases move with
  | unsupported other =>
    exact iff_of_true good fun _ supported => absurd other supported
  | refused gone =>
    exact iff_of_true good fun _ _ => ⟨not_switches_of_refused gone, fun _ _ _ here =>
      absurd here.choose_spec (gone _)⟩
  | again supported check cached =>
    cases check with
    | same here number =>
      refine iff_of_true good fun _ _ => ⟨not_switches_of_same here number, fun _ _ _ _ new => ?_⟩
      rw [cached] at new
      cases new
    | switched here number => cases cached
  | lost supported check new gone => exact twice supported check new (.refused gone) rfl rfl rfl
  | closed supported check new checkAgain closed => exact twice supported check new checkAgain rfl rfl rfl
  | fresh supported check new checkAgain here => exact twice supported check new checkAgain rfl rfl rfl

theorem bracketed_step (h : DerivedInv image st) (good : Bracketed st) {a : DerivedAction}
    (alternates : Alternates st a) (hstep : derivedStep st a = some st') :
    Bracketed st' ↔ KeepsWindow st a := by
  have answers := alternates st' hstep
  cases a with
  | rebind surface fds =>
    simp only [derivedStep] at hstep
    split at hstep
    · obtain rfl := Option.some.inj hstep
      exact iff_of_true good trivial
    · cases hstep
  | map env =>
    obtain rfl := Option.some.inj hstep
    exact bracketed_map h good answers.1 (mapBuffer_move st env)
  | unmap ends =>
    obtain rfl := Option.some.inj hstep
    exact bracketed_unmap h good answers.2
  | acquire memType dup rebinding =>
    simp only [derivedStep] at hstep
    split at hstep
    · rename_i alive
      obtain rfl := Option.some.inj hstep
      exact bracketed_acquire h good alive (acquireHandle_move st memType dup rebinding)
    · cases hstep
  | release =>
    obtain rfl := Option.some.inj hstep
    exact iff_of_true good trivial

end

/-- Along a run in which successful maps and unmaps alternate, the mapping of the client stays and
the accesses are bracketed exactly if every step keeps the window. -/
theorem derivedMapping_bracketed_iff {surface : RKSurface} {fds : FdTable} {image : DerivedBuffer}
    (alive : bound surface fds = true) (derived : rkDeriveImage surface = some image)
    {acts : List DerivedAction} {st : DerivedState}
    (alternates : Throughout derivedStep Alternates (.init surface fds image) acts)
    (hrun : run derivedStep (.init surface fds image) acts = some st) :
    (∀ front back middle, acts = front ++ back →
      run derivedStep (.init surface fds image) front = some middle → Bracketed middle) ↔
      Throughout derivedStep KeepsWindow (.init surface fds image) acts :=
  throughout_iff_reached (I := DerivedInv image) (J := Bracketed)
    (fun _ _ _ h => derivedInv_step h) (fun _ _ _ h good => bracketed_step h good)
    (derivedInv_init alive derived) ⟨fun _ _ no => (by cases no), rfl⟩ alternates hrun

/-! ## Runs -/

/-- A surface of 64x16 samples before it is decoded to. -/
def smallSurface : RKSurface where
  width := 64
  height := 16
  width_pos := by omega
  height_pos := by omega
  frame := none
  backingBuf := none
  decodePool := none
  hstride := 64
  vstride := 16
  privBuf := ⟨0, 30, -1, 1536⟩
  stableExport := false
  exportBuf := none
  exportFence := 0
  exportHstride := 0
  exportVstride := 0
  imported := none
  encoderInput := false
  fmt := ⟨.yuv420sp, false⟩
  fourcc := .nv12
  decoded := false
  decodeFailed := false
  h264FieldPending := false
  ctxId := 0
  fence := 0

/-- The surface after a picture in a buffer. -/
def decodedInto (buffer : MppBuffer) : RKSurface :=
  publish (beginPicture smallSurface 1 false)
    { storedFrame := some
        { errinfo := 0, discard := 0, buffer := some buffer, width := 64, height := 16
          horStride := 64, verStride := 16, horStridePixel := 64, fbcHdrStride := 0
          offsetX := 0, offsetY := 0, fmt := ⟨.yuv420sp, false⟩ }
      outputBuffer := some buffer, backing := none, retainedPool := none
      fmt := ⟨.yuv420sp, false⟩, width := 64, height := 16, hstride := 64, vstride := 16
      converted10bit := false, stableExportCopy := false }

/-- Two buffers of one pool, under the numbers 20 and 21. -/
def pooledFds : FdTable := fun fd => if fd = 20 then some 1 else if fd = 21 then some 2 else none

def firstImage : DerivedBuffer := ⟨20, 1536, 64, 1024, none, none⟩

/-- Nothing but the mapping and its end. -/
theorem derivedMapping_bracketed_mapUnmap :
    (∀ front back middle, [DerivedAction.map ⟨true, true⟩, .unmap true] = front ++ back →
      run derivedStep (.init (decodedInto ⟨1, 20, 0, 1536⟩) pooledFds firstImage) front = some middle →
        Bracketed middle) ↔
      Throughout derivedStep KeepsWindow (.init (decodedInto ⟨1, 20, 0, 1536⟩) pooledFds firstImage)
        [.map ⟨true, true⟩, .unmap true] := by
  refine derivedMapping_bracketed_iff (by decide) (by decide) (throughout_cons ?_ rfl
    (throughout_cons ?_ rfl trivial)) rfl
  · intro st' same
    obtain rfl := Option.some.inj same
    exact ⟨fun m _ => rfl, fun no => (by cases no)⟩
  · intro st' same
    obtain rfl := Option.some.inj same
    exact ⟨fun m no => (by cases no), fun _ => rfl⟩

/-- The client maps the image, the next picture comes into the other buffer, and the client asks for
the handle: its mapping is gone, and its unmap succeeds without ending the access. -/
def reboundRun : List DerivedAction :=
  [.map ⟨true, true⟩, .rebind (decodedInto ⟨2, 21, 1, 1536⟩) pooledFds,
    .acquire .drmPrime (some 40) none, .unmap true]

theorem reboundRun_alternates : Throughout derivedStep Alternates
    (.init (decodedInto ⟨1, 20, 0, 1536⟩) pooledFds firstImage) reboundRun := by
  refine throughout_cons ?_ rfl (throughout_cons ?_ rfl (throughout_cons ?_ rfl
    (throughout_cons ?_ rfl trivial)))
  · intro st' same
    obtain rfl := Option.some.inj same
    exact ⟨fun m _ => rfl, fun no => (by cases no)⟩
  · intro st' same
    obtain rfl := Option.some.inj same
    exact ⟨fun m no => (by cases no), fun no => (by cases no)⟩
  · intro st' same
    obtain rfl := Option.some.inj same
    exact ⟨fun m no => (by cases no), fun no => (by cases no)⟩
  · intro st' same
    obtain rfl := Option.some.inj same
    exact ⟨fun m no => (by cases no), fun _ => rfl⟩

theorem reboundRun_drops_mapping : ∃ middle st,
    run derivedStep (.init (decodedInto ⟨1, 20, 0, 1536⟩) pooledFds firstImage)
      (reboundRun.take 3) = some middle ∧
    run derivedStep (.init (decodedInto ⟨1, 20, 0, 1536⟩) pooledFds firstImage) reboundRun = some st ∧
    rkDeriveImage (decodedInto ⟨1, 20, 0, 1536⟩) = some firstImage ∧
    Throughout derivedStep Alternates (.init (decodedInto ⟨1, 20, 0, 1536⟩) pooledFds firstImage)
      reboundRun ∧
    middle.held = some (⟨0, 1, 1536⟩, 1) ∧ middle.mappings = [] ∧ ¬Bracketed middle ∧
    st.answer = .unmapped ∧ st.syncs = [.start 1] ∧ ¬Bracketed st := by
  refine ⟨_, _, rfl, rfl, by decide, reboundRun_alternates, rfl, rfl, ?_, rfl, rfl, ?_⟩
  · intro good
    exact absurd (good.1 _ _ rfl) List.not_mem_nil
  · intro good
    exact absurd good.2 (by decide)

end RockchipVaapi.Surface
