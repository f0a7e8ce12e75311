import RockchipVaapi.Misc.Transition
import RockchipVaapi.Surface.Export

/-!
# Derived images

The buffer of a derived image has no memory of its own: `rk_MapBuffer` maps the buffer that the
surface is bound to and brackets the access of the CPU, `rk_buffer_acquire_handle` duplicates its
descriptor. Both look the surface up again before every use, by the number of the descriptor and by
the layout. The kernel is part of the state: which buffer a number denotes, which mappings there
are, and which accesses were started and ended.
-/

namespace RockchipVaapi.Surface

/-! ## The layout of a surface -/

/-- What `surface_linear_layout` returns. -/
structure LinearLayout where
  fd : Int
  objectSize : Nat
  pitch : Nat
  chromaOffset : Nat
  deriving DecidableEq, Repr

/-- The pitch in bytes: `hstride` counts pixels. -/
def RKSurface.linearPitch (s : RKSurface) : Nat :=
  let hstride := toUint32 s.exportedHstride
  if s.is10bit then hstride * 2 % 2 ^ 32 else hstride

/-- `surface_linear_layout` (`buffer.c:53-90`). -/
def surfaceLinearLayout (s : RKSurface) : Option LinearLayout :=
  if s.imported.any Imported.multiplane then none
  else
    let fd := s.activeBuffer.elim (-1) MppBuffer.fd
    let objectSize := s.activeBuffer.elim 0 MppBuffer.size
    let vstride := toUint32 s.exportedVstride
    let chromaOffset := s.linearPitch * vstride
    if fd < 0 ∨ objectSize = 0 ∨ objectSize < (chromaOffset + chromaOffset / 2) % 2 ^ 64 then none
    else some ⟨fd, objectSize, s.linearPitch, chromaOffset⟩

/-! ## The buffer of a derived image -/

/-- A mapping of a buffer. `serial` tells mappings apart, also those at one address. -/
structure Mapping where
  serial : Nat
  buffer : Nat
  size : Nat
  deriving DecidableEq, Repr

/-- A descriptor that `dup` made, and the buffer it denotes. -/
structure DupFd where
  fd : Int
  buffer : Nat
  deriving DecidableEq, Repr

/-- What `RKBuffer` has for a derived image. -/
structure DerivedBuffer where
  derivedFd : Int
  derivedSize : Nat
  derivedPitch : Nat
  derivedChromaOffset : Nat
  derivedMap : Option Mapping
  acquired : Option DupFd
  deriving DecidableEq, Repr

/-- The layout of a P010 placeholder that decoding will not change (`buffer.c:606-610`). -/
def RKSurface.stableProvisionalP010 (s : RKSurface) : Bool :=
  s.is10bit && !s.decoded && decide (s.width ≤ s.hstride) && s.hstride % 64 == 0 &&
    decide (s.height ≤ s.vstride) && s.vstride % 16 == 0

/-- `rk_DeriveImage` (`buffer.c:575-666`) behind its wait for the picture, where its allocations
succeed. -/
def rkDeriveImage (s : RKSurface) : Option DerivedBuffer :=
  if s.imported.isSome || s.frame.isSome && s.fmt.afbc ||
      s.is10bit && !s.decoded && !s.stableProvisionalP010 || s.encoderInput then none
  else
    match surfaceLinearLayout s with
    | none => none
    | some layout =>
      if uint32Max < layout.objectSize ∨ 0xffff < s.width ∨ 0xffff < s.height then none
      else some ⟨layout.fd, layout.objectSize, layout.pitch, layout.chromaOffset, none, none⟩

/-! ## The state -/

/-- Which buffer a number denotes. -/
abbrev FdTable := Int → Option Nat

/-- `DMA_BUF_IOCTL_SYNC` of a buffer, where it succeeds. -/
inductive CpuSync
  | start (buffer : Nat)
  | end_ (buffer : Nat)
  deriving DecidableEq, Repr

inductive DerivedError
  | operationFailed
  | allocationFailed
  | unsupportedMemoryType
  deriving DecidableEq, Repr

/-- What the last call returned. -/
inductive Answer
  | none
  | failed (error : DerivedError)
  | mapped (m : Mapping)
  | unmapped
  | acquired (handle : DupFd) (memSize : Nat)
  | released
  deriving DecidableEq, Repr

/-- A derived image, its surface and the kernel. `held` is history: the mapping that the client got
and has not unmapped, with the buffer whose access was started for it. `syncs` is history too, with
the latest first. -/
structure DerivedState where
  surface : RKSurface
  fds : FdTable
  buffer : DerivedBuffer
  mappings : List Mapping
  nextMapping : Nat
  syncs : List CpuSync
  held : Option (Mapping × Nat)
  answer : Answer

/-- The buffer that a surface is bound to is alive, and its strides are those of a surface that is
decoded to. -/
def bound (s : RKSurface) (fds : FdTable) : Bool :=
  s.activeBuffer.all (fun b => decide (b.fd < 0) || fds b.fd == some b.handle) &&
    decide (0 ≤ s.hstride) && decide (s.hstride ≤ intMax) && decide (0 ≤ s.vstride) &&
    decide (s.vstride ≤ intMax) && decide (s.width ≤ intMax) && decide (s.height ≤ intMax)

def DerivedState.init (s : RKSurface) (fds : FdTable) (buffer : DerivedBuffer) : DerivedState :=
  ⟨s, fds, buffer, [], 0, [], none, .none⟩

namespace DerivedState

def fail (st : DerivedState) (error : DerivedError) : DerivedState :=
  { st with answer := .failed error }

/-- The surface is bound to something else; numbers that nothing holds open may have been reused. -/
def rebind (st : DerivedState) (surface : RKSurface) (fds : FdTable) : DerivedState :=
  { st with surface := surface, fds := fds, answer := .none }

/-- The end of `derived_still_valid` for a buffer with another number (`buffer.c:117-130`). -/
def switch (st : DerivedState) (layout : LinearLayout) : DerivedState :=
  { st with
    mappings := st.mappings.filter fun m => some m != st.buffer.derivedMap
    buffer := { st.buffer with
      derivedMap := none, acquired := none
      derivedFd := layout.fd, derivedSize := layout.objectSize } }

/-- `derived_still_valid` (`buffer.c:97-132`). -/
def derivedStillValid (st : DerivedState) : DerivedState × Bool :=
  match surfaceLinearLayout st.surface with
  | none => (st, false)
  | some layout =>
    if layout.pitch ≠ st.buffer.derivedPitch ∨
        layout.chromaOffset ≠ st.buffer.derivedChromaOffset then (st, false)
    else if layout.fd ≠ st.buffer.derivedFd then (st.switch layout, true)
    else (st, true)

/-- What the kernel answers in `rk_MapBuffer`. -/
structure MapEnv where
  maps : Bool
  starts : Bool
  deriving DecidableEq, Repr

/-- The end of `rk_MapBuffer`, which starts the access of the CPU (`buffer.c:245-254`). -/
def startAccess (st : DerivedState) (starts : Bool) (m : Mapping) : DerivedState :=
  match if starts then st.fds st.buffer.derivedFd else none with
  | none => st.fail .operationFailed
  | some buffer =>
    { st with
      syncs := .start buffer :: st.syncs, held := some (m, buffer), answer := .mapped m }

/-- `mmap` of `derived_fd` (`buffer.c:234-244`). -/
def addMapping (st : DerivedState) (buffer : Nat) : DerivedState × Mapping :=
  let m : Mapping := ⟨st.nextMapping, buffer, st.buffer.derivedSize⟩
  ({ st with
      mappings := m :: st.mappings, nextMapping := st.nextMapping + 1
      buffer := { st.buffer with derivedMap := some m } }, m)

/-- `rk_MapBuffer` of a derived image (`buffer.c:228-256`). -/
def mapBuffer (st : DerivedState) (env : MapEnv) : DerivedState :=
  if st.derivedStillValid.2 = false then st.derivedStillValid.1.fail .operationFailed
  else
    let st := st.derivedStillValid.1
    match st.buffer.derivedMap with
    | some m => st.startAccess env.starts m
    | none =>
      match if env.maps then st.fds st.buffer.derivedFd else none with
      | none => st.fail .operationFailed
      | some buffer => (st.addMapping buffer).1.startAccess env.starts (st.addMapping buffer).2

/-- `rk_UnmapBuffer` of a derived image (`buffer.c:292-303`). -/
def unmapBuffer (st : DerivedState) (ends : Bool) : DerivedState :=
  if st.buffer.derivedMap.isNone then { st with held := none, answer := .unmapped }
  else
    match if ends then st.fds st.buffer.derivedFd else none with
    | none => st.fail .operationFailed
    | some buffer =>
      { st with syncs := .end_ buffer :: st.syncs, held := none, answer := .unmapped }

/-- `mem_type` of the caller's `VABufferInfo`. -/
inductive MemType
  | any
  | drmPrime
  | other
  deriving DecidableEq, Repr

/-- The descriptor that is handed out (`buffer.c:347-353`). -/
def handOut (st : DerivedState) : DerivedState :=
  match st.buffer.acquired with
  | none => st.fail .allocationFailed
  | some handle => { st with answer := .acquired handle st.buffer.derivedSize }

/-- `acquired_fd = dup(derived_fd)`. -/
def duplicate (st : DerivedState) (dup : Option Int) : DerivedState :=
  { st with buffer := { st.buffer with
      acquired := dup.bind fun fd => (st.fds st.buffer.derivedFd).map fun buffer => ⟨fd, buffer⟩ } }

/-- The surface may be rebound by another thread. -/
def meanwhile (st : DerivedState) : Option (RKSurface × FdTable) → DerivedState
  | none => st
  | some (surface, fds) => st.rebind surface fds

/-- `rk_buffer_acquire_handle` of a derived image (`buffer.c:319-354`). The surface may be rebound
between its two checks. -/
def acquireHandle (st : DerivedState) (memType : MemType) (dup : Option Int)
    (rebinding : Option (RKSurface × FdTable)) : DerivedState :=
  if memType = .other then st.fail .unsupportedMemoryType
  else if st.derivedStillValid.2 = false then st.derivedStillValid.1.fail .operationFailed
  else
    let st := st.derivedStillValid.1
    if st.buffer.acquired.isSome then st.handOut
    else
      let st := (st.duplicate dup).meanwhile rebinding
      if st.derivedStillValid.2 = false then st.derivedStillValid.1.fail .operationFailed
      else st.derivedStillValid.1.handOut

/-- `rk_buffer_release_handle` (`buffer.c:357-370`). -/
def releaseHandle (st : DerivedState) : DerivedState :=
  { st with buffer := { st.buffer with acquired := none }, answer := .released }

end DerivedState

open DerivedState

inductive DerivedAction
  | rebind (surface : RKSurface) (fds : FdTable)
  | map (env : MapEnv)
  | unmap (ends : Bool)
  | acquire (memType : MemType) (dup : Option Int) (rebinding : Option (RKSurface × FdTable))
  | release

def derivedStep (st : DerivedState) : DerivedAction → Option DerivedState
  | .rebind surface fds => if bound surface fds then some (st.rebind surface fds) else none
  | .map env => some (st.mapBuffer env)
  | .unmap ends => some (st.unmapBuffer ends)
  | .acquire memType dup rebinding =>
    if rebinding.all fun r => bound r.1 r.2 then some (st.acquireHandle memType dup rebinding)
    else none
  | .release => some st.releaseHandle

/-! ## What a look at the surface finds -/

namespace DerivedState

/-- The surface is bound to a buffer with the layout of the image. -/
def Describes (st : DerivedState) (layout : LinearLayout) : Prop :=
  surfaceLinearLayout st.surface = some layout ∧ layout.pitch = st.buffer.derivedPitch ∧
    layout.chromaOffset = st.buffer.derivedChromaOffset

/-- The surface is bound to a buffer of the same geometry under another number. -/
def Switches (st : DerivedState) : Prop :=
  ∃ layout, st.Describes layout ∧ layout.fd ≠ st.buffer.derivedFd

/-- The outcomes of `derived_still_valid`. -/
inductive Check (st : DerivedState) : DerivedState × Bool → Prop
  | refused (gone : ∀ layout, ¬st.Describes layout) : Check st (st, false)
  | same {layout : LinearLayout} (here : st.Describes layout)
    (number : layout.fd = st.buffer.derivedFd) : Check st (st, true)
  | switched {layout : LinearLayout} (here : st.Describes layout)
    (number : layout.fd ≠ st.buffer.derivedFd) : Check st (st.switch layout, true)

theorem derivedStillValid_check (st : DerivedState) : Check st st.derivedStillValid := by
  unfold derivedStillValid
  split
  · rename_i lost
    exact .refused fun layout here => by
      rw [here.1] at lost
      cases lost
  · rename_i layout found
    split
    · rename_i changed
      refine .refused fun layout' here => ?_
      obtain rfl := Option.some.inj (found.symm.trans here.1)
      exact changed.elim (absurd here.2.1) (absurd here.2.2)
    · rename_i unchanged
      rw [not_or, not_not, not_not] at unchanged
      have here : st.Describes layout := ⟨found, unchanged⟩
      split
      · rename_i number
        exact .switched here number
      · rename_i number
        exact .same here (not_not.mp number)

theorem Describes.unique {st : DerivedState} {layout layout' : LinearLayout}
    (h : st.Describes layout) (h' : st.Describes layout') : layout = layout' :=
  Option.some.inj (h.1.symm.trans h'.1)

theorem not_switches_of_refused {st : DerivedState} (gone : ∀ layout, ¬st.Describes layout) :
    ¬st.Switches := fun ⟨layout, here, _⟩ => gone layout here

theorem not_switches_of_same {st : DerivedState} {layout : LinearLayout}
    (here : st.Describes layout) (number : layout.fd = st.buffer.derivedFd) : ¬st.Switches := by
  rintro ⟨layout', here', other⟩
  rw [here'.unique here] at other
  exact other number

end DerivedState

/-! ## The layout fits -/

theorem toUint32_of_int {x : Int} (nonneg : 0 ≤ x) (small : x ≤ intMax) : toUint32 x = x.toNat := by
  have bound : x < 2 ^ 32 := by
    unfold intMax at small
    omega
  rw [toUint32, Int.emod_eq_of_lt nonneg bound]

theorem exportedVstride_int {s : RKSurface} {fds : FdTable} (h : bound s fds = true) :
    0 ≤ s.exportedVstride ∧ s.exportedVstride ≤ intMax := by
  simp only [bound, Bool.and_eq_true, decide_eq_true_eq] at h
  obtain ⟨⟨⟨⟨-, nonneg⟩, small⟩, -⟩, height⟩ := h
  unfold RKSurface.exportedVstride
  split
  · exact ⟨s.height_pos.le, height⟩
  · exact ⟨nonneg, small⟩

/-- The layout of a surface that is bound: the buffer is alive and holds the picture. -/
theorem surfaceLinearLayout_bound {s : RKSurface} {fds : FdTable} {layout : LinearLayout}
    (h : bound s fds = true) (found : surfaceLinearLayout s = some layout) :
    ∃ b, s.activeBuffer = some b ∧ layout.fd = b.fd ∧ layout.objectSize = b.size ∧
      fds b.fd = some b.handle ∧ layout.chromaOffset = layout.pitch * s.exportedVstride.toNat ∧
      layout.chromaOffset + layout.chromaOffset / 2 ≤ b.size := by
  obtain ⟨nonneg, small⟩ := exportedVstride_int h
  simp only [bound, Bool.and_eq_true] at h
  obtain ⟨⟨⟨⟨⟨⟨alive, -⟩, -⟩, -⟩, -⟩, -⟩, -⟩ := h
  unfold surfaceLinearLayout at found
  dsimp only at found
  split at found
  · cases found
  · split at found
    · cases found
    · rename_i fits
      obtain rfl := Option.some.inj found
      simp only [not_or, Int.not_lt, Nat.not_lt] at fits
      cases active : s.activeBuffer with
      | none =>
        rw [active] at fits
        exact absurd fits.1 (by decide)
      | some b =>
        rw [active] at fits alive
        obtain ⟨open_, -, room⟩ := fits
        simp only [Option.elim_some] at open_ room
        refine ⟨b, rfl, rfl, rfl, ?_, ?_, ?_⟩
        · simpa only [Option.all_some, decide_eq_false (Int.not_lt.mpr open_), Bool.false_or,
            beq_iff_eq] using alive
        · rw [toUint32_of_int nonneg small]
        · have pitch : s.linearPitch < 2 ^ 32 := by
            unfold RKSurface.linearPitch
            dsimp only
            split
            · exact Nat.mod_lt _ (by decide)
            · unfold toUint32
              omega
          have rows : toUint32 s.exportedVstride < 2 ^ 31 := by
            rw [toUint32_of_int nonneg small]
            unfold intMax at small
            omega
          have whole := Nat.mul_le_mul (Nat.le_of_lt_succ pitch) (Nat.le_of_lt_succ rows)
          rwa [Nat.mod_eq_of_lt (by omega)] at room

/-! ## The invariant -/

/-- What the buffer of a derived image has recorded. -/
structure DerivedInv (image : DerivedBuffer) (st : DerivedState) : Prop where
  /-- The surface is bound to a buffer that is alive. -/
  alive : bound st.surface st.fds = true
  /-- The cached mapping is the only one. -/
  cached : st.mappings = st.buffer.derivedMap.toList
  serials : ∀ m ∈ st.mappings, m.serial < st.nextMapping
  heldSerial : ∀ m buffer, st.held = some (m, buffer) → m.serial < st.nextMapping
  sized : ∀ m, st.buffer.derivedMap = some m → m.size = st.buffer.derivedSize
  fits : st.buffer.derivedChromaOffset + st.buffer.derivedChromaOffset / 2 ≤ st.buffer.derivedSize
  advertised : st.buffer.derivedPitch = image.derivedPitch

section

variable {image : DerivedBuffer} {st st' : DerivedState}

theorem DerivedInv.fail (h : DerivedInv image st) (error : DerivedError) :
    DerivedInv image (st.fail error) :=
  ⟨h.alive, h.cached, h.serials, h.heldSerial, h.sized, h.fits, h.advertised⟩

theorem DerivedInv.rebind (h : DerivedInv image st) {surface : RKSurface} {fds : FdTable}
    (alive : bound surface fds = true) : DerivedInv image (st.rebind surface fds) :=
  ⟨alive, h.cached, h.serials, h.heldSerial, h.sized, h.fits, h.advertised⟩

/-- A switch drops the only mapping. -/
theorem DerivedInv.switch_mappings (h : DerivedInv image st) (layout : LinearLayout) :
    (st.switch layout).mappings = [] := by
  show st.mappings.filter _ = []
  rw [h.cached]
  cases st.buffer.derivedMap with
  | none => rfl
  | some m => simp

theorem DerivedInv.switch (h : DerivedInv image st) {layout : LinearLayout}
    (here : st.Describes layout) : DerivedInv image (st.switch layout) := by
  obtain ⟨b, -, -, size, -, -, room⟩ := surfaceLinearLayout_bound h.alive here.1
  refine ⟨h.alive, h.switch_mappings layout, fun m mem => ?_, h.heldSerial, fun m same => (by cases same),
    ?_, h.advertised⟩
  · rw [h.switch_mappings layout] at mem
    cases mem
  · show st.buffer.derivedChromaOffset + st.buffer.derivedChromaOffset / 2 ≤ layout.objectSize
    rw [← here.2.2, size]
    exact room

theorem DerivedInv.check (h : DerivedInv image st) {valid : Bool} (check : Check st (st', valid)) :
    DerivedInv image st' := by
  cases check with
  | refused gone => exact h
  | same here number => exact h
  | switched here number => exact h.switch here

theorem DerivedInv.addMapping (h : DerivedInv image st) (new : st.buffer.derivedMap = none)
    (buffer : Nat) : DerivedInv image (st.addMapping buffer).1 := by
  have empty : st.mappings = [] := by rw [h.cached, new, Option.toList_none]
  refine ⟨h.alive, ?_, ?_, ?_, ?_, h.fits, h.advertised⟩
  · show _ :: st.mappings = _
    rw [empty]
    rfl
  · intro m mem
    rw [show (st.addMapping buffer).1.mappings =
      [⟨st.nextMapping, buffer, st.buffer.derivedSize⟩] from congrArg _ empty,
      List.mem_singleton] at mem
    rw [mem]
    exact Nat.lt_succ_self st.nextMapping
  · exact fun m b held => Nat.lt_succ_of_lt (h.heldSerial m b held)
  · intro m same
    rw [← Option.some.inj same]
    rfl

end

/-! ## The calls -/

namespace DerivedState

/-- The access of the CPU has started for a mapping. -/
def started (st : DerivedState) (m : Mapping) (buffer : Nat) : DerivedState :=
  { st with syncs := .start buffer :: st.syncs, held := some (m, buffer), answer := .mapped m }

/-- A descriptor is handed out. -/
def handedOut (st : DerivedState) (handle : DupFd) : DerivedState :=
  { st with answer := .acquired handle st.buffer.derivedSize }

/-- The kernel does not start the access. -/
def Unstarted (st : DerivedState) (env : MapEnv) : Prop :=
  env.starts = false ∨ st.fds st.buffer.derivedFd = none

/-- The outcomes of `rk_MapBuffer`. -/
inductive MapMove (st : DerivedState) (env : MapEnv) : DerivedState → Prop
  | refused (gone : ∀ layout, ¬st.Describes layout) : MapMove st env (st.fail .operationFailed)
  | unmappable {st₁ : DerivedState} (check : Check st (st₁, true))
    (new : st₁.buffer.derivedMap = none) : MapMove st env (st₁.fail .operationFailed)
  | unstarted {st₁ : DerivedState} {m : Mapping} (check : Check st (st₁, true))
    (cached : st₁.buffer.derivedMap = some m) (failed : st₁.Unstarted env) :
    MapMove st env (st₁.fail .operationFailed)
  | again {st₁ : DerivedState} {m : Mapping} {buffer : Nat} (check : Check st (st₁, true))
    (cached : st₁.buffer.derivedMap = some m) (starts : env.starts = true)
    (denotes : st₁.fds st₁.buffer.derivedFd = some buffer) : MapMove st env (st₁.started m buffer)
  | onlyMapped {st₁ : DerivedState} {buffer : Nat} (check : Check st (st₁, true))
    (new : st₁.buffer.derivedMap = none) : MapMove st env ((st₁.addMapping buffer).1.fail
      .operationFailed)
  | fresh {st₁ : DerivedState} {buffer : Nat} (check : Check st (st₁, true))
    (new : st₁.buffer.derivedMap = none) (denotes : st₁.fds st₁.buffer.derivedFd = some buffer) :
    MapMove st env ((st₁.addMapping buffer).1.started (st₁.addMapping buffer).2 buffer)

theorem mapBuffer_move (st : DerivedState) (env : MapEnv) : MapMove st env (st.mapBuffer env) := by
  have check := derivedStillValid_check st
  unfold mapBuffer
  generalize st.derivedStillValid = result at check
  obtain ⟨st₁, valid⟩ := result
  cases valid with
  | false =>
    cases check with
    | refused gone => exact .refused gone
  | true =>
    rw [if_neg (fun no => by cases no)]
    dsimp only
    cases cached : st₁.buffer.derivedMap with
    | some m =>
      unfold startAccess
      dsimp only
      split
      · rename_i failed
        refine .unstarted check cached ?_
        split at failed
        · exact .inr failed
        · rename_i stuck
          exact .inl (eq_false_of_ne_true stuck)
      · rename_i buffer denotes
        split at denotes
        · rename_i starts
          exact .again check cached starts denotes
        · cases denotes
    | none =>
      dsimp only
      split
      · exact .unmappable check cached
      · rename_i buffer denotes
        split at denotes
        · unfold startAccess
          split
          · exact .onlyMapped check cached
          · rename_i started
            split at started
            · obtain rfl := Option.some.inj (denotes.symm.trans started)
              exact .fresh check cached denotes
            · cases started
        · cases denotes

/-- The outcomes of `rk_buffer_acquire_handle`. -/
inductive AcquireMove (st : DerivedState) (memType : MemType) (dup : Option Int)
    (rebinding : Option (RKSurface × FdTable)) : DerivedState → Prop
  | unsupported (memType_other : memType = .other) :
    AcquireMove st memType dup rebinding (st.fail .unsupportedMemoryType)
  | refused (gone : ∀ layout, ¬st.Describes layout) :
    AcquireMove st memType dup rebinding (st.fail .operationFailed)
  | again {st₁ : DerivedState} {handle : DupFd} (supported : memType ≠ .other)
    (check : Check st (st₁, true)) (cached : st₁.buffer.acquired = some handle) :
    AcquireMove st memType dup rebinding (st₁.handedOut handle)
  | lost {st₁ : DerivedState} (supported : memType ≠ .other) (check : Check st (st₁, true))
    (new : st₁.buffer.acquired = none)
    (gone : ∀ layout, ¬((st₁.duplicate dup).meanwhile rebinding).Describes layout) :
    AcquireMove st memType dup rebinding
      (((st₁.duplicate dup).meanwhile rebinding).fail .operationFailed)
  | closed {st₁ st₂ : DerivedState} (supported : memType ≠ .other) (check : Check st (st₁, true))
    (new : st₁.buffer.acquired = none)
    (checkAgain : Check ((st₁.duplicate dup).meanwhile rebinding) (st₂, true))
    (closed : st₂.buffer.acquired = none) :
    AcquireMove st memType dup rebinding (st₂.fail .allocationFailed)
  | fresh {st₁ st₂ : DerivedState} {handle : DupFd} (supported : memType ≠ .other)
    (check : Check st (st₁, true)) (new : st₁.buffer.acquired = none)
    (checkAgain : Check ((st₁.duplicate dup).meanwhile rebinding) (st₂, true))
    (here : st₂.buffer.acquired = some handle) :
    AcquireMove st memType dup rebinding (st₂.handedOut handle)

theorem acquireHandle_move (st : DerivedState) (memType : MemType) (dup : Option Int)
    (rebinding : Option (RKSurface × FdTable)) :
    AcquireMove st memType dup rebinding (st.acquireHandle memType dup rebinding) := by
  have check := derivedStillValid_check st
  unfold acquireHandle
  split
  · rename_i other
    exact .unsupported other
  · rename_i supported
    generalize st.derivedStillValid = result at check
    obtain ⟨st₁, valid⟩ := result
    cases valid with
    | false =>
      cases check with
      | refused gone => exact .refused gone
    | true =>
      rw [if_neg (fun no => by cases no)]
      dsimp only
      cases cached : st₁.buffer.acquired with
      | some handle =>
        rw [Option.isSome_some, if_pos rfl, handOut, cached]
        exact .again supported check cached
      | none =>
        rw [Option.isSome_none, if_neg Bool.false_ne_true]
        have checkAgain := derivedStillValid_check ((st₁.duplicate dup).meanwhile rebinding)
        generalize ((st₁.duplicate dup).meanwhile rebinding).derivedStillValid = result at checkAgain
        obtain ⟨st₂, valid⟩ := result
        cases valid with
        | false =>
          cases checkAgain with
          | refused gone => exact .lost supported check cached gone
        | true =>
          rw [if_neg (fun no => by cases no)]
          dsimp only
          unfold handOut
          split
          · rename_i none_left
            exact .closed supported check cached checkAgain none_left
          · rename_i handle here
            exact .fresh supported check cached checkAgain here

end DerivedState

section

variable {image : DerivedBuffer} {st st' : DerivedState}

theorem DerivedInv.started (h : DerivedInv image st) {m : Mapping} (mem : m ∈ st.mappings)
    (buffer : Nat) : DerivedInv image (st.started m buffer) := by
  refine ⟨h.alive, h.cached, h.serials, fun m' b same => ?_, h.sized, h.fits, h.advertised⟩
  obtain ⟨rfl, -⟩ := Prod.mk.inj (Option.some.inj same)
  exact h.serials m mem

theorem DerivedInv.cached_mem (h : DerivedInv image st) {m : Mapping}
    (cached : st.buffer.derivedMap = some m) : m ∈ st.mappings := by
  rw [h.cached, cached]
  exact List.mem_singleton_self m

theorem DerivedInv.meanwhile (h : DerivedInv image st) {rebinding : Option (RKSurface × FdTable)}
    (alive : rebinding.all (fun r => bound r.1 r.2) = true) :
    DerivedInv image (st.meanwhile rebinding) := by
  cases rebinding with
  | none => exact h
  | some r => exact h.rebind alive

theorem DerivedInv.duplicate (h : DerivedInv image st) (dup : Option Int) :
    DerivedInv image (st.duplicate dup) :=
  ⟨h.alive, h.cached, h.serials, h.heldSerial, h.sized, h.fits, h.advertised⟩

theorem DerivedInv.handedOut (h : DerivedInv image st) (handle : DupFd) :
    DerivedInv image (st.handedOut handle) :=
  ⟨h.alive, h.cached, h.serials, h.heldSerial, h.sized, h.fits, h.advertised⟩

theorem DerivedInv.map (h : DerivedInv image st) {env : MapEnv} (move : MapMove st env st') :
    DerivedInv image st' := by
  cases move with
  | refused gone => exact h.fail _
  | unmappable check new => exact (h.check check).fail _
  | unstarted check cached failed => exact (h.check check).fail _
  | again check cached starts denotes =>
    exact (h.check check).started ((h.check check).cached_mem cached) _
  | onlyMapped check new => exact ((h.check check).addMapping new _).fail _
  | fresh check new denotes =>
    exact ((h.check check).addMapping new _).started List.mem_cons_self _

theorem DerivedInv.acquire (h : DerivedInv image st) {memType : MemType} {dup : Option Int}
    {rebinding : Option (RKSurface × FdTable)}
    (alive : rebinding.all (fun r => bound r.1 r.2) = true)
    (move : AcquireMove st memType dup rebinding st') : DerivedInv image st' := by
  cases move with
  | unsupported other => exact h.fail _
  | refused gone => exact h.fail _
  | again supported check cached => exact (h.check check).handedOut _
  | lost supported check new gone => exact (((h.check check).duplicate dup).meanwhile alive).fail _
  | closed supported check new checkAgain closed =>
    exact ((((h.check check).duplicate dup).meanwhile alive).check checkAgain).fail _
  | fresh supported check new checkAgain here =>
    exact ((((h.check check).duplicate dup).meanwhile alive).check checkAgain).handedOut _

theorem DerivedInv.unmap (h : DerivedInv image st) (ends : Bool) :
    DerivedInv image (st.unmapBuffer ends) := by
  have noHeld : ∀ m buffer, (none : Option (Mapping × Nat)) = some (m, buffer) →
      m.serial < st.nextMapping := fun m buffer same => by cases same
  unfold unmapBuffer
  split
  · exact ⟨h.alive, h.cached, h.serials, noHeld, h.sized, h.fits, h.advertised⟩
  · split
    · exact h.fail _
    · exact ⟨h.alive, h.cached, h.serials, noHeld, h.sized, h.fits, h.advertised⟩

theorem derivedInv_step (h : DerivedInv image st) {a : DerivedAction}
    (hstep : derivedStep st a = some st') : DerivedInv image st' := by
  cases a with
  | rebind surface fds =>
    simp only [derivedStep] at hstep
    split at hstep
    · rename_i alive
      obtain rfl := Option.some.inj hstep
      exact h.rebind alive
    · cases hstep
  | map env =>
    obtain rfl := Option.some.inj hstep
    exact h.map (mapBuffer_move st env)
  | unmap ends =>
    obtain rfl := Option.some.inj hstep
    exact h.unmap ends
  | acquire memType dup rebinding =>
    simp only [derivedStep] at hstep
    split at hstep
    · rename_i alive
      obtain rfl := Option.some.inj hstep
      exact h.acquire alive (acquireHandle_move st memType dup rebinding)
    · cases hstep
  | release =>
    obtain rfl := Option.some.inj hstep
    exact ⟨h.alive, h.cached, h.serials, h.heldSerial, h.sized, h.fits, h.advertised⟩

end

/-- A new image records the layout of its surface. -/
theorem rkDeriveImage_eq_some {s : RKSurface} {image : DerivedBuffer}
    (derived : rkDeriveImage s = some image) : ∃ layout, surfaceLinearLayout s = some layout ∧
      image = ⟨layout.fd, layout.objectSize, layout.pitch, layout.chromaOffset, none, none⟩ := by
  unfold rkDeriveImage at derived
  split at derived
  · cases derived
  · split at derived
    · cases derived
    · rename_i layout found
      split at derived
      · cases derived
      · exact ⟨layout, found, (Option.some.inj derived).symm⟩

theorem derivedInv_init {s : RKSurface} {fds : FdTable} {image : DerivedBuffer}
    (alive : bound s fds = true) (derived : rkDeriveImage s = some image) :
    DerivedInv image (.init s fds image) := by
  obtain ⟨layout, found, rfl⟩ := rkDeriveImage_eq_some derived
  obtain ⟨b, -, -, size, -, -, room⟩ := surfaceLinearLayout_bound alive found
  refine ⟨alive, rfl, fun m mem => absurd mem List.not_mem_nil, fun m buffer same => ?_,
    fun m same => ?_, ?_, rfl⟩
  · cases same
  · cases same
  · show _ ≤ layout.objectSize
    rw [size]
    exact room

end RockchipVaapi.Surface
