import RockchipVaapi.Decode.Packet
import RockchipVaapi.ObjectHeap.Refinement
import RockchipVaapi.Surface.Layout

/-!
# Creating buffers

`rk_CreateBuffer` checks its product before it allocates. `rk_CreateBuffer2` rounds and multiplies
in `unsigned int` and hands on one number, so a large geometry wraps where no check can see it.
-/

namespace RockchipVaapi.Buffer

open ObjectHeap (RKObjectHeap Inv Call performAll inv_performAll acquire insert objectRef)
open Surface (sizeMax)

/-- `VABufferType`, as far as `rk_CreateBuffer` tells types apart. -/
inductive VABufferType
  | encCoded
  | other (code : UInt32)
  deriving DecidableEq, Repr

/-- `RKBuffer` (`driver_internal.h:213-234`) without the fields of a derived image. `data` is the
block of `malloc`, as far as it was asked for. `codedSegment` says that `coded_segment.buf` points
to it. -/
structure RKBuffer where
  type : VABufferType
  size : UInt32
  numElements : UInt32
  capacity : Nat
  data : List UInt8
  codedSegment : Bool
  allocated : data.length = capacity
  deriving DecidableEq, Repr

/-- What the system grants a call: `calloc`, `malloc`, and the `realloc` of the object heap. -/
structure BufferMemory where
  object : Bool
  block : Nat → Bool
  slots : Bool

/-- The bytes of a new buffer: those of the caller, or zeros. -/
def initialData (bytes : Nat) : Option (Nat → UInt8) → List UInt8
  | some data => (List.range bytes).map data
  | none => List.replicate bytes 0

theorem length_initialData (bytes : Nat) (data : Option (Nat → UInt8)) :
    (initialData bytes data).length = bytes := by
  cases data with
  | none => exact List.length_replicate
  | some data => rw [initialData, List.length_map, List.length_range]

/-- The object that `rk_CreateBuffer` fills. -/
def newBuffer (type : VABufferType) (size numElements : UInt32) (data : Option (Nat → UInt8)) :
    RKBuffer where
  type := type
  size := size
  numElements := numElements
  capacity := size.toNat * numElements.toNat
  data := initialData (size.toNat * numElements.toNat) data
  codedSegment := type == .encCoded
  allocated := length_initialData _ data

/-- `rk_CreateBuffer` (`buffer.c:134-181`): the buffer heap afterwards, and the id. -/
def rkCreateBuffer (memory : BufferMemory) (heap : RKObjectHeap RKBuffer) (type : VABufferType)
    (size numElements : UInt32) (data : Option (Nat → UInt8)) :
    RKObjectHeap RKBuffer × Except VAError UInt32 :=
  if size ≠ 0 ∧ sizeMax / size.toNat < numElements.toNat then (heap, .error .allocationFailed)
  else
    let bytes := size.toNat * numElements.toNat
    if memory.object = false ∨ memory.block (if bytes ≠ 0 then bytes else 1) = false then
      (heap, .error .allocationFailed)
    else
      match insert heap (newBuffer type size numElements data) memory.slots with
      | (heap, none) => (heap, .error .allocationFailed)
      | (heap, some id) => (heap, .ok id)

/-- What `rk_CreateBuffer2` leaves: the buffer heap, the two numbers that it reports, and the id. -/
structure Buffer2Reply where
  heap : RKObjectHeap RKBuffer
  unitSize : UInt32
  pitch : UInt32
  id : Except VAError UInt32

/-- `rk_CreateBuffer2` (`buffer.c:401-413`). -/
def rkCreateBuffer2 (memory : BufferMemory) (heap : RKObjectHeap RKBuffer) (type : VABufferType)
    (width height : UInt32) : Buffer2Reply :=
  let stride := (width + 15) &&& ~~~15
  let size := stride * height
  let created := rkCreateBuffer memory heap type size 1 none
  { heap := created.1, unitSize := size, pitch := stride, id := created.2 }

/-! ## The buffer that is created -/

section

variable {memory : BufferMemory} {heap : RKObjectHeap RKBuffer} {type : VABufferType}
  {size numElements : UInt32} {data : Option (Nat → UInt8)} {id : UInt32}

/-- A call fails before it inserts, or does what the insertion of the new buffer does. -/
theorem rkCreateBuffer_cases (memory : BufferMemory) (heap : RKObjectHeap RKBuffer)
    (type : VABufferType) (size numElements : UInt32) (data : Option (Nat → UInt8)) :
    rkCreateBuffer memory heap type size numElements data = (heap, .error .allocationFailed) ∨
      rkCreateBuffer memory heap type size numElements data =
        ((insert heap (newBuffer type size numElements data) memory.slots).1,
          ((insert heap (newBuffer type size numElements data) memory.slots).2.elim
            (.error .allocationFailed) .ok)) := by
  unfold rkCreateBuffer
  split
  · exact .inl rfl
  · dsimp only
    by_cases refused : memory.object = false ∨ memory.block
        (if size.toNat * numElements.toNat ≠ 0 then size.toNat * numElements.toNat else 1) = false
    · rw [if_pos refused]
      exact .inl rfl
    · rw [if_neg refused]
      right
      rcases insert heap (newBuffer type size numElements data) memory.slots with ⟨heap', _ | id⟩
      · rfl
      · rfl

/-- After any calls on the buffer heap: the id that is returned denotes the new buffer, and a call
that fails leaves the heap as it was. -/
theorem rkCreateBuffer_spec (memory : BufferMemory) (calls : List (Call RKBuffer))
    (type : VABufferType) (size numElements : UInt32) (data : Option (Nat → UInt8)) :
    let heap := (performAll .buffer calls).1
    rkCreateBuffer memory heap type size numElements data = (heap, .error .allocationFailed) ∨
      ∃ heap' id, rkCreateBuffer memory heap type size numElements data = (heap', .ok id) ∧
        ∀ refs : RKBuffer → UInt32,
          objectRef (refs (newBuffer type size numElements data)) = true →
            acquire heap' id refs = some (newBuffer type size numElements data) := by
  dsimp only
  obtain ⟨-, free, inv⟩ := @inv_performAll RKBuffer .buffer calls
  rcases rkCreateBuffer_cases memory (performAll .buffer calls).1 type size numElements data with
    failed | inserts
  · exact .inl failed
  · rcases inv.after_insert (newBuffer type size numElements data) memory.slots with
      same | ⟨-, -, id, free', -, -, -, -, -, returned, -, inv'⟩
    · rw [same] at inserts
      exact .inl inserts
    · rw [returned] at inserts
      refine .inr ⟨_, id, inserts, fun refs referenced => ?_⟩
      have live : ((performAll .buffer calls).2.issue id
          (newBuffer type size numElements data)).live id =
            some (newBuffer type size numElements data) := Function.update_self _ _ _
      rw [inv'.acquire_eq, live, Option.filter_some, if_pos referenced]

end

/-! ## Rounding and multiplying in 32 bits -/

/-- The pitch as a number: the sum wraps before it is rounded. -/
theorem rkCreateBuffer2_pitch (memory : BufferMemory) (heap : RKObjectHeap RKBuffer)
    (type : VABufferType) (width height : UInt32) :
    (rkCreateBuffer2 memory heap type width height).pitch.toNat =
      (width.toNat + 15) % 2 ^ 32 / 16 * 16 := by
  show ((width + 15) &&& ~~~15 : UInt32).toNat = _
  rw [UInt32.toNat_and, UInt32.toNat_add]
  exact @and_unitMask 4 32 _ (by decide) (Nat.mod_lt _ (by decide))

theorem rkCreateBuffer2_unitSize (memory : BufferMemory) (heap : RKObjectHeap RKBuffer)
    (type : VABufferType) (width height : UInt32) :
    (rkCreateBuffer2 memory heap type width height).unitSize.toNat =
      (rkCreateBuffer2 memory heap type width height).pitch.toNat * height.toNat % 2 ^ 32 :=
  UInt32.toNat_mul _ _

/-- A pitch that wraps is zero, and every other one is the width rounded up. -/
theorem pitch_wraps (width : UInt32) :
    (width.toNat + 15) % 2 ^ 32 / 16 * 16 =
      if width.toNat ≤ 2 ^ 32 - 16 then roundUp 16 width.toNat else 0 := by
  have small := width.toNat_lt
  unfold roundUp
  split
  · rw [Nat.mod_eq_of_lt (by omega)]
    rfl
  · omega

/-- What a call that succeeds says of the buffer that it created. -/
structure LargeAsClaimed (reply : Buffer2Reply) (id width height : UInt32) : Prop where
  pitch : width.toNat ≤ reply.pitch.toNat
  unitSize : reply.unitSize.toNat = reply.pitch.toNat * height.toNat
  room : ∃ buffer, acquire reply.heap id (fun _ => 1) = some buffer ∧
    reply.pitch.toNat * height.toNat ≤ buffer.capacity

/-- After any calls on the buffer heap, a call fails and changes nothing, or it creates a buffer
that is as large as it says if, and only if, neither the rounding nor the product wraps. -/
theorem createBuffer2_large_iff (memory : BufferMemory) (calls : List (Call RKBuffer))
    (type : VABufferType) (width height : UInt32) :
    let heap := (performAll .buffer calls).1
    let reply := rkCreateBuffer2 memory heap type width height
    (reply.id = .error .allocationFailed ∧ reply.heap = heap) ∨
      ∃ id, reply.id = .ok id ∧
        (LargeAsClaimed reply id width height ↔
          width.toNat ≤ 2 ^ 32 - 16 ∧ roundUp 16 width.toNat * height.toNat < 2 ^ 32) := by
  dsimp only
  have pitch := rkCreateBuffer2_pitch memory (performAll .buffer calls).1 type width height
  have unitSize := rkCreateBuffer2_unitSize memory (performAll .buffer calls).1 type width height
  rw [pitch_wraps] at pitch
  rcases rkCreateBuffer_spec memory calls type
    (rkCreateBuffer2 memory (performAll .buffer calls).1 type width height).unitSize 1 none with
    failed | ⟨heap', id, created, denotes⟩
  · exact .inl ⟨congrArg Prod.snd failed, congrArg Prod.fst failed⟩
  · refine .inr ⟨id, congrArg Prod.snd created, ?_⟩
    have resolved := denotes (fun _ => 1) rfl
    have heapEq : (rkCreateBuffer2 memory (performAll .buffer calls).1 type width height).heap =
        heap' := congrArg Prod.fst created
    generalize rkCreateBuffer2 memory (performAll .buffer calls).1 type width height = reply at *
    constructor
    · intro claimed
      have wide := claimed.pitch
      have same := claimed.unitSize
      have limit := reply.unitSize.toNat_lt
      split at pitch
      · rename_i fits
        rw [pitch] at same
        exact ⟨fits, by omega⟩
      · omega
    · rintro ⟨fits, product⟩
      rw [if_pos fits] at pitch
      have noWrap : reply.unitSize.toNat = reply.pitch.toNat * height.toNat := by
        rw [unitSize, pitch, Nat.mod_eq_of_lt product]
      refine ⟨?_, noWrap, newBuffer type reply.unitSize 1 none, ?_, ?_⟩
      · rw [pitch]
        exact le_roundUp (by decide) width.toNat
      · rw [heapEq]
        exact resolved
      · show _ ≤ reply.unitSize.toNat * 1
        omega

/-- Everything that is asked for is granted. -/
def BufferMemory.ample : BufferMemory := ⟨true, fun _ => true, true⟩

/-- A buffer of 33 columns and 5 rows has rows of 48 bytes. -/
theorem createBuffer2_large_narrow :
    ∃ id, (rkCreateBuffer2 .ample (performAll .buffer []).1 (.other 0) 33 5).id = .ok id ∧
      LargeAsClaimed (rkCreateBuffer2 .ample (performAll .buffer []).1 (.other 0) 33 5) id 33 5 := by
  rcases createBuffer2_large_iff .ample [] (.other 0) 33 5 with ⟨failed, -⟩ | ⟨id, created, large⟩
  · cases failed
  · exact ⟨id, created, large.mpr (by decide)⟩

/-- The size of 65536 rows of 65536 bytes is reported as zero, and so is the pitch of a width that
is too large to be rounded. Both calls succeed. -/
theorem createBuffer2_wraps :
    (∃ id, (rkCreateBuffer2 .ample (performAll .buffer []).1 (.other 0) 65536 65536).id = .ok id ∧
      ¬LargeAsClaimed (rkCreateBuffer2 .ample (performAll .buffer []).1 (.other 0) 65536 65536) id
        65536 65536) ∧
      ∃ id, (rkCreateBuffer2 .ample (performAll .buffer []).1 (.other 0) 4294967295 1).id =
          .ok id ∧
        ¬LargeAsClaimed (rkCreateBuffer2 .ample (performAll .buffer []).1 (.other 0) 4294967295 1)
          id 4294967295 1 := by
  constructor
  · refine ⟨_, rfl, fun claimed => ?_⟩
    exact absurd claimed.unitSize (by decide)
  · refine ⟨_, rfl, fun claimed => ?_⟩
    exact absurd claimed.pitch (by decide)

end RockchipVaapi.Buffer
