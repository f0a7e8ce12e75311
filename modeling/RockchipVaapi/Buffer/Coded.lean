import RockchipVaapi.Buffer.Create
import RockchipVaapi.Misc.Transition

/-!
# Coded buffers

An encoder writes its packets into buffers that the application made, and that it may resize or
destroy while a picture is encoded. `vaSyncBuffer` and `vaMapBuffer` show the last picture of a
buffer, or that there is none.
-/

namespace RockchipVaapi.Buffer

open ObjectHeap (RKObjectHeap Inv acquire insert remove)
open Surface (sizeMax)

/-- The statuses of the calls on a buffer. -/
inductive BufferStatus
  | success
  | invalidBuffer
  | allocationFailed
  | notEnoughBuffer
  | encodingError
  | timedOut
  deriving DecidableEq, Repr

/-- `VA_CODED_BUF_STATUS_FRAME_SIZE_OVERFLOW`. -/
def frameSizeOverflow : UInt32 := 0x1000

/-- The fields of `RKBuffer` for a packet, beside those of its creation. `coded_segment.next` is
always null. -/
structure CodedBuffer where
  buffer : RKBuffer
  segmentSize : Nat
  segmentStatus : UInt32
  ready : Bool
  failed : Bool
  deriving DecidableEq, Repr

/-- The buffers of a driver. The heap holds addresses, and an encoder those of the buffers that it
has acquired. -/
structure Buffers where
  heap : RKObjectHeap Nat
  object : Nat → CodedBuffer
  used : Nat
  encoding : List Nat

/-- `buffer_acquire`. -/
def bufferAcquire (s : Buffers) (id : UInt32) : Option Nat := acquire s.heap id fun _ => 1

def Buffers.put (s : Buffers) (address : Nat) (b : CodedBuffer) : Buffers :=
  { s with object := Function.update s.object address b }

/-! ## Creating and resizing -/

/-- `rk_CreateBuffer` (`buffer.c:134-181`), with the object at a new address. -/
def createBuffer (s : Buffers) (memory : BufferMemory) (type : VABufferType)
    (size numElements : UInt32) (data : Option (Nat → UInt8)) : Buffers × Except BufferStatus UInt32 :=
  if size ≠ 0 ∧ sizeMax / size.toNat < numElements.toNat then (s, .error .allocationFailed)
  else
    let bytes := size.toNat * numElements.toNat
    if memory.object = false ∨ memory.block (if bytes ≠ 0 then bytes else 1) = false then
      (s, .error .allocationFailed)
    else
      match insert s.heap s.used memory.slots with
      | (heap, none) => ({ s with heap := heap }, .error .allocationFailed)
      | (heap, some id) =>
        (({ s with heap := heap, used := s.used + 1 } : Buffers).put s.used
          ⟨newBuffer type size numElements data, 0, 0, false, false⟩, .ok id)

/-- `realloc`, and the zeros behind what it keeps (`buffer.c:197-204`). -/
def resizedData (data : List UInt8) (bytes : Nat) : List UInt8 :=
  data.take bytes ++ List.replicate (bytes - data.length) 0

theorem length_resizedData (data : List UInt8) (bytes : Nat) :
    (resizedData data bytes).length = bytes := by
  rw [resizedData, List.length_append, List.length_take, List.length_replicate]
  omega

/-- A buffer with a new number of elements (`buffer.c:196-212`). -/
def CodedBuffer.resize (b : CodedBuffer) (numElements : UInt32) : CodedBuffer :=
  let bytes := b.buffer.size.toNat * numElements.toNat
  let buffer : RKBuffer :=
    { type := b.buffer.type, size := b.buffer.size, numElements := numElements, capacity := bytes
      data := resizedData b.buffer.data bytes, codedSegment := b.buffer.type == .encCoded
      allocated := length_resizedData _ _ }
  if b.buffer.type = .encCoded then ⟨buffer, 0, b.segmentStatus, false, false⟩
  else { b with buffer := buffer }

/-- `rk_BufferSetNumElements` (`buffer.c:183-215`); `granted` is the outcome of `realloc`. -/
def rkBufferSetNumElements (s : Buffers) (id numElements : UInt32) (granted : Bool) :
    Buffers × BufferStatus :=
  match bufferAcquire s id with
  | none => (s, .invalidBuffer)
  | some address =>
    let b := s.object address
    if b.buffer.size ≠ 0 ∧ sizeMax / b.buffer.size.toNat < numElements.toNat then
      (s, .allocationFailed)
    else if granted = false then (s, .allocationFailed)
    else (s.put address (b.resize numElements), .success)

/-- `rk_DestroyBuffer` (`buffer.c:370-381`). The object is there until its last reference goes. -/
def rkDestroyBuffer (s : Buffers) (id : UInt32) : Buffers × BufferStatus :=
  match remove s.heap id with
  | (heap, none) => ({ s with heap := heap }, .invalidBuffer)
  | (heap, some _) => ({ s with heap := heap }, .success)

/-! ## Encoding -/

/-- `rk_buffer_store_coded` (`buffer.c:262-283`), for data that is there. -/
def rkBufferStoreCoded (b : CodedBuffer) (data : List UInt8) (status : UInt32) :
    BufferStatus × CodedBuffer :=
  if b.buffer.type ≠ .encCoded then (.invalidBuffer, b)
  else if fits : data.length ≤ b.buffer.capacity then
    let buffer : RKBuffer :=
      { b.buffer with
        data := data ++ b.buffer.data.drop data.length
        codedSegment := true
        allocated := by
          rw [List.length_append, List.length_drop, b.buffer.allocated]
          omega }
    (.success, ⟨buffer, data.length % 2 ^ 32, status, true, false⟩)
  else
    (.notEnoughBuffer,
      { b with segmentSize := 0, segmentStatus := frameSizeOverflow, ready := true, failed := true })

/-- What MPP and the steps before it leave of a picture: nothing, or a packet with or without a
position. -/
inductive PacketOutcome
  | failed
  | packet (position : Bool) (data : List UInt8)
  deriving DecidableEq, Repr

/-- The first access of `rk_mpp_enc_encode` to its coded buffer (`mpp_enc.c:506-513`). -/
def encodeStart (s : Buffers) (codedId : UInt32) : Buffers × BufferStatus :=
  match bufferAcquire s codedId with
  | none => (s, .invalidBuffer)
  | some address =>
    let b := s.object address
    if b.buffer.type ≠ .encCoded then (s, .invalidBuffer)
    else
      ({ s.put address { b with ready := false, failed := false } with
          encoding := address :: s.encoding }, .success)

/-- The packet of a picture and the result (`mpp_enc.c:562-577`). -/
def CodedBuffer.finish (b : CodedBuffer) (outcome : PacketOutcome) : BufferStatus × CodedBuffer :=
  let stored : BufferStatus × CodedBuffer := match outcome with
    | .failed => (.encodingError, b)
    | .packet position data =>
      if position = false ∨ data.length = 0 ∨ 0xffffffff < data.length then (.encodingError, b)
      else rkBufferStoreCoded b data 0
  if stored.1 ≠ .success then (stored.1, { stored.2 with ready := true, failed := true })
  else stored

/-- The end of `rk_mpp_enc_encode` for a buffer that it has acquired (`mpp_enc.c:514-584`). -/
def encodeFinish (s : Buffers) (address : Nat) (outcome : PacketOutcome) :
    Option (Buffers × BufferStatus) :=
  if address ∈ s.encoding then
    let done := (s.object address).finish outcome
    some ({ s.put address done.2 with encoding := s.encoding.erase address }, done.1)
  else none

/-! ## What the application sees -/

/-- `rk_SyncBuffer` (`rockchip_drv_video.c:602-618`). -/
def rkSyncBuffer (s : Buffers) (id : UInt32) : BufferStatus :=
  match bufferAcquire s id with
  | none => .invalidBuffer
  | some address =>
    let b := s.object address
    if b.buffer.type = .encCoded then
      if b.failed then .encodingError else if !b.ready then .timedOut else .success
    else .success

/-- What is behind the pointer of `rk_MapBuffer`: the data, or a segment whose `buf` points to the
data or to nothing that is known. -/
inductive Mapped
  | data (bytes : List UInt8)
  | segment (status : UInt32) (bytes : Option (List UInt8))
  deriving DecidableEq, Repr

/-- `rk_MapBuffer` on a buffer without a derived surface (`buffer.c:217-260`), and what an
application reads there: as many bytes at `buf` as the segment says. -/
def rkMapBuffer (s : Buffers) (id : UInt32) : Except BufferStatus Mapped :=
  match bufferAcquire s id with
  | none => .error .invalidBuffer
  | some address =>
    let b := s.object address
    if b.buffer.type = .encCoded then
      .ok (.segment b.segmentStatus
        (if b.buffer.codedSegment ∧ b.segmentSize ≤ b.buffer.data.length then
          some (b.buffer.data.take b.segmentSize) else none))
    else .ok (.data b.buffer.data)

/-- `rk_BufferInfo` (`buffer.c:383-399`). -/
def rkBufferInfo (s : Buffers) (id : UInt32) : Except BufferStatus (VABufferType × UInt32 × UInt32) :=
  match bufferAcquire s id with
  | none => .error .invalidBuffer
  | some address =>
    let b := (s.object address).buffer
    .ok (b.type, b.size, b.numElements)

/-! ## Runs -/

/-- The calls of the application and of encoders. `write` is a write of the application behind the
pointer of `rk_MapBuffer`, to data that is not a packet. -/
inductive BufferCall
  | create (memory : BufferMemory) (type : VABufferType) (size numElements : UInt32)
    (data : Option (Nat → UInt8))
  | setNumElements (id numElements : UInt32) (granted : Bool)
  | destroy (id : UInt32)
  | write (id : UInt32) (bytes : Nat → UInt8)
  | encodeStart (codedId : UInt32)
  | encodeFinish (address : Nat) (outcome : PacketOutcome)

/-- What happened last to a buffer. -/
inductive BufferEvent
  | emptied
  | started
  | finished (outcome : PacketOutcome)

/-- A driver, and what happened last at each address. -/
structure Recorded where
  buffers : Buffers
  last : Nat → BufferEvent

def Recorded.record (s : Recorded) (buffers : Buffers) (address : Nat) (event : BufferEvent) :
    Recorded :=
  ⟨buffers, Function.update s.last address event⟩

/-- After a call on the buffer of an id: a success is an event of the buffer. -/
def Recorded.after (s : Recorded) (done : Buffers × BufferStatus) (address : Option Nat)
    (event : BufferEvent) : Recorded :=
  match address with
  | some address => if done.2 = .success then s.record done.1 address event else ⟨done.1, s.last⟩
  | none => ⟨done.1, s.last⟩

/-- Data that the application wrote over. -/
def CodedBuffer.write (b : CodedBuffer) (bytes : Nat → UInt8) : CodedBuffer :=
  { b with buffer := { b.buffer with
      data := (List.range b.buffer.capacity).map bytes
      allocated := by rw [List.length_map, List.length_range] } }

/-- One call. A call that is refused is no event of any buffer. -/
def bufferStep (s : Recorded) : BufferCall → Option Recorded
  | .create memory type size numElements data =>
    match createBuffer s.buffers memory type size numElements data with
    | (buffers, .ok _) => some (s.record buffers s.buffers.used .emptied)
    | (buffers, .error _) => some ⟨buffers, s.last⟩
  | .setNumElements id numElements granted =>
    some (s.after (rkBufferSetNumElements s.buffers id numElements granted)
      (bufferAcquire s.buffers id) .emptied)
  | .destroy id => some ⟨(rkDestroyBuffer s.buffers id).1, s.last⟩
  | .write id bytes =>
    match bufferAcquire s.buffers id with
    | none => some s
    | some address =>
      let b := s.buffers.object address
      if b.buffer.type = .encCoded then none
      else some ⟨s.buffers.put address (b.write bytes), s.last⟩
  | .encodeStart codedId =>
    some (s.after (encodeStart s.buffers codedId) (bufferAcquire s.buffers codedId) .started)
  | .encodeFinish address outcome =>
    (encodeFinish s.buffers address outcome).map fun done =>
      s.record done.1 address (.finished outcome)

/-- A driver that was just initialised. -/
def noBuffers : Recorded where
  buffers := ⟨.init .buffer, fun _ => ⟨⟨.other 0, 0, 0, 0, [], false, rfl⟩, 0, 0, false, false⟩, 0, []⟩
  last _ := .emptied

/-- A packet that a buffer with this room takes. -/
def PacketOutcome.Fits (room : Nat) : PacketOutcome → Prop
  | .failed => False
  | .packet position data =>
    position = true ∧ data ≠ [] ∧ data.length ≤ 0xffffffff ∧ data.length ≤ room

/-- The packet of an outcome. -/
def PacketOutcome.bytes : PacketOutcome → List UInt8
  | .failed => []
  | .packet _ data => data

/-! ## One buffer -/

/-- The flags and the segment of a coded buffer, after the last thing that happened to it. -/
def CodedBuffer.Shows (b : CodedBuffer) : BufferEvent → Prop
  | .emptied | .started => b.ready = false ∧ b.failed = false
  | .finished outcome =>
    (outcome.Fits b.buffer.capacity → b.ready = true ∧ b.failed = false ∧ b.segmentStatus = 0 ∧
      b.buffer.data.take b.segmentSize = outcome.bytes) ∧
    (¬outcome.Fits b.buffer.capacity → b.failed = true)

/-- What holds of a buffer at all times. -/
structure CodedBuffer.Kept (b : CodedBuffer) (last : BufferEvent) : Prop where
  capacity : b.buffer.capacity = b.buffer.size.toNat * b.buffer.numElements.toNat
  pointer : b.buffer.type = .encCoded → b.buffer.codedSegment = true
  segment : b.buffer.type = .encCoded → b.segmentSize ≤ b.buffer.capacity
  shows : b.buffer.type = .encCoded → b.Shows last

section

variable {b : CodedBuffer} {last : BufferEvent}

theorem CodedBuffer.kept_new (type : VABufferType) (size numElements : UInt32)
    (data : Option (Nat → UInt8)) :
    CodedBuffer.Kept ⟨newBuffer type size numElements data, 0, 0, false, false⟩ .emptied where
  capacity := rfl
  pointer coded := by
    change (type == .encCoded) = true
    rw [show type = .encCoded from coded]
    rfl
  segment _ := Nat.zero_le _
  shows _ := ⟨rfl, rfl⟩

theorem CodedBuffer.kept_resize (b : CodedBuffer) (numElements : UInt32) :
    (b.resize numElements).Kept .emptied := by
  unfold CodedBuffer.resize
  dsimp only
  by_cases coded : b.buffer.type = .encCoded
  · rw [if_pos coded]
    exact ⟨rfl, fun type => by simpa using type, fun _ => Nat.zero_le _, fun _ => ⟨rfl, rfl⟩⟩
  · rw [if_neg coded]
    exact ⟨rfl, fun type => absurd type coded, fun type => absurd type coded,
      fun type => absurd type coded⟩

theorem CodedBuffer.Kept.write (kept : b.Kept last) (other : b.buffer.type ≠ .encCoded)
    (bytes : Nat → UInt8) : (b.write bytes).Kept last :=
  ⟨kept.capacity, fun type => absurd type other, fun type => absurd type other,
    fun type => absurd type other⟩

theorem CodedBuffer.Kept.start (kept : b.Kept last) :
    ({ b with ready := false, failed := false } : CodedBuffer).Kept .started :=
  ⟨kept.capacity, kept.pointer, kept.segment, fun _ => ⟨rfl, rfl⟩⟩

/-- A result that is not a success marks the buffer as failed and leaves a segment of its data. -/
theorem CodedBuffer.Kept.fail (kept : b.Kept last) {outcome : PacketOutcome}
    (unfit : ¬outcome.Fits b.buffer.capacity) {segmentSize : Nat} {segmentStatus : UInt32}
    (smaller : segmentSize ≤ b.segmentSize) :
    ({ b with segmentSize := segmentSize, segmentStatus := segmentStatus, ready := true,
              failed := true } : CodedBuffer).Kept (.finished outcome) :=
  ⟨kept.capacity, kept.pointer, fun type => smaller.trans (kept.segment type),
    fun _ => ⟨fun fits => absurd fits unfit, fun _ => rfl⟩⟩

theorem CodedBuffer.Kept.finish (kept : b.Kept last) (coded : b.buffer.type = .encCoded)
    (outcome : PacketOutcome) :
    ((b.finish outcome).2).Kept (.finished outcome) ∧
      ((b.finish outcome).2).buffer.type = .encCoded := by
  cases outcome with
  | failed =>
    refine ⟨?_, coded⟩
    exact CodedBuffer.Kept.fail kept (show ¬PacketOutcome.failed.Fits _ from id) le_rfl
  | packet position data =>
    unfold CodedBuffer.finish
    by_cases refused : position = false ∨ data.length = 0 ∨ 0xffffffff < data.length
    · simp only [if_pos refused]
      have unfit : ¬(PacketOutcome.packet position data).Fits b.buffer.capacity := by
        rintro ⟨there, some, small, -⟩
        rcases refused with missing | empty | large
        · exact Bool.noConfusion (there.symm.trans missing)
        · exact some (List.length_eq_zero_iff.mp empty)
        · omega
      exact ⟨kept.fail unfit le_rfl, coded⟩
    · simp only [if_neg refused]
      unfold rkBufferStoreCoded
      rw [if_neg (not_not_intro coded)]
      by_cases fits : data.length ≤ b.buffer.capacity
      · have small : data.length % 2 ^ 32 = data.length := Nat.mod_eq_of_lt (by omega)
        simp only [dif_pos fits, ne_eq, not_true_eq_false, if_false]
        refine ⟨⟨kept.capacity, fun _ => rfl, fun _ => ?_, fun _ => ⟨fun _ => ?_, ?_⟩⟩, coded⟩
        · dsimp only
          omega
        · refine ⟨rfl, rfl, rfl, ?_⟩
          dsimp only [PacketOutcome.bytes]
          rw [small, List.take_left' rfl]
        · intro unfit
          refine absurd ⟨?_, ?_, ?_, fits⟩ unfit
          · simpa using fun missing => refused (.inl missing)
          · exact fun empty => refused (.inr (.inl (by rw [empty]; rfl)))
          · exact Nat.not_lt.mp fun large => refused (.inr (.inr large))
      · simp only [dif_neg fits, ne_eq, reduceCtorEq, not_false_eq_true, if_true]
        have unfit : ¬(PacketOutcome.packet position data).Fits b.buffer.capacity :=
          fun all => fits all.2.2.2
        exact ⟨kept.fail unfit (Nat.zero_le _), coded⟩

end

/-! ## All buffers -/

/-- What holds of a driver at all times: the ids denote objects, an encoder holds coded buffers, and
every object is as it should be after what happened to it last. -/
structure Recorded.Kept (s : Recorded) : Prop where
  heap : ∃ free m, Inv s.buffers.heap free m ∧ ∀ id a, m.live id = some a → a < s.buffers.used
  encoding : ∀ a ∈ s.buffers.encoding,
    a < s.buffers.used ∧ (s.buffers.object a).buffer.type = .encCoded
  object : ∀ a, a < s.buffers.used → (s.buffers.object a).Kept (s.last a)

theorem noBuffers_kept : noBuffers.Kept where
  heap := ⟨[], .empty, ObjectHeap.inv_init .buffer, fun _ _ none => nomatch none⟩
  encoding _ none := nomatch none
  object _ none := nomatch none

section

variable {s s' : Recorded} {id : UInt32} {address : Nat}

theorem Recorded.Kept.acquired (kept : s.Kept) (found : bufferAcquire s.buffers id = some address) :
    address < s.buffers.used := by
  obtain ⟨free, m, inv, live⟩ := kept.heap
  have here := (inv.acquire_iff id (fun _ => 1) fun _ _ => by decide) address
  exact live id address (here.mp found).1

/-- An object is changed in place, and its type stays. -/
theorem Recorded.Kept.put (kept : s.Kept) {b : CodedBuffer} {event : BufferEvent}
    (type : b.buffer.type = (s.buffers.object address).buffer.type) (good : b.Kept event) :
    (s.record (s.buffers.put address b) address event).Kept := by
  refine ⟨kept.heap, fun a mem => ?_, fun a used => ?_⟩
  · obtain ⟨used, coded⟩ := kept.encoding a mem
    refine ⟨used, ?_⟩
    by_cases same : a = address
    · subst same
      simpa [record, Buffers.put] using type.trans coded
    · simpa [record, Buffers.put, same] using coded
  · by_cases same : a = address
    · subst same
      simpa [record, Buffers.put] using good
    · simpa [record, Buffers.put, same] using kept.object a used

theorem createBuffer_cases (s : Buffers) (memory : BufferMemory) (type : VABufferType)
    (size numElements : UInt32) (data : Option (Nat → UInt8)) :
    createBuffer s memory type size numElements data = (s, .error .allocationFailed) ∨
      createBuffer s memory type size numElements data =
        match insert s.heap s.used memory.slots with
        | (heap, none) => ({ s with heap := heap }, .error .allocationFailed)
        | (heap, some id) =>
          (({ s with heap := heap, used := s.used + 1 } : Buffers).put s.used
            ⟨newBuffer type size numElements data, 0, 0, false, false⟩, .ok id) := by
  unfold createBuffer
  split
  · exact .inl rfl
  · dsimp only
    by_cases refused : memory.object = false ∨ memory.block
        (if size.toNat * numElements.toNat ≠ 0 then size.toNat * numElements.toNat else 1) = false
    · rw [if_pos refused]
      exact .inl rfl
    · rw [if_neg refused]
      exact .inr rfl

/-- A new object is at an address of its own. -/
theorem Recorded.Kept.insert (kept : s.Kept) {slots : Bool} {heap : RKObjectHeap Nat}
    (inserted : insert s.buffers.heap s.buffers.used slots = (heap, some id)) {b : CodedBuffer}
    (good : b.Kept .emptied) :
    (s.record (({ s.buffers with heap := heap, used := s.buffers.used + 1 } : Buffers).put
      s.buffers.used b) s.buffers.used .emptied).Kept := by
  obtain ⟨free, m, inv, live⟩ := kept.heap
  rcases inv.after_insert s.buffers.used slots with
    same | ⟨-, -, new, free', -, -, -, -, -, returned, -, inv'⟩
  · rw [inserted] at same
    cases same
  · rw [inserted] at returned inv'
    obtain rfl : id = new := Option.some.inj returned
    refine ⟨⟨free', _, inv', fun id' a here => ?_⟩, fun a mem => ?_, fun a used => ?_⟩
    · dsimp only [record, Buffers.put]
      by_cases same : id' = id
      · simp only [FreshMap.issue, same, Function.update_self, Option.some.injEq] at here
        omega
      · simp only [FreshMap.issue, Function.update_of_ne same] at here
        have := live id' a here
        omega
    · obtain ⟨used, coded⟩ := kept.encoding a mem
      dsimp only [record, Buffers.put]
      rw [Function.update_of_ne (by omega)]
      exact ⟨by omega, coded⟩
    · dsimp only [record, Buffers.put] at used ⊢
      by_cases same : a = s.buffers.used
      · rw [same, Function.update_self, Function.update_self]
        exact good
      · rw [Function.update_of_ne same, Function.update_of_ne same]
        exact kept.object a (by omega)

theorem Recorded.Kept.create (kept : s.Kept) {memory : BufferMemory} {type : VABufferType}
    {size numElements : UInt32} {data : Option (Nat → UInt8)}
    (next : bufferStep s (.create memory type size numElements data) = some s') : s'.Kept := by
  simp only [bufferStep] at next
  rcases createBuffer_cases s.buffers memory type size numElements data with failed | inserts
  · rw [failed] at next
    cases next
    exact kept
  · rw [inserts] at next
    rcases inserted : ObjectHeap.insert s.buffers.heap s.buffers.used memory.slots with ⟨heap, _ | id⟩
    · obtain ⟨free, m, inv, -⟩ := kept.heap
      rw [inserted] at next
      cases next
      rcases inv.after_insert s.buffers.used memory.slots with same | ⟨-, -, id, -, -, -, -, -, -, returned, -⟩
      · rw [inserted] at same
        obtain rfl : heap = s.buffers.heap := congrArg Prod.fst same
        exact kept
      · rw [inserted] at returned
        cases returned
    · rw [inserted] at next
      cases next
      exact kept.insert inserted (CodedBuffer.kept_new type size numElements data)

theorem rkBufferSetNumElements_cases (s : Buffers) (id numElements : UInt32) (granted : Bool) :
    (∃ status, status ≠ .success ∧
      rkBufferSetNumElements s id numElements granted = (s, status)) ∨
    ∃ address, bufferAcquire s id = some address ∧
      rkBufferSetNumElements s id numElements granted =
        (s.put address ((s.object address).resize numElements), .success) := by
  unfold rkBufferSetNumElements
  cases bufferAcquire s id with
  | none => exact .inl ⟨.invalidBuffer, by simp, rfl⟩
  | some address =>
    dsimp only
    split
    · exact .inl ⟨.allocationFailed, by simp, rfl⟩
    · split
      · exact .inl ⟨.allocationFailed, by simp, rfl⟩
      · exact .inr ⟨address, rfl, rfl⟩

theorem encodeStart_cases (s : Buffers) (id : UInt32) :
    encodeStart s id = (s, .invalidBuffer) ∨
    ∃ address, bufferAcquire s id = some address ∧ (s.object address).buffer.type = .encCoded ∧
      encodeStart s id =
        ({ s.put address { s.object address with ready := false, failed := false } with
            encoding := address :: s.encoding }, .success) := by
  unfold encodeStart
  cases bufferAcquire s id with
  | none => exact .inl rfl
  | some address =>
    dsimp only
    by_cases coded : (s.object address).buffer.type = .encCoded
    · exact .inr ⟨address, rfl, coded, by rw [if_neg (not_not_intro coded)]⟩
    · rw [if_pos coded]
      exact .inl rfl

/-- A call that is refused leaves everything as it was. -/
theorem Recorded.after_refused {status : BufferStatus} (refused : status ≠ .success)
    (address : Option Nat) (event : BufferEvent) : s.after (s.buffers, status) address event = s := by
  unfold after
  cases address with
  | none => rfl
  | some address =>
    dsimp only
    rw [if_neg refused]

theorem CodedBuffer.resize_type (b : CodedBuffer) (numElements : UInt32) :
    (b.resize numElements).buffer.type = b.buffer.type := by
  unfold resize
  dsimp only
  split <;> rfl

theorem Recorded.Kept.destroy (kept : s.Kept) (id : UInt32) :
    (⟨(rkDestroyBuffer s.buffers id).1, s.last⟩ : Recorded).Kept := by
  obtain ⟨free, m, inv, live⟩ := kept.heap
  obtain ⟨-, -, free', inv'⟩ := inv.after_remove id
  unfold rkDestroyBuffer
  rcases removed : remove s.buffers.heap id with ⟨heap, _ | gone⟩
  all_goals
    rw [removed] at inv'
    refine ⟨⟨free', _, inv', fun id' a here => ?_⟩, kept.encoding, kept.object⟩
  · exact live id' a (by simpa using here)
  · rw [Option.isSome_some, if_pos rfl] at here
    by_cases same : id' = id
    · simp only [FreshMap.retire, same, Function.update_self, reduceCtorEq] at here
    · simp only [FreshMap.retire, Function.update_of_ne same] at here
      exact live id' a here

/-- Every call keeps the buffers. -/
theorem Recorded.Kept.step (kept : s.Kept) {call : BufferCall} (next : bufferStep s call = some s') :
    s'.Kept := by
  cases call with
  | create memory type size numElements data => exact kept.create next
  | setNumElements id numElements granted =>
    cases next
    rcases rkBufferSetNumElements_cases s.buffers id numElements granted with
      ⟨status, refused, same⟩ | ⟨address, found, resized⟩
    · rw [same, Recorded.after_refused refused]
      exact kept
    · rw [resized, found]
      exact kept.put (CodedBuffer.resize_type _ numElements) (CodedBuffer.kept_resize _ numElements)
  | destroy id =>
    cases next
    exact kept.destroy id
  | write id bytes =>
    simp only [bufferStep] at next
    cases found : bufferAcquire s.buffers id with
    | none =>
      simp only [found] at next
      cases next
      exact kept
    | some address =>
      simp only [found] at next
      split at next
      · cases next
      · rename_i other
        cases next
        have good := (kept.object address (kept.acquired found)).write other bytes
        have placed := kept.put (b := (s.buffers.object address).write bytes) rfl good
        simpa [Recorded.record, Function.update_eq_self] using placed
  | encodeStart codedId =>
    cases next
    rcases encodeStart_cases s.buffers codedId with same | ⟨address, found, coded, started⟩
    · rw [same, Recorded.after_refused (by simp)]
      exact kept
    · rw [started, found]
      have used := kept.acquired found
      have good := (kept.object address used).start
      have placed := kept.put (b := { s.buffers.object address with ready := false, failed := false })
        rfl good
      refine ⟨placed.heap, fun a mem => ?_, placed.object⟩
      rcases List.mem_cons.mp mem with rfl | mem
      · refine ⟨used, ?_⟩
        simpa [Recorded.after, Recorded.record, Buffers.put] using coded
      · exact placed.encoding a mem
  | encodeFinish address outcome =>
    simp only [bufferStep, encodeFinish] at next
    by_cases mem : address ∈ s.buffers.encoding
    · rw [if_pos mem] at next
      cases next
      obtain ⟨used, coded⟩ := kept.encoding address mem
      obtain ⟨good, type⟩ := (kept.object address used).finish coded outcome
      have placed := kept.put (type.trans coded.symm) good
      exact ⟨placed.heap, fun a mem => placed.encoding a (List.mem_of_mem_erase mem), placed.object⟩
    · rw [if_neg mem] at next
      cases next

end

/-- In every run of calls and encoders, what an application sees of a buffer is decided by what
happened to it last. A synchronisation succeeds exactly when that is a packet that fits, and then
the segment is this packet. No segment reaches beyond the data, also not after the buffer was
resized, or while it is encoded into. -/
theorem codedBuffer_shows (calls : List BufferCall) {s : Recorded}
    (run : Transition.run bufferStep noBuffers calls = some s) {id : UInt32} {address : Nat}
    (found : bufferAcquire s.buffers id = some address) :
    ∃ type size numElements, rkBufferInfo s.buffers id = .ok (type, size, numElements) ∧
      (type ≠ .encCoded → rkSyncBuffer s.buffers id = .success ∧ ∃ bytes,
        rkMapBuffer s.buffers id = .ok (.data bytes) ∧
          bytes.length = size.toNat * numElements.toNat) ∧
      (type = .encCoded →
        (∃ status bytes, rkMapBuffer s.buffers id = .ok (.segment status (some bytes)) ∧
          bytes.length ≤ size.toNat * numElements.toNat) ∧
        match s.last address with
        | .emptied => rkSyncBuffer s.buffers id = .timedOut
        | .started => rkSyncBuffer s.buffers id = .timedOut
        | .finished outcome =>
          (outcome.Fits (size.toNat * numElements.toNat) →
            rkSyncBuffer s.buffers id = .success ∧
              rkMapBuffer s.buffers id = .ok (.segment 0 (some outcome.bytes))) ∧
          (¬outcome.Fits (size.toNat * numElements.toNat) →
            rkSyncBuffer s.buffers id = .encodingError)) := by
  have kept : s.Kept :=
    Transition.run_invariant' (fun _ _ _ kept next => kept.step next) noBuffers_kept run
  have good := kept.object address (kept.acquired found)
  have room := good.capacity
  have length := (s.buffers.object address).buffer.allocated
  refine ⟨(s.buffers.object address).buffer.type, _, _, by rw [rkBufferInfo, found], ?_, ?_⟩
  · intro other
    refine ⟨?_, (s.buffers.object address).buffer.data, ?_, length.trans room⟩
    · simp [rkSyncBuffer, found, other]
    · simp [rkMapBuffer, found, other]
  · intro coded
    have mapped : rkMapBuffer s.buffers id = .ok (.segment (s.buffers.object address).segmentStatus
        (some ((s.buffers.object address).buffer.data.take
          (s.buffers.object address).segmentSize))) := by
      have inside := length.symm ▸ good.segment coded
      simp [rkMapBuffer, found, coded, good.pointer coded, inside]
    have shows_ := good.shows coded
    refine ⟨⟨_, _, mapped, ?_⟩, ?_⟩
    · rw [List.length_take, ← room]
      exact (Nat.min_le_left _ _).trans (good.segment coded)
    · rw [mapped]
      unfold rkSyncBuffer
      rw [found, ← room]
      cases last : s.last address with
      | emptied =>
        rw [last] at shows_
        simp [coded, shows_.1, shows_.2]
      | started =>
        rw [last] at shows_
        simp [coded, shows_.1, shows_.2]
      | finished outcome =>
        rw [last] at shows_
        refine ⟨fun fits => ?_, fun unfit => ?_⟩
        · obtain ⟨ready, failed, status, bytes⟩ := shows_.1 fits
          simp [coded, ready, failed, status, bytes]
        · simp [coded, shows_.2 unfit]

/-- A buffer that is encoded into, and another one beside it. -/
def fewBufferCalls : List BufferCall :=
  let memory : BufferMemory := ⟨true, fun _ => true, true⟩
  [.create memory .encCoded 2 4 none, .create memory (.other 3) 5 1 (some fun _ => 9),
    .encodeStart 0x40100000, .encodeFinish 0 (.packet true [1, 2, 3, 4, 5, 6]),
    .setNumElements 0x40100000 2 true, .encodeStart 0x40100000,
    .encodeFinish 0 (.packet true [7, 8, 9]), .destroy 0x40100001]

theorem codedBuffer_shows_few : ∃ s, Transition.run bufferStep noBuffers fewBufferCalls = some s ∧
    rkSyncBuffer s.buffers 0x40100000 = .success ∧
      rkMapBuffer s.buffers 0x40100000 = .ok (.segment 0 (some [7, 8, 9])) := by
  obtain ⟨s, run⟩ := Option.isSome_iff_exists.mp
    (show (Transition.run bufferStep noBuffers fewBufferCalls).isSome = true by rfl)
  have found : bufferAcquire s.buffers 0x40100000 = some 0 := by
    cases run
    rfl
  obtain ⟨type, size, numElements, info, -, coded⟩ := codedBuffer_shows fewBufferCalls run found
  have fields : rkBufferInfo s.buffers 0x40100000 = .ok (.encCoded, 2, 2) := by
    cases run
    rfl
  have last : s.last 0 = .finished (.packet true [7, 8, 9]) := by
    cases run
    rfl
  obtain ⟨rfl, rfl, rfl⟩ : type = .encCoded ∧ size = 2 ∧ numElements = 2 := by
    simpa [fields, eq_comm] using info
  have shown := (coded rfl).2
  rw [last] at shown
  exact ⟨s, run, shown.1 ⟨rfl, by decide, by decide, by decide⟩⟩

end RockchipVaapi.Buffer
