import Mathlib.Data.Nat.Bitwise
import Mathlib.Tactic.NormNum

/-!
# The object heap

The model of `object_heap.c`: slots with generation tags, a free list threaded through them,
and handles that pack type, generation and slot index. Objects are values of an arbitrary
type; the reference counts, which other threads change between the calls, are an input of
every call.
-/

namespace RockchipVaapi.ObjectHeap

/-- `RKObjectType` (`object_heap.h:19-25`). `rk_object_heap_init` refuses any other value. -/
inductive RKObjectType
  | config
  | context
  | surface
  | buffer
  | image
  deriving DecidableEq, Repr

/-- The numbers of the enumeration. -/
def RKObjectType.code : RKObjectType → Nat
  | .config => 1
  | .context => 2
  | .surface => 3
  | .buffer => 4
  | .image => 5

/-- `RK_OBJECT_NO_SLOT`. -/
def noSlot : Nat := 2 ^ 32 - 1

/-- `RKObjectSlot` (`object_heap.c:16-21`). -/
structure RKObjectSlot (α : Type) where
  object : Option α
  nextFree : Nat
  generation : Nat
  retired : Bool
  deriving DecidableEq, Repr

/-- A slot as `memset` leaves it. -/
def RKObjectSlot.zero {α : Type} : RKObjectSlot α := ⟨none, 0, 0, false⟩

/-- `RKObjectHeap` (`object_heap.h:36-43`). `capacity` is the number of slots. -/
structure RKObjectHeap (α : Type) where
  type : RKObjectType
  slots : List (RKObjectSlot α)
  highWater : Nat
  freeHead : Nat
  count : Nat
  deriving DecidableEq, Repr

namespace RKObjectHeap

variable {α : Type}

/-- The `capacity` field. -/
def capacity (heap : RKObjectHeap α) : Nat := heap.slots.length

/-- Slot `index`. -/
def slot (heap : RKObjectHeap α) (index : Nat) : RKObjectSlot α := heap.slots.getD index .zero

/-- Replace slot `index`. -/
def setSlot (heap : RKObjectHeap α) (index : Nat) (slot : RKObjectSlot α) : RKObjectHeap α :=
  { heap with slots := heap.slots.set index slot }

/-- `rk_object_heap_init` (`object_heap.c:110-119`). -/
def init (type : RKObjectType) : RKObjectHeap α :=
  { type, slots := [], highWater := 0, freeHead := noSlot, count := 0 }

end RKObjectHeap

/-- `make_id` (`object_heap.c:27-32`). -/
def makeId (type : RKObjectType) (generation index : Nat) : UInt32 :=
  UInt32.ofNat ((type.code <<< 28) ||| (generation <<< 20) ||| index)

section

variable {α : Type}

/-- `decode_id` (`object_heap.c:34-50`): the index and the generation. -/
def decodeId (heap : RKObjectHeap α) (id : UInt32) : Option (Nat × Nat) :=
  let encodedType := (id.toNat >>> 28) &&& 0x0f
  let encodedGeneration := (id.toNat >>> 20) &&& 0xff
  let encodedIndex := id.toNat &&& 0x000fffff
  if encodedType ≠ heap.type.code ∨ encodedGeneration = 0 ∨ heap.highWater ≤ encodedIndex then none
  else some (encodedIndex, encodedGeneration)

/-- The capacity `grow_heap` asks for (`object_heap.c:55-62`). -/
def newCapacity (capacity : Nat) : Nat :=
  let maximum := 0x000fffff + 1
  let doubled := if capacity ≠ 0 then capacity * 2 % 2 ^ 32 else 16
  if doubled < capacity ∨ maximum < doubled then maximum else doubled

/-- `grow_heap` (`object_heap.c:52-73`); `alloc` is the outcome of `realloc`. -/
def growHeap (heap : RKObjectHeap α) (alloc : Bool) : Option (RKObjectHeap α) :=
  if 0x000fffff + 1 ≤ heap.capacity then none
  else if alloc then
    some { heap with
      slots := heap.slots ++ List.replicate (newCapacity heap.capacity - heap.capacity) .zero }
  else none

/-- A heap with a slot behind its high-water mark (`object_heap.c:149-150`). -/
def withRoom (heap : RKObjectHeap α) (alloc : Bool) : Option (RKObjectHeap α) :=
  if heap.highWater = heap.capacity then growHeap heap alloc else some heap

/-- `high_water++` and the generation of the slot that comes into use (`object_heap.c:151-153`). -/
def extendHeap (heap : RKObjectHeap α) : RKObjectHeap α :=
  { heap with highWater := heap.highWater + 1 }.setSlot heap.highWater
    { heap.slot heap.highWater with generation := 1 }

/-- The first half of `rk_object_heap_insert` (`object_heap.c:144-155`): a slot from the free
list, or the next one that was never used. -/
def takeSlot (heap : RKObjectHeap α) (alloc : Bool) : Option (RKObjectHeap α × Nat) :=
  if heap.freeHead ≠ noSlot then
    some ({ heap with freeHead := (heap.slot heap.freeHead).nextFree }, heap.freeHead)
  else
    match withRoom heap alloc with
    | none => none
    | some heap => some (extendHeap heap, heap.highWater)

/-- `rk_object_heap_insert` (`object_heap.c:136-165`): the heap afterwards, and the id or
`none` for `false`. -/
def insert (heap : RKObjectHeap α) (object : α) (alloc : Bool) : RKObjectHeap α × Option UInt32 :=
  match takeSlot heap alloc with
  | none => (heap, none)
  | some (heap, index) =>
    let slot := heap.slot index
    if slot.retired || slot.object.isSome || slot.generation == 0 then (heap, none)
    else
      ({ heap.setSlot index { slot with object := some object, nextFree := noSlot } with
          count := heap.count + 1 },
        some (makeId heap.type slot.generation index))

/-- `rk_object_ref` (`object_heap.c:83-97`) on a count: whether a reference was taken. A
failed compare and exchange only reads the count again. -/
def objectRef (refs : UInt32) : Bool := refs != 0 && refs != 0xFFFFFFFF

/-- `rk_object_heap_acquire` (`object_heap.c:167-180`) under the reference counts `refs`. -/
def acquire (heap : RKObjectHeap α) (id : UInt32) (refs : α → UInt32) : Option α :=
  match decodeId heap id with
  | none => none
  | some (index, generation) =>
    let slot := heap.slot index
    match slot.object with
    | none => none
    | some object =>
      if slot.retired || slot.generation != generation || !objectRef (refs object) then none
      else some object

/-- The end of `rk_object_heap_remove` (`object_heap.c:196-206`): the slot is retired after its
last generation, and goes to the free list otherwise. -/
def clearSlot (heap : RKObjectHeap α) (index : Nat) : RKObjectHeap α :=
  let slot := heap.slot index
  if slot.generation = 0xff then
    { heap.setSlot index { slot with object := none, retired := true, nextFree := noSlot } with
      count := heap.count - 1 }
  else
    { heap.setSlot index
        { slot with
          object := none, generation := slot.generation + 1, nextFree := heap.freeHead } with
      count := heap.count - 1, freeHead := index }

/-- `rk_object_heap_remove` (`object_heap.c:182-207`). -/
def remove (heap : RKObjectHeap α) (id : UInt32) : RKObjectHeap α × Option α :=
  match decodeId heap id with
  | none => (heap, none)
  | some (index, generation) =>
    let slot := heap.slot index
    match slot.object with
    | none => (heap, none)
    | some object =>
      if slot.retired || slot.generation != generation then (heap, none)
      else (clearSlot heap index, some object)

/-- `rk_object_heap_count` (`object_heap.c:209-212`). -/
def heapCount (heap : RKObjectHeap α) : Nat := heap.count

end

/-! ## Handles -/

theorem RKObjectType.code_range (type : RKObjectType) : 1 ≤ type.code ∧ type.code ≤ 5 := by
  cases type <;> decide

theorem RKObjectType.code_injective {s t : RKObjectType} (h : s.code = t.code) : s = t := by
  cases s <;> cases t <;> first | rfl | exact absurd h (by decide)

/-- A handle as a number. -/
theorem makeId_toNat (type : RKObjectType) {generation index : Nat} (hg : generation < 2 ^ 8)
    (hi : index < 2 ^ 20) :
    (makeId type generation index).toNat =
      type.code * 2 ^ 28 + generation * 2 ^ 20 + index := by
  have ht := type.code_range
  have low : (generation <<< 20) ||| index = generation * 2 ^ 20 + index := by
    rw [← Nat.shiftLeft_add_eq_or_of_lt hi, Nat.shiftLeft_eq]
  have all : (type.code <<< 28) ||| (generation <<< 20) ||| index =
      type.code * 2 ^ 28 + generation * 2 ^ 20 + index := by
    rw [Nat.or_assoc, low, ← Nat.shiftLeft_add_eq_or_of_lt (by omega), Nat.shiftLeft_eq]
    omega
  rw [makeId, all, UInt32.toNat_ofNat']
  omega

theorem makeId_injective {s t : RKObjectType} {g g' i i' : Nat} (hg : g < 2 ^ 8) (hg' : g' < 2 ^ 8)
    (hi : i < 2 ^ 20) (hi' : i' < 2 ^ 20) (h : makeId s g i = makeId t g' i') :
    s = t ∧ g = g' ∧ i = i' := by
  have eq := congrArg UInt32.toNat h
  rw [makeId_toNat s hg hi, makeId_toNat t hg' hi'] at eq
  exact ⟨RKObjectType.code_injective (by omega), by omega, by omega⟩

theorem makeId_ne (type : RKObjectType) {g i : Nat} (hg : g < 2 ^ 8) (hi : i < 2 ^ 20) :
    makeId type g i ≠ 0 ∧ makeId type g i ≠ 0xFFFFFFFF := by
  have ht := type.code_range
  have value := makeId_toNat type hg hi
  constructor
  · intro h
    rw [h] at value
    have : (0 : UInt32).toNat = 0 := rfl
    omega
  · intro h
    rw [h] at value
    have : (0xFFFFFFFF : UInt32).toNat = 2 ^ 32 - 1 := rfl
    omega

/-- `decode_id` takes exactly the handles of the heap's type with a slot in use apart. -/
theorem decodeId_iff {α : Type} {heap : RKObjectHeap α} {id : UInt32} {index generation : Nat}
    (room : heap.highWater ≤ 2 ^ 20) :
    decodeId heap id = some (index, generation) ↔
      id = makeId heap.type generation index ∧ 0 < generation ∧ generation < 2 ^ 8 ∧
        index < heap.highWater := by
  have hid := id.toNat_lt
  have ht := heap.type.code_range
  have mask4 : ∀ n, n &&& 0x0f = n % 2 ^ 4 := fun n => Nat.and_two_pow_sub_one_eq_mod n 4
  have mask8 : ∀ n, n &&& 0xff = n % 2 ^ 8 := fun n => Nat.and_two_pow_sub_one_eq_mod n 8
  have mask20 : ∀ n, n &&& 0x000fffff = n % 2 ^ 20 := fun n => Nat.and_two_pow_sub_one_eq_mod n 20
  unfold decodeId
  simp only [mask4, mask8, mask20, Nat.shiftRight_eq_div_pow]
  constructor
  · intro h
    split at h
    · cases h
    · rename_i valid
      push Not at valid
      obtain ⟨htype, hgen, hindex⟩ := valid
      obtain ⟨rfl, rfl⟩ : id.toNat % 2 ^ 20 = index ∧ id.toNat / 2 ^ 20 % 2 ^ 8 = generation := by
        simpa using h
      refine ⟨?_, by omega, by omega, hindex⟩
      apply UInt32.toNat.inj
      rw [makeId_toNat _ (by omega) (by omega), ← htype]
      omega
  · rintro ⟨rfl, hpos, hgen, hindex⟩
    rw [makeId_toNat _ hgen (by omega)]
    rw [if_neg]
    · congr 2
      · omega
      · omega
    · push Not
      refine ⟨by omega, by omega, by omega⟩

end RockchipVaapi.ObjectHeap
