import RockchipVaapi.Misc.FreshMap
import RockchipVaapi.ObjectHeap.Heap

/-!
# The object heap refines a map with never-reused keys

`Inv heap free m` ties the slots, the free list, the high-water mark and the generations of a
heap to the map `m` of the handles it has returned. Each operation keeps it, so it holds after
every sequence of calls, and what a call returns can be read off `m`.
-/

namespace RockchipVaapi.ObjectHeap

variable {α : Type}

/-- The free list, followed from `head` through the `next_free` fields. -/
def FreeChain (slot : Nat → RKObjectSlot α) : Nat → List Nat → Prop
  | head, [] => head = noSlot
  | head, index :: rest => head = index ∧ FreeChain slot (slot index).nextFree rest

/-- A slot that may be handed out: it was in use before, and is neither occupied nor retired. -/
structure Vacant (heap : RKObjectHeap α) (index : Nat) : Prop where
  used : index < heap.highWater
  object : (heap.slot index).object = none
  retired : (heap.slot index).retired = false

/-- The heap holds exactly the map `m`. A handle that was returned belongs to an earlier
generation of its slot, or to the current one, which is then occupied or retired. -/
structure Inv (heap : RKObjectHeap α) (free : List Nat) (m : FreshMap UInt32 α) : Prop where
  highWater_le : heap.highWater ≤ heap.capacity
  capacity_le : heap.capacity ≤ 2 ^ 20
  unused : ∀ i, heap.highWater ≤ i → heap.slot i = .zero
  generation : ∀ i, i < heap.highWater →
    0 < (heap.slot i).generation ∧ (heap.slot i).generation < 2 ^ 8
  occupied : ∀ i, (heap.slot i).object ≠ none → (heap.slot i).retired = false
  chain : FreeChain heap.slot heap.freeHead free
  nodup : free.Nodup
  vacant : ∀ i ∈ free, Vacant heap i
  issued : ∀ id ∈ m.issued, ∃ i g, i < heap.highWater ∧ 0 < g ∧ g ≤ (heap.slot i).generation ∧
    id = makeId heap.type g i ∧
    (g = (heap.slot i).generation → (heap.slot i).object ≠ none ∨ (heap.slot i).retired = true)
  live : ∀ id o, m.live id = some o ↔ ∃ i, i < heap.highWater ∧ (heap.slot i).object = some o ∧
    id = makeId heap.type (heap.slot i).generation i
  count : heap.count = m.size
  wf : m.WF

/-! ## Slots and the free list -/

theorem slot_setSlot {heap : RKObjectHeap α} {index : Nat} (h : index < heap.capacity)
    (s : RKObjectSlot α) (i : Nat) :
    (heap.setSlot index s).slot i = if i = index then s else heap.slot i := by
  unfold RKObjectHeap.setSlot RKObjectHeap.slot
  simp only [List.getD_eq_getElem?_getD, List.getElem?_set]
  by_cases same : i = index
  · subst same
    have h' : i < heap.slots.length := h
    simp [h']
  · simp [same, Ne.symm same]

theorem FreeChain.congr {slot slot' : Nat → RKObjectSlot α} :
    ∀ {head : Nat} {free : List Nat}, FreeChain slot head free →
      (∀ i ∈ free, slot' i = slot i) → FreeChain slot' head free := by
  intro head free
  induction free generalizing head with
  | nil => intro h _; exact h
  | cons index rest ih =>
    intro h same
    refine ⟨h.1, ?_⟩
    rw [same index List.mem_cons_self]
    exact ih h.2 (fun i hi => same i (List.mem_cons_of_mem _ hi))

/-- `grow_heap` appends zeroed slots and changes nothing else. -/
theorem growHeap_spec {heap heap' : RKObjectHeap α} {alloc : Bool}
    (h : growHeap heap alloc = some heap') :
    heap'.slot = heap.slot ∧ heap.capacity < heap'.capacity ∧ heap'.capacity ≤ 2 ^ 20 ∧
      heap' = { heap with slots := heap'.slots } := by
  unfold growHeap at h
  split at h
  · cases h
  · rename_i below
    have grown : heap.capacity < newCapacity heap.capacity ∧ newCapacity heap.capacity ≤ 2 ^ 20 := by
      unfold newCapacity
      dsimp only
      split <;> split <;> omega
    split at h
    · obtain rfl := Option.some.inj h
      have length : (heap.slots ++ List.replicate (newCapacity heap.capacity - heap.capacity)
          (.zero : RKObjectSlot α)).length = newCapacity heap.capacity := by
        have : heap.slots.length = heap.capacity := rfl
        rw [List.length_append, List.length_replicate]
        omega
      refine ⟨?_, grown.1.trans_eq length.symm, length.trans_le grown.2, rfl⟩
      -- a slot behind the old block is zero, appended or not
      funext i
      unfold RKObjectHeap.slot
      simp only [List.getD_eq_getElem?_getD, List.getElem?_append, List.getElem?_replicate]
      split
      · rfl
      · rename_i behind
        rw [List.getElem?_eq_none (Nat.le_of_not_lt behind)]
        by_cases inside : i - heap.slots.length < newCapacity heap.capacity - heap.capacity
        · rw [if_pos inside]
          rfl
        · rw [if_neg inside]
    · cases h

/-! ## The operations -/

theorem inv_init (type : RKObjectType) : Inv (.init type : RKObjectHeap α) [] .empty where
  highWater_le := Nat.le_refl 0
  capacity_le := by simp [RKObjectHeap.capacity, RKObjectHeap.init]
  unused := by
    intro i _
    simp [RKObjectHeap.slot, RKObjectHeap.init]
  generation := by
    intro i hi
    exact absurd hi (Nat.not_lt_zero i)
  occupied := by
    intro i h
    simp [RKObjectHeap.slot, RKObjectHeap.init, RKObjectSlot.zero] at h
  chain := rfl
  nodup := List.nodup_nil
  vacant := by
    intro i hi
    cases hi
  issued := by
    intro id hid
    cases hid
  live := by
    intro id o
    constructor
    · intro h
      cases h
    · rintro ⟨i, hi, -⟩
      exact absurd hi (Nat.not_lt_zero i)
  count := rfl
  wf := FreshMap.wf_empty

/-- Growing keeps the invariant: it reads no slot differently. -/
theorem Inv.grow {heap heap' : RKObjectHeap α} {free : List Nat} {m : FreshMap UInt32 α}
    {alloc : Bool} (inv : Inv heap free m) (h : growHeap heap alloc = some heap') :
    Inv heap' free m ∧ heap'.highWater = heap.highWater ∧ heap'.freeHead = heap.freeHead ∧
      heap.capacity < heap'.capacity := by
  obtain ⟨slots, more, le, shape⟩ := growHeap_spec h
  have hw : heap'.highWater = heap.highWater := by rw [shape]
  have fh : heap'.freeHead = heap.freeHead := by rw [shape]
  have ty : heap'.type = heap.type := by rw [shape]
  have ct : heap'.count = heap.count := by rw [shape]
  refine ⟨?_, hw, fh, more⟩
  exact {
    highWater_le := by rw [hw]; exact inv.highWater_le.trans more.le
    capacity_le := le
    unused := by rw [hw, slots]; exact inv.unused
    generation := by rw [hw, slots]; exact inv.generation
    occupied := by rw [slots]; exact inv.occupied
    chain := by rw [slots, fh]; exact inv.chain
    nodup := inv.nodup
    vacant := fun i hi => ⟨hw ▸ (inv.vacant i hi).used, slots ▸ (inv.vacant i hi).object,
      slots ▸ (inv.vacant i hi).retired⟩
    issued := by rw [hw, slots, ty]; exact inv.issued
    live := by rw [hw, slots, ty]; exact inv.live
    count := by rw [ct]; exact inv.count
    wf := inv.wf }

/-- The head of the free list is taken off it; the slot stays vacant. -/
theorem Inv.pop {heap : RKObjectHeap α} {free : List Nat} {m : FreshMap UInt32 α}
    (inv : Inv heap free m) (h : heap.freeHead ≠ noSlot) :
    ∃ rest, free = heap.freeHead :: rest ∧
      Inv { heap with freeHead := (heap.slot heap.freeHead).nextFree } rest m := by
  have chain := inv.chain
  cases free with
  | nil => exact absurd chain h
  | cons index rest =>
    obtain ⟨head, tail⟩ := chain
    refine ⟨rest, by rw [head], ?_⟩
    rw [← head] at tail
    exact { inv with
      chain := tail
      nodup := (List.nodup_cons.mp inv.nodup).2
      vacant := fun i hi =>
        have v := inv.vacant i (List.mem_cons_of_mem _ hi)
        ⟨v.used, v.object, v.retired⟩ }

/-- The slot that comes into use is zero but for its generation. -/
theorem Inv.slot_extendHeap {heap : RKObjectHeap α} {free : List Nat} {m : FreshMap UInt32 α}
    (inv : Inv heap free m) (room : heap.highWater < heap.capacity) (i : Nat) :
    (extendHeap heap).slot i = if i = heap.highWater then ⟨none, 0, 1, false⟩ else heap.slot i := by
  have zero := inv.unused heap.highWater (Nat.le_refl _)
  have below : heap.highWater <
      RKObjectHeap.capacity { heap with highWater := heap.highWater + 1 } := room
  have set := slot_setSlot below { heap.slot heap.highWater with generation := 1 } i
  rw [zero] at set
  rw [extendHeap, zero, set]
  rfl

/-- The next slot behind the high-water mark comes into use. -/
theorem Inv.extend {heap : RKObjectHeap α} {free : List Nat} {m : FreshMap UInt32 α}
    (inv : Inv heap free m) (room : heap.highWater < heap.capacity) :
    Inv (extendHeap heap) free m ∧ Vacant (extendHeap heap) heap.highWater := by
  have slots := inv.slot_extendHeap room
  have old : ∀ i, i < heap.highWater → i ≠ heap.highWater := fun i hi => Nat.ne_of_lt hi
  refine ⟨?_, ⟨Nat.lt_succ_self _, by rw [slots, if_pos rfl], by rw [slots, if_pos rfl]⟩⟩
  refine {
    highWater_le := ?_, capacity_le := ?_, unused := ?_, generation := ?_, occupied := ?_
    chain := ?_, nodup := inv.nodup, vacant := ?_, issued := ?_, live := ?_
    count := inv.count, wf := inv.wf }
  · simpa [extendHeap, RKObjectHeap.setSlot, RKObjectHeap.capacity] using Nat.succ_le_of_lt room
  · simpa [extendHeap, RKObjectHeap.setSlot, RKObjectHeap.capacity] using inv.capacity_le
  · intro i hi
    have hi' : heap.highWater + 1 ≤ i := hi
    rw [slots, if_neg (by omega)]
    exact inv.unused i (by omega)
  · intro i hi
    have hi' : i < heap.highWater + 1 := hi
    rw [slots]
    split
    · exact ⟨Nat.one_pos, by norm_num⟩
    · exact inv.generation i (by omega)
  · intro i h
    rw [slots] at h ⊢
    split
    · rfl
    · rename_i ne
      rw [if_neg ne] at h
      exact inv.occupied i h
  · refine inv.chain.congr fun i hi => ?_
    rw [slots, if_neg (old i (inv.vacant i hi).used)]
  · intro i hi
    have v := inv.vacant i hi
    refine ⟨Nat.lt_succ_of_lt v.used, ?_, ?_⟩ <;> rw [slots, if_neg (old i v.used)]
    · exact v.object
    · exact v.retired
  · intro id hid
    obtain ⟨i, g, hi, hg, hle, hmake, current⟩ := inv.issued id hid
    refine ⟨i, g, Nat.lt_succ_of_lt hi, hg, ?_⟩
    rw [slots, if_neg (old i hi)]
    exact ⟨hle, hmake, current⟩
  · intro id o
    rw [inv.live]
    constructor
    · rintro ⟨i, hi, hobj, hmake⟩
      refine ⟨i, Nat.lt_succ_of_lt hi, ?_⟩
      rw [slots, if_neg (old i hi)]
      exact ⟨hobj, hmake⟩
    · rintro ⟨i, hi, hobj, hmake⟩
      rw [slots] at hobj hmake
      by_cases same : i = heap.highWater
      · rw [if_pos same] at hobj
        cases hobj
      · rw [if_neg same] at hobj hmake
        have hi' : i < heap.highWater + 1 := hi
        exact ⟨i, by omega, hobj, hmake⟩

/-- The slot `rk_object_heap_insert` works on is vacant and no longer on the free list. It is the
only one that came into use or left the list. -/
theorem Inv.after_takeSlot {heap heap' : RKObjectHeap α} {free : List Nat} {m : FreshMap UInt32 α}
    {alloc : Bool} {index : Nat} (inv : Inv heap free m)
    (h : takeSlot heap alloc = some (heap', index)) :
    heap'.type = heap.type ∧
      ∃ free', Inv heap' free' m ∧ Vacant heap' index ∧ index ∉ free' ∧
        (∀ i ∈ free, i = index ∨ i ∈ free') ∧ ∀ i, Vacant heap' i → i = index ∨ Vacant heap i := by
  unfold takeSlot at h
  split at h
  · rename_i listed
    obtain ⟨rfl, rfl⟩ : _ = heap' ∧ heap.freeHead = index := by simpa using h
    obtain ⟨rest, rfl, inv'⟩ := inv.pop listed
    have v := inv.vacant heap.freeHead List.mem_cons_self
    exact ⟨rfl, rest, inv', ⟨v.used, v.object, v.retired⟩, (List.nodup_cons.mp inv.nodup).1,
      fun i hi => List.mem_cons.mp hi, fun i v => .inr ⟨v.used, v.object, v.retired⟩⟩
  · -- behind the high-water mark, after growing where the block is full
    cases roomy : withRoom heap alloc with
    | none => simp [roomy] at h
    | some grown =>
      obtain ⟨rfl, rfl⟩ : extendHeap grown = heap' ∧ grown.highWater = index := by
        simpa [roomy] using h
      have facts : Inv grown free m ∧ grown.type = heap.type ∧
          grown.highWater < grown.capacity ∧ grown.highWater = heap.highWater ∧
          grown.slot = heap.slot := by
        unfold withRoom at roomy
        split at roomy
        · rename_i full
          obtain ⟨inv', hw, -, more⟩ := inv.grow roomy
          obtain ⟨slots, -, -, shape⟩ := growHeap_spec roomy
          exact ⟨inv', by rw [shape], by omega, hw, slots⟩
        · rename_i notFull
          obtain rfl := Option.some.inj roomy
          have le := inv.highWater_le
          exact ⟨inv, rfl, by omega, rfl, rfl⟩
      obtain ⟨inv', type, room, hw, slots⟩ := facts
      obtain ⟨inv'', v⟩ := inv'.extend room
      refine ⟨type, free, inv'', v, ?_, fun i hi => .inr hi, ?_⟩
      · intro hmem
        exact absurd (inv'.vacant _ hmem).used (Nat.lt_irrefl _)
      · intro i v
        by_cases new : i = grown.highWater
        · exact .inl new
        · have used : i < grown.highWater + 1 := v.used
          have object := v.object
          have retired := v.retired
          rw [inv'.slot_extendHeap room, if_neg new, slots] at object retired
          exact .inr ⟨by omega, object, retired⟩

/-- A vacant slot has no handle of its current generation. -/
theorem Inv.fresh {heap : RKObjectHeap α} {free : List Nat} {m : FreshMap UInt32 α} {index : Nat}
    (inv : Inv heap free m) (v : Vacant heap index) :
    makeId heap.type (heap.slot index).generation index ∉ m.issued := by
  intro hid
  obtain ⟨i, g, hi, hg, hle, hmake, current⟩ := inv.issued _ hid
  have room := inv.highWater_le.trans inv.capacity_le
  have hgen := (inv.generation index v.used).2
  have hgen' := (inv.generation i hi).2
  have hindex := v.used
  obtain ⟨-, hg', rfl⟩ := makeId_injective hgen (by omega) (by omega) (by omega) hmake
  rcases current hg'.symm with object | retired
  · exact object v.object
  · rw [v.retired] at retired
    cases retired

/-- Storing an object in a vacant slot issues the handle of the slot. -/
theorem Inv.store {heap : RKObjectHeap α} {free : List Nat} {m : FreshMap UInt32 α} {index : Nat}
    (inv : Inv heap free m) (v : Vacant heap index) (off : index ∉ free) (object : α) :
    Inv { heap.setSlot index { heap.slot index with object := some object, nextFree := noSlot } with
        count := heap.count + 1 } free
      (m.issue (makeId heap.type (heap.slot index).generation index) object) := by
  have room := v.used.trans_le inv.highWater_le
  have fresh := inv.fresh v
  have slots : ∀ i, (RKObjectHeap.slot { heap.setSlot index
      { heap.slot index with object := some object, nextFree := noSlot } with
        count := heap.count + 1 } i) = if i = index then
          { heap.slot index with object := some object, nextFree := noSlot } else heap.slot i :=
    slot_setSlot room _
  have ne : ∀ i ∈ free, i ≠ index := fun i hi h => off (h ▸ hi)
  refine {
    highWater_le := ?_, capacity_le := ?_, unused := ?_, generation := ?_, occupied := ?_
    chain := ?_, nodup := inv.nodup, vacant := ?_, issued := ?_, live := ?_
    count := ?_, wf := inv.wf.issue fresh }
  · simpa [RKObjectHeap.setSlot, RKObjectHeap.capacity] using inv.highWater_le
  · simpa [RKObjectHeap.setSlot, RKObjectHeap.capacity] using inv.capacity_le
  · intro i hi
    have hi' : heap.highWater ≤ i := hi
    have used := v.used
    rw [slots, if_neg (by omega)]
    exact inv.unused i hi'
  · intro i hi
    rw [slots]
    split
    · exact inv.generation index v.used
    · exact inv.generation i hi
  · intro i h
    rw [slots] at h ⊢
    split
    · exact v.retired
    · rename_i other
      rw [if_neg other] at h
      exact inv.occupied i h
  · refine inv.chain.congr fun i hi => ?_
    rw [slots, if_neg (ne i hi)]
  · intro i hi
    have vi := inv.vacant i hi
    refine ⟨vi.used, ?_, ?_⟩ <;> rw [slots, if_neg (ne i hi)]
    · exact vi.object
    · exact vi.retired
  · intro id hid
    rcases List.mem_cons.mp hid with rfl | hid
    · refine ⟨index, _, v.used, (inv.generation index v.used).1, ?_⟩
      rw [slots, if_pos rfl]
      exact ⟨Nat.le_refl _, rfl, fun _ => .inl (by simp)⟩
    · obtain ⟨i, g, hi, hg, hle, hmake, current⟩ := inv.issued id hid
      refine ⟨i, g, hi, hg, ?_⟩
      rw [slots]
      by_cases same : i = index
      · subst same
        rw [if_pos rfl]
        exact ⟨hle, hmake, fun _ => .inl (by simp)⟩
      · rw [if_neg same]
        exact ⟨hle, hmake, current⟩
  · intro id o
    by_cases same : id = makeId heap.type (heap.slot index).generation index
    · -- the handle just issued
      have live : (m.issue (makeId heap.type (heap.slot index).generation index) object).live id =
          some object := by
        rw [same]
        exact Function.update_self _ _ _
      rw [live]
      constructor
      · intro h
        obtain rfl := Option.some.inj h
        refine ⟨index, v.used, ?_⟩
        rw [slots, if_pos rfl]
        exact ⟨rfl, same⟩
      · rintro ⟨i, hi, hobj, hmake⟩
        rw [slots] at hobj hmake
        by_cases here : i = index
        · rw [if_pos here] at hobj
          exact hobj
        · -- an occupied slot cannot have the fresh handle
          rw [if_neg here] at hobj hmake
          have mem := inv.wf.mem_issued id o ((inv.live id o).mpr ⟨i, hi, hobj, hmake⟩)
          rw [same] at mem
          exact absurd mem fresh
    · have live : (m.issue (makeId heap.type (heap.slot index).generation index) object).live id =
          m.live id := Function.update_of_ne same _ _
      rw [live, inv.live]
      constructor
      · rintro ⟨i, hi, hobj, hmake⟩
        have other : i ≠ index := by
          rintro rfl
          rw [v.object] at hobj
          cases hobj
        refine ⟨i, hi, ?_⟩
        rw [slots, if_neg other]
        exact ⟨hobj, hmake⟩
      · rintro ⟨i, hi, hobj, hmake⟩
        rw [slots] at hobj hmake
        by_cases here : i = index
        · subst here
          rw [if_pos rfl] at hmake
          exact absurd hmake same
        · rw [if_neg here] at hobj hmake
          exact ⟨i, hi, hobj, hmake⟩
  · rw [FreshMap.size_issue fresh, ← inv.count]

/-- The slot that was taken is fit for the object. -/
theorem Inv.insert_taken {heap heap' : RKObjectHeap α} {free : List Nat} {m : FreshMap UInt32 α}
    {index : Nat} {alloc : Bool} (inv : Inv heap' free m) (v : Vacant heap' index)
    (taken : takeSlot heap alloc = some (heap', index)) (object : α) :
    insert heap object alloc =
      ({ heap'.setSlot index
          { heap'.slot index with object := some object, nextFree := noSlot } with
          count := heap'.count + 1 },
        some (makeId heap'.type (heap'.slot index).generation index)) := by
  have usable : ((heap'.slot index).retired || (heap'.slot index).object.isSome ||
      (heap'.slot index).generation == 0) = false := by
    have := (inv.generation index v.used).1
    simp only [v.retired, v.object]
    simp
    omega
  unfold insert
  rw [taken]
  dsimp only
  rw [usable, if_neg Bool.false_ne_true]

/-- What `rk_object_heap_insert` does: nothing to the map and no id, or a fresh handle for the
object. -/
theorem Inv.after_insert {heap : RKObjectHeap α} {free : List Nat} {m : FreshMap UInt32 α}
    (inv : Inv heap free m) (object : α) (alloc : Bool) :
    ((insert heap object alloc) = (heap, none)) ∨
      ∃ generation index id free', 0 < generation ∧ generation < 2 ^ 8 ∧ index < 2 ^ 20 ∧
        id = makeId heap.type generation index ∧ id ∉ m.issued ∧
        (insert heap object alloc).2 = some id ∧
        (insert heap object alloc).1.type = heap.type ∧
        Inv (insert heap object alloc).1 free' (m.issue id object) := by
  cases taken : takeSlot heap alloc with
  | none =>
    left
    rw [insert, taken]
  | some result =>
    obtain ⟨heap', index⟩ := result
    obtain ⟨type, free', inv', v, off, -⟩ := inv.after_takeSlot taken
    have gen := inv'.generation index v.used
    have room := v.used.trans_le (inv'.highWater_le.trans inv'.capacity_le)
    right
    rw [inv'.insert_taken v taken object]
    refine ⟨_, index, _, free', gen.1, gen.2, room, by rw [type], ?_, rfl, type,
      inv'.store v off object⟩
    exact inv'.fresh v

/-- The handle of an occupied slot is the handle of its object, and of no other slot. -/
theorem Inv.live_iff {heap : RKObjectHeap α} {free : List Nat} {m : FreshMap UInt32 α}
    (inv : Inv heap free m) {id : UInt32} {index generation : Nat}
    (decoded : decodeId heap id = some (index, generation)) (o : α) :
    m.live id = some o ↔
      (heap.slot index).object = some o ∧ (heap.slot index).generation = generation := by
  have room := inv.highWater_le.trans inv.capacity_le
  obtain ⟨rfl, hpos, hgen, hindex⟩ := (decodeId_iff room).mp decoded
  rw [inv.live]
  constructor
  · rintro ⟨i, hi, hobj, hmake⟩
    have hgen' := (inv.generation i hi).2
    obtain ⟨-, rfl, rfl⟩ := makeId_injective hgen hgen' (by omega) (by omega) hmake
    exact ⟨hobj, rfl⟩
  · rintro ⟨hobj, rfl⟩
    exact ⟨index, hindex, hobj, rfl⟩

theorem Inv.live_eq_none {heap : RKObjectHeap α} {free : List Nat} {m : FreshMap UInt32 α}
    (inv : Inv heap free m) {id : UInt32} (decoded : decodeId heap id = none) :
    m.live id = none := by
  cases live : m.live id with
  | none => rfl
  | some o =>
    obtain ⟨i, hi, hobj, hmake⟩ := (inv.live id o).mp live
    have gen := inv.generation i hi
    have room := inv.highWater_le.trans inv.capacity_le
    rw [(decodeId_iff room).mpr ⟨hmake, gen.1, gen.2, hi⟩] at decoded
    cases decoded

/-- An acquire answers from the map, whatever the reference counts are. -/
theorem Inv.acquire_eq {heap : RKObjectHeap α} {free : List Nat} {m : FreshMap UInt32 α}
    (inv : Inv heap free m) (id : UInt32) (refs : α → UInt32) :
    acquire heap id refs = (m.live id).filter fun o => objectRef (refs o) := by
  unfold acquire
  cases decoded : decodeId heap id with
  | none =>
    rw [inv.live_eq_none decoded]
    rfl
  | some result =>
    obtain ⟨index, generation⟩ := result
    have live := inv.live_iff decoded
    dsimp only
    cases object : (heap.slot index).object with
    | none =>
      have dead : m.live id = none := Option.eq_none_iff_forall_ne_some.mpr fun o here => by
        rw [live, object] at here
        cases here.1
      rw [dead]
      rfl
    | some o =>
      have active := inv.occupied index (by simp [object])
      by_cases current : (heap.slot index).generation = generation
      · rw [(live o).mpr ⟨object, current⟩, active, current]
        cases taken : objectRef (refs o) <;> simp [Option.filter_some, taken]
      · have dead : m.live id = none := Option.eq_none_iff_forall_ne_some.mpr fun o here =>
          current ((live o).mp here).2
        rw [dead]
        simp [current]

/-- What `rk_object_heap_acquire` returns. -/
theorem Inv.acquire_iff {heap : RKObjectHeap α} {free : List Nat} {m : FreshMap UInt32 α}
    (inv : Inv heap free m) (id : UInt32) (refs : α → UInt32)
    (held : ∀ o, m.live id = some o → refs o ≠ 0) (o : α) :
    acquire heap id refs = some o ↔ m.live id = some o ∧ refs o ≠ 0xFFFFFFFF := by
  rw [inv.acquire_eq, Option.filter_eq_some_iff]
  refine and_congr_right fun here => ?_
  have counted := held o here
  simp [objectRef, counted]

/-- Emptying an occupied slot. Its handles are issued already, so a slot that moves on to the
next generation joins the free list and one that has no next generation is retired. -/
theorem Inv.clear {heap : RKObjectHeap α} {free : List Nat} {m : FreshMap UInt32 α} {index : Nat}
    {object : α} (inv : Inv heap free m) (used : index < heap.highWater)
    (occupied : (heap.slot index).object = some object) {slot : RKObjectSlot α} {free' : List Nat}
    {freeHead : Nat} (empty : slot.object = none)
    (next : (slot.generation = (heap.slot index).generation ∧ slot.retired = true ∧
        free' = free ∧ freeHead = heap.freeHead) ∨
      (slot.generation = (heap.slot index).generation + 1 ∧ slot.generation < 2 ^ 8 ∧
        slot.retired = false ∧ slot.nextFree = heap.freeHead ∧ free' = index :: free ∧
        freeHead = index)) :
    Inv { heap.setSlot index slot with count := heap.count - 1, freeHead := freeHead } free'
      (m.retire (makeId heap.type (heap.slot index).generation index)) := by
  have room := used.trans_le inv.highWater_le
  have slots : ∀ i, (RKObjectHeap.slot { heap.setSlot index slot with
      count := heap.count - 1, freeHead := freeHead } i) =
        if i = index then slot else heap.slot i := slot_setSlot room _
  have off : index ∉ free := by
    intro hmem
    rw [(inv.vacant index hmem).object] at occupied
    cases occupied
  have ne : ∀ i ∈ free, i ≠ index := fun i hi h => off (h ▸ hi)
  have hlive : m.live (makeId heap.type (heap.slot index).generation index) = some object :=
    (inv.live _ _).mpr ⟨index, used, occupied, rfl⟩
  have chain : FreeChain (RKObjectHeap.slot { heap.setSlot index slot with
      count := heap.count - 1, freeHead := freeHead }) heap.freeHead free :=
    inv.chain.congr fun i hi => by rw [slots, if_neg (ne i hi)]
  have vacant : ∀ i ∈ free, Vacant { heap.setSlot index slot with
      count := heap.count - 1, freeHead := freeHead } i := by
    intro i hi
    have v := inv.vacant i hi
    refine ⟨v.used, ?_, ?_⟩ <;> rw [slots, if_neg (ne i hi)]
    · exact v.object
    · exact v.retired
  refine {
    highWater_le := ?_, capacity_le := ?_, unused := ?_, generation := ?_, occupied := ?_
    chain := ?_, nodup := ?_, vacant := ?_, issued := ?_, live := ?_
    count := ?_, wf := inv.wf.retire }
  · simpa [RKObjectHeap.setSlot, RKObjectHeap.capacity] using inv.highWater_le
  · simpa [RKObjectHeap.setSlot, RKObjectHeap.capacity] using inv.capacity_le
  · intro i hi
    have hi' : heap.highWater ≤ i := hi
    rw [slots, if_neg (Nat.ne_of_gt (used.trans_le hi'))]
    exact inv.unused i hi'
  · intro i hi
    rw [slots]
    split
    · have gen := inv.generation index used
      rcases next with ⟨same, -⟩ | ⟨more, lt, -⟩
      · rw [same]
        exact gen
      · exact ⟨by omega, lt⟩
    · exact inv.generation i hi
  · intro i h
    rw [slots] at h ⊢
    split
    · rename_i here
      rw [if_pos here] at h
      exact absurd empty h
    · rename_i other
      rw [if_neg other] at h
      exact inv.occupied i h
  · rcases next with ⟨-, -, rfl, rfl⟩ | ⟨-, -, -, link, rfl, rfl⟩
    · exact chain
    · refine ⟨rfl, ?_⟩
      rw [slots, if_pos rfl, link]
      exact chain
  · rcases next with ⟨-, -, rfl, -⟩ | ⟨-, -, -, -, rfl, -⟩
    · exact inv.nodup
    · exact List.nodup_cons.mpr ⟨off, inv.nodup⟩
  · rcases next with ⟨-, -, rfl, -⟩ | ⟨-, -, active, -, rfl, -⟩
    · exact vacant
    · intro i hi
      rcases List.mem_cons.mp hi with rfl | hi
      · refine ⟨used, ?_, ?_⟩ <;> rw [slots, if_pos rfl]
        · exact empty
        · exact active
      · exact vacant i hi
  · intro id hid
    obtain ⟨i, g, hi, hg, hle, hmake, current⟩ := inv.issued id hid
    refine ⟨i, g, hi, hg, ?_⟩
    rw [slots]
    by_cases here : i = index
    · subst here
      rw [if_pos rfl]
      rcases next with ⟨same, retired, -⟩ | ⟨next, -, -⟩
      · exact ⟨by omega, hmake, fun _ => .inr retired⟩
      · exact ⟨by omega, hmake, fun h => by omega⟩
    · rw [if_neg here]
      exact ⟨hle, hmake, current⟩
  · intro id o
    by_cases same : id = makeId heap.type (heap.slot index).generation index
    · have dead : (m.retire (makeId heap.type (heap.slot index).generation index)).live id = none := by
        rw [same]
        exact Function.update_self _ _ _
      rw [dead]
      refine iff_of_false (by simp) ?_
      rintro ⟨i, hi, hobj, hmake⟩
      rw [slots] at hobj hmake
      by_cases here : i = index
      · rw [if_pos here, empty] at hobj
        cases hobj
      · rw [if_neg here] at hmake
        have le := inv.highWater_le.trans inv.capacity_le
        have hi' : i < heap.highWater := hi
        have apart := makeId_injective (inv.generation index used).2 (inv.generation i hi).2
          (by omega) (by omega) (same.symm.trans hmake)
        exact here apart.2.2.symm
    · have kept : (m.retire (makeId heap.type (heap.slot index).generation index)).live id =
          m.live id := Function.update_of_ne same _ _
      rw [kept, inv.live]
      constructor
      · rintro ⟨i, hi, hobj, hmake⟩
        have other : i ≠ index := by
          rintro rfl
          exact same hmake
        refine ⟨i, hi, ?_⟩
        rw [slots, if_neg other]
        exact ⟨hobj, hmake⟩
      · rintro ⟨i, hi, hobj, hmake⟩
        rw [slots] at hobj hmake
        by_cases here : i = index
        · rw [if_pos here, empty] at hobj
          cases hobj
        · rw [if_neg here] at hobj hmake
          exact ⟨i, hi, hobj, hmake⟩
  · have size := FreshMap.size_retire inv.wf hlive
    have count := inv.count
    show heap.count - 1 = _
    omega

/-- A slot that is vacant after one was replaced is this one, or was vacant before. -/
theorem Vacant.of_set {heap heap' : RKObjectHeap α} {index i : Nat} {slot : RKObjectSlot α}
    (v : Vacant heap' i) (room : index < heap.capacity)
    (slots : heap'.slots = (heap.setSlot index slot).slots)
    (highWater : heap'.highWater = heap.highWater) :
    i = index ∧ slot.object = none ∧ slot.retired = false ∨ i ≠ index ∧ Vacant heap i := by
  have here : heap'.slot i = if i = index then slot else heap.slot i := by
    rw [← slot_setSlot room slot i, RKObjectHeap.slot, slots]
    rfl
  have object := v.object
  have retired := v.retired
  by_cases same : i = index
  · rw [here, if_pos same] at object retired
    exact .inl ⟨same, object, retired⟩
  · rw [here, if_neg same] at object retired
    exact .inr ⟨same, highWater ▸ v.used, object, retired⟩

/-- The slot that is cleared joins the free list or is retired. -/
theorem Inv.after_clearSlot {heap : RKObjectHeap α} {free : List Nat} {m : FreshMap UInt32 α}
    {index : Nat} {object : α} (inv : Inv heap free m) (used : index < heap.highWater)
    (occupied : (heap.slot index).object = some object) :
    (clearSlot heap index).type = heap.type ∧ ∃ free', Inv (clearSlot heap index) free'
      (m.retire (makeId heap.type (heap.slot index).generation index)) ∧ free ⊆ free' ∧
      ∀ i, Vacant (clearSlot heap index) i → i ∈ free' ∨ Vacant heap i := by
  have room : index < heap.capacity := used.trans_le inv.highWater_le
  unfold clearSlot
  dsimp only
  by_cases last : (heap.slot index).generation = 0xff
  · rw [if_pos last]
    refine ⟨rfl, free, inv.clear used occupied rfl (.inl ⟨rfl, rfl, rfl, rfl⟩), fun _ mem => mem,
      fun i v => ?_⟩
    rcases v.of_set room rfl rfl with ⟨-, -, retired⟩ | ⟨-, old⟩
    · cases retired
    · exact .inr old
  · rw [if_neg last]
    have lt := (inv.generation index used).2
    have active := inv.occupied index (by simp [occupied])
    refine ⟨rfl, index :: free, inv.clear used occupied rfl
      (.inr ⟨rfl, ?_, active, rfl, rfl, rfl⟩), List.subset_cons_self index free, fun i v => ?_⟩
    · show (heap.slot index).generation + 1 < 2 ^ 8
      omega
    · rcases v.of_set room rfl rfl with ⟨rfl, -⟩ | ⟨-, old⟩
      · exact .inl List.mem_cons_self
      · exact .inr old

/-- `rk_object_heap_remove` finds nothing, or clears the slot of the handle. -/
theorem Inv.remove_cases {heap : RKObjectHeap α} {free : List Nat} {m : FreshMap UInt32 α}
    (inv : Inv heap free m) (id : UInt32) :
    (m.live id = none ∧ remove heap id = (heap, none)) ∨
      ∃ index o, index < heap.highWater ∧ (heap.slot index).object = some o ∧
        id = makeId heap.type (heap.slot index).generation index ∧ m.live id = some o ∧
        remove heap id = (clearSlot heap index, some o) := by
  unfold remove
  cases decoded : decodeId heap id with
  | none => exact .inl ⟨inv.live_eq_none decoded, rfl⟩
  | some result =>
    obtain ⟨index, generation⟩ := result
    have live := inv.live_iff decoded
    have room := inv.highWater_le.trans inv.capacity_le
    obtain ⟨make, -, -, used⟩ := (decodeId_iff room).mp decoded
    dsimp only
    cases object : (heap.slot index).object with
    | none =>
      left
      refine ⟨?_, rfl⟩
      rw [Option.eq_none_iff_forall_ne_some]
      intro o
      simp [live, object]
    | some o =>
      have active := inv.occupied index (by simp [object])
      by_cases current : (heap.slot index).generation = generation
      · right
        refine ⟨index, o, used, object, by rw [current]; exact make,
          (live o).mpr ⟨object, current⟩, ?_⟩
        simp [active, current]
      · left
        refine ⟨?_, by simp [current]⟩
        rw [Option.eq_none_iff_forall_ne_some]
        intro o'
        simp [live, current]

/-- What `rk_object_heap_remove` does: it returns what the map holds and takes it out. -/
theorem Inv.after_remove {heap : RKObjectHeap α} {free : List Nat} {m : FreshMap UInt32 α}
    (inv : Inv heap free m) (id : UInt32) :
    (remove heap id).2 = m.live id ∧ (remove heap id).1.type = heap.type ∧
      ∃ free', Inv (remove heap id).1 free'
        (if (remove heap id).2.isSome then m.retire id else m) := by
  rcases inv.remove_cases id with ⟨dead, eq⟩ | ⟨index, o, used, object, make, here, eq⟩
  · rw [eq]
    exact ⟨dead.symm, rfl, free, inv⟩
  · obtain ⟨type, free', inv', -⟩ := inv.after_clearSlot used object
    rw [← make] at inv'
    rw [eq]
    exact ⟨here.symm, type, free', inv'⟩

/-! ## Sequences of calls -/

/-- A call on a heap, with the outcomes it depends on: whether `realloc` grants memory, and the
reference counts at the time of an acquire. -/
inductive Call (α : Type)
  | insert (object : α) (alloc : Bool)
  | acquire (id : UInt32) (refs : α → UInt32)
  | remove (id : UInt32)

/-- One call, and the record of it: the map gains the id that an insert returned and loses the
id whose object a remove returned. -/
def perform (state : RKObjectHeap α × FreshMap UInt32 α) : Call α → RKObjectHeap α × FreshMap UInt32 α
  | .insert object alloc =>
    match insert state.1 object alloc with
    | (heap, none) => (heap, state.2)
    | (heap, some id) => (heap, state.2.issue id object)
  | .acquire _ _ => state
  | .remove id =>
    match remove state.1 id with
    | (heap, none) => (heap, state.2)
    | (heap, some _) => (heap, state.2.retire id)

/-- A sequence of calls on a heap that was just initialised. -/
def performAll (type : RKObjectType) (calls : List (Call α)) : RKObjectHeap α × FreshMap UInt32 α :=
  calls.foldl perform (.init type, .empty)

theorem Inv.after_perform {heap : RKObjectHeap α} {free : List Nat} {m : FreshMap UInt32 α}
    (inv : Inv heap free m) (call : Call α) :
    (perform (heap, m) call).1.type = heap.type ∧
      ∃ free', Inv (perform (heap, m) call).1 free' (perform (heap, m) call).2 := by
  cases call with
  | insert object alloc =>
    rcases inv.after_insert object alloc with same | ⟨_, _, id, free', -, -, -, -, -, returned, type, inv'⟩
    · simp only [perform, same, true_and]
      exact ⟨free, inv⟩
    · rcases result : insert heap object alloc with ⟨heap', reply⟩
      rw [result] at returned type inv'
      obtain rfl : reply = some id := returned
      simp only [perform, result]
      exact ⟨type, free', inv'⟩
  | acquire id refs => exact ⟨rfl, free, inv⟩
  | remove id =>
    obtain ⟨-, type, free', inv'⟩ := inv.after_remove id
    rcases result : remove heap id with ⟨heap', _ | o⟩
    all_goals
      rw [result] at type inv'
      simp only [perform, result]
      exact ⟨type, free', inv'⟩

/-- The invariant holds after every sequence of calls. -/
theorem inv_performAll (type : RKObjectType) (calls : List (Call α)) :
    (performAll type calls).1.type = type ∧
      ∃ free, Inv (performAll type calls).1 free (performAll type calls).2 := by
  have run : ∀ (calls : List (Call α)) (state : RKObjectHeap α × FreshMap UInt32 α) (free : List Nat),
      state.1.type = type → Inv state.1 free state.2 →
        (calls.foldl perform state).1.type = type ∧
          ∃ free, Inv (calls.foldl perform state).1 free (calls.foldl perform state).2 := by
    intro calls
    induction calls with
    | nil => intro state free htype inv; exact ⟨htype, free, inv⟩
    | cons call calls ih =>
      intro state free htype inv
      obtain ⟨type', free', inv'⟩ := inv.after_perform call
      exact ih _ free' (type'.trans htype) inv'
  exact run calls _ [] rfl (inv_init type)

/-- Every id a heap has returned carries the heap's type. -/
theorem issued_performAll {type : RKObjectType} {calls : List (Call α)} {id : UInt32}
    (h : id ∈ (performAll type calls).2.issued) :
    ∃ generation index, generation < 2 ^ 8 ∧ index < 2 ^ 20 ∧ id = makeId type generation index := by
  obtain ⟨htype, free, inv⟩ := inv_performAll type calls
  obtain ⟨i, g, hi, -, hle, hmake, -⟩ := inv.issued id h
  have gen := (inv.generation i hi).2
  have room := inv.highWater_le.trans inv.capacity_le
  exact ⟨g, i, by omega, by omega, htype ▸ hmake⟩

/-- The heap refines the map of what its calls returned. After any calls: the ids are fresh and
valid, acquire and remove answer from the map, the count is the size of the map, and an insert
that fails changes nothing. -/
theorem objectHeap_refines (type : RKObjectType) (calls : List (Call α)) :
    let (heap, m) := performAll type calls
    (∀ object alloc id, (insert heap object alloc).2 = some id →
      id ∉ m.issued ∧ id ≠ 0 ∧ id ≠ 0xFFFFFFFF ∧
        ∀ (type' : RKObjectType) (calls' : List (Call α)), type' ≠ type →
          id ∉ (performAll type' calls').2.issued) ∧
    (∀ id refs, (∀ o, m.live id = some o → refs o ≠ 0) →
      ∀ o, acquire heap id refs = some o ↔ m.live id = some o ∧ refs o ≠ 0xFFFFFFFF) ∧
    (∀ id o, (remove heap id).2 = some o ↔ m.live id = some o) ∧
    heapCount heap = m.size ∧
    (∀ object alloc, (insert heap object alloc).2 = none → (insert heap object alloc).1 = heap) := by
  obtain ⟨htype, free, inv⟩ := inv_performAll type calls
  rcases after : performAll type calls with ⟨heap, m⟩
  rw [after] at htype inv
  dsimp only at htype inv ⊢
  refine ⟨?_, inv.acquire_iff, ?_, inv.count, ?_⟩
  · intro object alloc id returned
    rcases inv.after_insert object alloc with same |
      ⟨generation, index, id', _, -, hg, hi, make, fresh, returned', -⟩
    · rw [same] at returned
      cases returned
    · obtain rfl : id' = id := Option.some.inj (returned'.symm.trans returned)
      have ne := makeId_ne heap.type hg hi
      rw [← make] at ne
      refine ⟨fresh, ne.1, ne.2, ?_⟩
      intro type' calls' other h
      obtain ⟨g', i', hg', hi', make'⟩ := issued_performAll h
      have same := makeId_injective hg hg' hi hi' (make.symm.trans make')
      exact other (same.1.symm.trans htype)
  · intro id o
    rw [(inv.after_remove id).1]
  · intro object alloc failed
    rcases inv.after_insert object alloc with same | ⟨_, _, id, _, -, -, -, -, -, returned, -⟩
    · rw [same]
    · rw [returned] at failed
      cases failed

end RockchipVaapi.ObjectHeap
