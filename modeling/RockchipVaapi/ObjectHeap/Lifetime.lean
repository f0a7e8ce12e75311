import RockchipVaapi.Misc.Transition
import RockchipVaapi.ObjectHeap.Refinement

/-!
# The lifetime of objects

Threads that take and release references as a transition system: one action is one atomic
operation on a counter or one call on the heap under the driver's object lock. A thread releases
only references that it holds. The counter of an object is the number of its references, those
that threads hold and the one of the heap, and the destroy callback runs when the last one goes.
-/

namespace RockchipVaapi.ObjectHeap
open Transition

/-- The address of an `RKObjectBase`. -/
abbrev ObjectId := Nat
abbrev ThreadId := Nat

/-- `RKObjectBase` (`object_heap.h:29-32`). `destroy` says whether there is a callback, and
`destroyed` is history: how often it has run. -/
structure RKObjectBase where
  refs : UInt32
  destroy : Bool
  destroyed : Nat
  deriving DecidableEq, Repr

/-- The objects, the heap and the threads. `held` has an entry for every reference that a thread
holds. `loops` is where a thread stands in the loop of `rk_object_ref`: the object, and the count
it has read. `finished` is set by `rk_object_heap_finish`. -/
structure World where
  objects : ObjectId → Option RKObjectBase
  heap : RKObjectHeap ObjectId
  finished : Bool
  held : List (ThreadId × ObjectId)
  loops : ThreadId → Option (ObjectId × UInt32)

inductive Op
  /-- `rk_object_init` of a new object. -/
  | init (o : ObjectId) (destroy : Bool)
  /-- The load at the start of `rk_object_ref`. -/
  | load (o : ObjectId)
  /-- A turn of the loop of `rk_object_ref`; a weak exchange can fail spuriously. -/
  | exchange (spurious : Bool)
  /-- The subtraction in `rk_object_unref`, with the call of `destroy`. -/
  | unref (o : ObjectId)
  /-- `rk_object_heap_insert`, which takes over a reference of the caller; `alloc` is the outcome
  of `realloc`. An object is in the heap at most once. -/
  | insert (o : ObjectId) (alloc : Bool)
  | acquire (id : UInt32)
  | remove (id : UInt32)
  /-- A reference is handed to another thread. -/
  | pass (o : ObjectId) (receiver : ThreadId)
  /-- `rk_object_heap_finish` takes the objects out of the heap; it releases them afterwards. -/
  | finish
  deriving DecidableEq, Repr

/-- Whether an object is in the heap. -/
def RKObjectHeap.contains (heap : RKObjectHeap ObjectId) (o : ObjectId) : Bool :=
  heap.slots.any fun slot => slot.object == some o

namespace World

/-- The counter of an object. -/
def refs (w : World) (o : ObjectId) : UInt32 := ((w.objects o).map RKObjectBase.refs).getD 0

def setObject (w : World) (o : ObjectId) (f : RKObjectBase → RKObjectBase) : World :=
  { w with objects := Function.update w.objects o ((w.objects o).map f) }

/-- `refs + 1u`, and the reference belongs to thread `t`. -/
def take (w : World) (t : ThreadId) (o : ObjectId) : World :=
  { w.setObject o fun object => { object with refs := object.refs + 1 } with
    held := (t, o) :: w.held }

/-- `rk_object_unref` (`object_heap.c:99-108`). -/
def release (w : World) (t : ThreadId) (o : ObjectId) : World :=
  { w.setObject o fun object =>
      { object with
        refs := object.refs - 1
        destroyed :=
          if object.refs = 1 ∧ object.destroy = true then object.destroyed + 1
          else object.destroyed } with
    held := w.held.erase (t, o) }

/-- The condition of the loop of `rk_object_ref` (`object_heap.c:90-96`). -/
def testLoop (w : World) (t : ThreadId) (o : ObjectId) : World :=
  { w with
    loops := Function.update w.loops t (if objectRef (w.refs o) then some (o, w.refs o) else none) }

/-- How many references to an object the threads hold. -/
def holders (w : World) (o : ObjectId) : Nat := w.held.countP fun reference => reference.2 == o

/-- The references to an object. -/
def references (w : World) (o : ObjectId) : Nat :=
  w.holders o + if w.heap.contains o then 1 else 0

/-- Before any call, with a heap of a type. -/
def init (type : RKObjectType) : World where
  objects _ := none
  heap := .init type
  finished := false
  held := []
  loops _ := none

end World

/-- The calls that are not in the loop of `rk_object_ref`. -/
def call (w : World) (t : ThreadId) : Op → Option World
  | .init o destroy =>
    if (w.objects o).isSome then none
    else some { w with
      objects := Function.update w.objects o (some ⟨1, destroy, 0⟩), held := (t, o) :: w.held }
  | .load o => if (w.objects o).isNone then none else some (w.testLoop t o)
  | .exchange _ => none
  | .unref o => if (t, o) ∈ w.held then some (w.release t o) else none
  | .insert o alloc =>
    if (t, o) ∈ w.held ∧ w.heap.contains o = false then
      if w.finished then some w
      else match insert w.heap o alloc with
        | (heap, none) => some { w with heap := heap }
        | (heap, some _) => some { w with heap := heap, held := w.held.erase (t, o) }
    else none
  | .acquire id =>
    match acquire w.heap id w.refs with
    | none => some w
    | some o => some (w.take t o)
  | .remove id =>
    match remove w.heap id with
    | (heap, none) => some { w with heap := heap }
    | (heap, some o) => some { w with heap := heap, held := (t, o) :: w.held }
  | .pass o receiver =>
    if (t, o) ∈ w.held then some { w with held := (receiver, o) :: w.held.erase (t, o) } else none
  | .finish =>
    some { w with
      heap := .init w.heap.type
      finished := true
      held := w.heap.slots.filterMap (fun slot => slot.object.map fun o => (t, o)) ++ w.held }

/-- The object of which an action takes a reference: an exchange that succeeds, or an acquire. -/
def taken (w : World) : ThreadId × Op → Option ObjectId
  | (t, .exchange spurious) =>
    match w.loops t with
    | some (o, refs) => if spurious = false ∧ w.refs o = refs then some o else none
    | none => none
  | (_, .acquire id) => acquire w.heap id w.refs
  | _ => none

def step (w : World) : ThreadId × Op → Option World
  | (t, .exchange spurious) =>
    match w.loops t with
    | none => none
    | some (o, refs) =>
      if spurious = false ∧ w.refs o = refs then
        some { w.take t o with loops := Function.update w.loops t none }
      else some (w.testLoop t o)
  | (t, op) => if (w.loops t).isSome then none else call w t op

/-! ## The objects in the heap -/

/-- In how many slots an object is. -/
def RKObjectHeap.entries (heap : RKObjectHeap ObjectId) (o : ObjectId) : Nat :=
  heap.slots.countP fun slot => slot.object == some o

section

variable {heap heap' : RKObjectHeap ObjectId} {free : List Nat} {m : FreshMap UInt32 ObjectId}

theorem contains_iff (heap : RKObjectHeap ObjectId) (o : ObjectId) :
    heap.contains o = true ↔ 0 < heap.entries o := by
  rw [RKObjectHeap.contains, RKObjectHeap.entries, List.any_eq_true, List.countP_pos_iff]

theorem entries_eq_zero (heap : RKObjectHeap ObjectId) (o : ObjectId) :
    heap.contains o = false ↔ heap.entries o = 0 := by
  have positive := contains_iff heap o
  cases present : heap.contains o with
  | true =>
    have := positive.mp present
    constructor
    · intro absent
      cases absent
    · intro zero
      omega
  | false =>
    rw [present] at positive
    refine ⟨fun _ => ?_, fun _ => rfl⟩
    by_contra more
    exact Bool.false_ne_true (positive.mpr (Nat.pos_of_ne_zero more))

theorem slot_of_lt {index : Nat} (h : index < heap.slots.length) :
    heap.slot index = heap.slots[index] := by
  unfold RKObjectHeap.slot
  exact List.getD_eq_getElem _ _ h

/-- A slot is replaced. -/
theorem entries_setSlot {index : Nat} (h : index < heap.capacity) (slot : RKObjectSlot ObjectId)
    (o : ObjectId) :
    (heap.setSlot index slot).entries o + (if (heap.slot index).object = some o then 1 else 0) =
      heap.entries o + if slot.object = some o then 1 else 0 := by
  have bound : index < heap.slots.length := h
  have set := List.countP_set (p := fun slot : RKObjectSlot ObjectId => slot.object == some o)
    (a := slot) bound
  rw [← slot_of_lt bound] at set
  unfold RKObjectHeap.entries RKObjectHeap.setSlot
  rw [set]
  simp only [beq_iff_eq]
  by_cases present : (heap.slot index).object = some o
  · have positive : 0 < heap.slots.countP fun slot => slot.object == some o := by
      refine List.countP_pos_iff.mpr ⟨heap.slot index, ?_, ?_⟩
      · rw [slot_of_lt bound]
        exact List.getElem_mem bound
      · rw [present]
        exact beq_self_eq_true _
    rw [if_pos present]
    omega
  · rw [if_neg present]
    omega

/-- Replacing a slot by one with the same object. -/
theorem entries_setSlot_same (index : Nat) (slot : RKObjectSlot ObjectId)
    (same : slot.object = (heap.slot index).object) (o : ObjectId) :
    (heap.setSlot index slot).entries o = heap.entries o := by
  by_cases bound : index < heap.capacity
  · have set := entries_setSlot bound slot o
    rw [same] at set
    omega
  · unfold RKObjectHeap.entries RKObjectHeap.setSlot
    rw [List.set_eq_of_length_le (Nat.le_of_not_lt bound)]

theorem entries_growHeap {alloc : Bool} (h : growHeap heap alloc = some heap') (o : ObjectId) :
    heap'.entries o = heap.entries o := by
  unfold growHeap at h
  split at h
  · cases h
  · split at h
    · obtain rfl := Option.some.inj h
      unfold RKObjectHeap.entries
      rw [List.countP_append, List.countP_replicate]
      rfl
    · cases h

theorem entries_takeSlot {alloc : Bool} {index : Nat} (h : takeSlot heap alloc = some (heap', index))
    (o : ObjectId) : heap'.entries o = heap.entries o := by
  unfold takeSlot at h
  split at h
  · obtain ⟨rfl, -⟩ := Prod.mk.inj (Option.some.inj h)
    rfl
  · split at h
    · cases h
    · rename_i grown roomy
      obtain ⟨rfl, -⟩ := Prod.mk.inj (Option.some.inj h)
      have extended : (extendHeap grown).entries o = grown.entries o :=
        entries_setSlot_same grown.highWater { grown.slot grown.highWater with generation := 1 } rfl o
      rw [extended]
      unfold withRoom at roomy
      split at roomy
      · exact entries_growHeap roomy o
      · rw [Option.some.inj roomy]

/-- An insert adds its object, or adds nothing. -/
theorem entries_insert (inv : Inv heap free m) (object : ObjectId) (alloc : Bool) (o : ObjectId) :
    (insert heap object alloc).1.entries o =
      heap.entries o + if (insert heap object alloc).2.isSome ∧ object = o then 1 else 0 := by
  rcases inv.after_insert object alloc with same | ⟨-, -, id, -, -, -, -, -, -, returned, -, -⟩
  · rw [same]
    simp only [Option.isSome_none, Bool.false_eq_true, false_and, if_false, Nat.add_zero]
  · rw [returned]
    unfold insert at returned ⊢
    cases slot : takeSlot heap alloc with
    | none =>
      rw [slot] at returned
      cases returned
    | some result =>
      obtain ⟨heap₁, index⟩ := result
      obtain ⟨-, free₁, inv₁, vacant, -⟩ := inv.after_takeSlot slot
      have room : index < heap₁.capacity := vacant.used.trans_le inv₁.highWater_le
      rw [slot] at returned
      simp only at returned ⊢
      split at returned
      · cases returned
      · rename_i usable
        rw [if_neg usable]
        have set := entries_setSlot room
          { heap₁.slot index with object := some object, nextFree := noSlot } o
        rw [vacant.object, if_neg (by simp only [reduceCtorEq, not_false_eq_true])] at set
        rw [entries_takeSlot slot o] at set
        simp only [Option.isSome_some, true_and]
        simp only [Nat.add_zero, Option.some.injEq] at set
        exact set

/-- A remove takes its object out, or takes nothing out. -/
theorem entries_remove (inv : Inv heap free m) (id : UInt32) (o : ObjectId) :
    (remove heap id).1.entries o + (if (remove heap id).2 = some o then 1 else 0) =
      heap.entries o := by
  rcases inv.remove_cases id with ⟨-, same⟩ | ⟨index, object, used, here, -, -, same⟩
  · rw [same, if_neg (by simp only [reduceCtorEq, not_false_eq_true])]
    rfl
  · rw [same]
    have room : index < heap.capacity := used.trans_le inv.highWater_le
    have emptied : ∀ slot : RKObjectSlot ObjectId, slot.object = none →
        (heap.setSlot index slot).entries o + (if some object = some o then 1 else 0) =
          heap.entries o := by
      intro slot empty
      have set := entries_setSlot room slot o
      rw [empty, here, if_neg (show ¬ (none : Option ObjectId) = some o by
        simp only [reduceCtorEq, not_false_eq_true])] at set
      exact set
    unfold clearSlot
    simp only
    split
    · exact emptied _ rfl
    · exact emptied _ rfl

theorem acquire_entries {id : UInt32} {refs : ObjectId → UInt32} {o : ObjectId}
    (h : acquire heap id refs = some o) : objectRef (refs o) = true := by
  unfold acquire at h
  split at h
  · cases h
  · simp only at h
    split at h
    · cases h
    · split at h
      · cases h
      · rename_i allowed
        obtain rfl := Option.some.inj h
        simp only [Bool.or_eq_true, Bool.not_eq_true', not_or, Bool.not_eq_false] at allowed
        exact allowed.2

end

/-! ## What a step does to the references -/

/-- The references, by slots. -/
def World.owners (w : World) (o : ObjectId) : Nat := w.holders o + w.heap.entries o

/-- What a step can do: it moves references around, makes an object with its first reference, takes
a reference or releases one. -/
inductive Move (w : World) (act : ThreadId × Op) (w' : World) : Prop
  | keep (other : ∀ o, act.2 ≠ .unref o) (objects : w'.objects = w.objects)
      (owners : ∀ o, w'.owners o = w.owners o)
  | create {o : ObjectId} {destroy : Bool} (other : ∀ p, act.2 ≠ .unref p)
      (new : w.objects o = none)
      (objects : w'.objects = Function.update w.objects o (some ⟨1, destroy, 0⟩))
      (owners : ∀ p, w'.owners p = w.owners p + if p = o then 1 else 0)
  | take {o : ObjectId} (other : ∀ p, act.2 ≠ .unref p) (taken : taken w act = some o)
      (live : objectRef (w.refs o) = true)
      (objects : w'.objects = Function.update w.objects o
        ((w.objects o).map fun object => { object with refs := object.refs + 1 }))
      (owners : ∀ p, w'.owners p = w.owners p + if p = o then 1 else 0)
  | release {o : ObjectId} (action : act.2 = .unref o)
      (objects : w'.objects = Function.update w.objects o
        ((w.objects o).map fun object =>
          { object with
            refs := object.refs - 1
            destroyed :=
              if object.refs = 1 ∧ object.destroy = true then object.destroyed + 1
              else object.destroyed }))
      (owners : ∀ p, w.owners p = w'.owners p + if p = o then 1 else 0)

/-- The heap is sound, an object is in it at most once, and a thread in the loop of `rk_object_ref`
has read a count that it may add to. -/
structure Sound (w : World) : Prop where
  heap : ∃ free m, Inv w.heap free m
  single : ∀ o, w.heap.entries o ≤ 1
  loops : ∀ t o refs, w.loops t = some (o, refs) → objectRef refs = true

section

variable {w w' : World}

theorem holders_cons (held : List (ThreadId × ObjectId)) (t : ThreadId) (o p : ObjectId) :
    ((t, o) :: held).countP (fun reference => reference.2 == p) =
      held.countP (fun reference => reference.2 == p) + if p = o then 1 else 0 := by
  rw [List.countP_cons]
  by_cases same : p = o
  · rw [if_pos same, if_pos (beq_iff_eq.mpr same.symm)]
  · rw [if_neg same, if_neg (fun eq => same (beq_iff_eq.mp eq).symm)]

theorem holders_erase {held : List (ThreadId × ObjectId)} {t : ThreadId} {o : ObjectId}
    (mem : (t, o) ∈ held) (p : ObjectId) :
    held.countP (fun reference => reference.2 == p) =
      (held.erase (t, o)).countP (fun reference => reference.2 == p) + if p = o then 1 else 0 := by
  rw [← holders_cons, (List.perm_cons_erase mem).countP_eq]

theorem loops_update {loops : ThreadId → Option (ObjectId × UInt32)}
    (h : ∀ t o refs, loops t = some (o, refs) → objectRef refs = true) {t : ThreadId}
    {entry : Option (ObjectId × UInt32)}
    (new : ∀ o refs, entry = some (o, refs) → objectRef refs = true) :
    ∀ t' o refs, Function.update loops t entry t' = some (o, refs) → objectRef refs = true := by
  intro t' o refs same
  by_cases own : t' = t
  · subst own
    rw [Function.update_self] at same
    exact new o refs same
  · rw [Function.update_of_ne own] at same
    exact h t' o refs same

theorem World.testLoop_loops (h : Sound w) (t : ThreadId) (o : ObjectId) :
    ∀ t' o' refs, (w.testLoop t o).loops t' = some (o', refs) → objectRef refs = true := by
  refine loops_update h.loops ?_
  intro o' refs same
  split at same
  · rename_i live
    obtain ⟨-, rfl⟩ := Prod.mk.inj (Option.some.inj same)
    exact live
  · cases same

/-- A step outside the loop of `rk_object_ref`. -/
theorem call_move (h : Sound w) {t : ThreadId} {op : Op} (hcall : call w t op = some w') :
    Move w (t, op) w' ∧ Sound w' := by
  obtain ⟨free, m, inv⟩ := h.heap
  cases op with
  | init o destroy =>
    simp only [call] at hcall
    split at hcall
    · cases hcall
    · rename_i new
      obtain rfl := Option.some.inj hcall
      have none_there : w.objects o = none := by simpa using new
      refine ⟨.create nofun none_there rfl ?_, ⟨⟨free, m, inv⟩, h.single, h.loops⟩⟩
      intro p
      simp only [World.owners, World.holders, holders_cons]
      omega
  | load o =>
    simp only [call] at hcall
    split at hcall
    · cases hcall
    · obtain rfl := Option.some.inj hcall
      exact ⟨.keep nofun rfl fun _ => rfl, ⟨⟨free, m, inv⟩, h.single, w.testLoop_loops h t o⟩⟩
  | exchange spurious => cases hcall
  | unref o =>
    simp only [call] at hcall
    split at hcall
    · rename_i mem
      obtain rfl := Option.some.inj hcall
      refine ⟨.release rfl rfl ?_, ⟨⟨free, m, inv⟩, h.single, h.loops⟩⟩
      intro p
      have erased := holders_erase mem p
      simp only [World.owners, World.holders, World.release, World.setObject]
      omega
    · cases hcall
  | insert o alloc =>
    simp only [call] at hcall
    split at hcall
    · rename_i owned
      obtain ⟨mem, absent⟩ := owned
      have entries := entries_insert inv o alloc
      have sound : ∃ free' m', Inv (insert w.heap o alloc).1 free' m' := by
        rcases inv.after_insert o alloc with same | ⟨-, -, id, free', -, -, -, -, -, -, -, inv'⟩
        · rw [same]
          exact ⟨free, m, inv⟩
        · exact ⟨free', _, inv'⟩
      split at hcall
      · obtain rfl := Option.some.inj hcall
        exact ⟨.keep nofun rfl fun _ => rfl, h⟩
      · split at hcall
        · rename_i heap failed
          obtain rfl := Option.some.inj hcall
          rw [failed] at entries sound
          have same : ∀ p, heap.entries p = w.heap.entries p := by
            intro p
            simpa only [Option.isSome_none, Bool.false_eq_true, false_and, if_false,
              Nat.add_zero] using entries p
          refine ⟨.keep nofun rfl ?_, ⟨sound, ?_, h.loops⟩⟩
          · intro p
            simp only [World.owners, World.holders, same]
          · intro p
            rw [same]
            exact h.single p
        · rename_i heap id stored
          obtain rfl := Option.some.inj hcall
          rw [stored] at entries sound
          have added : ∀ p, heap.entries p = w.heap.entries p + if p = o then 1 else 0 := by
            intro p
            simpa only [Option.isSome_some, true_and, eq_comm] using entries p
          refine ⟨.keep nofun rfl ?_, ⟨sound, ?_, h.loops⟩⟩
          · intro p
            have erased := holders_erase mem p
            simp only [World.owners, World.holders, added]
            omega
          · intro p
            have before := h.single p
            show heap.entries p ≤ 1
            rw [added]
            split
            · rename_i same
              rw [same, (entries_eq_zero w.heap o).mp absent]
            · exact before
    · cases hcall
  | acquire id =>
    simp only [call] at hcall
    split at hcall
    · obtain rfl := Option.some.inj hcall
      exact ⟨.keep nofun rfl fun _ => rfl, h⟩
    · rename_i o found
      obtain rfl := Option.some.inj hcall
      refine ⟨.take nofun found (acquire_entries found) rfl ?_, ⟨⟨free, m, inv⟩, h.single, h.loops⟩⟩
      intro p
      simp only [World.owners, World.holders, World.take, World.setObject, holders_cons]
      omega
  | remove id =>
    simp only [call] at hcall
    have entries := entries_remove inv id
    have sound : ∃ free' m', Inv (remove w.heap id).1 free' m' := by
      obtain ⟨-, -, free', inv'⟩ := inv.after_remove id
      exact ⟨free', _, inv'⟩
    split at hcall
    · rename_i heap nothing
      obtain rfl := Option.some.inj hcall
      rw [nothing] at entries sound
      have same : ∀ p, heap.entries p = w.heap.entries p := by
        intro p
        simpa only [reduceCtorEq, if_false, Nat.add_zero] using entries p
      refine ⟨.keep nofun rfl ?_, ⟨sound, ?_, h.loops⟩⟩
      · intro p
        simp only [World.owners, World.holders, same]
      · intro p
        rw [same]
        exact h.single p
    · rename_i heap o removed
      obtain rfl := Option.some.inj hcall
      rw [removed] at entries sound
      have less : ∀ p, heap.entries p + (if p = o then 1 else 0) = w.heap.entries p := by
        intro p
        simpa only [Option.some.injEq, eq_comm] using entries p
      refine ⟨.keep nofun rfl ?_, ⟨sound, ?_, h.loops⟩⟩
      · intro p
        have moved := less p
        simp only [World.owners, World.holders, holders_cons]
        omega
      · intro p
        have before := h.single p
        have moved := less p
        show heap.entries p ≤ 1
        omega
  | pass o receiver =>
    simp only [call] at hcall
    split at hcall
    · rename_i mem
      obtain rfl := Option.some.inj hcall
      refine ⟨.keep nofun rfl ?_, ⟨⟨free, m, inv⟩, h.single, h.loops⟩⟩
      intro p
      simp only [World.owners, World.holders, holders_cons, ← holders_erase mem]
    · cases hcall
  | finish =>
    simp only [call] at hcall
    obtain rfl := Option.some.inj hcall
    refine ⟨.keep nofun rfl ?_, ⟨⟨_, _, inv_init w.heap.type⟩, fun _ => Nat.zero_le 1, h.loops⟩⟩
    intro p
    have collected : (w.heap.slots.filterMap fun slot => slot.object.map fun o => (t, o)).countP
        (fun reference => reference.2 == p) = w.heap.entries p := by
      rw [List.countP_filterMap]
      refine List.countP_congr ?_
      intro slot _
      cases slot.object with
      | none => rfl
      | some o => simp only [Option.map_some, Option.getD_some, beq_iff_eq, Option.some.injEq]
    have emptied : RKObjectHeap.entries (.init w.heap.type) p = 0 := rfl
    simp only [World.owners, World.holders, List.countP_append, collected, emptied]
    omega

theorem step_move (h : Sound w) {act : ThreadId × Op} (hstep : step w act = some w') :
    Move w act w' ∧ Sound w' := by
  obtain ⟨t, op⟩ := act
  by_cases looping : ∃ spurious, op = .exchange spurious
  · obtain ⟨spurious, rfl⟩ := looping
    simp only [step] at hstep
    split at hstep
    · cases hstep
    · rename_i o refs at_loop
      split at hstep
      · rename_i same
        obtain rfl := Option.some.inj hstep
        have live := h.loops t o refs at_loop
        have exchanged : taken w (t, .exchange spurious) = some o := by
          simp only [taken, at_loop, if_pos same]
        refine ⟨.take nofun exchanged (same.2 ▸ live) rfl ?_, ⟨h.heap, h.single, ?_⟩⟩
        · intro p
          simp only [World.owners, World.holders, World.take, World.setObject, holders_cons]
          omega
        · exact loops_update h.loops fun _ _ none_left => by cases none_left
      · obtain rfl := Option.some.inj hstep
        exact ⟨.keep nofun rfl fun _ => rfl, ⟨h.heap, h.single, w.testLoop_loops h t o⟩⟩
  · have other : call w t op = some w' := by
      cases op with
      | exchange spurious => exact absurd ⟨spurious, rfl⟩ looping
      | _ =>
        simp only [step] at hstep
        split at hstep
        · cases hstep
        · exact hstep
    exact call_move h other

end

/-! ## The counters -/

/-- The counter of an object is the number of its references, and its destroy callback has run if
there are none. -/
structure Exact (object : RKObjectBase) (references : Nat) : Prop where
  refs : object.refs.toNat = references
  destroyed : object.destroyed = if references = 0 ∧ object.destroy = true then 1 else 0

/-- The counters of all objects are exact. -/
structure Balanced (w : World) : Prop where
  sound : Sound w
  unborn : ∀ o, w.objects o = none → w.owners o = 0
  exact : ∀ o object, w.objects o = some object → Exact object (w.owners o)

theorem refs_of_some {w : World} {o : ObjectId} {object : RKObjectBase}
    (h : w.objects o = some object) : w.refs o = object.refs := by
  simp only [World.refs, h, Option.map_some, Option.getD_some]

theorem objectRef_iff (refs : UInt32) :
    objectRef refs = true ↔ 0 < refs.toNat ∧ refs.toNat < 2 ^ 32 - 1 := by
  have small := refs.toNat_lt
  have zero : refs = 0 ↔ refs.toNat = 0 := UInt32.toNat_inj.symm
  have full : refs = 0xFFFFFFFF ↔ refs.toNat = 2 ^ 32 - 1 := UInt32.toNat_inj.symm
  simp only [objectRef, Bool.and_eq_true, bne_iff_ne, ne_eq, zero, full]
  omega

theorem Exact.take {object : RKObjectBase} {references : Nat} (h : Exact object references)
    (live : objectRef object.refs = true) :
    Exact { object with refs := object.refs + 1 } (references + 1) := by
  obtain ⟨positive, small⟩ := (objectRef_iff object.refs).mp live
  have refs := h.refs
  have destroyed := h.destroyed
  constructor
  · show (object.refs + 1).toNat = references + 1
    rw [UInt32.toNat_add, refs, UInt32.toNat_one]
    exact Nat.mod_eq_of_lt (by omega)
  · rw [if_neg (fun both => by omega)] at destroyed ⊢
    exact destroyed

theorem Exact.release {object : RKObjectBase} {references : Nat} (h : Exact object (references + 1)) :
    Exact
      { object with
        refs := object.refs - 1
        destroyed :=
          if object.refs = 1 ∧ object.destroy = true then object.destroyed + 1
          else object.destroyed } references := by
  have refs := h.refs
  have destroyed := h.destroyed
  rw [if_neg (fun both => by omega)] at destroyed
  have last : object.refs = 1 ↔ references = 0 := by
    rw [← UInt32.toNat_inj, refs]
    show references + 1 = 1 ↔ _
    omega
  constructor
  · have le : (1 : UInt32) ≤ object.refs := UInt32.le_iff_toNat_le.mpr (by rw [refs]; exact Nat.le_add_left 1 _)
    show (object.refs - 1).toNat = references
    rw [UInt32.toNat_sub_of_le _ _ le, refs]
    rfl
  · show (if _ then _ else _) = if _ then _ else _
    simp only [last, destroyed]

theorem balanced_step {w w' : World} {act : ThreadId × Op} (h : Balanced w)
    (hstep : step w act = some w') : Balanced w' := by
  obtain ⟨move, sound⟩ := step_move h.sound hstep
  cases move with
  | keep other objects owners =>
    refine ⟨sound, ?_, ?_⟩
    · intro o missing
      rw [owners]
      exact h.unborn o (objects ▸ missing)
    · intro o object here
      rw [owners]
      exact h.exact o object (objects ▸ here)
  | @create o destroy other new objects owners =>
    have none_yet := h.unborn o new
    refine ⟨sound, ?_, ?_⟩
    · intro p missing
      rw [objects] at missing
      by_cases same : p = o
      · rw [same, Function.update_self] at missing
        cases missing
      · rw [Function.update_of_ne same] at missing
        rw [owners, if_neg same]
        exact h.unborn p missing
    · intro p object here
      rw [objects] at here
      by_cases same : p = o
      · subst same
        rw [Function.update_self] at here
        obtain rfl := Option.some.inj here
        rw [owners, if_pos rfl, none_yet]
        exact ⟨rfl, rfl⟩
      · rw [Function.update_of_ne same] at here
        rw [owners, if_neg same]
        exact h.exact p object here
  | @take o other taken live objects owners =>
    refine ⟨sound, ?_, ?_⟩
    · intro p missing
      rw [objects] at missing
      by_cases same : p = o
      · subst same
        rw [Function.update_self, Option.map_eq_none_iff] at missing
        rw [World.refs, missing] at live
        cases live
      · rw [Function.update_of_ne same] at missing
        rw [owners, if_neg same]
        exact h.unborn p missing
    · intro p object here
      rw [objects] at here
      by_cases same : p = o
      · subst same
        rw [Function.update_self] at here
        obtain ⟨before, found, rfl⟩ := Option.map_eq_some_iff.mp here
        rw [refs_of_some found] at live
        rw [owners, if_pos rfl]
        exact (h.exact p before found).take live
      · rw [Function.update_of_ne same] at here
        rw [owners, if_neg same]
        exact h.exact p object here
  | @release o action objects owners =>
    refine ⟨sound, ?_, ?_⟩
    · intro p missing
      rw [objects] at missing
      have fewer := owners p
      by_cases same : p = o
      · subst same
        rw [Function.update_self, Option.map_eq_none_iff] at missing
        have zero := h.unborn p missing
        omega
      · rw [Function.update_of_ne same] at missing
        have zero := h.unborn p missing
        omega
    · intro p object here
      rw [objects] at here
      have fewer := owners p
      by_cases same : p = o
      · subst same
        rw [Function.update_self] at here
        obtain ⟨before, found, rfl⟩ := Option.map_eq_some_iff.mp here
        have counted := h.exact p before found
        rw [fewer, if_pos rfl] at counted
        exact counted.release
      · rw [Function.update_of_ne same] at here
        rw [if_neg same] at fewer
        have counted := h.exact p object here
        rw [fewer] at counted
        exact counted

theorem balanced_init (type : RKObjectType) : Balanced (.init type) where
  sound := ⟨⟨_, _, inv_init type⟩, fun _ => Nat.zero_le 1, fun _ _ _ same => by cases same⟩
  unborn _ _ := rfl
  exact _ _ same := by cases same

theorem balanced_run {type : RKObjectType} {acts : List (ThreadId × Op)} {w : World}
    (hrun : run step (.init type) acts = some w) : Balanced w :=
  run_invariant' (I := Balanced) (fun _ _ _ h hstep => balanced_step h hstep) (balanced_init type)
    hrun

/-- With an object in at most one slot, the references are those of the threads and one if it is in
the heap. -/
theorem Balanced.owners {w : World} (h : Balanced w) (o : ObjectId) : w.owners o = w.references o := by
  have single := h.sound.single o
  unfold World.owners World.references
  by_cases present : w.heap.contains o = true
  · have positive := (contains_iff w.heap o).mp present
    rw [if_pos present]
    omega
  · rw [if_neg present, (entries_eq_zero w.heap o).mp (eq_false_of_ne_true present)]

/-- A reference is taken where the counter is neither zero nor at its end. -/
theorem Sound.taken_live {w : World} (h : Sound w) {act : ThreadId × Op} {o : ObjectId}
    (same : taken w act = some o) : objectRef (w.refs o) = true := by
  obtain ⟨t, op⟩ := act
  cases op with
  | exchange spurious =>
    simp only [taken] at same
    split at same
    · rename_i p read at_loop
      split at same
      · rename_i current
        obtain rfl := Option.some.inj same
        rw [current.2]
        exact h.loops t p read at_loop
      · cases same
    · cases same
  | acquire id => exact acquire_entries same
  | _ => cases same

/-! ## The end of an object -/

/-- An object without references keeps its record, and no reference to it is taken. -/
theorem Balanced.gone {w : World} (h : Balanced w) {o : ObjectId} {object : RKObjectBase}
    (here : w.objects o = some object) (none_left : w.owners o = 0) (act : ThreadId × Op) :
    taken w act ≠ some o ∧
      ∀ w', step w act = some w' → w'.objects o = some object ∧ w'.owners o = 0 := by
  have refs := (h.exact o object here).refs
  rw [none_left] at refs
  have dead : ∀ {p}, objectRef (w.refs p) = true → p ≠ o := by
    rintro p live rfl
    rw [refs_of_some here] at live
    have positive := ((objectRef_iff object.refs).mp live).1
    omega
  refine ⟨fun same => dead (h.sound.taken_live same) rfl, ?_⟩
  · intro w' hstep
    cases (step_move h.sound hstep).1 with
    | keep other objects owners => exact ⟨objects ▸ here, (owners o).trans none_left⟩
    | @create p destroy _ new objects owners =>
      have other : o ≠ p := by
        rintro rfl
        rw [here] at new
        cases new
      refine ⟨?_, ?_⟩
      · rw [objects, Function.update_of_ne other, here]
      · rw [owners, if_neg other, none_left]
    | take _ taken live objects owners =>
      have other := (dead live).symm
      refine ⟨?_, ?_⟩
      · rw [objects, Function.update_of_ne other, here]
      · rw [owners, if_neg other, none_left]
    | @release p action objects owners =>
      have fewer := owners o
      have other : o ≠ p := by
        rintro rfl
        rw [if_pos rfl] at fewer
        omega
      refine ⟨?_, by omega⟩
      rw [objects, Function.update_of_ne other, here]

/-- What a step means for an object: its callback runs in the `rk_object_unref` of the last
reference and in no other step. -/
theorem Balanced.destroy_step {w w' : World} (h : Balanced w) {o : ObjectId} {object : RKObjectBase}
    (here : w.objects o = some object) {act : ThreadId × Op} (hstep : step w act = some w') :
    ∃ object', w'.objects o = some object' ∧ object'.destroy = object.destroy ∧
      object'.destroyed = object.destroyed +
        if act.2 = .unref o ∧ w.owners o = 1 ∧ object.destroy = true then 1 else 0 := by
  have exact' := (balanced_step h hstep).exact o
  have counted := (h.exact o object here).destroyed
  have kept : (∀ p, act.2 ≠ .unref p) → w'.objects o = some object →
      ∃ object', w'.objects o = some object' ∧ object'.destroy = object.destroy ∧
        object'.destroyed = object.destroyed +
          if act.2 = .unref o ∧ w.owners o = 1 ∧ object.destroy = true then 1 else 0 := by
    intro other same
    refine ⟨object, same, rfl, ?_⟩
    rw [if_neg fun all => other o all.1, Nat.add_zero]
  cases (step_move h.sound hstep).1 with
  | keep other objects owners => exact kept other (objects ▸ here)
  | @create p destroy other new objects owners =>
    refine kept other ?_
    have ne : o ≠ p := by
      rintro rfl
      rw [here] at new
      cases new
    rw [objects, Function.update_of_ne ne, here]
  | @take p other taken live objects owners =>
    by_cases same : o = p
    · subst same
      have after : w'.objects o = some { object with refs := object.refs + 1 } := by
        rw [objects, Function.update_self, here, Option.map_some]
      refine ⟨_, after, rfl, ?_⟩
      rw [if_neg fun all => other o all.1, Nat.add_zero]
    · refine kept other ?_
      rw [objects, Function.update_of_ne same, here]
  | @release p action objects owners =>
    have fewer := owners o
    by_cases same : o = p
    · subst same
      rw [if_pos rfl] at fewer
      rw [if_neg fun all => by omega] at counted
      have found := congrFun objects o
      rw [Function.update_self, here, Option.map_some] at found
      refine ⟨_, found, rfl, (exact' _ found).destroyed.trans ?_⟩
      simp only [counted, fewer, action, Nat.add_eq_right, true_and, Nat.zero_add]
    · refine ⟨object, by rw [objects, Function.update_of_ne same, here], rfl, ?_⟩
      rw [if_neg, Nat.add_zero]
      intro all
      exact same (Op.unref.inj (all.1.symm.trans action))

/-- A step changes the number of references to an object by at most one. -/
theorem Balanced.owners_step {w w' : World} (h : Balanced w) {act : ThreadId × Op}
    (hstep : step w act = some w') (o : ObjectId) :
    w'.owners o ≤ w.owners o + 1 ∧ w.owners o ≤ w'.owners o + 1 := by
  cases (step_move h.sound hstep).1 with
  | keep other objects owners => rw [owners]; omega
  | create other new objects owners => rw [owners]; split <;> omega
  | take other taken live objects owners => rw [owners]; split <;> omega
  | release action objects owners => rw [owners]; split <;> omega

/-- Along every run of any number of threads: the counter of an object is the number of its
references and changes by at most one in a step, a reference is taken only while there is one and
the counter has room, and the destroy callback runs in the release of the last reference, once and
for all. -/
theorem lifetime_exact {type : RKObjectType} {acts : List (ThreadId × Op)} {w : World}
    (hrun : run step (.init type) acts = some w) {o : ObjectId} {object : RKObjectBase}
    (here : w.objects o = some object) :
    object.refs.toNat = w.references o ∧
    object.destroyed = (if w.references o = 0 ∧ object.destroy = true then 1 else 0) ∧
    (∀ act, taken w act = some o → 0 < w.references o ∧ w.references o < 2 ^ 32 - 1) ∧
    (∀ act w', step w act = some w' → ∃ object', w'.objects o = some object' ∧
      object'.destroy = object.destroy ∧
      object'.refs.toNat ≤ object.refs.toNat + 1 ∧ object.refs.toNat ≤ object'.refs.toNat + 1 ∧
      object'.destroyed = object.destroyed +
        if act.2 = .unref o ∧ w.references o = 1 ∧ object.destroy = true then 1 else 0) ∧
    (w.references o = 0 → ∀ later w', run step w later = some w' →
      w'.objects o = some object ∧ w'.references o = 0 ∧ ∀ act, taken w' act ≠ some o) := by
  have balanced := balanced_run hrun
  have counted := balanced.exact o object here
  rw [← balanced.owners o]
  refine ⟨counted.refs, counted.destroyed, ?_, ?_, ?_⟩
  · intro act same
    have live := balanced.sound.taken_live same
    rw [refs_of_some here, objectRef_iff, counted.refs] at live
    exact live
  · intro act w' hstep
    obtain ⟨object', found, destroy, destroyed⟩ := balanced.destroy_step here hstep
    have counted' := (balanced_step balanced hstep).exact o object' found
    have near := balanced.owners_step hstep o
    rw [← counted.refs, ← counted'.refs] at near
    exact ⟨object', found, destroy, near.1, near.2, destroyed⟩
  · intro none_left later w' hlater
    have kept := run_invariant'
      (I := fun x => Balanced x ∧ x.objects o = some object ∧ x.owners o = 0) ?_
      ⟨balanced, here, none_left⟩ hlater
    · obtain ⟨balanced', there, zero⟩ := kept
      refine ⟨there, (balanced'.owners o).symm.trans zero, ?_⟩
      exact fun act => (balanced'.gone there zero act).1
    · rintro x act x' ⟨inv, there, zero⟩ hstep
      obtain ⟨there', zero'⟩ := (inv.gone there zero act).2 x' hstep
      exact ⟨balanced_step inv hstep, there', zero'⟩

/-- An object is inserted and acquired by a second thread, removed by the first one and released
by both, with a third thread in the loop of `rk_object_ref` meanwhile. -/
def acquiredLifetime : List (ThreadId × Op) :=
  [(0, .init 7 true), (0, .insert 7 true), (1, .acquire 0x40100000), (2, .load 7),
    (0, .remove 0x40100000), (0, .unref 7), (1, .unref 7), (2, .exchange false)]

theorem lifetime_exact_acquired : ∃ w object, run step (.init .buffer) acquiredLifetime = some w ∧
    w.objects 7 = some object ∧ object.refs.toNat = w.references 7 ∧ object.destroyed = 1 ∧
    ∀ act, taken w act ≠ some 7 := by
  obtain ⟨w, hrun, object, here, none_left, destroyed⟩ : ∃ w,
      run step (.init .buffer) acquiredLifetime = some w ∧ ∃ object,
      w.objects 7 = some object ∧ w.references 7 = 0 ∧ object.destroyed = 1 :=
    ⟨_, rfl, _, rfl, rfl, rfl⟩
  obtain ⟨counted, -, -, -, gone⟩ := lifetime_exact hrun here
  exact ⟨w, object, hrun, here, counted, destroyed, (gone none_left [] w rfl).2.2⟩

end RockchipVaapi.ObjectHeap
