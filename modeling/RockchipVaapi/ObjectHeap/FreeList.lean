import Mathlib.Data.List.Perm.Subperm
import RockchipVaapi.ObjectHeap.Refinement

/-!
# The free list is complete

The free list holds every slot that was emptied and not retired, and holds it once. So a slot is
live, listed or retired, and an insert with memory fails only where no slot is left.
-/

namespace RockchipVaapi.ObjectHeap

variable {α : Type}

/-! ## Following the list -/

/-- The indices from `head` along `next_free`, or `none` if there are more than `fuel`. -/
def followFree (heap : RKObjectHeap α) : Nat → Nat → Option (List Nat)
  | fuel, head =>
    if head = noSlot then some []
    else
      match fuel with
      | 0 => none
      | fuel + 1 => (followFree heap fuel (heap.slot head).nextFree).map (head :: ·)

theorem followFree_of_chain {heap : RKObjectHeap α} {head fuel : Nat} {free : List Nat}
    (chain : FreeChain heap.slot head free) (slots : ∀ i ∈ free, i ≠ noSlot)
    (enough : free.length ≤ fuel) : followFree heap fuel head = some free := by
  induction free generalizing head fuel with
  | nil =>
    unfold followFree
    exact if_pos chain
  | cons index rest ih =>
    obtain ⟨rfl, chain⟩ := chain
    cases fuel with
    | zero => cases enough
    | succ fuel =>
      unfold followFree
      rw [if_neg (slots head List.mem_cons_self)]
      dsimp only
      rw [ih chain (fun i mem => slots i (List.mem_cons_of_mem head mem))
        (Nat.le_of_succ_le_succ enough)]
      rfl

/-! ## The invariant -/

/-- No vacant slot is missing from the free list. -/
structure Listed (heap : RKObjectHeap α) (free : List Nat) (m : FreshMap UInt32 α) : Prop where
  inv : Inv heap free m
  complete : ∀ i, Vacant heap i → i ∈ free

theorem listed_init (type : RKObjectType) : Listed (.init type : RKObjectHeap α) [] .empty :=
  ⟨inv_init type, fun i v => absurd v.used (Nat.not_lt_zero i)⟩

section

variable {heap : RKObjectHeap α} {free : List Nat} {m : FreshMap UInt32 α}

theorem Listed.mem_iff (h : Listed heap free m) (i : Nat) : i ∈ free ↔ Vacant heap i :=
  ⟨h.inv.vacant i, h.complete i⟩

theorem Inv.lt_capacity (h : Inv heap free m) {i : Nat} (used : i < heap.highWater) :
    i < 2 ^ 20 := used.trans_le (h.highWater_le.trans h.capacity_le)

theorem Listed.ne_noSlot (h : Listed heap free m) {i : Nat} (mem : i ∈ free) : i ≠ noSlot := by
  have := h.inv.lt_capacity (h.inv.vacant i mem).used
  unfold noSlot
  omega

theorem Listed.length_le (h : Listed heap free m) : free.length ≤ heap.highWater := by
  have inside : free ⊆ List.range heap.highWater := fun i mem =>
    List.mem_range.mpr (h.inv.vacant i mem).used
  have shorter := (List.subperm_of_subset h.inv.nodup inside).length_le
  rwa [List.length_range] at shorter

/-- The branch behind a slot that was taken stores the object. -/
theorem Listed.after_insert (h : Listed heap free m) (object : α) (alloc : Bool) :
    insert heap object alloc = (heap, none) ∧ takeSlot heap alloc = none ∨
      ∃ heap' id free', insert heap object alloc = (heap', some id) ∧
        Listed heap' free' (m.issue id object) := by
  cases taken : takeSlot heap alloc with
  | none =>
    left
    rw [insert, taken]
    exact ⟨rfl, rfl⟩
  | some result =>
    obtain ⟨heap', index⟩ := result
    obtain ⟨type, free', inv', v, off, kept, old⟩ := h.inv.after_takeSlot taken
    right
    refine ⟨_, _, free', inv'.insert_taken v taken object, inv'.store v off object, fun i v' => ?_⟩
    -- the slot that was taken is occupied; any other one was listed before
    have room := v.used.trans_le inv'.highWater_le
    rcases v'.of_set room rfl rfl with ⟨-, empty, -⟩ | ⟨other, vacant⟩
    · cases empty
    · have before := (old i vacant).resolve_left other
      exact (kept i (h.complete i before)).resolve_left other

theorem Listed.after_remove (h : Listed heap free m) (id : UInt32) :
    ∃ free', Listed (remove heap id).1 free'
      (if (remove heap id).2.isSome then m.retire id else m) := by
  rcases h.inv.remove_cases id with ⟨-, eq⟩ | ⟨index, o, used, object, make, -, eq⟩
  · rw [eq]
    exact ⟨free, h⟩
  · obtain ⟨-, free', inv', kept, old⟩ := h.inv.after_clearSlot used object
    rw [← make] at inv'
    rw [eq]
    refine ⟨free', inv', fun i v => ?_⟩
    rcases old i v with listed | before
    · exact listed
    · exact kept (h.complete i before)

theorem Listed.after_perform (h : Listed heap free m) (call : Call α) :
    ∃ free', Listed (perform (heap, m) call).1 free' (perform (heap, m) call).2 := by
  cases call with
  | insert object alloc =>
    rcases h.after_insert object alloc with ⟨same, -⟩ | ⟨heap', id, free', eq, h'⟩
    · simp only [perform, same]
      exact ⟨free, h⟩
    · simp only [perform, eq]
      exact ⟨free', h'⟩
  | acquire id refs => exact ⟨free, h⟩
  | remove id =>
    obtain ⟨free', h'⟩ := h.after_remove id
    rcases result : remove heap id with ⟨heap', _ | o⟩
    all_goals
      rw [result] at h'
      simp only [perform, result]
      exact ⟨free', h'⟩

/-- After every sequence of calls the free list is complete. -/
theorem listed_performAll (type : RKObjectType) (calls : List (Call α)) :
    ∃ free, Listed (performAll type calls).1 free (performAll type calls).2 := by
  have run : ∀ (calls : List (Call α)) (state : RKObjectHeap α × FreshMap UInt32 α) (free : List Nat),
      Listed state.1 free state.2 →
        ∃ free, Listed (calls.foldl perform state).1 free (calls.foldl perform state).2 := by
    intro calls
    induction calls with
    | nil => intro state free h; exact ⟨free, h⟩
    | cons call calls ih =>
      intro state free h
      obtain ⟨free', h'⟩ := h.after_perform call
      exact ih _ free' h'
  exact run calls _ [] (listed_init type)

/-! ## What is left of a full heap -/

/-- The slot holds an object. -/
def Live (heap : RKObjectHeap α) (i : Nat) : Prop := (heap.slot i).object ≠ none

/-- The slot is never used again. -/
def Retired (heap : RKObjectHeap α) (i : Nat) : Prop := (heap.slot i).retired = true

theorem vacant_iff {i : Nat} (used : i < heap.highWater) :
    Vacant heap i ↔ ¬Live heap i ∧ ¬Retired heap i := by
  unfold Live Retired
  constructor
  · intro v
    exact ⟨fun live => live v.object, by rw [v.retired]; exact Bool.false_ne_true⟩
  · rintro ⟨dead, active⟩
    exact ⟨used, by_contra dead, Bool.eq_false_iff.mpr active⟩

/-- A slot in use is live, listed or retired, and only one of these. -/
theorem Listed.partition (h : Listed heap free m) {i : Nat} (used : i < heap.highWater) :
    Live heap i ∧ i ∉ free ∧ ¬Retired heap i ∨ ¬Live heap i ∧ i ∈ free ∧ ¬Retired heap i ∨
      ¬Live heap i ∧ i ∉ free ∧ Retired heap i := by
  have listed := h.mem_iff i
  rw [vacant_iff used] at listed
  by_cases live : Live heap i
  · refine .inl ⟨live, fun mem => (listed.mp mem).1 live, ?_⟩
    exact Bool.eq_false_iff.mp (h.inv.occupied i live)
  · by_cases retired : Retired heap i
    · exact .inr (.inr ⟨live, fun mem => (listed.mp mem).2 retired, retired⟩)
    · exact .inr (.inl ⟨live, listed.mpr ⟨live, retired⟩, retired⟩)

/-- With memory, an insert finds no slot only where all of them are live or retired. -/
theorem Listed.insert_none_iff (h : Listed heap free m) (object : α) :
    (insert heap object true).2 = none ↔
      ∀ i < 2 ^ 20, i < heap.highWater ∧ (Live heap i ∨ Retired heap i) := by
  have low := h.inv.highWater_le
  have high := h.inv.capacity_le
  constructor
  · intro failed
    have full : takeSlot heap true = none := by
      rcases h.after_insert object true with ⟨-, none⟩ | ⟨heap', id, free', eq, -⟩
      · exact none
      · rw [eq] at failed
        cases failed
    unfold takeSlot at full
    split at full
    · cases full
    · rename_i unlisted
      have nil : free = [] := by
        have chain := h.inv.chain
        cases free with
        | nil => rfl
        | cons index rest => exact absurd (chain.1 ▸ h.ne_noSlot List.mem_cons_self) unlisted
      have maximal : heap.highWater = 2 ^ 20 := by
        split at full
        · rename_i noRoom
          unfold withRoom at noRoom
          split at noRoom
          · unfold growHeap at noRoom
            split at noRoom
            · omega
            · cases noRoom
          · cases noRoom
        · cases full
      intro i small
      have used : i < heap.highWater := maximal ▸ small
      refine ⟨used, ?_⟩
      by_contra free
      rw [not_or] at free
      have mem := h.complete i ((vacant_iff used).mpr free)
      rw [nil] at mem
      cases mem
  · intro full
    have maximal : heap.highWater = 2 ^ 20 := by
      have := (full (2 ^ 20 - 1) (by omega)).1
      omega
    have nil : free = [] := by
      cases free with
      | nil => rfl
      | cons index rest =>
        have v := h.inv.vacant index List.mem_cons_self
        have none := (vacant_iff v.used).mp v
        rcases (full index (h.inv.lt_capacity v.used)).2 with live | retired
        · exact absurd live none.1
        · exact absurd retired none.2
    have unlisted : heap.freeHead = noSlot := by
      have chain := h.inv.chain
      rw [nil] at chain
      exact chain
    have none : takeSlot heap true = none := by
      unfold takeSlot
      rw [if_neg (not_not.mpr unlisted)]
      unfold withRoom growHeap
      rw [if_pos (by omega), if_pos (by omega)]
    rw [insert, none]

end

/-- After any calls on a heap, following the free list ends and visits every emptied slot once.
The slots below the high-water mark are live, listed or retired. An insert never meets a slot that
is none of its own, and with memory fails only where every slot is live or retired. -/
theorem freeList_exact (type : RKObjectType) (calls : List (Call α)) :
    let heap := (performAll type calls).1
    (∃ free, (∀ fuel, heap.highWater ≤ fuel → followFree heap fuel heap.freeHead = some free) ∧
      free.Nodup ∧
      (∀ i, i ∈ free ↔ i < heap.highWater ∧ (heap.slot i).object = none ∧
        (heap.slot i).retired = false) ∧
      ∀ i < heap.highWater,
        (Live heap i ∧ i ∉ free ∧ ¬Retired heap i ∨ ¬Live heap i ∧ i ∈ free ∧ ¬Retired heap i ∨
          ¬Live heap i ∧ i ∉ free ∧ Retired heap i) ∧
        (Live heap i ∨ i ∈ free →
          1 ≤ (heap.slot i).generation ∧ (heap.slot i).generation ≤ 255)) ∧
      heap.highWater ≤ heap.capacity ∧ heap.capacity ≤ 2 ^ 20 ∧
      (∀ alloc heap' index, takeSlot heap alloc = some (heap', index) →
        ((heap'.slot index).retired || (heap'.slot index).object.isSome ||
          (heap'.slot index).generation == 0) = false) ∧
      ∀ object, (insert heap object true).2 = none ↔
        ∀ i < 2 ^ 20, i < heap.highWater ∧ (Live heap i ∨ Retired heap i) := by
  obtain ⟨free, h⟩ := listed_performAll type calls
  dsimp only
  refine ⟨⟨free, fun fuel enough => ?_, h.inv.nodup, fun i => ?_, fun i used =>
      ⟨h.partition used, fun _ => ?_⟩⟩, h.inv.highWater_le, h.inv.capacity_le, ?_, h.insert_none_iff⟩
  · exact followFree_of_chain h.inv.chain (fun i => h.ne_noSlot) (h.length_le.trans enough)
  · rw [h.mem_iff]
    exact ⟨fun v => ⟨v.used, v.object, v.retired⟩, fun ⟨used, object, retired⟩ =>
      ⟨used, object, retired⟩⟩
  · have generation := h.inv.generation i used
    omega
  · intro alloc heap' index taken
    obtain ⟨-, free', inv', v, -⟩ := h.inv.after_takeSlot taken
    have positive := (inv'.generation index v.used).1
    simp only [v.retired, v.object, Option.isSome_none, Bool.or_self, Bool.false_or,
      beq_eq_false_iff_ne]
    omega

end RockchipVaapi.ObjectHeap
