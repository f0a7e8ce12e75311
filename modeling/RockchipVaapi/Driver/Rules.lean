import RockchipVaapi.Driver.Objects

/-!
# Programs of the driver

The operations of the driver on its objects, each with what it takes: the rules are equivalences,
with which a program is evaluated against what its thread has in its hands.
-/

namespace RockchipVaapi.Driver
open References

abbrev Program := Prog Obj Place Heap

abbrev Held := Token Obj Place Heap

/-- The fields of a new object that are to be set. -/
theorem blanks_of (o : Obj) : layout.blanks o = Multiset.ofList
    (((Field.all.filter fun f => f.of o.kind).filter fun f => f.shape == .once).map
      fun f => Token.right (.blank (.field f o))) := by
  simp only [Layout.blanks, layout, List.filter_map, List.map_map]
  rfl

theorem blanks_plain {o : Obj} (plain : o.kind = .config ∨ o.kind.heap = some .context ∨
    o.kind = .surface ∨ o.kind = .pool) : layout.blanks o = 0 := by
  rw [blanks_of]
  obtain ⟨kind, name⟩ := o
  cases kind <;> simp [Kind.heap] at plain <;> rfl

theorem blanks_once {o : Obj} {f : Field} (same : (o.kind, f) ∈ [(Kind.buffer, Field.derivedSurface),
    (.image, .imageBuffer), (.job, .jobSurface), (.route, .routeSurface)]) :
    layout.blanks o = {.right (.blank (.field f o))} := by
  rw [blanks_of]
  obtain ⟨kind, name⟩ := o
  simp only [List.mem_cons, Prod.mk.injEq, List.not_mem_nil, or_false] at same
  rcases same with ⟨rfl, rfl⟩ | ⟨rfl, rfl⟩ | ⟨rfl, rfl⟩ | ⟨rfl, rfl⟩ <;> rfl

theorem heap_surface {kind : Kind} : kind.heap = some .surface ↔ kind = .surface := by
  cases kind <;> simp [Kind.heap]

theorem heap_buffer {kind : Kind} : kind.heap = some .buffer ↔ kind = .buffer := by
  cases kind <;> simp [Kind.heap]

theorem heap_image {kind : Kind} : kind.heap = some .image ↔ kind = .image := by
  cases kind <;> simp [Kind.heap]

/-- Both kinds of contexts have a field. -/
theorem of_context {f : Field} {kind : Kind} (heap : kind.heap = some .context)
    (both : f.of .encoder = true ∧ f.of .decoder = true) : f.of kind = true := by
  cases kind <;> simp [Kind.heap] at heap
  · exact both.1
  · exact both.2

theorem layout_wf : layout.WF where
  fields := by
    intro o p mem
    simp only [layout, List.mem_map] at mem ⊢
    obtain ⟨f, -, rfl⟩ := mem
    rfl
  nodup := by
    rintro ⟨kind, name⟩
    refine ((by decide : Field.all.Nodup).filter _).map fun f g same => ?_
    exact (Place.field.inj same).1
  fits := by
    intro p o x owner fits
    cases p with
    | slot => cases owner
    | field f o' =>
      obtain rfl := Option.some.inj owner
      simp only [layout, Bool.and_eq_true] at fits
      refine List.mem_map.mpr ⟨f, List.mem_filter.mpr ⟨?_, fits.1⟩, rfl⟩
      cases f <;> decide
  entry := by
    rintro (⟨heap, id⟩ | ⟨f, o⟩)
    · simp [layout]
    · cases f <;> simp [layout, Field.shape]
  table := by
    rintro (⟨heap, id⟩ | ⟨f, o⟩)
    · simp [layout]
    · cases f <;> simp [layout, Field.shape]
  rank := by
    rintro (⟨heap, id⟩ | ⟨f, o⟩) o' ⟨kind, name⟩ owner fits
    · cases owner
    · obtain rfl := Option.some.inj owner
      obtain ⟨kind', name'⟩ := o
      simp only [layout, Bool.and_eq_true] at fits ⊢
      revert fits
      cases f <;> cases kind <;> cases kind' <;> simp [Field.of, Field.refersTo, Kind.rank]
  top := by
    rintro ⟨kind, name⟩
    cases kind <;> simp [layout, Kind.rank]
  limit := by decide

/-! ## The operations -/

/-- `calloc` and `rk_object_init` -/
def new (kind : Kind) : Program (Option Obj) := perform (.new fun o => o.kind == kind)

/-- `rk_object_ref` -/
def ref (o : Obj) : Program Bool := perform (.ref o)

/-- `rk_object_unref` -/
def unref (o : Obj) : Program Unit := perform (.unref o)

def unrefOpt : Option Obj → Program Unit
  | some o => unref o
  | none => pure ()

/-- `rk_object_heap_acquire` -/
def acquire (heap : Heap) (id : UInt32) : Program (Option Obj) := perform (.load (.slot heap id))

/-- `rk_object_heap_remove` -/
def remove (heap : Heap) (id : UInt32) : Program (Option Obj) :=
  perform (.swap (.slot heap id) none)

/-- `rk_object_heap_insert` -/
def insert (heap : Heap) (o : Obj) : Program (Option Place) := perform (.publish heap o)

/-- Read a field, and take a reference to what it refers to. -/
def load (f : Field) (o : Obj) : Program (Option Obj) := perform (.load (.field f o))

/-- Exchange what a field refers to. -/
def swap (f : Field) (o : Obj) (x : Option Obj) : Program (Option Obj) :=
  perform (.swap (.field f o) x)

/-- Fill a field that is empty. -/
def offer (f : Field) (o x : Obj) : Program Bool := perform (.offer (.field f o) x)

/-- Set a field of an object that nobody else sets. -/
def set (f : Field) (o x : Obj) : Program Unit := perform (.set (.field f o) x)

/-- Look at a field that was set. -/
def peek (f : Field) (o : Obj) : Program (Option Obj) := perform (.peek (.field f o))

def push (f : Field) (o x : Obj) : Program Unit := perform (.push (.field f o) x)

def pull (f : Field) (o : Obj) : Program (Option Obj) := perform (.pull (.field f o))

def reclaim (f : Field) (o x : Obj) : Program Bool := perform (.reclaim (.field f o) x)

def grab (f : Field) (o : Obj) : Program (List Obj) := perform (.grab (.field f o))

/-- Release what a field of a dying object refers to. -/
def drain (f : Field) (o : Obj) : Program Unit := do
  unrefAll (← perform (.drain (.field f o)))

/-- `pthread_create`, for a thread that works on an object. -/
def lend (o : Obj) : Program Bool := perform (.lend o)

/-- A condition that does not depend on references. -/
def branch : Program Bool := perform .flip

/-! ## The rules -/

@[simp] theorem layout_owner_slot (heap : Heap) (id : UInt32) :
    layout.owner (.slot heap id) = none := rfl

@[simp] theorem layout_owner_field (f : Field) (o : Obj) : layout.owner (.field f o) = some o := rfl

@[simp] theorem layout_shape_slot (heap : Heap) (id : UInt32) :
    layout.shape (.slot heap id) = .entry := rfl

@[simp] theorem layout_shape_field (f : Field) (o : Obj) :
    layout.shape (.field f o) = f.shape := rfl

@[simp] theorem layout_table_slot (heap : Heap) (id : UInt32) :
    layout.table (.slot heap id) = some heap := rfl

@[simp] theorem layout_table_field (f : Field) (o : Obj) : layout.table (.field f o) = none := rfl

@[simp] theorem layout_fits_slot (heap : Heap) (id : UInt32) (x : Obj) :
    layout.fits (.slot heap id) x = (x.kind.heap == some heap) := rfl

@[simp] theorem layout_fits_field (f : Field) (o x : Obj) :
    layout.fits (.field f o) x = (f.of o.kind && x.kind == f.refersTo) := rfl

@[simp] theorem layout_rank (o : Obj) : layout.rank o = o.kind.rank := rfl

@[simp] theorem layout_lends (o : Obj) : layout.lends o = (o.kind == .decoder) := rfl

@[simp] theorem rank_lt (kind : Kind) : kind.rank < 4 := by
  cases kind <;> simp [Kind.rank]

@[simp] theorem rank_le (kind : Kind) : kind.rank ≤ 4 := (rank_lt kind).le

section

variable {n : Nat} {α : Type} {Q : α → Multiset Held → Prop} {h : Multiset Held} {f : Field}
  {o x : Obj}

theorem wp_op (o : Op Obj Place Heap) (k : o.Answer → Program α) :
    layout.wp n (perform o >>= k) Q h ↔ layout.Fine n h o ∧
      ∃ h₀, h = layout.takes o + h₀ ∧
        ∀ r, layout.Expects h o r → layout.wp n (k r) Q (layout.gives o r + h₀) :=
  Iff.rfl

/-- An operation that uses up nothing. -/
theorem wp_free (o : Op Obj Place Heap) (nothing : layout.takes o = 0) (k : o.Answer → Program α) :
    layout.wp n (perform o >>= k) Q h ↔ layout.Fine n h o ∧
      ∀ r, layout.Expects h o r → layout.wp n (k r) Q (layout.gives o r + h) := by
  rw [wp_op, nothing]
  simp

/-- An operation that uses up one token. -/
theorem wp_take (o : Op Obj Place Heap) {x : Held} (one : layout.takes o = {x})
    (k : o.Answer → Program α) :
    layout.wp n (perform o >>= k) Q h ↔ layout.Fine n h o ∧ x ∈ h ∧
      ∀ r, layout.Expects h o r → layout.wp n (k r) Q (layout.gives o r + h.erase x) := by
  rw [wp_op, one]
  refine and_congr_right fun _ => ⟨?_, ?_⟩
  · rintro ⟨h₀, rfl, later⟩
    rw [Multiset.singleton_add]
    exact ⟨Multiset.mem_cons_self _ _, by rwa [Multiset.erase_cons_head]⟩
  · rintro ⟨mem, later⟩
    exact ⟨h.erase x, (Multiset.cons_erase mem).symm.trans (Multiset.singleton_add _ _).symm, later⟩

theorem forall_option {β : Type} {P : Option β → Prop} : (∀ r, P r) ↔ P none ∧ ∀ b, P (some b) :=
  ⟨fun all => ⟨all none, fun b => all (some b)⟩, fun both r => by cases r; exacts [both.1, both.2 _]⟩

theorem wp_new (kind : Kind) (k : Option Obj → Program α) (rank : kind.rank < n) :
    layout.wp n (new kind >>= k) Q h ↔ layout.wp n (k none) Q h ∧
      ∀ o, o.kind = kind → layout.wp n (k (some o)) Q (.ref o ::ₘ (layout.blanks o + h)) := by
  rw [new, wp_free _ rfl, and_iff_right, forall_option]
  · simp [Layout.Expects, Layout.gives]
  · intro o same
    obtain rfl := eq_of_beq same
    exact rank

theorem forall_bool {P : Bool → Prop} : (∀ r, P r) ↔ P false ∧ P true :=
  ⟨fun all => ⟨all _, all _⟩, fun both r => by cases r; exacts [both.1, both.2]⟩

theorem forall_unit {P : Unit → Prop} : (∀ r, P r) ↔ P () := ⟨fun all => all (), fun one _ => one⟩

theorem wp_branch (k : Bool → Program α) :
    layout.wp n (branch >>= k) Q h ↔ layout.wp n (k false) Q h ∧ layout.wp n (k true) Q h := by
  rw [branch, wp_free _ rfl, forall_bool]
  simp [Layout.Expects, Layout.gives, Layout.Fine]

theorem wp_ref (k : Bool → Program α) : layout.wp n (ref o >>= k) Q h ↔
    layout.Alive h o ∧ o.kind.rank < n ∧ layout.wp n (k false) Q h ∧
      layout.wp n (k true) Q (.ref o ::ₘ h) := by
  rw [ref, wp_free _ rfl, forall_bool]
  simp [Layout.Expects, Layout.gives, Layout.Fine, and_assoc]

theorem wp_unref (k : Unit → Program α) : layout.wp n (unref o >>= k) Q h ↔
    o.kind.rank ≤ n ∧ .ref o ∈ h ∧ layout.wp n (k ()) Q (h.erase (.ref o)) := by
  rw [unref, wp_take _ rfl, forall_unit]
  simp [Layout.Expects, Layout.gives, Layout.Fine]

theorem wp_unref_end {Q : Unit → Multiset Held → Prop} : layout.wp n (unref o) Q h ↔
    o.kind.rank ≤ n ∧ .ref o ∈ h ∧ layout.wp n (pure ()) Q (h.erase (.ref o)) :=
  wp_unref pure

theorem wp_acquire {heap : Heap} {id : UInt32} (k : Option Obj → Program α) :
    layout.wp 4 (acquire heap id >>= k) Q h ↔ layout.wp 4 (k none) Q h ∧
      ∀ o, o.kind.heap = some heap → (∀ x, .right (.bound (.slot heap id) x) ∈ h → o = x) →
        layout.wp 4 (k (some o)) Q (.ref o ::ₘ h) := by
  rw [acquire, wp_free _ rfl, forall_option]
  simp [Layout.Expects, Layout.gives, Layout.Fine, Layout.Reaches]

theorem wp_remove {heap : Heap} {id : UInt32} (k : Option Obj → Program α) :
    layout.wp 4 (remove heap id >>= k) Q h ↔ layout.wp 4 (k none) Q h ∧
      ∀ o, o.kind.heap = some heap → layout.wp 4 (k (some o)) Q (.ref o ::ₘ h) := by
  rw [remove, wp_free _ rfl, forall_option]
  simp [Layout.Expects, Layout.gives, Layout.Fine, Layout.Reaches]

theorem wp_insert {heap : Heap} (k : Option Place → Program α) :
    layout.wp 4 (insert heap o >>= k) Q h ↔ o.kind.heap = some heap ∧
      .right .license ∈ h ∧ .ref o ∈ h ∧ layout.wp 4 (k none) Q h ∧
      ∀ id, layout.wp 4 (k (some (.slot heap id))) Q
        (.right (.bound (.slot heap id) o) ::ₘ h.erase (.ref o)) := by
  have fine : layout.Fine 4 h (.publish heap o) ↔ o.kind.heap = some heap := by
    constructor
    · intro all
      simpa using all (.slot heap 0) rfl
    · rintro same (⟨heap', id⟩ | ⟨f, x⟩) table
      · obtain rfl := Option.some.inj table
        simp [same]
      · cases table
  have answers {P : Option Place → Prop} :
      (∀ r, layout.Expects h (.publish heap o) r → P r) ↔
        P none ∧ ∀ id, P (some (.slot heap id)) := by
    refine ⟨fun all => ⟨all none (by simp [Layout.Expects]), fun id => all _ ?_⟩, ?_⟩
    · simp [Layout.Expects]
    · rintro ⟨none, some⟩ (_ | ⟨heap', id⟩ | ⟨f, x⟩) expects
      · exact none
      · have := expects _ rfl
        rw [layout_table_slot, Option.some.injEq] at this
        exact this ▸ some id
      · cases expects _ rfl
  have takes (h₀ : Multiset Held) : layout.takes (.publish heap o) + h₀ =
      .ref o ::ₘ .right .license ::ₘ h₀ := by
    rw [Multiset.cons_swap]
    simp [Layout.takes]
  have kept (h₀ : Multiset Held) (id : UInt32) :
      layout.gives (.publish heap o) (some (.slot heap id)) + h₀ =
        .right (.bound (.slot heap id) o) ::ₘ .right .license ::ₘ h₀ := by
    rw [Multiset.cons_swap]
    simp [Layout.gives]
  rw [insert, wp_op, fine]
  refine and_congr_right fun _ => ⟨?_, ?_⟩
  · rintro ⟨h₀, rfl, later⟩
    obtain ⟨none, some⟩ := answers.mp later
    rw [takes, Multiset.erase_cons_head]
    refine ⟨by simp, by simp, takes h₀ ▸ none, fun id => ?_⟩
    rw [← kept]
    exact some id
  · rintro ⟨license, mem, none, some⟩
    have license' : .right .license ∈ h.erase (.ref o) :=
      (Multiset.mem_erase_of_ne (by simp)).mpr license
    have same : h = layout.takes (.publish heap o) + (h.erase (.ref o)).erase (.right .license) := by
      rw [takes, Multiset.cons_erase license', Multiset.cons_erase mem]
    refine ⟨_, same, answers.mpr ⟨?_, fun id => ?_⟩⟩
    · exact same ▸ none
    · rw [kept, Multiset.cons_erase license']
      exact some id

/-- A thread may look into the fields of an object. -/
theorem reaches_field : layout.Reaches h (.field f o) ↔
    layout.Alive h o ∨ .right (.loan o) ∈ h := by
  simp [Layout.Reaches]

theorem wp_load (rank : f.refersTo.rank < n) (cell : f.shape = .cell)
    (k : Option Obj → Program α) (reaches : layout.Alive h o ∨ .right (.loan o) ∈ h)
    (none : layout.wp n (k none) Q h)
    (some : ∀ x, x.kind = f.refersTo → layout.wp n (k (some x)) Q (.ref x ::ₘ h)) :
    layout.wp n (load f o >>= k) Q h := by
  rw [load, wp_free _ rfl]
  refine ⟨⟨reaches_field.mpr reaches, .inr cell, fun x fits => ?_⟩, fun r expects => ?_⟩
  · simp only [layout_fits_field, Bool.and_eq_true, beq_iff_eq] at fits
    rw [layout_rank, fits.2]
    exact rank
  · cases r with
    | none => simpa [Layout.gives] using none
    | some x =>
      have fits := (expects x rfl).1
      simp only [layout_fits_field, Bool.and_eq_true, beq_iff_eq] at fits
      simpa [Layout.gives] using some x fits.2

theorem wp_swap_none (of : f.of o.kind = true) (rank : f.refersTo.rank < n) (cell : f.shape = .cell)
    (k : Option Obj → Program α) : layout.wp n (swap f o none >>= k) Q h ↔
      (layout.Alive h o ∨ .right (.loan o) ∈ h) ∧ layout.wp n (k none) Q h ∧
      ∀ x, x.kind = f.refersTo → layout.wp n (k (some x)) Q (.ref x ::ₘ h) := by
  rw [swap, wp_free _ rfl, forall_option]
  simp +contextual [Layout.Expects, Layout.gives, Layout.Fine, reaches_field, of, cell, rank]

theorem wp_swap_some (of : f.of o.kind = true) (rank : f.refersTo.rank < n) (cell : f.shape = .cell)
    (k : Option Obj → Program α) : layout.wp n (swap f o (some x) >>= k) Q h ↔
      (layout.Alive h o ∨ .right (.loan o) ∈ h) ∧ x.kind = f.refersTo ∧ .ref x ∈ h ∧
      layout.wp n (k none) Q (h.erase (.ref x)) ∧
      ∀ y, y.kind = f.refersTo → layout.wp n (k (some y)) Q (.ref y ::ₘ h.erase (.ref x)) := by
  rw [swap, wp_take _ rfl, forall_option]
  simp +contextual [Layout.Expects, Layout.gives, Layout.Fine, reaches_field, of, cell, rank,
    and_assoc]

theorem wp_offer (of : f.of o.kind = true) (cell : f.shape = .cell) (k : Bool → Program α) :
    layout.wp n (offer f o x >>= k) Q h ↔
      (layout.Alive h o ∨ .right (.loan o) ∈ h) ∧ x.kind = f.refersTo ∧ .ref x ∈ h ∧
      layout.wp n (k false) Q h ∧ layout.wp n (k true) Q (h.erase (.ref x)) := by
  rw [offer, wp_take _ rfl, forall_bool]
  by_cases mem : .ref x ∈ h
  · simp [Layout.Expects, Layout.gives, Layout.Fine, reaches_field, of, cell, mem,
      Multiset.cons_erase mem, and_assoc]
  · simp [mem]

theorem wp_push (of : f.of o.kind = true) (queue : f.shape = .queue) (k : Unit → Program α) :
    layout.wp n (push f o x >>= k) Q h ↔
      (layout.Alive h o ∨ .right (.loan o) ∈ h) ∧ x.kind = f.refersTo ∧ .ref x ∈ h ∧
      layout.wp n (k ()) Q (h.erase (.ref x)) := by
  rw [push, wp_take _ rfl, forall_unit]
  simp [Layout.Expects, Layout.gives, Layout.Fine, reaches_field, of, queue, and_assoc]

theorem wp_pull (of : f.of o.kind = true) (rank : f.refersTo.rank < n) (queue : f.shape = .queue)
    (k : Option Obj → Program α) : layout.wp n (pull f o >>= k) Q h ↔
      (layout.Alive h o ∨ .right (.loan o) ∈ h) ∧ layout.wp n (k none) Q h ∧
      ∀ x, x.kind = f.refersTo → layout.wp n (k (some x)) Q (.ref x ::ₘ h) := by
  rw [pull, wp_free _ rfl, forall_option]
  simp +contextual [Layout.Expects, Layout.gives, Layout.Fine, reaches_field, of, queue, rank]

theorem wp_reclaim (of : f.of o.kind = true) (rank : f.refersTo.rank < n) (queue : f.shape = .queue)
    (k : Bool → Program α) : layout.wp n (reclaim f o x >>= k) Q h ↔
      (layout.Alive h o ∨ .right (.loan o) ∈ h) ∧
      (x.kind = f.refersTo → layout.wp n (k true) Q (.ref x ::ₘ h)) := by
  rw [reclaim, wp_free _ rfl, forall_bool]
  simp +contextual [Layout.Expects, Layout.gives, Layout.Fine, reaches_field, of, queue, rank]

theorem wp_grab (of : f.of o.kind = true) (rank : f.refersTo.rank < n) (queue : f.shape = .queue)
    (k : List Obj → Program α) : layout.wp n (grab f o >>= k) Q h ↔
      (layout.Alive h o ∨ .right (.loan o) ∈ h) ∧
      ∀ xs, (∀ x ∈ xs, x.kind = f.refersTo) → layout.wp n (k xs) Q (refs xs + h) := by
  rw [grab, wp_free _ rfl]
  simp +contextual [Layout.Expects, Layout.gives, Layout.Fine, reaches_field, of, queue, rank]

theorem wp_set (of : f.of o.kind = true) (k : Unit → Program α) (alive : layout.Alive h o)
    (kind : x.kind = f.refersTo) (held : .ref x ∈ h) (blank : .right (.blank (.field f o)) ∈ h)
    (later : layout.wp n (k ()) Q (.right (.points (.field f o) x) ::ₘ
      (h.erase (.ref x)).erase (.right (.blank (.field f o))))) :
    layout.wp n (set f o x >>= k) Q h := by
  have blank' : .right (.blank (.field f o)) ∈ h.erase (.ref x) :=
    (Multiset.mem_erase_of_ne (by simp)).mpr blank
  have same : h = layout.takes (.set (.field f o) x) +
      (h.erase (.ref x)).erase (.right (.blank (.field f o))) := by
    conv_lhs => rw [← Multiset.cons_erase held, ← Multiset.cons_erase blank']
    simp [Layout.takes]
  refine ⟨⟨⟨o, rfl, alive⟩, by simp [of, kind]⟩, _, same, fun _ _ => ?_⟩
  exact later

theorem wp_peek (once : f.shape = .once) (k : Option Obj → Program α) (alive : layout.Alive h o)
    (none : layout.wp n (k none) Q h)
    (some : ∀ x, x.kind = f.refersTo →
      layout.wp n (k (some x)) Q (.right (.points (.field f o) x) ::ₘ h)) :
    layout.wp n (peek f o >>= k) Q h := by
  rw [peek, wp_free _ rfl]
  refine ⟨⟨⟨o, rfl, alive⟩, once⟩, fun r expects => ?_⟩
  cases r with
  | none => simpa [Layout.gives] using none
  | some x =>
    have := expects x rfl
    simp only [layout_fits_field, Bool.and_eq_true, beq_iff_eq] at this
    exact some x this.2

theorem wp_lend (k : Bool → Program α) : layout.wp n (lend o >>= k) Q h ↔
    layout.Alive h o ∧ o.kind = .decoder ∧ layout.wp n (k false) Q h ∧
      layout.wp n (k true) Q h := by
  rw [lend, wp_free _ rfl, forall_bool]
  simp [Layout.Expects, Layout.gives, Layout.Fine, and_assoc]

/-- Knowledge that is not needed. -/
theorem wp_spent {x : Held} (spent : x.Spent) {m : Program α} (holds : layout.wp n m Q h) :
    layout.wp n m Q (x ::ₘ h) := by
  have more := Layout.wp_spare (j := {x}) (by simpa using spent) holds
  rwa [add_comm, Multiset.singleton_add] at more

/-- A thread is done that has, but for what is of no consequence, one thing in its hands. -/
theorem wp_done {a : α} {x : Held} : layout.wp n (pure a) (fun _ h' => h' = {x}) h ↔
    x ∈ h ∧ ∀ y ∈ h.erase x, y.Spent := by
  constructor
  · rintro ⟨_, j, rfl, spent, rfl⟩
    rw [Multiset.singleton_add, Multiset.erase_cons_head]
    exact ⟨Multiset.mem_cons_self _ _, spent⟩
  · rintro ⟨mem, spent⟩
    exact ⟨{x}, _, (Multiset.cons_erase mem).symm.trans (Multiset.singleton_add _ _).symm, spent,
      rfl⟩

end

end RockchipVaapi.Driver
