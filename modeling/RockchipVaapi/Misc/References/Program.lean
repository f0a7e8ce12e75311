import Mathlib.Algebra.Order.Group.Multiset

/-!
# Programs over reference-counted objects

Objects carry a counter; references to them are kept in places (the entries of a table, the fields
of other objects) and in the hands of threads. A program is a sequence of atomic operations on
counters and places whose answers the environment chooses. `wp` is its weakest precondition in
terms of what the thread has in its hands: a program may only release what it holds, and only look
into objects that something it holds keeps alive. Rights are no references: they say what a thread
may do, or what it knows.
-/

namespace References

/-- What a place may hold. -/
inductive Shape
  /-- An entry of a table: it is filled when its key is handed out and never again. -/
  | entry
  /-- A field that is set once. -/
  | once
  /-- A field with a reference or none. -/
  | cell
  /-- A field with any number of references. -/
  | queue
  deriving DecidableEq, Repr

/-- The objects `ο`, the places `π` and the tables `ι` of a program. -/
structure Layout (ο π ι : Type) where
  owner : π → Option ο
  fields : ο → List π
  shape : π → Shape
  table : π → Option ι
  fits : π → ο → Bool
  /-- A field refers only to objects of smaller rank than its owner. -/
  rank : ο → Nat
  top : Nat
  /-- Whether threads of its own can work on an object. -/
  lends : ο → Bool
  /-- The value at which a counter is saturated. -/
  limit : Nat

structure Layout.WF {ο π ι : Type} (L : Layout ο π ι) : Prop where
  fields : ∀ o, ∀ p ∈ L.fields o, L.owner p = some o
  nodup : ∀ o, (L.fields o).Nodup
  fits : ∀ p o x, L.owner p = some o → L.fits p x = true → p ∈ L.fields o
  entry : ∀ p, L.shape p = .entry ↔ L.owner p = none
  table : ∀ p, L.shape p = .entry ↔ (L.table p).isSome = true
  rank : ∀ p o x, L.owner p = some o → L.fits p x = true → L.rank x < L.rank o
  top : ∀ o, L.rank o < L.top
  limit : 1 ≤ L.limit

inductive Right (ο π ι : Type)
  /-- A call, which may hand out keys. -/
  | license
  /-- The last call, behind which there is no other. -/
  | closing
  /-- To destroy an object, whose counter is down. -/
  | dying (o : ο)
  /-- The same, and no thread works on the object any more. -/
  | sole (o : ο)
  /-- To work on an object that another thread has lent. -/
  | loan (o : ο)
  /-- To set a field, which is empty. -/
  | blank (p : π)
  /-- A field of a dying object is empty. -/
  | clear (p : π)
  /-- A field that was set refers to an object. -/
  | points (p : π) (o : ο)
  /-- The key of an entry was handed out for an object. -/
  | bound (p : π) (o : ο)
  /-- A table is empty for good. -/
  | finished (i : ι)
  deriving DecidableEq

inductive Token (ο π ι : Type)
  | ref (o : ο)
  | right (r : Right ο π ι)
  deriving DecidableEq

/-- What a thread may keep when it is done: it knows, or may do, things of no consequence. -/
def Token.Spent {ο π ι : Type} : Token ο π ι → Prop
  | .right (.blank _) | .right (.clear _) | .right (.points _ _) | .right (.bound _ _)
  | .right (.finished _) => True
  | _ => False

/-- The object whose references or whose end a token is about. -/
def Token.burden {ο π ι : Type} : Token ο π ι → Option ο
  | .ref o | .right (.dying o) | .right (.sole o) => some o
  | _ => none

/-- References in the hands of a thread. -/
def refs {ο π ι : Type} (os : List ο) : Multiset (Token ο π ι) := Multiset.ofList (os.map Token.ref)

theorem refs_nil {ο π ι : Type} : (refs [] : Multiset (Token ο π ι)) = 0 := rfl

theorem refs_cons {ο π ι : Type} (o : ο) (os : List ο) :
    (refs (o :: os) : Multiset (Token ο π ι)) = .ref o ::ₘ refs os :=
  (Multiset.cons_coe _ _).symm

/-- The atomic operations. -/
inductive Op (ο π ι : Type)
  /-- A new object, with counter 1; there may be no memory for it. -/
  | new (sort : ο → Bool)
  | ref (o : ο)
  | unref (o : ο)
  /-- Look up the object of an entry or a cell and take a reference to it. -/
  | load (p : π)
  /-- Exchange the reference in an entry or a cell. -/
  | swap (p : π) (o : Option ο)
  /-- Fill a cell that is empty. -/
  | offer (p : π) (o : ο)
  | set (p : π) (o : ο)
  /-- Look at a field that was set, without taking a reference. -/
  | peek (p : π)
  | push (p : π) (o : ο)
  /-- Take any one reference out of a queue. -/
  | pull (p : π)
  /-- Take one's own reference out of a queue again. -/
  | reclaim (p : π) (o : ο)
  /-- Take everything out of a queue. -/
  | grab (p : π)
  /-- Take everything out of a field of a dying object. -/
  | drain (p : π)
  /-- Hand out a key for an object. -/
  | publish (i : ι) (o : ο)
  /-- Take everything out of a table. -/
  | finish (i : ι)
  /-- Start a thread that works on an object. -/
  | lend (o : ο)
  /-- Wait for the threads that work on an object. -/
  | join (o : ο)
  | free (o : ο)
  /-- A decision on data that are not references. -/
  | flip

section

variable {ο π ι : Type}

@[reducible] def Op.Answer : Op ο π ι → Type
  | .new _ | .load _ | .swap _ _ | .peek _ | .pull _ => Option ο
  | .ref _ | .offer _ _ | .reclaim _ _ | .lend _ | .flip => Bool
  | .unref _ | .set _ _ | .push _ _ | .join _ | .free _ => Unit
  | .grab _ | .drain _ | .finish _ => List ο
  | .publish _ _ => Option π

variable (ο π ι) in
inductive Prog (α : Type)
  | pure (a : α)
  | op (o : Op ο π ι) (k : o.Answer → Prog α)

def Prog.bind {α β : Type} : Prog ο π ι α → (α → Prog ο π ι β) → Prog ο π ι β
  | .pure a, f => f a
  | .op o k, f => .op o fun r => (k r).bind f

instance : Monad (Prog ο π ι) where
  pure := Prog.pure
  bind := Prog.bind

@[simp] theorem Prog.pure_bind {α β : Type} (a : α) (f : α → Prog ο π ι β) :
    (Pure.pure a >>= f) = f a :=
  rfl

/-- A single operation. -/
def perform (o : Op ο π ι) : Prog ο π ι o.Answer := .op o .pure

/-- Release references, one after the other. -/
def unrefAll : List ο → Prog ο π ι Unit
  | [] => pure ()
  | o :: os => do
    perform (.unref o)
    unrefAll os

end

/-! ## What an operation asks for and leaves -/

namespace Layout

variable {ο π ι : Type} (L : Layout ο π ι)

/-- The right of the thread that destroys an object. -/
def last (o : ο) : Right ο π ι := if L.lends o then .sole o else .dying o

/-- Something in the hands of a thread keeps an object alive. -/
def Alive (h : Multiset (Token ο π ι)) (o : ο) : Prop :=
  .ref o ∈ h ∨ ∃ q r, .right (.points q o) ∈ h ∧ L.owner q = some r ∧ .ref r ∈ h

/-- A thread may look into a place. -/
def Reaches (h : Multiset (Token ο π ι)) (p : π) : Prop :=
  ∀ o, L.owner p = some o → L.Alive h o ∨ .right (.loan o) ∈ h

/-- The right to set the fields of a new object. -/
def blanks (o : ο) : Multiset (Token ο π ι) :=
  Multiset.ofList
    (((L.fields o).filter fun p => L.shape p == .once).map fun p => Token.right (.blank p))

/-- The tokens that an operation uses up. -/
def takes : Op ο π ι → Multiset (Token ο π ι)
  | .unref o | .offer _ o | .push _ o => {.ref o}
  | .swap _ (some o) => {.ref o}
  | .set p o => {.ref o, .right (.blank p)}
  | .drain p =>
    match L.owner p with
    | some o => {.right (L.last o)}
    | none => 0
  | .publish _ o => {.right .license, .ref o}
  | .finish _ => {.right .closing}
  | .join o => {.right (.dying o)}
  | .free o => {.right (L.last o)}
  | _ => 0

/-- The tokens that an operation leaves, by its answer. -/
def gives : (o : Op ο π ι) → o.Answer → Multiset (Token ο π ι)
  | .new _, some o => .ref o ::ₘ L.blanks o
  | .ref o, true => {.ref o}
  | .load _, some o => {.ref o}
  | .swap _ _, some o => {.ref o}
  | .offer _ o, false => {.ref o}
  | .set p o, _ => {.right (.points p o)}
  | .peek p, some o => {.right (.points p o)}
  | .pull _, some o => {.ref o}
  | .reclaim _ o, true => {.ref o}
  | .grab _, os => refs os
  | .drain p, os =>
    match L.owner p with
    | some o => .right (L.last o) ::ₘ .right (.clear p) ::ₘ refs os
    | none => 0
  | .publish _ o, some p => {.right .license, .right (.bound p o)}
  | .publish _ o, none => {.right .license, .ref o}
  | .finish i, os => .right .closing ::ₘ .right (.finished i) ::ₘ refs os
  | .join o, _ => {.right (.sole o)}
  | _, _ => 0

/-- What an operation asks for and does not use up. A thread of bound `n` gets hold of objects of
smaller rank only. -/
def Fine (n : Nat) (h : Multiset (Token ο π ι)) : Op ο π ι → Prop
  | .new sort => ∀ o, sort o = true → L.rank o < n
  | .ref o => L.Alive h o ∧ L.rank o < n
  | .unref o => L.rank o ≤ n
  | .load p => L.Reaches h p ∧ (L.shape p = .entry ∨ L.shape p = .cell) ∧
      ∀ o, L.fits p o = true → L.rank o < n
  | .swap p o => L.Reaches h p ∧
      (L.shape p = .cell ∨ L.shape p = .entry ∧ o = none) ∧ (∀ x ∈ o, L.fits p x = true) ∧
      ∀ o, L.fits p o = true → L.rank o < n
  | .offer p o => L.Reaches h p ∧ L.shape p = .cell ∧ L.fits p o = true
  | .set p o => (∃ x, L.owner p = some x ∧ L.Alive h x) ∧ L.fits p o = true
  | .peek p => (∃ x, L.owner p = some x ∧ L.Alive h x) ∧ L.shape p = .once
  | .push p o => L.Reaches h p ∧ L.shape p = .queue ∧ L.fits p o = true
  | .pull p | .reclaim p _ | .grab p => L.Reaches h p ∧ L.shape p = .queue ∧
      ∀ o, L.fits p o = true → L.rank o < n
  | .drain p => (L.owner p).isSome = true ∧ ∀ o, L.fits p o = true → L.rank o < n
  | .publish i o => ∀ p, L.table p = some i → L.fits p o = true
  | .finish i => ∀ p, L.table p = some i → ∀ o, L.fits p o = true → L.rank o < n
  | .lend o => L.Alive h o ∧ L.lends o = true
  | .join o => L.lends o = true
  | .free o => ∀ p ∈ L.fields o, .right (.clear p) ∈ h
  | .flip => True

/-- The answers that can come. -/
def Expects (h : Multiset (Token ο π ι)) : (o : Op ο π ι) → o.Answer → Prop
  | .new sort, r => ∀ o ∈ r, sort o = true
  | .load p, r => ∀ o ∈ r, L.fits p o = true ∧ ∀ x, .right (.bound p x) ∈ h → o = x
  | .swap p _, r => ∀ o ∈ r, L.fits p o = true
  | .peek p, r => ∀ o ∈ r, L.fits p o = true
  | .pull p, r => ∀ o ∈ r, L.fits p o = true
  | .reclaim p o, r => r = true ∧ L.fits p o = true
  | .grab p, os | .drain p, os => ∀ o ∈ os, L.fits p o = true
  | .publish i _, r => ∀ p ∈ r, L.table p = some i
  | .finish i, os => ∀ o ∈ os, ∃ p, L.table p = some i ∧ L.fits p o = true
  | _, _ => True

/-- The weakest precondition of a program, for a thread of bound `n`. -/
def wp (n : Nat) {α : Type} : Prog ο π ι α → (α → Multiset (Token ο π ι) → Prop) →
    Multiset (Token ο π ι) → Prop
  | .pure a, Q, h => ∃ h₀ j, h = h₀ + j ∧ (∀ x ∈ j, x.Spent) ∧ Q a h₀
  | .op o k, Q, h => L.Fine n h o ∧
      ∃ h₀, h = L.takes o + h₀ ∧ ∀ r, L.Expects h o r → wp n (k r) Q (L.gives o r + h₀)

-- Their equations are made here, once for all proofs.
attribute [local simp] takes gives Fine Expects

end Layout

/-! ## The rules -/

namespace Layout

variable {ο π ι : Type} {L : Layout ο π ι} {n : Nat} {α β : Type}

theorem Alive.mono {h h' : Multiset (Token ο π ι)} (le : h ≤ h') {o : ο} (alive : L.Alive h o) :
    L.Alive h' o := by
  rcases alive with held | ⟨q, r, known, owner, held⟩
  · exact .inl (Multiset.mem_of_le le held)
  · exact .inr ⟨q, r, Multiset.mem_of_le le known, owner, Multiset.mem_of_le le held⟩

theorem Reaches.mono {h h' : Multiset (Token ο π ι)} (le : h ≤ h') {p : π}
    (reaches : L.Reaches h p) : L.Reaches h' p := by
  intro o owner
  exact (reaches o owner).imp (Alive.mono le) (Multiset.mem_of_le le)

theorem Fine.mono {h h' : Multiset (Token ο π ι)} (le : h ≤ h') {o : Op ο π ι}
    (fine : L.Fine n h o) : L.Fine n h' o := by
  cases o with
  | ref o => exact ⟨fine.1.mono le, fine.2⟩
  | load p => exact ⟨fine.1.mono le, fine.2⟩
  | swap p o => exact ⟨fine.1.mono le, fine.2⟩
  | offer p o => exact ⟨fine.1.mono le, fine.2⟩
  | set p o =>
    obtain ⟨⟨x, owner, alive⟩, rest⟩ := fine
    exact ⟨⟨x, owner, alive.mono le⟩, rest⟩
  | peek p =>
    obtain ⟨⟨x, owner, alive⟩, rest⟩ := fine
    exact ⟨⟨x, owner, alive.mono le⟩, rest⟩
  | push p o => exact ⟨fine.1.mono le, fine.2⟩
  | pull p => exact ⟨fine.1.mono le, fine.2⟩
  | reclaim p o => exact ⟨fine.1.mono le, fine.2⟩
  | grab p => exact ⟨fine.1.mono le, fine.2⟩
  | lend o => exact ⟨fine.1.mono le, fine.2⟩
  | free o => exact fun p mem => Multiset.mem_of_le le (fine p mem)
  | _ => exact fine

theorem Expects.anti {h h' : Multiset (Token ο π ι)} (le : h ≤ h') {o : Op ο π ι} {r : o.Answer}
    (expects : L.Expects h' o r) : L.Expects h o r := by
  cases o with
  | load p =>
    intro x mem
    exact ⟨(expects x mem).1, fun y known => (expects x mem).2 y (Multiset.mem_of_le le known)⟩
  | _ => exact expects

/-- A larger bound allows more. -/
theorem Fine.bound {m : Nat} (le : n ≤ m) {h : Multiset (Token ο π ι)} {o : Op ο π ι}
    (fine : L.Fine n h o) : L.Fine m h o := by
  have wider {P : ο → Prop} (all : ∀ o, P o → L.rank o < n) : ∀ o, P o → L.rank o < m :=
    fun o holds => (all o holds).trans_le le
  cases o with
  | new sort => exact wider fine
  | ref o => exact ⟨fine.1, fine.2.trans_le le⟩
  | unref o => exact fine.trans le
  | load p => exact ⟨fine.1, fine.2.1, wider fine.2.2⟩
  | swap p o => exact ⟨fine.1, fine.2.1, fine.2.2.1, wider fine.2.2.2⟩
  | pull p => exact ⟨fine.1, fine.2.1, wider fine.2.2⟩
  | reclaim p o => exact ⟨fine.1, fine.2.1, wider fine.2.2⟩
  | grab p => exact ⟨fine.1, fine.2.1, wider fine.2.2⟩
  | drain p => exact ⟨fine.1, wider fine.2⟩
  | finish i => exact fun p table => wider (fine p table)
  | _ => exact fine

section

variable {Q Q' : α → Multiset (Token ο π ι) → Prop} {h : Multiset (Token ο π ι)}

theorem wp_mono (imp : ∀ a h, Q a h → Q' a h) {m : Prog ο π ι α} (holds : L.wp n m Q h) :
    L.wp n m Q' h := by
  induction m generalizing h with
  | pure a =>
    obtain ⟨h₀, j, same, spent, post⟩ := holds
    exact ⟨h₀, j, same, spent, imp a h₀ post⟩
  | op o k ih =>
    obtain ⟨fine, h₀, same, later⟩ := holds
    exact ⟨fine, h₀, same, fun r expects => ih r (later r expects)⟩

theorem wp_bound {m : Nat} (le : n ≤ m) {p : Prog ο π ι α} (holds : L.wp n p Q h) :
    L.wp m p Q h := by
  induction p generalizing h with
  | pure a => exact holds
  | op o k ih =>
    obtain ⟨fine, h₀, same, later⟩ := holds
    exact ⟨fine.bound le, h₀, same, fun r expects => ih r (later r expects)⟩

/-- What a program does not need stays in the hands of its thread. -/
theorem wp_frame (f : Multiset (Token ο π ι)) {m : Prog ο π ι α} (holds : L.wp n m Q h) :
    L.wp n m (fun a h' => ∃ h₀, h' = h₀ + f ∧ Q a h₀) (h + f) := by
  induction m generalizing h with
  | pure a =>
    obtain ⟨h₀, j, same, spent, post⟩ := holds
    refine ⟨h₀ + f, j, ?_, spent, h₀, rfl, post⟩
    rw [same, add_right_comm]
  | op o k ih =>
    obtain ⟨fine, h₀, same, later⟩ := holds
    have le : h ≤ h + f := Multiset.le_add_right h f
    refine ⟨fine.mono le, h₀ + f, ?_, fun r expects => ?_⟩
    · rw [same, add_assoc]
    · rw [← add_assoc]
      exact ih r (later r (expects.anti le))

/-- More of no consequence in the hands of a thread. -/
theorem wp_spare {j : Multiset (Token ο π ι)} (spent : ∀ x ∈ j, x.Spent) {m : Prog ο π ι α}
    (holds : L.wp n m Q h) : L.wp n m Q (h + j) := by
  induction m generalizing h with
  | pure a =>
    obtain ⟨h₀, j', same, spent', post⟩ := holds
    refine ⟨h₀, j' + j, ?_, fun x mem => ?_, post⟩
    · rw [same, add_assoc]
    · exact (Multiset.mem_add.mp mem).elim (spent' x) (spent x)
  | op o k ih =>
    obtain ⟨fine, h₀, same, later⟩ := holds
    have le : h ≤ h + j := Multiset.le_add_right h j
    refine ⟨fine.mono le, h₀ + j, ?_, fun r expects => ?_⟩
    · rw [same, add_assoc]
    · rw [← add_assoc]
      exact ih r (later r (expects.anti le))

theorem wp_pure (a : α) (post : Q a h) : L.wp n (pure a : Prog ο π ι α) Q h :=
  ⟨h, 0, (add_zero h).symm, fun x mem => absurd mem (Multiset.notMem_zero x), post⟩

/-- Two programs, one behind the other. -/
theorem wp_bind {Q : β → Multiset (Token ο π ι) → Prop} {m : Prog ο π ι α}
    {f : α → Prog ο π ι β} (holds : L.wp n m (fun a => L.wp n (f a) Q) h) :
    L.wp n (m >>= f) Q h := by
  induction m generalizing h with
  | pure a =>
    obtain ⟨h₀, j, same, spent, later⟩ := holds
    rw [same]
    exact wp_spare spent later
  | op o k ih =>
    obtain ⟨fine, h₀, same, later⟩ := holds
    exact ⟨fine, h₀, same, fun r expects => ih r (later r expects)⟩

/-- One operation. -/
theorem wp_perform (o : Op ο π ι) {Q : o.Answer → Multiset (Token ο π ι) → Prop}
    {h₀ : Multiset (Token ο π ι)} (same : h = L.takes o + h₀) (fine : L.Fine n h o)
    (post : ∀ r, L.Expects h o r → Q r (L.gives o r + h₀)) : L.wp n (perform o) Q h :=
  ⟨fine, h₀, same, fun r expects => wp_pure r (post r expects)⟩

end

/-- References are released, one after the other. -/
theorem wp_unrefAll {os : List ο} {Q : Unit → Multiset (Token ο π ι) → Prop}
    {h : Multiset (Token ο π ι)} (rank : ∀ o ∈ os, L.rank o ≤ n) (post : Q () h) :
    L.wp n (unrefAll os) Q (refs os + h) := by
  induction os with
  | nil =>
    show L.wp n (unrefAll []) Q (0 + h)
    rw [zero_add]
    exact wp_pure () post
  | cons o os ih =>
    have same : refs (o :: os) + h = L.takes (.unref o) + (refs os + h) := by
      rw [refs_cons, ← Multiset.singleton_add, add_assoc]
      rfl
    refine wp_bind (wp_perform (.unref o) same (rank o List.mem_cons_self) fun _ _ => ?_)
    show L.wp n (unrefAll os) Q (0 + _)
    rw [zero_add]
    exact ih fun x mem => rank x (List.mem_cons_of_mem o mem)

end Layout

end References
