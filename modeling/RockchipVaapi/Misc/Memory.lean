import Mathlib.Algebra.Order.Ring.Nat

/-!
# Copies between memories

A memory is a function from addresses. What a C loop writes is stated by `Sets`: the addresses it
writes and what is there afterwards, from which the loop over the rows of an image follows for
rows that do not overlap.
-/

namespace Memory

variable {α : Type}

/-- `memset(m, value, size)`. -/
def memset (m : Nat → α) (value : α) (size : Nat) : Nat → α :=
  fun i => if i < size then value else m i

/-- `memcpy(dst + offset, src + start, n)`. -/
def memcpy (dst : Nat → α) (offset : Nat) (src : Nat → α) (start n : Nat) : Nat → α :=
  fun i => if offset ≤ i ∧ i < offset + n then src (start + (i - offset)) else dst i

/-- `m[address] = value`. -/
def store (m : Nat → α) (address : Nat) (value : α) : Nat → α :=
  fun i => if i = address then value else m i

/-- `for (k = 0; k < n; k++) body(k)`. -/
def forLoop (body : Nat → (Nat → α) → Nat → α) : Nat → (Nat → α) → Nat → α
  | 0, m => m
  | n + 1, m => body n (forLoop body n m)

/-- What is written, and what is left alone. -/
structure Sets (body : (Nat → α) → Nat → α) (region : Nat → Prop) (value : Nat → α) : Prop where
  inside : ∀ {m i}, region i → body m i = value i
  outside : ∀ {m i}, ¬region i → body m i = m i

section

variable {body : Nat → (Nat → α) → Nat → α} {region : Nat → Nat → Prop} {value : Nat → Nat → α}
  {n k i : Nat} {m : Nat → α}

theorem forLoop_outside (sets : ∀ k < n, Sets (body k) (region k) (value k))
    (out : ∀ k < n, ¬region k i) : forLoop body n m i = m i := by
  induction n with
  | zero => rfl
  | succ n ih =>
    rw [forLoop, (sets n (Nat.lt_succ_self n)).outside (out n (Nat.lt_succ_self n))]
    exact ih (fun k small => sets k (Nat.lt_succ_of_lt small))
      fun k small => out k (Nat.lt_succ_of_lt small)

/-- Rounds that do not overlap leave what each of them wrote. -/
theorem forLoop_inside (sets : ∀ k < n, Sets (body k) (region k) (value k))
    (apart : ∀ {k k' i}, k < n → k' < n → region k i → region k' i → k = k') (small : k < n)
    (here : region k i) : forLoop body n m i = value k i := by
  induction n with
  | zero => exact absurd small (Nat.not_lt_zero k)
  | succ n ih =>
    rw [forLoop]
    by_cases last : k = n
    · subst last
      exact (sets k small).inside here
    · have last_sets := sets n (Nat.lt_succ_self n)
      rw [last_sets.outside fun there => last (apart small (Nat.lt_succ_self n) here there)]
      refine ih (fun k small => sets k (Nat.lt_succ_of_lt small)) (fun small small' => ?_) (by omega)
      exact apart (Nat.lt_succ_of_lt small) (Nat.lt_succ_of_lt small')

/-- What is written does not depend on what was there. -/
theorem forLoop_start {m' : Nat → α} (sets : ∀ k < n, Sets (body k) (region k) (value k))
    (apart : ∀ {k k' i}, k < n → k' < n → region k i → region k' i → k = k')
    (same : (∀ k < n, ¬region k i) → m i = m' i) : forLoop body n m i = forLoop body n m' i := by
  by_cases written : ∃ k < n, region k i
  · obtain ⟨k, small, here⟩ := written
    rw [forLoop_inside sets apart small here, forLoop_inside sets apart small here]
  · have out : ∀ k < n, ¬region k i := fun k small here => written ⟨k, small, here⟩
    rw [forLoop_outside sets out, forLoop_outside sets out, same out]

/-- Two loops whose rounds keep an agreement. -/
theorem forLoop_agree {body' : Nat → (Nat → α) → Nat → α} {m' : Nat → α} {P : Nat → Prop}
    (round : ∀ k < n, ∀ m m' : Nat → α, (∀ i, P i → m i = m' i) →
      ∀ i, P i → body k m i = body' k m' i)
    (start : ∀ i, P i → m i = m' i) : ∀ i, P i → forLoop body n m i = forLoop body' n m' i := by
  induction n with
  | zero => exact start
  | succ n ih =>
    exact round n (Nat.lt_succ_self n) _ _ (ih fun k small => round k (Nat.lt_succ_of_lt small))

/-- A loop as one write, where the value is a function of the address alone. -/
theorem Sets.forLoop {value : Nat → α} (sets : ∀ k < n, Sets (body k) (region k) value)
    (apart : ∀ {k k' i}, k < n → k' < n → region k i → region k' i → k = k') :
    Sets (Memory.forLoop body n) (fun i => ∃ k < n, region k i) value where
  inside := by
    rintro m i ⟨k, small, here⟩
    exact forLoop_inside sets apart small here
  outside := by
    intro m i out
    exact forLoop_outside sets fun k small there => out ⟨k, small, there⟩

end

theorem memset_apply {m : Nat → α} {value : α} {size i : Nat} (small : i < size) :
    memset m value size i = value := if_pos small

/-! ## Rows -/

/-- The bytes of a row. -/
def InRow (offset pitch n row i : Nat) : Prop :=
  offset + row * pitch ≤ i ∧ i < offset + row * pitch + n

theorem inRow_apart {offset pitch n : Nat} (wide : n ≤ pitch) {row row' i : Nat}
    (here : InRow offset pitch n row i) (there : InRow offset pitch n row' i) : row = row' := by
  unfold InRow at here there
  have order {a b : Nat} (below : a < b) : a * pitch + pitch ≤ b * pitch := by
    rw [← Nat.succ_mul]
    exact Nat.mul_le_mul_right pitch below
  rcases Nat.lt_trichotomy row row' with below | same | above
  · have := order below
    omega
  · exact same
  · have := order above
    omega

theorem inRow_mk {offset pitch n row column : Nat} (small : column < n) :
    InRow offset pitch n row (offset + row * pitch + column) :=
  ⟨Nat.le_add_right _ _, Nat.add_lt_add_left small _⟩

/-- The rows of a plane end before the plane below it. -/
theorem InRow.lt {offset pitch n row rows i : Nat} (here : InRow offset pitch n row i)
    (wide : n ≤ pitch) (small : row < rows) : i < offset + rows * pitch := by
  have below : row * pitch + pitch ≤ rows * pitch := by
    rw [← Nat.succ_mul]
    exact Nat.mul_le_mul_right pitch small
  have := here.2
  omega

/-- One row of a copy. -/
def copyRow (offset pitch : Nat) (src : Nat → α) (start sourcePitch n row : Nat)
    (m : Nat → α) : Nat → α :=
  memcpy m (offset + row * pitch) src (start + row * sourcePitch) n

/-- Copies of the same row. -/
theorem copyRow_agree {src src' m m' : Nat → α} {start start' sourcePitch sourcePitch' n row : Nat}
    {P : Nat → Prop} (offset pitch : Nat)
    (same : ∀ c < n, src (start + row * sourcePitch + c) = src' (start' + row * sourcePitch' + c))
    (agree : ∀ i, P i → m i = m' i) (i : Nat) (here : P i) :
    copyRow offset pitch src start sourcePitch n row m i =
      copyRow offset pitch src' start' sourcePitch' n row m' i := by
  unfold copyRow memcpy
  split
  · exact same _ (by omega)
  · exact agree i here

theorem copyRow_sets (offset pitch : Nat) (src : Nat → α) (start sourcePitch n row : Nat) :
    Sets (copyRow offset pitch src start sourcePitch n row) (InRow offset pitch n row)
      (fun i => src (start + row * sourcePitch + (i - (offset + row * pitch)))) where
  inside := fun here => if_pos here
  outside := fun out => if_neg out

/-- What a copy of rows leaves in one of them. -/
theorem copyRow_apply {pitch n rows row column : Nat} (offset start sourcePitch : Nat)
    (src m : Nat → α) (wide : n ≤ pitch) (small : row < rows) (inside : column < n) :
    forLoop (copyRow offset pitch src start sourcePitch n) rows m (offset + row * pitch + column) =
      src (start + row * sourcePitch + column) := by
  rw [forLoop_inside (fun k _ => copyRow_sets offset pitch src start sourcePitch n k)
    (fun _ _ => inRow_apart wide) small (inRow_mk inside)]
  congr 1
  omega

/-- One row of a copy that weaves two rows into one (`row[2 * c] = u[c]`,
`row[2 * c + 1] = v[c]`). -/
def weaveRow (offset : Nat) (src : Nat → α) (u v columns : Nat) : (Nat → α) → Nat → α :=
  forLoop (fun column m =>
    store (store m (offset + 2 * column) (src (u + column))) (offset + 2 * column + 1)
      (src (v + column))) columns

theorem weaveRow_sets (offset : Nat) (src : Nat → α) (u v columns : Nat) :
    Sets (weaveRow offset src u v columns)
      (fun i => ∃ column < columns, i = offset + 2 * column ∨ i = offset + 2 * column + 1)
      (fun i => if (i - offset) % 2 = 0 then src (u + (i - offset) / 2)
        else src (v + (i - offset) / 2)) := by
  apply Sets.forLoop
  · intro column _
    constructor
    · rintro m i (rfl | rfl)
      · rw [store, if_neg (by omega), store, if_pos rfl, if_pos (by omega)]
        congr 1
        omega
      · rw [store, if_pos rfl, if_neg (by omega)]
        congr 1
        omega
    · intro m i out
      rw [not_or] at out
      rw [store, if_neg out.2, store, if_neg out.1]
  · intro k k' i _ _ here there
    omega

/-- One row of a copy that parts a row into two (`u[c] = row[2 * c]`, `v[c] = row[2 * c + 1]`). -/
def partRow (u v : Nat) (src : Nat → α) (start columns : Nat) : (Nat → α) → Nat → α :=
  forLoop (fun column m =>
    store (store m (u + column) (src (start + 2 * column))) (v + column)
      (src (start + 2 * column + 1))) columns

theorem partRow_sets (u v : Nat) (src : Nat → α) (start columns : Nat)
    (apart : u + columns ≤ v ∨ v + columns ≤ u) :
    Sets (partRow u v src start columns)
      (fun i => ∃ column < columns, i = u + column ∨ i = v + column)
      (fun i => if u ≤ i ∧ i < u + columns then src (start + 2 * (i - u))
        else src (start + 2 * (i - v) + 1)) := by
  apply Sets.forLoop
  · intro column small
    constructor
    · rintro m i (rfl | rfl)
      · rw [store, if_neg (by omega), store, if_pos rfl, if_pos (by omega)]
        congr 1
        omega
      · rw [store, if_pos rfl, if_neg (by omega)]
        congr 1
        omega
    · intro m i out
      rw [not_or] at out
      rw [store, if_neg out.2, store, if_neg out.1]
  · intro k k' i small small' here there
    omega

end Memory
