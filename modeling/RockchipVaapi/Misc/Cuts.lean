import Mathlib.Algebra.Order.Floor.Div
import Mathlib.Tactic.Linarith

/-!
# Cutting a length into parts

Three ways to cut a length into parts: into a number of parts that are as even as whole numbers
allow, into given parts with one more part for what they leave over, and into parts of one size, of
which only the last may be smaller.
-/

namespace Cuts

/-- Where part `i` begins when `length` is cut into `n` even parts. -/
def boundary (n length i : Nat) : Nat := i * length / n

theorem boundary_zero (n length : Nat) : boundary n length 0 = 0 := by
  simp [boundary]

theorem boundary_self {n : Nat} (pos : 0 < n) (length : Nat) : boundary n length n = length :=
  Nat.mul_div_cancel_left length pos

theorem boundary_le_succ (n length i : Nat) : boundary n length i ≤ boundary n length (i + 1) := by
  apply Nat.div_le_div_right
  rw [Nat.succ_mul]
  exact Nat.le_add_right _ _

/-- No part is empty where there is a unit for each of them. -/
theorem boundary_lt_succ {n length : Nat} (pos : 0 < n) (enough : n ≤ length) (i : Nat) :
    boundary n length i < boundary n length (i + 1) := by
  have step : i * length + n ≤ (i + 1) * length := by
    rw [Nat.succ_mul]
    exact Nat.add_le_add_left enough _
  calc i * length / n < i * length / n + 1 := Nat.lt_succ_self _
    _ = (i * length + n) / n := (Nat.add_div_right _ pos).symm
    _ ≤ (i + 1) * length / n := Nat.div_le_div_right step

/-- The sizes of `n` even parts. -/
def evenSizes (n length : Nat) : List Nat :=
  (List.range n).map fun i => boundary n length (i + 1) - boundary n length i

theorem sum_differences {f : Nat → Nat} (mono : ∀ i, f i ≤ f (i + 1)) (n : Nat) :
    ((List.range n).map fun i => f (i + 1) - f i).sum + f 0 = f n := by
  induction n with
  | zero => simp
  | succ n ih =>
    have := mono n
    rw [List.range_succ, List.map_append, List.sum_append]
    simp only [List.map_cons, List.map_nil, List.sum_cons, List.sum_nil]
    omega

theorem sum_evenSizes {n : Nat} (pos : 0 < n) (length : Nat) : (evenSizes n length).sum = length := by
  have sum := sum_differences (boundary_le_succ n length) n
  rw [boundary_zero, boundary_self pos] at sum
  exact sum

theorem pos_of_mem_evenSizes {n length size : Nat} (pos : 0 < n) (enough : n ≤ length)
    (mem : size ∈ evenSizes n length) : 0 < size := by
  obtain ⟨i, -, rfl⟩ := List.mem_map.mp mem
  exact Nat.sub_pos_of_lt (boundary_lt_succ pos enough i)

/-- The given parts and one for the rest. -/
def withRest (sizes : List Nat) (length : Nat) : List Nat := sizes ++ [length - sizes.sum]

theorem sum_withRest {sizes : List Nat} {length : Nat} (fits : sizes.sum ≤ length) :
    (withRest sizes length).sum = length := by
  rw [withRest, List.sum_append, List.sum_singleton]
  omega

theorem pos_of_mem_withRest {sizes : List Nat} {length size : Nat} (pos : ∀ s ∈ sizes, 0 < s)
    (fits : sizes.sum < length) (mem : size ∈ withRest sizes length) : 0 < size := by
  rcases List.mem_append.mp mem with inside | last
  · exact pos size inside
  · rw [List.mem_singleton.mp last]
    omega

/-! ## Parts of one size -/

/-- `parts`, as starts and sizes, cut `length` at the multiples of `span`. -/
structure Spans (span length : Nat) (parts : List (Nat × Nat)) : Prop where
  starts : ∀ k part, parts[k]? = some part → part.1 = k * span
  stops : ∀ k part, parts[k]? = some part → part.1 + part.2 = min ((k + 1) * span) length
  nonempty : ∀ part ∈ parts, 0 < part.2
  covered : length ≤ parts.length * span

theorem Spans.nil (span : Nat) : Spans span 0 [] :=
  ⟨by simp, by simp, by simp, by simp⟩

theorem eq_of_getElem?_singleton {α : Type} {a b : α} {k : Nat} (at_k : [a][k]? = some b) :
    k = 0 ∧ b = a := by
  rw [List.getElem?_singleton] at at_k
  split at at_k
  · exact ⟨‹_›, (Option.some.inj at_k).symm⟩
  · cases at_k

/-- Behind full parts another one fits, which need not be full. -/
theorem Spans.append {span length size : Nat} {parts : List (Nat × Nat)}
    (spans : Spans span length parts) (full : length = parts.length * span) (pos : 0 < size)
    (le : size ≤ span) : Spans span (length + size) (parts ++ [(length, size)]) := by
  have cases {k : Nat} {part : Nat × Nat} (at_k : (parts ++ [(length, size)])[k]? = some part) :
      parts[k]? = some part ∧ k < parts.length ∨ k = parts.length ∧ part = (length, size) := by
    rcases Nat.lt_or_ge k parts.length with inside | behind
    · rw [List.getElem?_append_left inside] at at_k
      exact .inl ⟨at_k, inside⟩
    · rw [List.getElem?_append_right behind] at at_k
      obtain ⟨zero, same⟩ := eq_of_getElem?_singleton at_k
      exact .inr ⟨by omega, same⟩
  constructor
  case starts =>
    intro k part at_k
    rcases cases at_k with ⟨earlier, -⟩ | ⟨rfl, rfl⟩
    · exact spans.starts k part earlier
    · exact full
  case stops =>
    intro k part at_k
    rcases cases at_k with ⟨earlier, inside⟩ | ⟨rfl, rfl⟩
    · -- an earlier part was full already
      have stop := spans.stops k part earlier
      have below : (k + 1) * span ≤ parts.length * span := Nat.mul_le_mul_right span inside
      omega
    · rw [Nat.succ_mul]
      dsimp only
      omega
  case nonempty =>
    intro part mem
    rcases List.mem_append.mp mem with earlier | last
    · exact spans.nonempty part earlier
    · rw [List.mem_singleton.mp last]
      exact pos
  case covered =>
    rw [List.length_append, List.length_singleton, Nat.succ_mul]
    omega

end Cuts
