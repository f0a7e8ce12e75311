import Mathlib.Logic.Function.Basic
import Mathlib.Tactic.Linarith

/-!
# Scans of square blocks

Video coding standards transmit a square block along its diagonals. A scan is the list of the
raster positions in the order they are transmitted; a decoder puts the values it reads back into
these positions.
-/

namespace Scan

/-- The positions of diagonal `d` of a block of `n` columns and rows, from the bottom left. -/
def diagonal (n d : Nat) : List Nat :=
  ((List.range (d + 1)).filter fun x => decide (x < n) && decide (d - x < n)).map
    fun x => (d - x) * n + x

/-- All diagonals in the same direction: the up-right diagonal scan. -/
def upRight (n : Nat) : List Nat := (List.range (2 * n - 1)).flatMap (diagonal n)

/-- Every second diagonal in the other direction: the zig-zag scan. -/
def zigZag (n : Nat) : List Nat :=
  (List.range (2 * n - 1)).flatMap fun d =>
    if d % 2 = 0 then diagonal n d else (diagonal n d).reverse

theorem mem_diagonal {n d pos : Nat} :
    pos ∈ diagonal n d ↔ ∃ x y, x < n ∧ y < n ∧ x + y = d ∧ pos = y * n + x := by
  simp only [diagonal, List.mem_map, List.mem_filter, List.mem_range, Bool.and_eq_true,
    decide_eq_true_eq]
  constructor
  · rintro ⟨x, ⟨onDiagonal, hx, hy⟩, rfl⟩
    exact ⟨x, d - x, hx, hy, by omega, rfl⟩
  · rintro ⟨x, y, hx, hy, rfl, rfl⟩
    exact ⟨x, ⟨by omega, hx, by omega⟩, by rw [Nat.add_sub_cancel_left]⟩

/-- Every position of the block lies on one of the diagonals. -/
theorem mem_diagonals {n pos : Nat} :
    (∃ d ∈ List.range (2 * n - 1), pos ∈ diagonal n d) ↔ pos < n * n := by
  constructor
  · rintro ⟨d, -, mem⟩
    obtain ⟨x, y, hx, hy, -, rfl⟩ := mem_diagonal.mp mem
    calc y * n + x < (y + 1) * n := by rw [Nat.succ_mul]; omega
      _ ≤ n * n := Nat.mul_le_mul_right n hy
  · intro inside
    have pos_n : 0 < n := by
      rcases Nat.eq_zero_or_pos n with rfl | h
      · simp at inside
      · exact h
    have hx := Nat.mod_lt pos pos_n
    have hy : pos / n < n := (Nat.div_lt_iff_lt_mul pos_n).mpr inside
    refine ⟨pos % n + pos / n, List.mem_range.mpr (by omega), mem_diagonal.mpr ?_⟩
    exact ⟨pos % n, pos / n, hx, hy, rfl, by rw [Nat.mul_comm]; exact (Nat.div_add_mod pos n).symm⟩

theorem mem_upRight {n pos : Nat} : pos ∈ upRight n ↔ pos < n * n := by
  rw [upRight, List.mem_flatMap]
  exact mem_diagonals

theorem mem_zigZag {n pos : Nat} : pos ∈ zigZag n ↔ pos < n * n := by
  rw [zigZag, List.mem_flatMap, ← mem_diagonals]
  apply exists_congr
  intro d
  split <;> simp

variable {α : Type}

/-- Put the values into the positions of the scan, one after the other. -/
def place : List Nat → List α → (Nat → Option α) → Nat → Option α
  | pos :: scan, value :: values, block => place scan values (Function.update block pos (some value))
  | _, _, block => block

/-- Positions that are scanned hold the value of the block that was transmitted, whatever was
there before; all others are left alone. -/
theorem place_map (entry : Nat → α) (pos : Nat) :
    ∀ (scan : List Nat) (block : Nat → Option α),
      place scan (scan.map entry) block pos =
        if pos ∈ scan then some (entry pos) else block pos := by
  intro scan
  induction scan with
  | nil => intro block; simp [place]
  | cons head scan ih =>
    intro block
    rw [List.map_cons, place, ih]
    by_cases later : pos ∈ scan
    · simp [later]
    · by_cases here : pos = head
      · simp [here]
      · simp [later, here]

/-- The first `count` positions of a block that was read along a scan. -/
def raster (count : Nat) (scan : List Nat) (values : List α) : List (Option α) :=
  List.ofFn fun pos : Fin count => place scan values (fun _ => none) pos

theorem raster_map {count : Nat} {scan : List Nat} (covers : ∀ pos < count, pos ∈ scan)
    (entry : Nat → α) :
    raster count scan (scan.map entry) = List.ofFn fun pos : Fin count => some (entry pos) := by
  unfold raster
  congr 1
  funext pos
  rw [place_map, if_pos (covers pos pos.isLt)]

end Scan
