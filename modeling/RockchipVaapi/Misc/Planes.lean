import Mathlib.Order.Bounds.Defs
import Mathlib.Tactic.Linarith

/-!
# Planes in a byte object

An image in linear memory is a list of planes, each of which is a number of rows at a fixed
distance. A semi-planar image has its luma rows first and, below all of them, half as many rows of
chroma at the same distance.
-/

/-- The first multiple of `n` from `x` on. -/
def roundUp (n x : Nat) : Nat := (x + n - 1) / n * n

theorem roundUp_mod (n x : Nat) : roundUp n x % n = 0 := Nat.mul_mod_left _ _

theorem le_roundUp {n : Nat} (pos : 0 < n) (x : Nat) : x ≤ roundUp n x := by
  have division := Nat.div_add_mod (x + n - 1) n
  have remainder := Nat.mod_lt (x + n - 1) pos
  unfold roundUp
  rw [Nat.mul_comm]
  omega

theorem roundUp_lt {n : Nat} (pos : 0 < n) (x : Nat) : roundUp n x < x + n := by
  have division := Nat.div_mul_le_self (x + n - 1) n
  unfold roundUp
  omega

/-- A multiple that is above a number is above the first one. -/
theorem roundUp_le {n x y : Nat} (pos : 0 < n) (le : x ≤ y) (multiple : y % n = 0) :
    roundUp n x ≤ y := by
  obtain ⟨k, rfl⟩ := Nat.dvd_of_mod_eq_zero multiple
  unfold roundUp
  rw [Nat.mul_comm n k]
  apply Nat.mul_le_mul_right
  apply Nat.le_of_lt_succ
  apply (Nat.div_lt_iff_lt_mul pos).mpr
  rw [Nat.succ_mul, Nat.mul_comm k n]
  omega

/-- Rounding to a multiple of the other unit is rounding further. -/
theorem roundUp_le_roundUp {m n : Nat} (pos : 0 < n) (divides : m ∣ n) (x : Nat) :
    roundUp m x ≤ roundUp n x := by
  have posM : 0 < m := Nat.pos_of_dvd_of_pos divides pos
  refine roundUp_le posM (le_roundUp pos x) ?_
  exact Nat.mod_eq_zero_of_dvd (divides.trans (Nat.dvd_of_mod_eq_zero (roundUp_mod n x)))

/-- Rounding finds the least multiple. -/
theorem roundUp_isLeast {n : Nat} (pos : 0 < n) (x : Nat) :
    IsLeast {y | y % n = 0 ∧ x ≤ y} (roundUp n x) :=
  ⟨⟨roundUp_mod n x, le_roundUp pos x⟩, fun _ above => roundUp_le pos above.2 above.1⟩

/-- Setting bit `n` of a multiple of `2 ^ n` makes the multiple odd. -/
theorem or_two_pow (n m : Nat) : 2 ^ n * m ||| 2 ^ n = 2 ^ n * (2 * (m / 2) + 1) := by
  have odd : m ||| 1 = 2 * (m / 2) + 1 := by
    have high : (m ||| 1) / 2 = m / 2 := by rw [Nat.or_div_two]; exact Nat.or_zero _
    have low : (m ||| 1) % 2 = 1 := Nat.or_mod_two_eq_one.mpr (.inr rfl)
    omega
  rw [← odd, Nat.mul_comm, Nat.mul_comm _ (m ||| 1), ← Nat.shiftLeft_eq, ← Nat.shiftLeft_eq,
    Nat.shiftLeft_or_distrib, Nat.one_shiftLeft]

/-- Rounding and setting the bit of the unit finds the least odd multiple. -/
theorem roundUp_or_isLeast (n x : Nat) :
    IsLeast {y | ∃ k, y = 2 ^ n * (2 * k + 1) ∧ x ≤ y} (roundUp (2 ^ n) x ||| 2 ^ n) := by
  have pos : 0 < 2 ^ n := Nat.two_pow_pos n
  obtain ⟨m, multiple⟩ : ∃ m, roundUp (2 ^ n) x = 2 ^ n * m := ⟨_, Nat.mul_comm _ _⟩
  rw [multiple, or_two_pow]
  constructor
  · refine ⟨m / 2, rfl, (le_roundUp pos x).trans ?_⟩
    rw [multiple]
    exact Nat.mul_le_mul_left _ (by omega)
  · rintro y ⟨k, rfl, above⟩
    have rounded : 2 ^ n * m ≤ 2 ^ n * (2 * k + 1) := by
      rw [← multiple]
      exact roundUp_le pos above (Nat.mul_mod_right _ _)
    have smaller : m ≤ 2 * k + 1 := Nat.le_of_mul_le_mul_left rounded pos
    exact Nat.mul_le_mul_left _ (by omega)

/-- Clearing the bits below the unit rounds down. -/
theorem and_unitMask {n w x : Nat} (unit : n ≤ w) (small : x < 2 ^ w) :
    x &&& (2 ^ w - 2 ^ n) = x / 2 ^ n * 2 ^ n := by
  have pos : 0 < 2 ^ n := Nat.two_pow_pos n
  have mask : 2 ^ w - 2 ^ n = (2 ^ (w - n) - 1) * 2 ^ n := by
    rw [Nat.sub_mul, ← Nat.pow_add, Nat.sub_add_cancel unit, Nat.one_mul]
  have high : (x &&& (2 ^ w - 2 ^ n)) / 2 ^ n = x / 2 ^ n := by
    rw [Nat.and_div_two_pow, mask, Nat.mul_div_cancel _ pos, Nat.and_two_pow_sub_one_eq_mod]
    apply Nat.mod_eq_of_lt
    rw [Nat.div_lt_iff_lt_mul pos, ← Nat.pow_add, Nat.sub_add_cancel unit]
    exact small
  have low : (x &&& (2 ^ w - 2 ^ n)) % 2 ^ n = 0 := by
    rw [Nat.and_mod_two_pow, mask, Nat.mul_mod_left, Nat.and_zero]
  rw [← Nat.div_add_mod' (x &&& (2 ^ w - 2 ^ n)) (2 ^ n), high, low, Nat.add_zero]

/-- Where the rows of a plane begin, how far apart they are, and how many there are. -/
structure Plane where
  offset : Nat
  pitch : Nat
  rows : Nat
  deriving DecidableEq, Repr

namespace Plane

/-- The byte after the last row. -/
def stop (p : Plane) : Nat := p.offset + p.pitch * p.rows

/-- The plane lies in an object of a size. -/
def Inside (p : Plane) (size : Nat) : Prop := p.stop ≤ size

/-- One of the planes ends before the other begins. -/
def Apart (p q : Plane) : Prop := p.stop ≤ q.offset ∨ q.stop ≤ p.offset

instance (p : Plane) (size : Nat) : Decidable (p.Inside size) := inferInstanceAs (Decidable (_ ≤ _))

instance (p q : Plane) : Decidable (p.Apart q) := inferInstanceAs (Decidable (_ ∨ _))

/-- The planes of a semi-planar image of `rows` rows, with the chroma below `vstride` rows. -/
def luma (pitch rows : Nat) : Plane := ⟨0, pitch, rows⟩

def chroma (pitch vstride rows : Nat) : Plane := ⟨pitch * vstride, pitch, rows / 2⟩

variable {pitch vstride rows size : Nat}

theorem luma_apart_chroma (tall : rows ≤ vstride) :
    (luma pitch rows).Apart (chroma pitch vstride rows) := by
  left
  unfold stop luma chroma
  rw [Nat.zero_add]
  exact Nat.mul_le_mul_left pitch tall

end Plane
