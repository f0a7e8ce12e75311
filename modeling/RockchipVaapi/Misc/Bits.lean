import Mathlib.Data.Nat.Bitwise
import Mathlib.Tactic.NormNum
import Mathlib.Tactic.Ring

/-!
# Bit strings

Fixed-width and Exp-Golomb codes as lists of bits, most significant bit first, and the
bit string of a byte string. Nothing here depends on who writes or reads the bits.
-/

namespace Bitstream

/-- The `n` low bits of `v`, most significant first: the code `u(n)`. -/
def uBits : Nat → Nat → List Bool
  | 0, _ => []
  | n + 1, v => v.testBit n :: uBits n v

/-- The number a bit string spells, most significant bit first. -/
def bitsVal (bits : List Bool) : Nat :=
  bits.foldl (fun value bit => 2 * value + bit.toNat) 0

/-- The Exp-Golomb code `ue(v)`: as many zeros as `v + 1` has bits after its first one, then
`v + 1` itself. -/
def ueBits (v : Nat) : List Bool :=
  List.replicate (Nat.log2 (v + 1)) false ++ uBits (Nat.log2 (v + 1) + 1) (v + 1)

/-- The mapping of signed values to Exp-Golomb code numbers: `1, -1, 2, -2, ...` become
`1, 2, 3, 4, ...`. -/
def seCodeNum (v : Int) : Nat :=
  if v ≤ 0 then (-2 * v).toNat else (2 * v - 1).toNat

/-- The signed Exp-Golomb code `se(v)`. -/
def seBits (v : Int) : List Bool := ueBits (seCodeNum v)

/-- The eight bits of a byte. -/
def byteBits (b : UInt8) : List Bool := uBits 8 b.toNat

/-- The bit string of a byte string. -/
def bytesBits (bytes : List UInt8) : List Bool := bytes.flatMap byteBits

/-- The bits that complete `n` bits to a whole number of bytes: a one, then zeros. This is
both `rbsp_trailing_bits()` and `byte_alignment()`. -/
def trailingBits (n : Nat) : List Bool := true :: List.replicate (7 - n % 8) false

/-! ## Fixed-width codes -/

@[simp] theorem length_uBits (n v : Nat) : (uBits n v).length = n := by
  induction n with
  | zero => rfl
  | succ n ih => simp [uBits, ih]

theorem uBits_zero (n : Nat) : uBits n 0 = List.replicate n false := by
  induction n with
  | zero => rfl
  | succ n ih => simp [uBits, ih, List.replicate_succ]

theorem foldl_bitsVal (bits : List Bool) (acc : Nat) :
    bits.foldl (fun value bit => 2 * value + bit.toNat) acc =
      acc * 2 ^ bits.length + bitsVal bits := by
  induction bits generalizing acc with
  | nil => simp [bitsVal]
  | cons bit bits ih =>
    have step : bitsVal (bit :: bits) = bit.toNat * 2 ^ bits.length + bitsVal bits := by
      simp only [bitsVal, List.foldl_cons]
      rw [ih]
      simp [bitsVal]
    rw [List.foldl_cons, ih, step, List.length_cons]
    ring

theorem bitsVal_cons (bit : Bool) (bits : List Bool) :
    bitsVal (bit :: bits) = bit.toNat * 2 ^ bits.length + bitsVal bits := by
  rw [bitsVal, List.foldl_cons, foldl_bitsVal]
  simp

theorem bitsVal_lt (bits : List Bool) : bitsVal bits < 2 ^ bits.length := by
  induction bits with
  | nil => simp [bitsVal]
  | cons bit bits ih =>
    rw [bitsVal_cons, List.length_cons, Nat.pow_succ]
    cases bit <;> simp <;> omega

theorem mod_two_pow_succ_testBit (v n : Nat) :
    v % 2 ^ (n + 1) = (v.testBit n).toNat * 2 ^ n + v % 2 ^ n := by
  rw [Nat.mod_pow_succ, Nat.testBit_eq_decide_div_mod_eq]
  rcases Nat.mod_two_eq_zero_or_one (v / 2 ^ n) with h | h <;> simp [h]
  omega

theorem bitsVal_uBits (n v : Nat) : bitsVal (uBits n v) = v % 2 ^ n := by
  induction n with
  | zero => simp [uBits, bitsVal, Nat.mod_one]
  | succ n ih => rw [uBits, bitsVal_cons, ih, length_uBits, mod_two_pow_succ_testBit]

theorem bitsVal_uBits_of_lt {n v : Nat} (h : v < 2 ^ n) : bitsVal (uBits n v) = v := by
  rw [bitsVal_uBits, Nat.mod_eq_of_lt h]

/-- The code looks at the low bits alone. -/
theorem uBits_congr {n v w : Nat} (same : v % 2 ^ n = w % 2 ^ n) : uBits n v = uBits n w := by
  induction n with
  | zero => rfl
  | succ n ih =>
    have low := congrArg (· % 2 ^ n) same
    have high := congrArg (·.testBit n) same
    simp only [Nat.mod_mod_of_dvd _ (Nat.pow_dvd_pow 2 (Nat.le_succ n)), Nat.testBit_mod_two_pow,
      Nat.lt_succ_self, decide_true, Bool.true_and] at low high
    rw [uBits, uBits, high, ih low]

/-- A bit string is the code of the number it spells. -/
theorem uBits_bitsVal (bits : List Bool) : uBits bits.length (bitsVal bits) = bits := by
  induction bits with
  | nil => rfl
  | cons bit bits ih =>
    have below := bitsVal_lt bits
    rw [List.length_cons, uBits, bitsVal_cons]
    congr 1
    · rw [Nat.testBit_eq_decide_div_mod_eq, Nat.mul_comm, Nat.mul_add_div (Nat.two_pow_pos _),
        Nat.div_eq_of_lt below]
      cases bit <;> rfl
    · rw [uBits_congr (Nat.mul_add_mod_self_right bit.toNat (2 ^ bits.length) (bitsVal bits)), ih]

/-! ## Exp-Golomb codes -/

/-- The first one of `ue(v)` is the leading bit of `v + 1`. -/
theorem ueBits_eq (v : Nat) :
    ueBits v = List.replicate (Nat.log2 (v + 1)) false ++
      true :: uBits (Nat.log2 (v + 1)) (v + 1) := by
  have lead : (v + 1).testBit (Nat.log2 (v + 1)) = true := Nat.testBit_log2 (by omega)
  rw [ueBits, uBits, lead]

@[simp] theorem length_ueBits (v : Nat) : (ueBits v).length = 2 * Nat.log2 (v + 1) + 1 := by
  simp [ueBits]
  omega

theorem length_ueBits_le {v k : Nat} (h : v + 1 < 2 ^ (k + 1)) : (ueBits v).length ≤ 2 * k + 1 := by
  have : Nat.log2 (v + 1) < k + 1 := (Nat.log2_lt (by omega)).mpr h
  rw [length_ueBits]
  omega

theorem ueBits_value (v : Nat) :
    2 ^ Nat.log2 (v + 1) - 1 + (v + 1) % 2 ^ Nat.log2 (v + 1) = v := by
  have low : 2 ^ Nat.log2 (v + 1) ≤ v + 1 := Nat.log2_self_le (by omega)
  have high : v + 1 < 2 ^ (Nat.log2 (v + 1) + 1) := Nat.lt_log2_self
  have split : (v + 1) % 2 ^ Nat.log2 (v + 1) = v + 1 - 2 ^ Nat.log2 (v + 1) := by
    rw [Nat.mod_eq_sub_mod low, Nat.mod_eq_of_lt]
    rw [Nat.pow_succ] at high
    omega
  have pos : 0 < 2 ^ Nat.log2 (v + 1) := Nat.two_pow_pos _
  omega

theorem length_seBits_le {v : Int} {k : Nat} (low : -2 ^ k < 2 * v + 1) (high : 2 * v < 2 ^ k) :
    (seBits v).length ≤ 2 * k + 1 := by
  apply length_ueBits_le
  have : ((2 ^ k : Nat) : Int) = 2 ^ k := by norm_cast
  have step : 2 ^ (k + 1) = 2 * 2 ^ k := Nat.pow_succ'
  unfold seCodeNum
  split <;> omega

theorem length_flatten_le {α : Type} {codes : List (List α)} {n : Nat}
    (h : ∀ code ∈ codes, code.length ≤ n) : codes.flatten.length ≤ codes.length * n := by
  induction codes with
  | nil => simp
  | cons code codes ih =>
    have head := h code (by simp)
    have tail := ih (fun c hc => h c (List.mem_cons_of_mem _ hc))
    rw [List.flatten_cons, List.length_append, List.length_cons, Nat.succ_mul]
    omega

/-! ## Bytes -/

/-- The length of a string of codes, from a bound for each code. -/
theorem length_flatten_le_sum {α : Type} {codes : List (List α)} (bounds : List Nat)
    (h : List.Forall₂ (fun code n => code.length ≤ n) codes bounds) :
    codes.flatten.length ≤ bounds.sum := by
  induction h with
  | nil => simp
  | cons head _ ih =>
    rw [List.flatten_cons, List.length_append, List.sum_cons]
    exact Nat.add_le_add head ih

@[simp] theorem length_byteBits (b : UInt8) : (byteBits b).length = 8 := length_uBits 8 _

@[simp] theorem length_bytesBits (bytes : List UInt8) :
    (bytesBits bytes).length = 8 * bytes.length := by
  induction bytes with
  | nil => rfl
  | cons b bytes ih =>
    simp only [bytesBits, List.flatMap_cons, List.length_append, length_byteBits] at ih ⊢
    rw [ih, List.length_cons]
    omega

@[simp] theorem bytesBits_nil : bytesBits [] = [] := rfl

@[simp] theorem bytesBits_cons (b : UInt8) (bytes : List UInt8) :
    bytesBits (b :: bytes) = byteBits b ++ bytesBits bytes := rfl

@[simp] theorem bytesBits_append (xs ys : List UInt8) :
    bytesBits (xs ++ ys) = bytesBits xs ++ bytesBits ys := by
  simp [bytesBits]

theorem getElem?_uBits (n v i : Nat) :
    (uBits n v)[i]? = if i < n then some (v.testBit (n - 1 - i)) else none := by
  induction n generalizing i with
  | zero => simp [uBits]
  | succ n ih =>
    cases i with
    | zero => simp [uBits]
    | succ i =>
      rw [uBits, List.getElem?_cons_succ, ih]
      have : n - 1 - i = n + 1 - 1 - (i + 1) := by omega
      simp [this]

/-- Bit `i` of a byte string is bit `7 - i % 8` of its byte `i / 8`. -/
theorem getElem?_bytesBits (bytes : List UInt8) (i : Nat) :
    (bytesBits bytes)[i]? = bytes[i / 8]?.map (fun b => b.toNat.testBit (7 - i % 8)) := by
  induction bytes generalizing i with
  | nil => simp
  | cons b bytes ih =>
    rw [bytesBits_cons]
    by_cases h : i < 8
    · rw [List.getElem?_append_left (by simpa using h), byteBits, getElem?_uBits, if_pos h]
      have h0 : i / 8 = 0 := by omega
      have h1 : i % 8 = i := by omega
      simp [h0, h1]
    · rw [List.getElem?_append_right (by simpa using Nat.le_of_not_lt h), ih, length_byteBits]
      obtain ⟨k, rfl⟩ : ∃ k, i = k + 8 := ⟨i - 8, by omega⟩
      have h0 : (k + 8) / 8 = k / 8 + 1 := by omega
      have h1 : (k + 8) % 8 = k % 8 := by omega
      simp [h0, h1]

theorem bytesBits_take (bytes : List UInt8) (n : Nat) :
    bytesBits (bytes.take n) = (bytesBits bytes).take (8 * n) := by
  induction bytes generalizing n with
  | nil => simp
  | cons b bytes ih =>
    cases n with
    | zero => simp
    | succ n =>
      have width : 8 * (n + 1) = (byteBits b).length + 8 * n := by simp; omega
      rw [List.take_succ_cons, bytesBits_cons, bytesBits_cons, ih, width,
        List.take_length_add_append]

theorem byteBits_injective {a b : UInt8} (h : byteBits a = byteBits b) : a = b := by
  have value := congrArg bitsVal h
  rw [byteBits, byteBits, bitsVal_uBits_of_lt a.toNat_lt, bitsVal_uBits_of_lt b.toNat_lt] at value
  exact UInt8.toNat.inj value

theorem bytesBits_injective {xs ys : List UInt8} (h : bytesBits xs = bytesBits ys) : xs = ys := by
  induction xs generalizing ys with
  | nil =>
    have := congrArg List.length h
    exact (List.eq_nil_of_length_eq_zero (by simpa using this.symm)).symm
  | cons a xs ih =>
    cases ys with
    | nil => have := congrArg List.length h; simp at this
    | cons b ys =>
      rw [bytesBits_cons, bytesBits_cons] at h
      obtain ⟨hb, hs⟩ := List.append_inj h (by simp)
      rw [byteBits_injective hb, ih hs]

/-- A byte string whose bits begin with those of a byte begins with that byte. -/
theorem exists_cons_of_byteBits {bytes : List UInt8} {b : UInt8} {bits : List Bool}
    (h : bytesBits bytes = byteBits b ++ bits) : ∃ rest, bytes = b :: rest ∧ bytesBits rest = bits := by
  cases bytes with
  | nil =>
    have := congrArg List.length h
    simp only [bytesBits_nil, List.length_nil, List.length_append, length_byteBits] at this
    omega
  | cons c rest =>
    rw [bytesBits_cons] at h
    obtain ⟨hb, hs⟩ := List.append_inj h (by simp)
    exact ⟨rest, by rw [byteBits_injective hb], hs⟩

/-! ## Byte alignment -/

@[simp] theorem length_trailingBits (n : Nat) : (trailingBits n).length = 8 - n % 8 := by
  simp [trailingBits]
  omega

theorem add_length_trailingBits (n : Nat) : (n + (trailingBits n).length) % 8 = 0 := by
  rw [length_trailingBits]
  omega

end Bitstream
