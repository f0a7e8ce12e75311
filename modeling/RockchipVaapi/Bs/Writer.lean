import RockchipVaapi.Misc.Bits
import RockchipVaapi.Misc.ByteStream

/-!
# The bit writer of `bs.h`

`BSWriter` is the writer as the driver has it: a zeroed buffer, a byte position and a bit
position. `BSWriter.bits` is the bit string it denotes, `BSWriter.Ok` its invariant, and
`Emits m bits` says that the writing program `m` appends exactly `bits`, as far as the
buffer reaches. `Emits` composes along `>>=`, so the emitters of the parameter sets are
described by bit strings and never by buffers.
-/

namespace RockchipVaapi
open Bitstream

/-- `BSWriter` (`bs.h:12-17`). The buffer is as long as `capacity`. -/
structure BSWriter where
  data : List UInt8
  bytePos : Nat
  bitPos : Nat
  deriving DecidableEq, Repr

/-- A program that writes through a `BSWriter` and may give up, as the emitters that
`return -1` in the middle do. -/
abbrev BsM (α : Type) := StateT BSWriter Option α

namespace BSWriter

/-- The `capacity` field. -/
def capacity (bs : BSWriter) : Nat := bs.data.length

/-- `bs_init` (`bs.h:19-23`). -/
def init (cap : Nat) : BSWriter := ⟨List.replicate cap 0, 0, 0⟩

/-- `bs_write1` (`bs.h:25-29`). -/
def write1 (bs : BSWriter) (bit : Nat) : BSWriter :=
  if bs.capacity ≤ bs.bytePos then bs
  else
    let old := bs.data.getD bs.bytePos 0
    let data := bs.data.set bs.bytePos
      (old ||| UInt8.ofNat ((bit &&& 1) <<< (7 - bs.bitPos)))
    if bs.bitPos + 1 = 8 then ⟨data, bs.bytePos + 1, 0⟩ else ⟨data, bs.bytePos, bs.bitPos + 1⟩

/-- `bs_write` (`bs.h:31-33`). -/
def write (bs : BSWriter) (val : Nat) : Nat → BSWriter
  | 0 => bs
  | n + 1 => (bs.write1 ((val >>> n) &&& 1)).write val n

/-- `bs_write_ue` (`bs.h:35-42`). The loop that halves `tmp` counts `Nat.log2`. -/
def writeUe (bs : BSWriter) (val : Nat) : BSWriter :=
  let val := (val + 1) % 2 ^ 32
  let bits := Nat.log2 val
  (bs.write 0 bits).write val (bits + 1)

/-- `bs_write_se` (`bs.h:44-47`). -/
def writeSe (bs : BSWriter) (val : Int) : BSWriter :=
  bs.writeUe (if val ≤ 0 then ((-2 * val) % 2 ^ 32).toNat else ((2 * val - 1) % 2 ^ 32).toNat)

/-- The loop `while (bs->bit_pos != 0) bs_write1(bs, 0)`, or `none` when it has not ended
after `fuel` turns. -/
def alignLoop : Nat → BSWriter → Option BSWriter
  | 0, bs => if bs.bitPos = 0 then some bs else none
  | fuel + 1, bs => if bs.bitPos = 0 then some bs else alignLoop fuel (bs.write1 0)

/-- `bs_bytes` (`bs.h:54-56`). -/
def bytes (bs : BSWriter) : Nat := bs.bytePos + if 0 < bs.bitPos then 1 else 0

/-- The bytes an emitter hands on: the first `bs_bytes` of the buffer. -/
def output (bs : BSWriter) : List UInt8 := bs.data.take bs.bytes

/-- The number of bits written. -/
def pos (bs : BSWriter) : Nat := 8 * bs.bytePos + bs.bitPos

/-- The bits written so far. -/
def bits (bs : BSWriter) : List Bool := (bytesBits bs.data).take bs.pos

/-- The invariant of the writer: the position lies in the buffer, and every bit behind it is
still zero. -/
structure Ok (bs : BSWriter) : Prop where
  bitPos_lt : bs.bitPos < 8
  pos_le : bs.pos ≤ 8 * bs.capacity
  zero : ∀ i, bs.pos ≤ i → i < 8 * bs.capacity → (bytesBits bs.data)[i]? = some false

end BSWriter

/-- `bs_write1` as a statement of an emitter. -/
def bsWrite1 (bit : Nat) : BsM Unit := fun bs => some ((), bs.write1 bit)
/-- `bs_write` as a statement of an emitter. -/
def bsWrite (val n : Nat) : BsM Unit := fun bs => some ((), bs.write val n)
/-- `bs_write` of a one-bit field. -/
def bsWriteFlag (flag : Bool) : BsM Unit := bsWrite flag.toNat 1
/-- `bs_write_ue` as a statement of an emitter. -/
def bsWriteUe (val : Nat) : BsM Unit := fun bs => some ((), bs.writeUe val)
/-- `bs_write_se` as a statement of an emitter. -/
def bsWriteSe (val : Int) : BsM Unit := fun bs => some ((), bs.writeSe val)
/-- The alignment loop as a statement of an emitter. A byte has at most seven bits to fill. -/
def bsAlign : BsM Unit := fun bs => (BSWriter.alignLoop 7 bs).map (fun bs => ((), bs))
/-- `bs_rbsp_trailing` (`bs.h:49-52`). -/
def bsRbspTrailing : BsM Unit := do
  bsWrite1 1
  bsAlign

/-- `return -1` in the middle of an emitter. -/
def bsFail : BsM Unit := fun _ => none
/-- The statements under an `if` without `else`. -/
def bsIf (condition : Bool) (m : BsM Unit) : BsM Unit := if condition then m else pure ()

/-- A loop that writes for one value after the other. -/
def bsEach {α : Type} (body : α → BsM Unit) : List α → BsM Unit
  | [] => pure ()
  | x :: xs => do
    body x
    bsEach body xs

/-- `m` runs to its end and appends `bits`, cut off where the buffer ends. -/
def Emits (m : BsM Unit) (bits : List Bool) : Prop :=
  ∀ bs : BSWriter, bs.Ok → ∃ bs', m bs = some ((), bs') ∧ bs'.Ok ∧ bs'.capacity = bs.capacity ∧
    bs'.bits = (bs.bits ++ bits).take (8 * bs.capacity)

namespace BSWriter

theorem length_bits {bs : BSWriter} (h : bs.Ok) : bs.bits.length = bs.pos := by
  simp [bits, show bs.pos ≤ 8 * bs.data.length from h.pos_le]

theorem init_ok (cap : Nat) : (init cap).Ok := by
  refine ⟨by simp [init], by simp [init, pos], ?_⟩
  intro i _ hi
  have hlt : i / 8 < cap := by
    simp only [capacity, init, List.length_replicate] at hi
    omega
  rw [getElem?_bytesBits]
  simp [init, hlt]

@[simp] theorem init_bits (cap : Nat) : (init cap).bits = [] := by simp [init, bits, pos]

@[simp] theorem init_capacity (cap : Nat) : (init cap).capacity = cap := by simp [init, capacity]

/-- Bit `i` of a byte after `bs_write1` has or-ed a bit into place `j`. -/
theorem testBit_or_bit (old : UInt8) (bit : Nat) (j i : Fin 8) :
    (old ||| UInt8.ofNat ((bit &&& 1) <<< (7 - j.val))).toNat.testBit (7 - i.val) =
      (old.toNat.testBit (7 - i.val) || (decide (i = j) && (bit &&& 1 == 1))) := by
  have place : ∀ i j : Fin 8,
      (UInt8.ofNat (1 <<< (7 - j.val))).toNat.testBit (7 - i.val) = decide (i = j) := by decide
  have mod := Nat.and_one_is_mod bit
  rcases Nat.mod_two_eq_zero_or_one bit with h | h
  · simp [mod, h]
  · simp only [mod, h, UInt8.toNat_or, Nat.testBit_or, place]
    simp

/-- Or-ing one bit into a byte changes the bit string in that place only. -/
theorem bytesBits_set_or (data : List UInt8) (k j bit : Nat) (hk : k < data.length) (hj : j < 8) :
    bytesBits (data.set k (data.getD k 0 ||| UInt8.ofNat ((bit &&& 1) <<< (7 - j)))) =
      (bytesBits data).set (8 * k + j)
        (((bytesBits data)[8 * k + j]?.getD false) || (bit &&& 1 == 1)) := by
  have hget : data[k]? = some data[k] := List.getElem?_eq_getElem hk
  apply List.ext_getElem?
  intro i
  by_cases hdiv : i / 8 = k
  · -- a bit of the byte that is written
    have byte := testBit_or_bit data[k] bit ⟨j, hj⟩ ⟨i % 8, Nat.mod_lt i (by omega)⟩
    rw [getElem?_bytesBits, hdiv, List.getElem?_set_self hk]
    simp only [Option.map_some, List.getD_eq_getElem?_getD, hget, Option.getD_some]
    rw [byte]
    by_cases hi : 8 * k + j = i
    · have hdiv' : (8 * k + j) / 8 = k := by omega
      have hmod : (8 * k + j) % 8 = j := by omega
      have hlen : 8 * k + j < (bytesBits data).length := by simp; omega
      subst hi
      rw [List.getElem?_set_self hlen, getElem?_bytesBits, hdiv', hget]
      simp [hmod]
    · have hmod : i % 8 ≠ j := by omega
      rw [List.getElem?_set_ne hi, getElem?_bytesBits, hdiv, hget]
      simp [hmod]
  · -- a bit of another byte
    rw [getElem?_bytesBits, List.getElem?_set_ne (Ne.symm hdiv),
      List.getElem?_set_ne (by omega : 8 * k + j ≠ i), getElem?_bytesBits]

/-- `bs_write1` on a buffer with room left. -/
theorem write1_room {bs : BSWriter} (h : bs.Ok) (bit : Nat) (room : bs.pos < 8 * bs.capacity) :
    (bs.write1 bit).capacity = bs.capacity ∧ (bs.write1 bit).pos = bs.pos + 1 ∧
      (bs.write1 bit).bitPos < 8 ∧
      bytesBits (bs.write1 bit).data = (bytesBits bs.data).set bs.pos (bit &&& 1 == 1) := by
  have hbit := h.bitPos_lt
  have hbyte : bs.bytePos < bs.data.length := by
    simp only [pos, capacity] at room
    omega
  have data := bytesBits_set_or bs.data bs.bytePos bs.bitPos bit hbyte hbit
  have clear := h.zero bs.pos (Nat.le_refl _) room
  rw [show 8 * bs.bytePos + bs.bitPos = bs.pos from rfl, clear] at data
  unfold write1
  rw [if_neg (by simp only [capacity]; omega)]
  split
  · rename_i full
    refine ⟨by simp [capacity], by simp only [pos]; omega, by simp, by simpa using data⟩
  · refine ⟨by simp [capacity], by simp only [pos]; omega, by simp only []; omega,
      by simpa using data⟩

theorem write1_full {bs : BSWriter} (h : bs.Ok) (bit : Nat) (full : ¬ bs.pos < 8 * bs.capacity) :
    bs.write1 bit = bs := by
  have hle := h.pos_le
  have hbit := h.bitPos_lt
  unfold write1
  rw [if_pos]
  simp only [pos] at hle full
  omega

theorem write1_ok {bs : BSWriter} (h : bs.Ok) (bit : Nat) : (bs.write1 bit).Ok := by
  by_cases room : bs.pos < 8 * bs.capacity
  · obtain ⟨hcap, hpos, hbit, hdata⟩ := write1_room h bit room
    refine ⟨hbit, by rw [hpos, hcap]; omega, ?_⟩
    intro i hi hlt
    rw [hpos] at hi
    rw [hcap] at hlt
    rw [hdata, List.getElem?_set_ne (by omega)]
    exact h.zero i (by omega) hlt
  · rw [write1_full h bit room]
    exact h

theorem write1_bits {bs : BSWriter} (h : bs.Ok) (bit : Nat) :
    (bs.write1 bit).bits = (bs.bits ++ [bit &&& 1 == 1]).take (8 * bs.capacity) := by
  by_cases room : bs.pos < 8 * bs.capacity
  · obtain ⟨-, hpos, -, hdata⟩ := write1_room h bit room
    have hlt : bs.pos < (bytesBits bs.data).length := by simpa [capacity] using room
    rw [List.take_of_length_le (by rw [List.length_append, length_bits h, List.length_singleton]; omega)]
    rw [bits, hpos, hdata, List.take_add_one, List.take_set_of_le (Nat.le_refl _),
      List.getElem?_set_self hlt]
    rfl
  · have full : bs.bits.length = 8 * bs.capacity := by
      have := h.pos_le
      rw [length_bits h]
      omega
    rw [write1_full h bit room, List.take_left' full]

theorem write1_capacity {bs : BSWriter} (h : bs.Ok) (bit : Nat) :
    (bs.write1 bit).capacity = bs.capacity := by
  by_cases room : bs.pos < 8 * bs.capacity
  · exact (write1_room h bit room).1
  · rw [write1_full h bit room]

end BSWriter

/-! ## What the statements emit -/

/-- What was cut off before does not matter when more is appended and cut off again. -/
theorem take_append_cut {α : Type} (n : Nat) (xs ys : List α) :
    (xs.take n ++ ys).take n = (xs ++ ys).take n := by
  rw [List.take_append, List.take_take, Nat.min_self, List.length_take, List.take_append]
  congr 2
  omega

section

variable {m k : BsM Unit} {as bs : List Bool}

theorem emits_nil : Emits (pure ()) [] := by
  intro w h
  refine ⟨w, rfl, h, rfl, ?_⟩
  rw [List.append_nil, List.take_of_length_le]
  rw [BSWriter.length_bits h]
  exact h.pos_le

/-- Emitters compose. A buffer that the first one filled stays full. -/
theorem Emits.seq (hm : Emits m as) (hk : Emits k bs) : Emits (do m; k) (as ++ bs) := by
  intro w h
  obtain ⟨w₁, run₁, ok₁, cap₁, bits₁⟩ := hm w h
  obtain ⟨w₂, run₂, ok₂, cap₂, bits₂⟩ := hk w₁ ok₁
  refine ⟨w₂, ?_, ok₂, cap₂.trans cap₁, ?_⟩
  · show (m w).bind (fun r => k r.2) = _
    rw [run₁]
    exact run₂
  · rw [bits₂, cap₁, bits₁, ← List.append_assoc, take_append_cut]

/-- `Emits.seq` on a list of codes, in the order of the statements. -/
theorem Emits.cons {codes : List (List Bool)} (hm : Emits m as) (hk : Emits k codes.flatten) :
    Emits (do m; k) (as :: codes).flatten := by
  rw [List.flatten_cons]
  exact hm.seq hk

theorem Emits.last (hm : Emits m as) : Emits m [as].flatten := by
  rw [List.flatten_singleton]
  exact hm

theorem emits_write1 (bit : Nat) : Emits (bsWrite1 bit) [bit &&& 1 == 1] := by
  intro w h
  exact ⟨_, rfl, BSWriter.write1_ok h bit, BSWriter.write1_capacity h bit, BSWriter.write1_bits h bit⟩

theorem emits_bit (bit : Bool) : Emits (bsWrite1 bit.toNat) [bit] := by
  have h := emits_write1 bit.toNat
  cases bit <;> exact h

theorem emits_write (val n : Nat) : Emits (bsWrite val n) (uBits n val) := by
  induction n with
  | zero => exact emits_nil
  | succ n ih =>
    have head : ((val >>> n) &&& 1 &&& 1 == 1) = val.testBit n := by
      rw [Nat.and_assoc, Nat.testBit_eq_decide_div_mod_eq, Nat.shiftRight_eq_div_pow]
      have := Nat.and_one_is_mod (val / 2 ^ n)
      simp [this]
      rfl
    have step := (emits_write1 ((val >>> n) &&& 1)).seq ih
    rw [head] at step
    exact step

theorem emits_flag (flag : Bool) : Emits (bsWriteFlag flag) [flag] := by
  have h := emits_write flag.toNat 1
  cases flag <;> exact h

theorem emits_ue {val : Nat} (h : val + 1 < 2 ^ 32) : Emits (bsWriteUe val) (ueBits val) := by
  have step := (emits_write 0 (Nat.log2 (val + 1))).seq
    (emits_write (val + 1) (Nat.log2 (val + 1) + 1))
  rw [uBits_zero] at step
  intro w hw
  obtain ⟨w', run, rest⟩ := step w hw
  refine ⟨w', ?_, rest⟩
  rw [← run]
  show some _ = some _
  simp only [BSWriter.writeUe, Nat.mod_eq_of_lt h]

/-- The bits `bs_write_ue` writes for a 32-bit value. The sum wraps at `UINT32_MAX`, and a
single zero bit is written there. -/
def ueCode (val : Nat) : List Bool := if val + 1 = 2 ^ 32 then [false] else ueBits val

theorem emits_ueCode {val : Nat} (h : val < 2 ^ 32) : Emits (bsWriteUe val) (ueCode val) := by
  unfold ueCode
  by_cases top : val + 1 = 2 ^ 32
  · rw [if_pos top]
    have bit : bsWriteUe val = bsWrite 0 1 := by
      funext w
      simp only [bsWriteUe, BSWriter.writeUe, top, Nat.mod_self]
      rfl
    rw [bit]
    exact emits_write 0 1
  · rw [if_neg top]
    exact emits_ue (by omega)

theorem emits_se {val : Int} (low : -2 ^ 30 ≤ val) (high : val ≤ 2 ^ 30) :
    Emits (bsWriteSe val) (seBits val) := by
  have code : (if val ≤ 0 then ((-2 * val) % 2 ^ 32).toNat else ((2 * val - 1) % 2 ^ 32).toNat) =
      seCodeNum val := by
    unfold seCodeNum
    split <;> congr 1 <;> apply Int.emod_eq_of_lt <;> omega
  have bound : seCodeNum val + 1 < 2 ^ 32 := by
    unfold seCodeNum
    split <;> omega
  have step := emits_ue bound
  rw [← code] at step
  rw [seBits, ← code]
  exact step

theorem Emits.bsIf {c : Bool} (h : c = true → Emits m as) :
    Emits (bsIf c m) (if c then as else []) := by
  cases c with
  | false => exact emits_nil
  | true => exact h rfl

theorem emits_each {α : Type} {body : α → BsM Unit} {code : α → List Bool} :
    ∀ xs : List α, (∀ x ∈ xs, Emits (body x) (code x)) →
      Emits (bsEach body xs) (xs.map code).flatten := by
  intro xs
  induction xs with
  | nil => intro _; exact emits_nil
  | cons x xs ih =>
    intro h
    exact (h x List.mem_cons_self).cons (ih fun y hy => h y (List.mem_cons_of_mem _ hy))

/-- `m` gives up, whatever was written before. -/
def Fails (m : BsM Unit) : Prop := ∀ bs, m bs = none

theorem Fails.after (h : Fails k) : Fails (do m; k) := by
  intro bs
  show (m bs).bind (fun r => k r.2) = none
  cases m bs with
  | none => rfl
  | some r => exact h r.2

theorem Fails.before (h : Fails m) : Fails (do m; k) := by
  intro bs
  show (m bs).bind (fun r => k r.2) = none
  rw [h bs]
  rfl

theorem Fails.bsIf {c : Bool} (hc : c = true) (h : Fails m) : Fails (bsIf c m) := by
  subst hc
  exact h

theorem Fails.each {α : Type} {body : α → BsM Unit} {x : α} (h : Fails (body x)) :
    ∀ xs : List α, x ∈ xs → Fails (bsEach body xs) := by
  intro xs
  induction xs with
  | nil => intro hx; cases hx
  | cons y xs ih =>
    intro hx
    rcases List.mem_cons.mp hx with rfl | hx
    · exact Fails.before h
    · exact Fails.after (ih hx)

end

/-! ## Alignment -/

namespace BSWriter

/-- The alignment loop ends: on a writer that satisfies its invariant it fills the current
byte with zeros, and a full buffer is aligned already. -/
theorem alignLoop_ok : ∀ (fuel : Nat) (bs : BSWriter), bs.Ok → (8 - bs.bitPos) % 8 ≤ fuel →
    ∃ bs', alignLoop fuel bs = some bs' ∧ bs'.Ok ∧ bs'.capacity = bs.capacity ∧ bs'.bitPos = 0 ∧
      bs'.bits = bs.bits ++ List.replicate ((8 - bs.bitPos) % 8) false := by
  intro fuel
  induction fuel with
  | zero =>
    intro bs h hfuel
    have hbit := h.bitPos_lt
    have h0 : bs.bitPos = 0 := by omega
    exact ⟨bs, by simp [alignLoop, h0], h, rfl, h0, by simp [h0]⟩
  | succ fuel ih =>
    intro bs h hfuel
    have hbit := h.bitPos_lt
    by_cases h0 : bs.bitPos = 0
    · exact ⟨bs, by simp [alignLoop, h0], h, rfl, h0, by simp [h0]⟩
    · -- a partly filled byte lies inside the buffer, so one more bit is written
      have room : bs.pos < 8 * bs.capacity := by
        have := h.pos_le
        simp only [pos] at this ⊢
        omega
      obtain ⟨hcap, hpos, hbit', -⟩ := write1_room h 0 room
      have hbits := write1_bits h 0
      rw [List.take_of_length_le (by
        rw [List.length_append, length_bits h, List.length_singleton]; omega)] at hbits
      have hnext : (8 - (bs.write1 0).bitPos) % 8 + 1 = (8 - bs.bitPos) % 8 := by
        simp only [pos] at hpos
        omega
      obtain ⟨bs', run, ok, cap, zero, bits'⟩ := ih (bs.write1 0) (write1_ok h 0) (by omega)
      refine ⟨bs', by simp [alignLoop, h0, run], ok, cap.trans hcap, zero, ?_⟩
      rw [bits', hbits, ← hnext, List.replicate_succ]
      simp

theorem bits_of_aligned {bs : BSWriter} (aligned : bs.bitPos = 0) :
    bytesBits bs.output = bs.bits := by
  rw [output, bytesBits_take, bits, bytes, pos, aligned]
  simp

end BSWriter

/-- An emitter followed by `rbsp_trailing_bits()` on a fresh buffer with room for both. -/
theorem Emits.aligned {m : BsM Unit} {bits : List Bool} (hm : Emits m bits) (cap : Nat)
    (room : bits.length + 8 ≤ 8 * cap) :
    ∃ bs, (do m; bsRbspTrailing) (BSWriter.init cap) = some ((), bs) ∧ bs.Ok ∧
      bs.capacity = cap ∧ bs.bitPos = 0 ∧ bs.bits = bits ++ trailingBits bits.length := by
  obtain ⟨w, run, ok, hcap, hbits⟩ := (hm.seq (emits_write1 1)) _ (BSWriter.init_ok cap)
  rw [BSWriter.init_capacity] at hcap hbits
  rw [BSWriter.init_bits, List.nil_append, List.take_of_length_le (by simp; omega)] at hbits
  have hpos : w.pos = bits.length + 1 := by
    rw [← BSWriter.length_bits ok, hbits]
    simp
  have hmod : w.bitPos = (bits.length + 1) % 8 := by
    have := ok.bitPos_lt
    simp only [BSWriter.pos] at hpos
    omega
  obtain ⟨w', align, ok', cap', zero, bits'⟩ := BSWriter.alignLoop_ok 7 w ok (by omega)
  refine ⟨w', ?_, ok', cap'.trans hcap, zero, ?_⟩
  · have split : ((do m; bsRbspTrailing) : BsM Unit) (BSWriter.init cap) =
        ((do m; bsWrite1 1) (BSWriter.init cap)).bind (fun r => bsAlign r.2) := by
      show (m _).bind _ = ((m _).bind _).bind _
      cases m (BSWriter.init cap) <;> rfl
    rw [split, run, Option.bind_some, bsAlign, align]
    rfl
  · have pad : (8 - w.bitPos) % 8 = 7 - bits.length % 8 := by omega
    rw [bits', hbits, pad, trailingBits]
    simp

/-- The bytes handed on after `rbsp_trailing_bits()` spell exactly the emitted bits and the
trailing bits. -/
theorem Emits.trailing {m : BsM Unit} {bits : List Bool} (hm : Emits m bits) (cap : Nat)
    (room : bits.length + 8 ≤ 8 * cap) :
    ∃ bs, (do m; bsRbspTrailing) (BSWriter.init cap) = some ((), bs) ∧
      bytesBits bs.output = bits ++ trailingBits bits.length := by
  obtain ⟨bs, run, -, -, zero, hbits⟩ := hm.aligned cap room
  exact ⟨bs, run, by rw [BSWriter.bits_of_aligned zero, hbits]⟩

/-- Whole bytes emitted behind an alignment. -/
theorem Emits.alignedThen {m k : BsM Unit} {bits more : List Bool} (hm : Emits m bits)
    (hk : Emits k more) (whole : more.length % 8 = 0) (cap : Nat)
    (room : bits.length + 8 + more.length ≤ 8 * cap) :
    ∃ bs, (do m; bsRbspTrailing; k) (BSWriter.init cap) = some ((), bs) ∧ bs.capacity = cap ∧
      bytesBits bs.output = bits ++ (trailingBits bits.length ++ more) := by
  obtain ⟨w, run, ok, hcap, -, hbits⟩ := hm.aligned cap (by omega)
  obtain ⟨w', run', ok', hcap', hbits'⟩ := hk w ok
  have aligned := add_length_trailingBits bits.length
  have short := length_trailingBits bits.length
  rw [hbits, hcap, List.take_of_length_le (by simp only [List.length_append]; omega)] at hbits'
  have zero : w'.bitPos = 0 := by
    have position := BSWriter.length_bits ok'
    rw [hbits'] at position
    simp only [BSWriter.pos, List.length_append] at position
    have := ok'.bitPos_lt
    omega
  refine ⟨w', ?_, hcap'.trans hcap, ?_⟩
  · have split : ((do m; bsRbspTrailing; k) : BsM Unit) (BSWriter.init cap) =
        ((do m; bsRbspTrailing) (BSWriter.init cap)).bind (fun r => k r.2) := by
      show (m _).bind _ = ((m _).bind _).bind _
      cases m (BSWriter.init cap) <;> rfl
    rw [split, run, Option.bind_some, run']
  · rw [BSWriter.bits_of_aligned zero, hbits', List.append_assoc]

/-! ## What was written stays -/

/-- Whatever `m` does, the bits that stood in the buffer before it still stand there. -/
def Appends (m : BsM Unit) : Prop :=
  ∀ bs bs', bs.Ok → m bs = some ((), bs') → bs'.Ok ∧ bs.bits <+: bs'.bits

section

variable {m k : BsM Unit}

theorem Emits.appends {code : List Bool} (h : Emits m code) : Appends m := by
  intro bs bs' ok run
  obtain ⟨w, run', ok', -, bits⟩ := h bs ok
  obtain ⟨-, rfl⟩ := Prod.mk.inj (Option.some.inj (run'.symm.trans run))
  have inside : bs.bits.length ≤ 8 * bs.capacity := by
    rw [BSWriter.length_bits ok]
    exact ok.pos_le
  refine ⟨ok', ?_⟩
  rw [bits, List.take_append, List.take_of_length_le inside]
  exact List.prefix_append _ _

theorem Fails.appends (h : Fails m) : Appends m := by
  intro bs bs' _ run
  rw [h bs] at run
  cases run

theorem Appends.seq (hm : Appends m) (hk : Appends k) : Appends (do m; k) := by
  intro bs bs' ok run
  obtain ⟨⟨_, middle⟩, first, second⟩ := Option.bind_eq_some_iff.mp run
  obtain ⟨ok₁, kept₁⟩ := hm bs middle ok first
  obtain ⟨ok₂, kept₂⟩ := hk middle bs' ok₁ second
  exact ⟨ok₂, kept₁.trans kept₂⟩

theorem appends_each {α : Type} {body : α → BsM Unit} (h : ∀ x, Appends (body x)) :
    ∀ xs : List α, Appends (bsEach body xs)
  | [] => emits_nil.appends
  | x :: xs => (h x).seq (appends_each h xs)

theorem appends_trailing : Appends bsRbspTrailing := by
  refine (emits_write1 1).appends.seq ?_
  intro bs bs' ok run
  have short : (8 - bs.bitPos) % 8 ≤ 7 := by omega
  obtain ⟨w, aligned, ok', -, -, bits⟩ := BSWriter.alignLoop_ok 7 bs ok short
  rw [bsAlign, aligned] at run
  obtain ⟨-, rfl⟩ := Prod.mk.inj (Option.some.inj run)
  rw [bits]
  exact ⟨ok', List.prefix_append _ _⟩

end

/-- The bytes handed on begin with the bits that were written. -/
theorem BSWriter.bits_prefix_output (bs : BSWriter) (ok : bs.Ok) :
    bs.bits <+: bytesBits bs.output := by
  have short := ok.bitPos_lt
  have covered : bs.pos ≤ 8 * bs.bytes := by
    unfold BSWriter.pos BSWriter.bytes
    split <;> omega
  rw [BSWriter.output, bytesBits_take, BSWriter.bits]
  exact List.take_prefix_take_left covered

end RockchipVaapi
