import RockchipVaapi.Misc.SyntaxReader

/-!
# The bit reader of `hevc.c`

`HEVCBitReader` walks over an unescaped payload. Its walk is compared with the readers of the
standard by `Tracks m p R`: where both the driver's `m` and the standard's `p` succeed, they
end at the same bit and their results are related by `R`. The driver may give up earlier, for
instance on an Exp-Golomb code with more than 31 leading zeros.
-/

namespace RockchipVaapi.Hevc
open Bitstream

/-- `HEVCBitReader` (`hevc.c:30-34`). `size` is the length of `data`. -/
structure HEVCBitReader where
  data : List UInt8
  bit : Nat
  deriving DecidableEq, Repr

/-- A walk of the reader that may return `false`. -/
abbrev BrM (α : Type) := StateT HEVCBitReader Option α

/-- `return false`. -/
def brFail {α : Type} : BrM α := fun _ => none

/-- The position of the reader. -/
def brPosition : BrM Nat := fun br => some (br.bit, br)

/-- `br_read_bit` (`hevc.c:51-58`). -/
def brReadBit : BrM Nat := fun br =>
  if br.data.length * 8 ≤ br.bit then none
  else some (((br.data.getD (br.bit / 8) 0).toNat >>> (7 - br.bit % 8)) &&& 1,
    { br with bit := br.bit + 1 })

/-- The loop that counts the leading zeros in `br_read_ue`; `left` more are allowed. -/
def brCountZeros : Nat → Nat → BrM Nat
  | left, zeros => do
    let bit ← brReadBit
    if bit = 1 then return zeros
    else match left with
      | 0 => brFail
      | left + 1 => brCountZeros left (zeros + 1)

/-- A loop of `n` turns `out = (out << 1) | bit` on a `uint32_t`. -/
def brReadInto : Nat → Nat → BrM Nat
  | 0, out => return out
  | n + 1, out => do
    let bit ← brReadBit
    brReadInto n ((out * 2 + bit) % 2 ^ 32)

/-- `br_read_ue` (`hevc.c:60-81`). With 31 leading zeros the base is `UINT32_MAX`. -/
def brReadUe : BrM Nat := do
  let zeros ← brCountZeros 31 0
  let suffix ← brReadInto zeros 0
  return ((if zeros = 31 then 2 ^ 32 - 1 else 2 ^ zeros - 1) + suffix) % 2 ^ 32

/-- `br_read_bits` (`hevc.c:83-99`). -/
def brReadBits (count : Nat) : BrM Nat := fun br =>
  if 32 < count ∨ br.data.length * 8 < br.bit ∨ br.data.length * 8 - br.bit < count then none
  else brReadInto count 0 br

/-- `br_skip_bits` (`hevc.c:101-107`). -/
def brSkipBits (count : Nat) : BrM Unit := fun br =>
  if br.data.length * 8 < br.bit ∨ br.data.length * 8 - br.bit < count then none
  else some ((), { br with bit := br.bit + count })

/-- A read under an `if` without `else`; `absent` is the value of the variable before it. -/
def brIf {α : Type} (condition : Bool) (m : BrM α) (absent : α) : BrM α :=
  if condition then m else pure absent

/-- A loop that reads and drops `n` times. -/
def brEach {α : Type} (m : BrM α) : Nat → BrM Unit
  | 0 => return ()
  | n + 1 => do
    let _ ← m
    brEach m n

namespace HEVCBitReader

/-- The bits behind the position. -/
def rest (br : HEVCBitReader) : List Bool := (bytesBits br.data).drop br.bit

/-- The position lies in the payload. -/
def Ok (br : HEVCBitReader) : Prop := br.bit ≤ 8 * br.data.length

/-- `br'` has walked on from `br` over the same payload. -/
structure Walked (br br' : HEVCBitReader) : Prop where
  data : br'.data = br.data
  le : br.bit ≤ br'.bit
  ok : br'.Ok

theorem Walked.trans {a b c : HEVCBitReader} (ab : Walked a b) (bc : Walked b c) : Walked a c :=
  ⟨bc.data.trans ab.data, Nat.le_trans ab.le bc.le, bc.ok⟩

theorem Walked.refl {br : HEVCBitReader} (ok : br.Ok) : Walked br br := ⟨rfl, Nat.le_refl _, ok⟩

theorem rest_cons {br : HEVCBitReader} {b : Bool} {bits : List Bool} (h : br.rest = b :: bits) :
    (bytesBits br.data)[br.bit]? = some b ∧
      ({ br with bit := br.bit + 1 } : HEVCBitReader).rest = bits := by
  constructor
  · have head := congrArg List.head? h
    rwa [rest, List.head?_drop, List.head?_cons] at head
  · have tail := congrArg List.tail h
    rwa [rest, List.tail_drop, List.tail_cons] at tail

end HEVCBitReader

open HEVCBitReader

section

variable {α β γ δ : Type}

/-- A successful `m` walks on. -/
def Forward (m : BrM α) : Prop :=
  ∀ br x br', br.Ok → m br = some (x, br') → Walked br br'

/-- Where `m` and the standard's reader `p` both succeed, they take the same bits, and `R`
relates their results. -/
def Tracks (m : BrM α) (p : Reader β) (R : α → β → Prop) : Prop :=
  ∀ br x br' y bits, br.Ok → m br = some (x, br') → p br.rest = some (y, bits) →
    Walked br br' ∧ br'.rest = bits ∧ R x y

/-! ## Composition -/

theorem brBind_apply (m : BrM α) (f : α → BrM β) (br : HEVCBitReader) :
    (m >>= f) br = (m br).bind (fun r => f r.1 r.2) := rfl

theorem forward_pure (x : α) : Forward (pure x : BrM α) := by
  intro br y br' ok h
  obtain ⟨rfl, rfl⟩ := Prod.mk.inj (Option.some.inj h)
  exact Walked.refl ok

theorem forward_fail : Forward (brFail : BrM α) := by
  intro br x br' _ h
  cases h

theorem Forward.bind {m : BrM α} {f : α → BrM β} (hm : Forward m) (hf : ∀ x, Forward (f x)) :
    Forward (m >>= f) := by
  intro br y br' ok h
  rw [brBind_apply] at h
  obtain ⟨⟨x, middle⟩, hx, hy⟩ := Option.bind_eq_some_iff.mp h
  have first := hm br x middle ok hx
  exact first.trans (hf x middle y br' first.ok hy)

theorem Forward.brIf {c : Bool} {m : BrM α} {absent : α} (hm : Forward m) :
    Forward (brIf c m absent) := by
  cases c with
  | false => exact forward_pure absent
  | true => exact hm

theorem Forward.brEach {m : BrM α} (hm : Forward m) : ∀ n, Forward (brEach m n)
  | 0 => forward_pure ()
  | n + 1 => hm.bind fun _ => Forward.brEach hm n

theorem tracks_pure {R : α → β → Prop} {x : α} {y : β} (h : R x y) :
    Tracks (pure x : BrM α) (pure y : Reader β) R := by
  intro br x' br' y' bits ok hx hy
  obtain ⟨rfl, rfl⟩ := Prod.mk.inj (Option.some.inj hx)
  obtain ⟨rfl, rfl⟩ := Prod.mk.inj (Option.some.inj hy)
  exact ⟨Walked.refl ok, rfl, h⟩

theorem Tracks.bind {m : BrM α} {f : α → BrM β} {p : Reader γ} {g : γ → Reader δ}
    {R : α → γ → Prop} {S : β → δ → Prop} (hm : Tracks m p R)
    (hf : ∀ x y, R x y → Tracks (f x) (g y) S) : Tracks (m >>= f) (p >>= g) S := by
  intro br x br' y bits ok hx hy
  rw [brBind_apply] at hx
  rw [bind_apply] at hy
  obtain ⟨⟨a, middle⟩, ha, hx⟩ := Option.bind_eq_some_iff.mp hx
  obtain ⟨⟨c, behind⟩, hc, hy⟩ := Option.bind_eq_some_iff.mp hy
  obtain ⟨walked, rfl, related⟩ := hm br a middle c behind ok ha hc
  obtain ⟨walked', rest, related'⟩ := hf a c related middle x br' y bits walked.ok hx hy
  exact ⟨walked.trans walked', rest, related'⟩

theorem Tracks.mono {m : BrM α} {p : Reader β} {R S : α → β → Prop} (h : Tracks m p R)
    (imp : ∀ x y, R x y → S x y) : Tracks m p S := by
  intro br x br' y bits ok hx hy
  obtain ⟨walked, rest, related⟩ := h br x br' y bits ok hx hy
  exact ⟨walked, rest, imp x y related⟩

/-- A reader that only builds its result takes no bits. -/
theorem Tracks.result {m : BrM α} {p : Reader β} {f : β → γ} {R : α → β → Prop}
    {S : α → γ → Prop} (h : Tracks m p R) (imp : ∀ x y, R x y → S x (f y)) :
    Tracks m (p >>= fun y => pure (f y)) S := by
  intro br x br' y bits ok hx hy
  rw [bind_apply] at hy
  obtain ⟨⟨c, behind⟩, hc, hy⟩ := Option.bind_eq_some_iff.mp hy
  obtain ⟨rfl, rfl⟩ := Prod.mk.inj (Option.some.inj hy)
  obtain ⟨walked, rest, related⟩ := h br x br' c behind ok hx hc
  exact ⟨walked, rest, imp x c related⟩

theorem Tracks.readIf {c : Bool} {m : BrM α} {p : Reader β} {R : α → β → Prop} {x : α} {y : β}
    (h : Tracks m p R) (absent : R x y) : Tracks (brIf c m x) (readIf c p y) R := by
  cases c with
  | false => exact tracks_pure absent
  | true => exact h

theorem Tracks.readMany {m : BrM α} {p : Reader β} {R : α → β → Prop} (h : Tracks m p R) :
    ∀ n, Tracks (brEach m n) (readMany p n) (fun _ _ => True)
  | 0 => tracks_pure trivial
  | n + 1 => h.bind fun _ _ _ => (Tracks.readMany h n).result fun _ _ _ => trivial

/-! ## The reads -/

theorem brReadBit_some {br br' : HEVCBitReader} {x : Nat} (h : brReadBit br = some (x, br')) :
    ∃ b : Bool, x = b.toNat ∧ br.rest = b :: br'.rest ∧ br' = { br with bit := br.bit + 1 } ∧
      br.bit < 8 * br.data.length := by
  unfold brReadBit at h
  split at h
  · cases h
  · rename_i room
    obtain ⟨rfl, rfl⟩ := Prod.mk.inj (Option.some.inj h)
    have inside : br.bit < (bytesBits br.data).length := by
      rw [length_bytesBits]
      omega
    have byte : br.data[br.bit / 8]? = some (br.data.getD (br.bit / 8) 0) := by
      rw [List.getD_eq_getElem?_getD, List.getElem?_eq_getElem (by omega), Option.getD_some]
    have at_bit := getElem?_bytesBits br.data br.bit
    rw [byte, Option.map_some] at at_bit
    refine ⟨(br.data.getD (br.bit / 8) 0).toNat.testBit (7 - br.bit % 8), ?_, ?_, rfl, by omega⟩
    · rw [Nat.toNat_testBit, Nat.shiftRight_eq_div_pow, Nat.and_one_is_mod]
    · rw [rest, rest, List.drop_eq_getElem_cons inside]
      congr 1
      rw [List.getElem?_eq_getElem inside] at at_bit
      exact Option.some.inj at_bit

theorem forward_bit : Forward brReadBit := by
  intro br x br' ok h
  obtain ⟨b, -, -, rfl, room⟩ := brReadBit_some h
  exact ⟨rfl, Nat.le_succ _, room⟩

theorem brSkipBits_some {n : Nat} {br br' : HEVCBitReader} (h : brSkipBits n br = some ((), br')) :
    br' = { br with bit := br.bit + n } ∧ br.bit + n ≤ 8 * br.data.length := by
  unfold brSkipBits at h
  split at h
  · cases h
  · obtain ⟨-, rfl⟩ := Prod.mk.inj (Option.some.inj h)
    exact ⟨rfl, by omega⟩

theorem forward_skip (n : Nat) : Forward (brSkipBits n) := by
  intro br x br' ok h
  obtain ⟨rfl, room⟩ := brSkipBits_some h
  exact ⟨rfl, Nat.le_add_right _ _, room⟩

theorem rest_skip (br : HEVCBitReader) (n : Nat) :
    ({ br with bit := br.bit + n } : HEVCBitReader).rest = br.rest.drop n := by
  rw [rest, rest, List.drop_drop]

theorem forward_readInto : ∀ n out, Forward (brReadInto n out)
  | 0, out => forward_pure out
  | n + 1, _ => forward_bit.bind fun _ => forward_readInto n _

/-- The loop takes `n` bits and appends them to `out`. -/
theorem brReadInto_some : ∀ (n out : Nat) {br br' : HEVCBitReader} {x : Nat}, br.Ok →
    brReadInto n out br = some (x, br') → ∃ bits : List Bool, bits.length = n ∧
      br.rest = bits ++ br'.rest ∧ x % 2 ^ 32 = (out * 2 ^ n + bitsVal bits) % 2 ^ 32
  | 0, out, br, br', x, _, h => by
    obtain ⟨rfl, rfl⟩ := Prod.mk.inj (Option.some.inj h)
    exact ⟨[], rfl, rfl, by simp [bitsVal]⟩
  | n + 1, out, br, br', x, ok, h => by
    obtain ⟨⟨b, middle⟩, hb, hx⟩ := Option.bind_eq_some_iff.mp h
    have walked := forward_bit br b middle ok hb
    obtain ⟨bit, rfl, front, -, -⟩ := brReadBit_some hb
    obtain ⟨bits, length, behind, value⟩ := brReadInto_some n _ walked.ok hx
    refine ⟨bit :: bits, by simp [length], by rw [front, behind, List.cons_append], ?_⟩
    have expand : (out * 2 + bit.toNat) * 2 ^ n + bitsVal bits =
        out * 2 ^ (n + 1) + bitsVal (bit :: bits) := by
      rw [bitsVal_cons, length]
      ring
    rw [value, ← expand, Nat.add_mod, Nat.mul_mod, Nat.mod_mod, ← Nat.mul_mod, ← Nat.add_mod]

theorem forward_countZeros : ∀ left zeros, Forward (brCountZeros left zeros) := by
  intro left
  induction left with
  | zero =>
    intro zeros
    unfold brCountZeros
    refine forward_bit.bind fun bit => ?_
    split
    · exact forward_pure zeros
    · exact forward_fail
  | succ left ih =>
    intro zeros
    unfold brCountZeros
    refine forward_bit.bind fun bit => ?_
    split
    · exact forward_pure zeros
    · exact ih (zeros + 1)

/-- The loop stops behind the first one, after as many zeros as it counts. -/
theorem brCountZeros_some : ∀ (left zeros : Nat) {br br' : HEVCBitReader} {x : Nat},
    brCountZeros left zeros br = some (x, br') → ∃ n, x = zeros + n ∧ n ≤ left ∧
      br.rest = List.replicate n false ++ true :: br'.rest := by
  intro left
  induction left with
  | zero =>
    intro zeros br br' x h
    unfold brCountZeros at h
    obtain ⟨⟨b, middle⟩, hb, hx⟩ := Option.bind_eq_some_iff.mp h
    obtain ⟨bit, rfl, front, -, -⟩ := brReadBit_some hb
    cases bit with
    | false => cases hx
    | true =>
      obtain ⟨rfl, rfl⟩ := Prod.mk.inj (Option.some.inj hx)
      exact ⟨0, rfl, Nat.le_refl _, front⟩
  | succ left ih =>
    intro zeros br br' x h
    unfold brCountZeros at h
    obtain ⟨⟨b, middle⟩, hb, hx⟩ := Option.bind_eq_some_iff.mp h
    obtain ⟨bit, rfl, front, -, -⟩ := brReadBit_some hb
    cases bit with
    | false =>
      obtain ⟨n, rfl, bound, behind⟩ := ih (zeros + 1) hx
      refine ⟨n + 1, by omega, by omega, ?_⟩
      rw [front, behind, List.replicate_succ, List.cons_append]
    | true =>
      obtain ⟨rfl, rfl⟩ := Prod.mk.inj (Option.some.inj hx)
      exact ⟨0, rfl, Nat.zero_le _, front⟩

theorem forward_ue : Forward brReadUe :=
  (forward_countZeros 31 0).bind fun zeros =>
    (forward_readInto zeros 0).bind fun _ => forward_pure _

end

end RockchipVaapi.Hevc
