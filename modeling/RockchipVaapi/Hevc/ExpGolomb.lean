import RockchipVaapi.Bs.Writer
import RockchipVaapi.Hevc.BitReader

/-!
# Exp-Golomb codes between `bs.h` and `hevc.c`

`bs_write_ue` writes the code of every value below `UINT32_MAX`. `br_read_ue` takes back exactly
the code, but with 31 leading zeros it adds the suffix to `UINT32_MAX` instead of `2^31 - 1`, so
the values from `2^31 - 1` on come back as others.
-/

namespace RockchipVaapi.Hevc
open Bitstream HEVCBitReader

/-- The code at the position of the reader: `zeros` zeros, a one and as many bits again. -/
structure CodeAt (br : HEVCBitReader) (zeros : Nat) (suffix behind : List Bool) : Prop where
  length : suffix.length = zeros
  front : br.rest = List.replicate zeros false ++ true :: (suffix ++ behind)

/-- The reader behind `n` more bits. -/
def HEVCBitReader.advance (br : HEVCBitReader) (n : Nat) : HEVCBitReader :=
  { br with bit := br.bit + n }

@[simp] theorem HEVCBitReader.advance_zero (br : HEVCBitReader) : br.advance 0 = br := rfl

@[simp] theorem HEVCBitReader.advance_advance (br : HEVCBitReader) (m n : Nat) :
    (br.advance m).advance n = br.advance (m + n) := by
  simp [advance, Nat.add_assoc]

theorem HEVCBitReader.rest_advance {br : HEVCBitReader} {bits behind : List Bool}
    (h : br.rest = bits ++ behind) : (br.advance bits.length).rest = behind := by
  rw [advance, rest_skip, h, List.drop_left' rfl]

/-! ## What the loops take -/

theorem brReadBit_rest {br : HEVCBitReader} {bit : Bool} {behind : List Bool}
    (h : br.rest = bit :: behind) : brReadBit br = some (bit.toNat, br.advance 1) := by
  have place := (rest_cons h).1
  have inside : br.bit < 8 * br.data.length := by
    have := (List.getElem?_eq_some_iff.mp place).1
    rwa [length_bytesBits] at this
  rw [getElem?_bytesBits] at place
  obtain ⟨byte, found, rfl⟩ := Option.map_eq_some_iff.mp place
  rw [brReadBit, if_neg (by omega), List.getD_eq_getElem?_getD, found, Option.getD_some,
    Nat.toNat_testBit, Nat.shiftRight_eq_div_pow, Nat.and_one_is_mod]
  rfl

/-- The zeros are counted up to the first one, as long as the count is allowed. -/
theorem brCountZeros_rest : ∀ (n left zeros : Nat) {br : HEVCBitReader} {behind : List Bool},
    n ≤ left → br.rest = List.replicate n false ++ true :: behind →
      brCountZeros left zeros br = some (zeros + n, br.advance (n + 1)) := by
  intro n
  induction n with
  | zero =>
    intro left zeros br behind _ front
    have bit := brReadBit_rest front
    unfold brCountZeros
    rw [brBind_apply, bit]
    rfl
  | succ n ih =>
    intro left zeros br behind room front
    rw [List.replicate_succ, List.cons_append] at front
    have bit := brReadBit_rest front
    obtain ⟨left, rfl⟩ : ∃ k, left = k + 1 := ⟨left - 1, by omega⟩
    have tail : (br.advance 1).rest = List.replicate n false ++ true :: behind :=
      rest_advance (show br.rest = [false] ++ _ from front)
    have next := ih left (zeros + 1) (by omega) tail
    unfold brCountZeros
    rw [brBind_apply, bit]
    show brCountZeros left (zeros + 1) (br.advance 1) = _
    have count : zeros + 1 + n = zeros + (n + 1) := by omega
    rw [next, advance_advance, count, Nat.add_comm 1]

/-- More zeros than are allowed make the reader give up. -/
theorem brCountZeros_long : ∀ (left zeros : Nat) {br : HEVCBitReader} {behind : List Bool},
    br.rest = List.replicate (left + 1) false ++ behind → brCountZeros left zeros br = none := by
  intro left
  induction left with
  | zero =>
    intro zeros br behind front
    have bit := brReadBit_rest (show br.rest = false :: behind from front)
    unfold brCountZeros
    rw [brBind_apply, bit]
    rfl
  | succ left ih =>
    intro zeros br behind front
    rw [List.replicate_succ, List.cons_append] at front
    have bit := brReadBit_rest front
    have tail : (br.advance 1).rest = List.replicate (left + 1) false ++ behind :=
      rest_advance (show br.rest = [false] ++ _ from front)
    unfold brCountZeros
    rw [brBind_apply, bit]
    exact ih (zeros + 1) tail

theorem brReadInto_rest : ∀ (bits : List Bool) (out : Nat) {br : HEVCBitReader}
    {behind : List Bool}, out < 2 ^ 32 → br.rest = bits ++ behind →
      brReadInto bits.length out br =
        some ((out * 2 ^ bits.length + bitsVal bits) % 2 ^ 32, br.advance bits.length) := by
  intro bits
  induction bits with
  | nil =>
    intro out br behind small _
    have value : (out * 2 ^ ([] : List Bool).length + bitsVal []) % 2 ^ 32 = out := by
      rw [List.length_nil, Nat.pow_zero, Nat.mul_one]
      exact Nat.mod_eq_of_lt small
    rw [value]
    rfl
  | cons bit bits ih =>
    intro out br behind small front
    have read := brReadBit_rest front
    have tail : (br.advance 1).rest = bits ++ behind := 
      rest_advance (show br.rest = [bit] ++ _ from front)
    have next := ih ((out * 2 + bit.toNat) % 2 ^ 32) (Nat.mod_lt _ (by decide)) tail
    have value : ((out * 2 + bit.toNat) % 2 ^ 32 * 2 ^ bits.length + bitsVal bits) % 2 ^ 32 =
        (out * 2 ^ (bits.length + 1) + bitsVal (bit :: bits)) % 2 ^ 32 := by
      rw [bitsVal_cons, Nat.add_mod, Nat.mul_mod, Nat.mod_mod, ← Nat.mul_mod, ← Nat.add_mod]
      congr 1
      ring
    rw [List.length_cons, ← value]
    show (brReadBit >>= fun b => brReadInto bits.length ((out * 2 + b) % 2 ^ 32)) br = _
    rw [brBind_apply, read, Option.bind_some, next, advance_advance, Nat.add_comm 1]

/-! ## What `br_read_ue` returns -/

/-- The sum at the end of `br_read_ue`. -/
def ueResult (zeros : Nat) (suffix : List Bool) : Nat :=
  ((if zeros = 31 then 2 ^ 32 - 1 else 2 ^ zeros - 1) + bitsVal suffix) % 2 ^ 32

theorem brReadUe_code {br : HEVCBitReader} {zeros : Nat} {suffix behind : List Bool}
    (code : CodeAt br zeros suffix behind) (short : zeros ≤ 31) :
    brReadUe br = some (ueResult zeros suffix, br.advance (2 * zeros + 1)) := by
  obtain ⟨rfl, front⟩ := code
  have counted := brCountZeros_rest suffix.length 31 0 short front
  have whole : br.rest =
      (List.replicate suffix.length false ++ [true]) ++ (suffix ++ behind) := by
    rw [front]
    simp
  have tail := rest_advance whole
  rw [List.length_append, List.length_replicate, List.length_singleton] at tail
  have bound := bitsVal_lt suffix
  have width : 2 ^ suffix.length ≤ 2 ^ 31 := Nat.pow_le_pow_right (by decide) short
  have read := brReadInto_rest suffix 0 (by decide) tail
  rw [Nat.zero_mul, Nat.zero_add, Nat.mod_eq_of_lt (by omega), advance_advance] at read
  rw [brReadUe, brBind_apply, counted, Option.bind_some, Nat.zero_add, brBind_apply, read,
    Option.bind_some]
  have moved : suffix.length + 1 + suffix.length = 2 * suffix.length + 1 := by omega
  rw [moved]
  rfl

/-- Where `br_read_ue` succeeds there is a code with at most 31 leading zeros. -/
theorem brReadUe_some {br br' : HEVCBitReader} {value : Nat}
    (h : brReadUe br = some (value, br')) :
    ∃ zeros suffix, zeros ≤ 31 ∧ CodeAt br zeros suffix br'.rest ∧
      value = ueResult zeros suffix ∧ br' = br.advance (2 * zeros + 1) := by
  obtain ⟨⟨zeros, middle⟩, counted, rest⟩ := Option.bind_eq_some_iff.mp h
  obtain ⟨⟨sum, last⟩, read, result⟩ := Option.bind_eq_some_iff.mp rest
  obtain ⟨-, rfl⟩ := Prod.mk.inj (Option.some.inj result)
  have ok : br.Ok := by
    unfold brCountZeros at counted
    obtain ⟨⟨bit, next⟩, first, -⟩ := Option.bind_eq_some_iff.mp counted
    obtain ⟨-, -, -, -, inside⟩ := brReadBit_some first
    exact Nat.le_of_lt inside
  have walked := forward_countZeros 31 0 br zeros middle ok counted
  obtain ⟨n, rfl, short, front⟩ := brCountZeros_some 31 0 counted
  rw [Nat.zero_add] at read
  obtain ⟨suffix, length, behind, -⟩ := brReadInto_some n 0 walked.ok read
  have code : CodeAt br n suffix last.rest := ⟨length, by rw [front, behind]⟩
  have whole := brReadUe_code code short
  obtain ⟨rfl, moved⟩ := Prod.mk.inj (Option.some.inj (h.symm.trans whole))
  exact ⟨n, suffix, short, code, rfl, moved⟩

/-- A reader stands in front of one code at most. -/
theorem CodeAt.unique {br : HEVCBitReader} {zeros zeros' : Nat}
    {suffix suffix' behind behind' : List Bool} (code : CodeAt br zeros suffix behind)
    (code' : CodeAt br zeros' suffix' behind') : zeros = zeros' ∧ suffix = suffix' := by
  have count : ∀ (n : Nat) (rest : List Bool),
      ((List.replicate n false ++ true :: rest).takeWhile (!·)).length = n := by
    intro n rest
    rw [List.takeWhile_append_of_pos (by simp), List.takeWhile_cons_of_neg (by simp)]
    simp
  have zerosEq : zeros = zeros' := by
    rw [← count zeros (suffix ++ behind), ← code.front, code'.front, count]
  subst zerosEq
  have front := code.front.symm.trans code'.front
  have tail := (List.cons.inj (List.append_cancel_left front)).2
  exact ⟨rfl, (List.append_inj tail (code.length.trans code'.length.symm)).1⟩

/-- The standard's reader takes the same code. -/
theorem CodeAt.readUe {br : HEVCBitReader} {zeros : Nat} {suffix behind : List Bool}
    (code : CodeAt br zeros suffix behind) :
    Bitstream.readUe br.rest = some (2 ^ zeros - 1 + bitsVal suffix, behind) := by
  have read := reads_bits suffix behind
  rw [code.length] at read
  rw [code.front, Bitstream.readUe, readUeFrom_replicate, Nat.zero_add, readUeFrom, read,
    Option.map_some]

/-! ## Where reading inverts writing -/

/-- Wherever the bits that `bs_write_ue` has appended for `v` stand in front of a reader,
`br_read_ue` returns `v` and stops behind them. -/
def RoundTrips (v : Nat) : Prop :=
  ∀ (bs : BSWriter) (br : HEVCBitReader) (code following : List Bool), bs.Ok →
    bs.pos + (ueBits v).length ≤ 8 * bs.capacity → (bs.writeUe v).bits = bs.bits ++ code →
      br.rest = code ++ following → brReadUe br = some (v, br.advance code.length)

/-- `br_read_ue` at this position is `ue(v)` with at most 31 leading zeros: it fails on longer
codes, and where the payload ends in front of the end of the code. -/
structure ReadsUe (br : HEVCBitReader) : Prop where
  value : ∀ v br', brReadUe br = some (v, br') → ∃ zeros suffix, zeros ≤ 31 ∧
    CodeAt br zeros suffix br'.rest ∧ v = 2 ^ zeros - 1 + bitsVal suffix
  long : ∀ behind, br.rest = List.replicate 32 false ++ behind → brReadUe br = none
  cut : (∀ zeros suffix behind, ¬ CodeAt br zeros suffix behind) → brReadUe br = none

/-- A code with 31 leading zeros, the most that `br_read_ue` takes. -/
def LongestCode (br : HEVCBitReader) : Prop := ∃ suffix behind, CodeAt br 31 suffix behind

theorem ueResult_eq {zeros : Nat} {suffix : List Bool} (length : suffix.length = zeros)
    (short : zeros < 31) : ueResult zeros suffix = 2 ^ zeros - 1 + bitsVal suffix := by
  have bound := bitsVal_lt suffix
  have width : 2 ^ zeros ≤ 2 ^ 30 := Nat.pow_le_pow_right (by decide) (by omega)
  rw [length] at bound
  rw [ueResult, if_neg (by omega), Nat.mod_eq_of_lt (by omega)]

/-- With 31 leading zeros the value is off by `2^31`. -/
theorem ueResult_longest (suffix : List Bool) :
    ueResult 31 suffix ≠ 2 ^ 31 - 1 + bitsVal suffix := by
  rw [ueResult, if_pos rfl]
  omega

/-- The bits of `ue(v)` as the reader takes them apart. -/
theorem codeAt_ueBits {br : HEVCBitReader} {v : Nat} {following : List Bool}
    (front : br.rest = ueBits v ++ following) :
    CodeAt br (Nat.log2 (v + 1)) (uBits (Nat.log2 (v + 1)) (v + 1)) following where
  length := length_uBits _ _
  front := by
    rw [front, ueBits_eq]
    simp

theorem bitsVal_ueSuffix (v : Nat) :
    2 ^ Nat.log2 (v + 1) - 1 + bitsVal (uBits (Nat.log2 (v + 1)) (v + 1)) = v := by
  rw [bitsVal_uBits, ueBits_value]

/-- What `bs_write_ue` appends where there is room for it. -/
theorem writeUe_bits {bs : BSWriter} {v : Nat} (ok : bs.Ok) (range : v ≤ 2 ^ 32 - 2)
    (room : bs.pos + (ueBits v).length ≤ 8 * bs.capacity) :
    (bs.writeUe v).Ok ∧ (bs.writeUe v).bits = bs.bits ++ ueBits v := by
  have small : v + 1 < 2 ^ 32 := by omega
  obtain ⟨bs', run, ok', -, bits⟩ := emits_ue small bs ok
  obtain ⟨-, rfl⟩ := Prod.mk.inj (Option.some.inj run)
  refine ⟨ok', bits.trans (List.take_of_length_le ?_)⟩
  rw [List.length_append, BSWriter.length_bits ok]
  exact room

theorem roundTrips_iff {v : Nat} (range : v ≤ 2 ^ 32 - 2) : RoundTrips v ↔ v + 1 < 2 ^ 31 := by
  constructor
  · intro trips
    by_contra large
    have zeros : Nat.log2 (v + 1) = 31 := by
      rw [Nat.log2_eq_iff (by omega)]
      omega
    have room : (BSWriter.init 8).pos + (ueBits v).length ≤ 8 * (BSWriter.init 8).capacity := by
      rw [length_ueBits, zeros]
      decide
    obtain ⟨-, bits⟩ := writeUe_bits (BSWriter.init_ok 8) range room
    -- read the writer's own buffer
    have front : (⟨((BSWriter.init 8).writeUe v).data, 0⟩ : HEVCBitReader).rest = ueBits v ++
        (bytesBits ((BSWriter.init 8).writeUe v).data).drop ((BSWriter.init 8).writeUe v).pos := by
      have split := List.take_append_drop ((BSWriter.init 8).writeUe v).pos
        (bytesBits ((BSWriter.init 8).writeUe v).data)
      rw [BSWriter.init_bits, List.nil_append] at bits
      rw [← bits, BSWriter.bits, split]
      exact List.drop_zero
    have back := trips _ _ _ _ (BSWriter.init_ok 8) room bits front
    have code := codeAt_ueBits front
    rw [zeros] at code
    have read := brReadUe_code code (Nat.le_refl 31)
    have value := (Prod.mk.inj (Option.some.inj (back.symm.trans read))).1
    have sum := bitsVal_ueSuffix v
    rw [zeros] at sum
    exact ueResult_longest _ (value.symm.trans sum.symm)
  · intro small bs br code following ok room written front
    obtain ⟨-, bits⟩ := writeUe_bits ok range room
    obtain rfl := List.append_cancel_left (written.symm.trans bits)
    have short : Nat.log2 (v + 1) < 31 := (Nat.log2_lt (by omega)).mpr small
    have code := codeAt_ueBits front
    rw [brReadUe_code code (by omega), ueResult_eq code.length short, bitsVal_ueSuffix,
      length_ueBits]

theorem readsUe_iff (br : HEVCBitReader) : ReadsUe br ↔ ¬ LongestCode br := by
  constructor
  · rintro reads ⟨suffix, behind, code⟩
    obtain ⟨zeros, suffix', -, code', value⟩ :=
      reads.value _ _ (brReadUe_code code (Nat.le_refl 31))
    obtain ⟨rfl, rfl⟩ := code.unique code'
    exact ueResult_longest suffix value
  · intro other
    refine ⟨fun v br' h => ?_, fun behind front => ?_, fun none => ?_⟩
    · obtain ⟨zeros, suffix, short, code, rfl, -⟩ := brReadUe_some h
      refine ⟨zeros, suffix, short, code, ueResult_eq code.length ?_⟩
      refine Nat.lt_of_le_of_ne short ?_
      rintro rfl
      exact other ⟨suffix, br'.rest, code⟩
    · rw [brReadUe, brBind_apply, brCountZeros_long 31 0 front, Option.bind_none]
    · cases h : brReadUe br with
      | none => rfl
      | some result =>
        obtain ⟨zeros, suffix, -, code, -⟩ := brReadUe_some h
        exact absurd code (none zeros suffix _)

/-- Exp-Golomb reading inverts writing below `2^31 - 1` and nowhere else, and is the standard's
`ue(v)` in front of every code that does not have 31 leading zeros. -/
theorem ue_inverse_iff (v : Nat) (range : v ≤ 2 ^ 32 - 2) (br : HEVCBitReader) :
    (RoundTrips v ↔ v + 1 < 2 ^ 31) ∧ (ReadsUe br ↔ ¬ LongestCode br) :=
  ⟨roundTrips_iff range, readsUe_iff br⟩

theorem ue_inverse_iff_five :
    (RoundTrips 5 ↔ 5 + 1 < 2 ^ 31) ∧ (ReadsUe ⟨[0x30], 0⟩ ↔ ¬ LongestCode ⟨[0x30], 0⟩) :=
  ue_inverse_iff 5 (by decide) ⟨[0x30], 0⟩

/-- `2^31 - 1` is written with 31 leading zeros and comes back as `2^32 - 1`. -/
theorem longestCode_misread : ¬ RoundTrips (2 ^ 31 - 1) ∧
    brReadUe ⟨((BSWriter.init 8).writeUe (2 ^ 31 - 1)).data, 0⟩ =
      some (2 ^ 32 - 1, ⟨((BSWriter.init 8).writeUe (2 ^ 31 - 1)).data, 63⟩) ∧
    ¬ ReadsUe ⟨((BSWriter.init 8).writeUe (2 ^ 31 - 1)).data, 0⟩ := by
  have data : ((BSWriter.init 8).writeUe (2 ^ 31 - 1)).data = [0, 0, 0, 1, 0, 0, 0, 0] := by
    decide +kernel
  have code : CodeAt ⟨[0, 0, 0, 1, 0, 0, 0, 0], 0⟩ 31 (List.replicate 31 false) [false] :=
    ⟨rfl, by decide +kernel⟩
  rw [data]
  refine ⟨?_, by decide +kernel, ?_⟩
  · rw [roundTrips_iff (by decide)]
    decide
  · rw [readsUe_iff]
    exact not_not.mpr ⟨_, _, code⟩

end RockchipVaapi.Hevc
