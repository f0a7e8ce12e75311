import RockchipVaapi.Bs.Writer

/-!
# Sequences of calls of the bit writer

`BsCall` is a call of one of the writing functions of `bs.h` with its C arguments, and
`BsCall.run` is what it does. `BsCall.fields` is the bit string that a sequence of calls spells,
as if the buffer had no end. Any sequence leaves the front of that string in the buffer, and zeros
behind it. A full buffer is byte aligned, so an alignment loop ends there as well.
-/

namespace RockchipVaapi
open Bitstream

/-- A call of a writing function of `bs.h`, without its writer. -/
inductive BsCall
  | write1 (bit : Int32)
  | write (val : UInt32) (n : Int32)
  | writeUe (val : UInt32)
  | writeSe (val : Int32)
  | rbspTrailing
  deriving DecidableEq, Repr

/-- `bs_write_se` (`bs.h:44-47`). The product is computed in `int` before the cast, so one beyond
`INT_MAX` is undefined. -/
def bsWriteSeInt (val : Int) : BsM Unit :=
  let product := if val ≤ 0 then -2 * val else 2 * val
  if 2 ^ 31 - 1 < product then bsFail else bsWriteSe val

/-- A call as a statement of an emitter. It fails where C leaves it undefined: a shift of a
`uint32_t` by 32 or more, or an `int` product that overflows. -/
def BsCall.run : BsCall → BsM Unit
  | write1 bit => bsWrite1 bit.toBitVec.toNat
  | write val n => if 32 < n.toInt then bsFail else bsWrite val.toNat n.toInt.toNat
  | writeUe val => bsWriteUe val.toNat
  | writeSe val => bsWriteSeInt val.toInt
  | rbspTrailing => bsRbspTrailing

/-- A sequence of calls. -/
def runCalls : List BsCall → BsM Unit := bsEach BsCall.run

/-- The arguments whose field is an Exp-Golomb or a fixed-width code of them. -/
def BsCall.InRange : BsCall → Prop
  | write1 _ | rbspTrailing => True
  | write _ n => n.toInt ≤ 32
  | writeUe val => val.toNat ≤ 2 ^ 32 - 2
  | writeSe val => val.toInt.natAbs < 2 ^ 30

/-- The bits a call writes behind `written` bits, most significant bit first. -/
def BsCall.field (written : Nat) : BsCall → List Bool
  | write1 bit => [bit.toBitVec.toNat &&& 1 == 1]
  | write val n => uBits n.toInt.toNat val.toNat
  | writeUe val => ueBits val.toNat
  | writeSe val => seBits val.toInt
  | rbspTrailing => trailingBits written

/-- The fields of a sequence of calls behind `written` bits, one after the other. -/
def BsCall.fields : Nat → List BsCall → List Bool
  | _, [] => []
  | written, call :: calls =>
    call.field written ++ fields (written + (call.field written).length) calls

/-! ## One call -/

/-- The writer has a buffer of `cap` bytes, which holds the front of `written` and zeros. -/
structure BSWriter.Holds (bs : BSWriter) (cap : Nat) (written : List Bool) : Prop where
  ok : bs.Ok
  capacity : bs.capacity = cap
  bits : bs.bits = written.take (8 * cap)

namespace BSWriter

variable {bs : BSWriter} {cap : Nat} {written : List Bool}

theorem holds_init (cap : Nat) : (init cap).Holds cap [] :=
  ⟨init_ok cap, init_capacity cap, by simp⟩

theorem Holds.pos_eq (h : bs.Holds cap written) : bs.pos = min (8 * cap) written.length := by
  rw [← length_bits h.ok, h.bits, List.length_take]

theorem Holds.bytePos_le (h : bs.Holds cap written) : bs.bytePos ≤ cap := by
  have inside := h.ok.pos_le
  rw [h.capacity] at inside
  unfold pos at inside
  omega

/-- A full buffer is byte aligned. -/
theorem Holds.aligned_of_full (h : bs.Holds cap written) (full : bs.bytePos = cap) :
    bs.bitPos = 0 := by
  have inside := h.ok.pos_le
  rw [h.capacity] at inside
  unfold pos at inside
  omega

theorem Holds.bytes_le (h : bs.Holds cap written) : bs.bytes ≤ cap := by
  have inside := h.bytePos_le
  unfold bytes
  split
  · -- a partly filled byte lies in front of the end
    have partly : bs.bytePos ≠ cap := fun full => by
      have := h.aligned_of_full full
      omega
    omega
  · omega

/-- A statement that emits a field emits it behind what was written. -/
theorem Holds.emits {m : BsM Unit} {field : List Bool} (h : bs.Holds cap written)
    (emits : Emits m field) : ∃ bs', m bs = some ((), bs') ∧ bs'.Holds cap (written ++ field) := by
  obtain ⟨bs', run, ok, capacity, bits⟩ := emits bs h.ok
  refine ⟨bs', run, ok, capacity.trans h.capacity, ?_⟩
  rw [bits, h.capacity, h.bits, take_append_cut]

/-- The alignment loop of a writer that satisfies its invariant ends on a byte boundary. -/
theorem alignLoop_ends (ok : bs.Ok) : ∃ bs', alignLoop 7 bs = some bs' ∧ bs'.bitPos = 0 := by
  have short : (8 - bs.bitPos) % 8 ≤ 7 := by omega
  obtain ⟨bs', run, -, -, aligned, -⟩ := alignLoop_ok 7 bs ok short
  exact ⟨bs', run, aligned⟩

end BSWriter

/-! ## Sequences of calls -/

/-- `bs_rbsp_trailing` completes what is there to whole bytes. Behind a full buffer it writes
nothing, and its loop ends at once. -/
theorem BSWriter.Holds.trailing {bs : BSWriter} {cap : Nat} {written : List Bool}
    (h : bs.Holds cap written) : ∃ bs', bsRbspTrailing bs = some ((), bs') ∧
      bs'.Holds cap (written ++ trailingBits written.length) := by
  obtain ⟨bs₁, run₁, h₁⟩ := h.emits (emits_write1 1)
  have short : (8 - bs₁.bitPos) % 8 ≤ 7 := by omega
  obtain ⟨bs₂, run₂, ok, capacity, -, bits⟩ := BSWriter.alignLoop_ok 7 bs₁ h₁.ok short
  refine ⟨bs₂, ?_, ok, capacity.trans h₁.capacity, ?_⟩
  · show (bsWrite1 1 bs).bind (fun r => bsAlign r.2) = _
    rw [run₁, Option.bind_some, bsAlign, run₂]
    rfl
  · have position := h₁.pos_eq
    have small := h₁.ok.bitPos_lt
    rw [List.length_append, List.length_singleton] at position
    unfold BSWriter.pos at position
    rw [bits, h₁.bits, trailingBits]
    by_cases room : written.length < 8 * cap
    · -- the stop bit is written, and the byte it stands in lies inside the buffer
      have fill : (8 - bs₁.bitPos) % 8 = 7 - written.length % 8 := by omega
      rw [fill, List.take_of_length_le (by rw [List.length_append, List.length_singleton]; omega),
        List.take_of_length_le (by
          rw [List.length_append, List.length_cons, List.length_replicate]
          omega)]
      simp
    · have fill : (8 - bs₁.bitPos) % 8 = 0 := by omega
      rw [fill, List.replicate_zero, List.append_nil, List.take_append_of_le_length (by omega),
        List.take_append_of_le_length (by omega)]

/-- A call in range succeeds and appends its field. -/
theorem BSWriter.Holds.call {bs : BSWriter} {cap : Nat} {written : List Bool}
    (h : bs.Holds cap written) (call : BsCall) (inRange : call.InRange) :
    ∃ bs', call.run bs = some ((), bs') ∧
      bs'.Holds cap (written ++ call.field written.length) := by
  cases call with
  | write1 bit => exact h.emits (emits_write1 _)
  | write val n =>
    have shift : ¬ 32 < n.toInt := Int.not_lt.mpr inRange
    obtain ⟨bs', run, h'⟩ := h.emits (emits_write val.toNat n.toInt.toNat)
    exact ⟨bs', by rw [BsCall.run, if_neg shift, run], h'⟩
  | writeUe val =>
    have small : val.toNat ≤ 2 ^ 32 - 2 := inRange
    exact h.emits (emits_ue (by omega))
  | writeSe val =>
    have small : val.toInt.natAbs < 2 ^ 30 := inRange
    have emits : Emits (bsWriteSe val.toInt) (seBits val.toInt) := emits_se (by omega) (by omega)
    obtain ⟨bs', run, h'⟩ := h.emits emits
    refine ⟨bs', ?_, h'⟩
    have product : ¬ 2 ^ 31 - 1 < if val.toInt ≤ 0 then -2 * val.toInt else 2 * val.toInt := by
      split <;> omega
    rw [BsCall.run, bsWriteSeInt, if_neg product, run]
  | rbspTrailing => exact h.trailing

/-- Every sequence of calls in range succeeds and appends its fields. -/
theorem BSWriter.Holds.calls {cap : Nat} : ∀ (calls : List BsCall) {bs : BSWriter}
    {written : List Bool}, bs.Holds cap written → (∀ call ∈ calls, call.InRange) →
    ∃ bs', runCalls calls bs = some ((), bs') ∧
      bs'.Holds cap (written ++ BsCall.fields written.length calls) := by
  intro calls
  induction calls with
  | nil =>
    intro bs written h _
    exact ⟨bs, rfl, by simpa [BsCall.fields] using h⟩
  | cons call calls ih =>
    intro bs written h inRange
    obtain ⟨bs₁, run₁, h₁⟩ := h.call call (inRange call List.mem_cons_self)
    obtain ⟨bs₂, run₂, h₂⟩ := ih h₁ fun other mem => inRange other (List.mem_cons_of_mem _ mem)
    refine ⟨bs₂, ?_, ?_⟩
    · show (call.run bs).bind (fun r => runCalls calls r.2) = _
      rw [run₁, Option.bind_some, run₂]
    · rw [List.length_append, List.append_assoc] at h₂
      exact h₂

/-! ## What a sequence leaves -/

/-- What `calls` leave of a fresh writer on `cap` bytes. -/
structure BSWriter.Written (bs : BSWriter) (cap : Nat) (calls : List BsCall) : Prop where
  capacity : bs.capacity = cap
  front : (bytesBits bs.data).take (8 * bs.bytePos + bs.bitPos) =
    (BsCall.fields 0 calls).take (8 * cap)
  zeros : ∀ i, 8 * bs.bytePos + bs.bitPos ≤ i → i < 8 * cap → (bytesBits bs.data)[i]? = some false
  bitPos_lt : bs.bitPos < 8
  bytePos_le : bs.bytePos ≤ cap
  aligned_of_full : bs.bytePos = cap → bs.bitPos = 0
  bytes_le : bs.bytes ≤ cap
  ends : ∃ bs', alignLoop 7 bs = some bs' ∧ bs'.bitPos = 0

theorem BSWriter.Holds.written {bs : BSWriter} {cap : Nat} {calls : List BsCall}
    (h : bs.Holds cap (BsCall.fields 0 calls)) : bs.Written cap calls where
  capacity := h.capacity
  front := h.bits
  zeros := by
    have zero := h.ok.zero
    rw [h.capacity] at zero
    exact zero
  bitPos_lt := h.ok.bitPos_lt
  bytePos_le := h.bytePos_le
  aligned_of_full := h.aligned_of_full
  bytes_le := h.bytes_le
  ends := alignLoop_ends h.ok

/-- Every sequence of calls in range succeeds on every buffer, whatever its size. -/
theorem runCalls_written (cap : Nat) {calls : List BsCall}
    (inRange : ∀ call ∈ calls, call.InRange) :
    ∃ bs, runCalls calls (BSWriter.init cap) = some ((), bs) ∧ bs.Written cap calls := by
  obtain ⟨bs, run, holds⟩ := (BSWriter.holds_init cap).calls calls inRange
  rw [List.nil_append, List.length_nil] at holds
  exact ⟨bs, run, holds.written⟩

end RockchipVaapi
