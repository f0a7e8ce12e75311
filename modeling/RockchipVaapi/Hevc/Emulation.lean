import RockchipVaapi.Hevc.SliceRewriteProofs

/-!
# Emulation prevention and its inverse

`h264.c` and `hevc.c` escape a payload with two copies of one loop, which differ in the C type of
the counter of zeros. Neither type matters, since the counter never passes two. `hevc.c` takes a
slice payload apart again with `unescape_prefix`, which undoes the escaping but keeps a `03` at the
very end of a NAL unit.
-/

namespace RockchipVaapi
open Bitstream

/-- The loop of both copies of `emulation_prevent`, over the C type `ζ` of `zeros`: its zero, its
increment and the test `zeros >= 2`. The result `[]` is the return value zero. -/
def emulationPreventCopyLoop {ζ : Type} (zero : ζ) (increment : ζ → ζ) (atLeastTwo : ζ → Bool)
    (dstSize : Nat) : List UInt8 → ζ → List UInt8 → List UInt8
  | [], _, out => out
  | b :: src, zeros, out =>
    if atLeastTwo zeros ∧ b ≤ 3 then
      if dstSize ≤ out.length then []
      else if dstSize ≤ out.length + 1 then []
      else emulationPreventCopyLoop zero increment atLeastTwo dstSize src
        (if b = 0 then increment zero else zero) (out ++ [3, b])
    else if dstSize ≤ out.length then []
    else emulationPreventCopyLoop zero increment atLeastTwo dstSize src
      (if b = 0 then increment zeros else zero) (out ++ [b])

/-- `emulation_prevent` of `hevc.c` (`hevc.c:191-210`), with `unsigned int zeros`. -/
def hevcEmulationPrevent (src : List UInt8) (dstSize : Nat) : List UInt8 :=
  emulationPreventCopyLoop (0 : UInt32) (· + 1) (fun zeros => decide (2 ≤ zeros)) dstSize src 0 []

/-- `emulation_prevent` of `h264.c` (`h264.c:83-98`), with `int zeros`. -/
def h264EmulationPrevent (src : List UInt8) (dstSize : Nat) : List UInt8 :=
  emulationPreventCopyLoop (0 : Int32) (· + 1) (fun zeros => decide (2 ≤ zeros)) dstSize src 0 []

/-- `counter k` is the value of the counter after `k` zeros, for the three values it takes. -/
structure CountsZeros {ζ : Type} (zero : ζ) (increment : ζ → ζ) (atLeastTwo : ζ → Bool)
    (counter : Nat → ζ) : Prop where
  zero : counter 0 = zero
  increment : ∀ k < 2, increment (counter k) = counter (k + 1)
  atLeastTwo : ∀ k ≤ 2, atLeastTwo (counter k) = decide (2 ≤ k)

/-- The counter stays below three: a third zero is escaped, and counting starts again. -/
theorem emulationPreventCopyLoop_eq {ζ : Type} {zero : ζ} {increment : ζ → ζ}
    {atLeastTwo : ζ → Bool} {counter : Nat → ζ}
    (counts : CountsZeros zero increment atLeastTwo counter) (dstSize : Nat) :
    ∀ (src : List UInt8) (k : Nat) (out : List UInt8), k ≤ 2 →
      emulationPreventCopyLoop zero increment atLeastTwo dstSize src (counter k) out =
        emulationPreventLoop dstSize src k out := by
  have first : increment zero = counter 1 := by rw [← counts.zero]; exact counts.increment 0 (by omega)
  intro src
  induction src with
  | nil => intro k out _; rfl
  | cons b src ih =>
    intro k out small
    have restart : (if b = 0 then increment zero else zero) = counter (if b = 0 then 1 else 0) := by
      split
      · exact first
      · exact counts.zero.symm
    rw [emulationPreventCopyLoop, emulationPreventLoop, counts.atLeastTwo k small, restart,
      ih _ _ (by split <;> omega)]
    simp only [decide_eq_true_eq]
    by_cases escaped : 2 ≤ k ∧ b ≤ 3
    · rw [if_pos escaped, if_pos escaped]
    · rw [if_neg escaped, if_neg escaped]
      have next : (if b = 0 then increment (counter k) else zero) =
          counter (if b = 0 then k + 1 else 0) := by
        split
        · rename_i isZero
          refine counts.increment k (Nat.lt_of_not_le fun two => escaped ⟨two, ?_⟩)
          rw [isZero]
          decide
        · exact counts.zero.symm
      by_cases isZero : b = 0
      · have fewer : k < 2 := Nat.lt_of_not_le fun two => escaped ⟨two, by rw [isZero]; decide⟩
        rw [next, if_pos isZero, ih (k + 1) _ fewer]
      · rw [next, if_neg isZero, ih 0 _ (by omega)]

theorem hevcEmulationPrevent_eq (src : List UInt8) (dstSize : Nat) :
    hevcEmulationPrevent src dstSize = emulationPrevent src dstSize := by
  have counts : CountsZeros (0 : UInt32) (· + 1) (fun zeros => decide (2 ≤ zeros)) UInt32.ofNat :=
    ⟨rfl, by decide, by decide⟩
  exact emulationPreventCopyLoop_eq counts dstSize src 0 [] (by omega)

theorem h264EmulationPrevent_eq (src : List UInt8) (dstSize : Nat) :
    h264EmulationPrevent src dstSize = emulationPrevent src dstSize := by
  have counts : CountsZeros (0 : Int32) (· + 1) (fun zeros => decide (2 ≤ zeros)) Int32.ofNat :=
    ⟨rfl, by decide, by decide⟩
  exact emulationPreventCopyLoop_eq counts dstSize src 0 [] (by omega)

/-- Every inserted byte uses up two zeros. -/
theorem length_escapeFrom_le_half (bytes : List UInt8) (zeros : Nat) :
    (escapeFrom zeros bytes).length ≤ bytes.length + (bytes.length + zeros) / 2 := by
  induction bytes generalizing zeros with
  | nil => simp [escapeFrom]
  | cons b bytes ih =>
    rw [escapeFrom]
    by_cases isZero : b = 0
    · have kept := ih (zeros + 1)
      have restarted := ih 1
      simp only [isZero, if_true]
      split <;> simp only [List.length_cons] <;> omega
    · have restarted := ih 0
      simp only [isZero, if_false]
      split <;> simp only [List.length_cons] <;> omega

theorem length_escape_le (bytes : List UInt8) :
    (escape bytes).length ≤ bytes.length + bytes.length / 2 :=
  length_escapeFrom_le_half bytes 0

theorem escape_eq_nil {bytes : List UInt8} : escape bytes = [] ↔ bytes = [] := by
  constructor
  · intro h
    by_contra ne
    exact escapeFrom_ne_nil ne h
  · rintro rfl
    rfl

theorem emulationPrevent_eq_nil (x : List UInt8) (c : Nat) :
    emulationPrevent x c = [] ↔ c < (escape x).length ∨ x = [] := by
  rw [emulationPrevent_eq]
  split
  · rename_i room
    rw [escape_eq_nil]
    constructor
    · exact .inr
    · rintro (less | empty)
      · omega
      · exact empty
  · rename_i room
    simp only [true_iff]
    exact .inl (by omega)

/-- Both copies of `emulation_prevent` fail exactly where the escaped payload does not fit or there
is none. Otherwise the output holds no start code, is at most half as long again, and
`unescape_prefix` takes it back into a buffer as long as the payload. -/
theorem emulationPrevent_reversible (x : List UInt8) (c : Nat) :
    h264EmulationPrevent x c = hevcEmulationPrevent x c ∧
    (hevcEmulationPrevent x c = [] ↔ c < (escape x).length ∨ x = []) ∧
    (hevcEmulationPrevent x c ≠ [] →
      NoStartCode (hevcEmulationPrevent x c) ∧
      (hevcEmulationPrevent x c).length ≤ x.length + x.length / 2 ∧
      Hevc.unescapePrefix (hevcEmulationPrevent x c) x.length = x) := by
  rw [h264EmulationPrevent_eq, hevcEmulationPrevent_eq]
  refine ⟨rfl, emulationPrevent_eq_nil x c, fun written => ?_⟩
  have escaped : emulationPrevent x c = escape x := emulationPrevent_written written
  have back := Hevc.unescapePrefixLoop_escapeFrom x.length x 0 [] (by simp)
  rw [escaped]
  exact ⟨noStartCode_escape x, length_escape_le x, back⟩

theorem emulationPrevent_reversible_zeros :
    NoStartCode (hevcEmulationPrevent [0, 0, 0, 0, 0, 3] 8) ∧
      (hevcEmulationPrevent [0, 0, 0, 0, 0, 3] 8).length ≤ 6 + 6 / 2 ∧
      Hevc.unescapePrefix (hevcEmulationPrevent [0, 0, 0, 0, 0, 3] 8) 6 = [0, 0, 0, 0, 0, 3] :=
  (emulationPrevent_reversible [0, 0, 0, 0, 0, 3] 8).2.2 (by decide)

/-! ## The standard's encapsulation -/

/-- The payload of a NAL unit as H.265 7.3.1.1 and 7.4.2 make it from an RBSP: emulation prevention,
and a final `03` behind two zero bytes, with which `cabac_zero_words` end. -/
def encapsulate (rbsp : List UInt8) : List UInt8 :=
  if [0, 0] <:+ rbsp then escape rbsp ++ [3] else escape rbsp

/-- `unescape_prefix` gives back the RBSP wherever the destination is large enough. -/
def Unescapes (rbsp : List UInt8) : Prop :=
  ∀ room, (encapsulate rbsp).length ≤ room → Hevc.unescapePrefix (encapsulate rbsp) room = rbsp

/-- Behind the escaped payload a final `03` is like any other byte to `unescape_prefix`. -/
theorem unescapePrefixLoop_final (dstSize : Nat) : ∀ (rbsp : List UInt8) (zeros : Nat)
    (out : List UInt8), out.length + rbsp.length + 1 ≤ dstSize →
      Hevc.unescapePrefixLoop dstSize (escapeFrom zeros rbsp ++ [3]) zeros out =
        out ++ rbsp ++ [3] := by
  intro rbsp
  induction rbsp with
  | nil =>
    intro zeros out room
    have last : ¬ (2 ≤ zeros ∧ (3 : UInt8) = 3 ∧ ([] : List UInt8).head?.any (· ≤ 3) = true) := by
      simp
    rw [List.length_nil] at room
    rw [escapeFrom, List.nil_append, Hevc.unescapePrefixLoop, if_neg (by omega), if_neg last]
    simp [Hevc.unescapePrefixLoop]
  | cons b rbsp ih =>
    intro zeros out room
    rw [List.length_cons] at room
    rw [escapeFrom]
    split
    · rename_i escaped
      have next := ih (if b = 0 then 1 else 0) (out ++ [b]) (by simp; omega)
      have dropped : 2 ≤ zeros ∧ (3 : UInt8) = 3 ∧
          (b :: (escapeFrom (if b = 0 then 1 else 0) rbsp ++ [3])).head?.any (· ≤ 3) = true :=
        ⟨escaped.1, rfl, by simpa using escaped.2⟩
      rw [List.cons_append, List.cons_append, Hevc.unescapePrefixLoop, if_neg (by omega),
        if_pos dropped, Hevc.unescapePrefixLoop, if_neg (by omega), if_neg (by omega),
        Nat.zero_add, next]
      simp
    · rename_i kept
      have next := ih (if b = 0 then zeros + 1 else 0) (out ++ [b]) (by simp; omega)
      have keep : ¬ (2 ≤ zeros ∧ b = 3 ∧
          (escapeFrom (if b = 0 then zeros + 1 else 0) rbsp ++ [3]).head?.any (· ≤ 3) = true) := by
        rintro ⟨hz, rfl, -⟩
        exact kept ⟨hz, UInt8.le_refl _⟩
      rw [List.cons_append, Hevc.unescapePrefixLoop, if_neg (by omega), if_neg keep, next]
      simp

/-- The payload that the driver finds in a conforming NAL unit: the RBSP, and the final `03` that
it does not take for an emulation prevention byte. -/
def driverRbsp (rbsp : List UInt8) : List UInt8 :=
  if [0, 0] <:+ rbsp then rbsp ++ [3] else rbsp

theorem unescapePrefix_encapsulate (rbsp : List UInt8) {room : Nat}
    (enough : (encapsulate rbsp).length ≤ room) :
    Hevc.unescapePrefix (encapsulate rbsp) room = driverRbsp rbsp := by
  have longer : rbsp.length ≤ (escape rbsp).length := Hevc.length_le_escapeFrom rbsp 0
  unfold encapsulate at enough ⊢
  unfold driverRbsp
  split at enough
  · rename_i zeros
    rw [List.length_append, List.length_singleton] at enough
    rw [if_pos zeros, if_pos zeros]
    exact unescapePrefixLoop_final room rbsp 0 [] (by simp; omega)
  · rename_i other
    rw [if_neg other, if_neg other]
    exact Hevc.unescapePrefix_escape enough

theorem unescapes_iff (rbsp : List UInt8) : Unescapes rbsp ↔ ¬ [0, 0] <:+ rbsp := by
  constructor
  · intro h zeros
    have whole := h _ (Nat.le_refl _)
    rw [unescapePrefix_encapsulate rbsp (Nat.le_refl _), driverRbsp, if_pos zeros] at whole
    have lengths := congrArg List.length whole
    rw [List.length_append, List.length_singleton] at lengths
    omega
  · intro other room enough
    rw [unescapePrefix_encapsulate rbsp enough, driverRbsp, if_neg other]

end RockchipVaapi
