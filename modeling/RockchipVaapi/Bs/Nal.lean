import RockchipVaapi.Bs.Writer
import RockchipVaapi.Misc.SyntaxReader

/-!
# From emitted bits to NAL units

`h264.c` and `hevc.c` each hold a copy of the same `emulation_prevent` loop. It is modelled
once, with the capacity of the destination, and shown to be `escape` where the destination is
large enough. The second half reads a NAL unit back: the payload is unescaped, the syntax
reader must stop exactly at `rbsp_trailing_bits()`.
-/

namespace RockchipVaapi
open Bitstream

-- the fields of two and four bits, whose values are written as literals
instance neZero_four : NeZero 4 := ⟨by decide⟩

instance neZero_sixteen : NeZero 16 := ⟨by decide⟩

/-- The loop of `emulation_prevent` (`hevc.c:191-210`, `h264.c:83-98`) into a destination of
`dstSize` bytes. The result `[]` is the return value zero. -/
def emulationPreventLoop (dstSize : Nat) : List UInt8 → Nat → List UInt8 → List UInt8
  | [], _, out => out
  | b :: src, zeros, out =>
    if 2 ≤ zeros ∧ b ≤ 3 then
      if dstSize ≤ out.length then []
      else if dstSize ≤ out.length + 1 then []
      else emulationPreventLoop dstSize src (if b = 0 then 1 else 0) (out ++ [3, b])
    else if dstSize ≤ out.length then []
    else emulationPreventLoop dstSize src (if b = 0 then zeros + 1 else 0) (out ++ [b])

/-- `emulation_prevent`: the bytes written to the destination, none when they do not fit. -/
def emulationPrevent (src : List UInt8) (dstSize : Nat) : List UInt8 :=
  emulationPreventLoop dstSize src 0 []

theorem emulationPreventLoop_eq (dstSize : Nat) :
    ∀ (src : List UInt8) (zeros : Nat) (out : List UInt8), out.length ≤ dstSize →
      emulationPreventLoop dstSize src zeros out =
        if (out ++ escapeFrom zeros src).length ≤ dstSize then out ++ escapeFrom zeros src
        else [] := by
  intro src
  induction src with
  | nil =>
    intro zeros out h
    simp [emulationPreventLoop, escapeFrom, h]
  | cons b src ih =>
    intro zeros out h
    rw [emulationPreventLoop, escapeFrom]
    split
    · by_cases h1 : dstSize ≤ out.length + 1
      · have big : ¬ (out ++ 3 :: b :: escapeFrom (if b = 0 then 1 else 0) src).length ≤ dstSize := by
          simp
          omega
        rw [if_neg big]
        simp [h1]
      · rw [if_neg (by omega), if_neg h1, ih _ _ (by simp; omega)]
        simp [Nat.add_assoc]
    · by_cases h1 : dstSize ≤ out.length
      · have big : ¬ (out ++ b :: escapeFrom (if b = 0 then zeros + 1 else 0) src).length ≤ dstSize := by
          simp
          omega
        rw [if_pos h1, if_neg big]
      · rw [if_neg h1, ih _ _ (by simp; omega)]
        simp

/-- `emulation_prevent` is emulation prevention, unless the destination is too small. -/
theorem emulationPrevent_eq (src : List UInt8) (dstSize : Nat) :
    emulationPrevent src dstSize = if (escape src).length ≤ dstSize then escape src else [] := by
  rw [emulationPrevent, emulationPreventLoop_eq dstSize src 0 [] (Nat.zero_le _)]
  rfl

theorem emulationPrevent_written {src : List UInt8} {dstSize : Nat}
    (written : emulationPrevent src dstSize ≠ []) : emulationPrevent src dstSize = escape src := by
  rw [emulationPrevent_eq] at written ⊢
  split at written
  · rename_i room
    rw [if_pos room]
  · exact absurd rfl written

theorem length_escapeFrom_le (bytes : List UInt8) (zeros : Nat) :
    (escapeFrom zeros bytes).length ≤ 2 * bytes.length := by
  induction bytes generalizing zeros with
  | nil => simp [escapeFrom]
  | cons b bytes ih =>
    rw [escapeFrom]
    split
    · have := ih (if b = 0 then 1 else 0)
      simp only [List.length_cons]
      omega
    · have := ih (if b = 0 then zeros + 1 else 0)
      simp only [List.length_cons]
      omega

/-! ## Reading a NAL unit back -/

/-- What is left of an RBSP once its syntax has been read: a one and zeros, within a byte. -/
def isTrailing (bits : List Bool) : Bool :=
  bits.head? == some true && bits.tail.all (fun bit => !bit) && decide (bits.length ≤ 8)

/-- `more_rbsp_data()`: a one follows the current position and is not the last one. -/
def moreRbspData (bits : List Bool) : Bool := bits.tail.any id

/-- Read the RBSP of a NAL unit payload; the syntax must end at `rbsp_trailing_bits()`. -/
def readRbsp {α : Type} (p : Reader α) (payload : List UInt8) : Option α :=
  match p (bytesBits (unescape payload)) with
  | some (v, rest) => if isTrailing rest then some v else none
  | none => none

theorem isTrailing_trailingBits (n : Nat) : isTrailing (trailingBits n) = true := by
  have length : (trailingBits n).length ≤ 8 := by
    rw [trailingBits, List.length_cons, List.length_replicate]
    omega
  unfold isTrailing
  rw [decide_eq_true length, Bool.and_true]
  simp [trailingBits]

theorem moreRbspData_trailingBits (n : Nat) : moreRbspData (trailingBits n) = false := by
  simp [moreRbspData, trailingBits]

/-- Data that ends in a one, and is more than that, is more data than the trailing bits. -/
theorem moreRbspData_append {bits : List Bool} (h : true ∈ bits.tail) (rest : List Bool) :
    moreRbspData (bits ++ rest) = true := by
  cases bits with
  | nil => simp at h
  | cons b bits =>
    simp only [moreRbspData, List.cons_append, List.tail_cons, List.any_append]
    simp only [List.tail_cons] at h
    simp [List.any_eq_true, h]

theorem readRbsp_escape {α : Type} {p : Reader α} {rbsp : List UInt8} {v : α} {rest : List Bool}
    (read : p (bytesBits rbsp) = some (v, rest)) (trailing : isTrailing rest = true) :
    readRbsp p (escape rbsp) = some v := by
  rw [readRbsp, unescape_escape, read]
  simp [trailing]

/-- The last byte of an RBSP that ends in `rbsp_trailing_bits()` is not zero. -/
theorem getLast?_ne_zero_of_trailing {bytes : List UInt8} {bits : List Bool}
    (h : bytesBits bytes = bits ++ trailingBits bits.length) : bytes.getLast? ≠ some 0 := by
  intro last
  obtain ⟨front, rfl⟩ : ∃ front, bytes = front ++ [0] := by
    rw [List.getLast?_eq_some_iff] at last
    exact last
  have zeros : bytesBits (front ++ [0]) = bytesBits front ++ List.replicate 8 false := by
    rw [bytesBits_append]
    congr 1
  have whole := congrArg List.length h
  rw [zeros] at h whole
  simp only [List.length_append, length_bytesBits, List.length_replicate, length_trailingBits] at whole
  -- position `bits.length` holds the stop bit and lies in the last byte
  have stop := congrArg (fun l : List Bool => l[bits.length]?) h
  simp only [trailingBits] at stop
  rw [List.getElem?_append_right (Nat.le_refl _), List.getElem?_append_right (by simp; omega)] at stop
  rw [List.getElem?_replicate, if_pos (by simp; omega)] at stop
  simp at stop

end RockchipVaapi
