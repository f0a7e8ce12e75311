import RockchipVaapi.Misc.Guarded
import RockchipVaapi.Vp9.Header

/-!
# The VP9 header with checked accesses

`read_bits` returns a value for every position of a list. Here the parser stands once more, with the
same words in the same order, but an access to a byte behind the end of the packet stops it.
-/

namespace RockchipVaapi.Vp9.Checked
open Guarded

/-- A byte is read behind the end of the packet. -/
structure Fault where
  byte : Nat
  deriving DecidableEq, Repr

abbrev ReadM (α : Type) := Program Fault BitReader α

/-- `data[byte]`. -/
def byteAt (data : List UInt8) (byte : Nat) : Except Fault UInt8 :=
  if data.length ≤ byte then .error ⟨byte⟩ else .ok (data.getD byte 0)

def readInto (data : List UInt8) : Nat → Nat → Nat → Except Fault Nat
  | 0, _, result => .ok result
  | count + 1, pos, result => do
    let byte ← byteAt data (pos / 8)
    let bit := (byte.toNat >>> (7 - pos % 8)) &&& 1
    readInto data count (pos + 1) ((result * 2 + bit) % 2 ^ 32)

def readBits (count : Nat) : ReadM Nat := fun reader =>
  let bitSize := reader.data.length * 8
  if 32 < count ∨ bitSize < reader.bitPos ∨ bitSize - reader.bitPos < count then .ok none
  else (readInto reader.data count reader.bitPos 0).map fun value =>
    some (value, { reader with bitPos := reader.bitPos + count })

def readProfile : ReadM Nat := do
  let lowBit ← readBits 1
  let highBit ← readBits 1
  let parsed := lowBit + 2 * highBit
  if parsed = 3 then
    let reservedZero ← readBits 1
    if reservedZero ≠ 0 then giveUp else return parsed
  else return parsed

def skipColorConfig (profile : Nat) : ReadM Unit := do
  if 2 ≤ profile then
    let bitDepth ← readBits 1
    if bitDepth ≠ 0 then giveUp
  let colorSpace ← readBits 3
  if colorSpace = 7 then giveUp
  let _range ← readBits 1

def readSyncCode (profile : Nat) : ReadM Unit := do
  let sync ← readBits 24
  if sync ≠ 0x498342 then giveUp
  if 0 < profile then skipColorConfig profile

def readFrame (profile : Nat) : ReadM RKVP9FrameInfo := do
  let frameType ← readBits 1
  let showFrame ← readBits 1
  let errorResilient ← readBits 1
  let info := { RKVP9FrameInfo.zero with showFrame := showFrame != 0 }
  if frameType = 0 then
    readSyncCode profile
    return { info with refreshFrameFlags := 0xff }
  else
    let intraOnly ← if showFrame = 0 then readBits 1 else pure 0
    if errorResilient = 0 then
      let _reset ← readBits 2
    if intraOnly ≠ 0 then readSyncCode profile
    let refresh ← readBits 8
    return { info with refreshFrameFlags := refresh }

def readUncompressedHeader (profile : Nat) : ReadM RKVP9FrameInfo := do
  let frameMarker ← readBits 2
  if frameMarker ≠ 2 then giveUp
  let parsedProfile ← readProfile
  if parsedProfile ≠ profile then giveUp
  let showExisting ← readBits 1
  if showExisting ≠ 0 then
    let slot ← readBits 3
    return { RKVP9FrameInfo.zero with
      showExistingFrame := true, showFrame := true, frameToShowMapIdx := slot }
  else readFrame profile

def rkVp9ParseFrame (data : List UInt8) (profile : Nat) : Except Fault (Option RKVP9FrameInfo) :=
  if data = [] ∨ (profile ≠ 0 ∧ profile ≠ 2) ∨ sizeMax / 8 < data.length then .ok none
  else (readUncompressedHeader profile ⟨data, 0⟩).map fun result => result.map Prod.fst

/-! ## No access faults -/

section

variable {α β : Type}

/-- A parser without faults. -/
abbrev SafeRead (g : ReadM α) (m : Vp9.ReadM α) : Prop := Faultless Always g m fun _ => Always

theorem safe_pure (x : α) : SafeRead (pure x) (pure x) := faultless_pure fun _ _ => trivial

theorem safe_fail : SafeRead (giveUp : ReadM α) fail := faultless_giveUp fun _ => rfl

theorem safe_ite {c : Prop} [Decidable c] {g g' : ReadM α} {m m' : Vp9.ReadM α}
    (yes : SafeRead g m) (no : SafeRead g' m') :
    SafeRead (if c then g else g') (if c then m else m') := by
  split
  · exact yes
  · exact no

/-- `if (c) return false;`. -/
theorem safe_unless {c : Prop} [Decidable c] {g : ReadM β} {m : Vp9.ReadM β}
    {f : α → ReadM β} {n : α → Vp9.ReadM β} (h : SafeRead g m) :
    SafeRead (if c then giveUp >>= f else g) (if c then fail >>= n else m) :=
  safe_ite (faultless_giveUp fun _ => rfl) h

theorem readInto_ok {data : List UInt8} {count pos : Nat} (result : Nat)
    (room : pos + count ≤ data.length * 8) :
    readInto data count pos result = .ok (Vp9.readInto data count pos result) := by
  induction count generalizing pos result with
  | zero => rfl
  | succ count ih =>
    have inside : byteAt data (pos / 8) = .ok (data.getD (pos / 8) 0) := if_neg (by omega)
    rw [readInto, inside]
    exact ih _ (by omega)

theorem safe_readBits (count : Nat) : SafeRead (readBits count) (Vp9.readBits count) := by
  intro reader _
  refine ⟨?_, fun _ _ _ => trivial⟩
  unfold readBits Vp9.readBits
  dsimp only
  split
  · rfl
  · rename_i room
    rw [readInto_ok 0 (by omega)]
    rfl

theorem safe_readProfile : SafeRead readProfile Vp9.readProfile := by
  refine Faultless.bind (safe_readBits 1) fun low => Faultless.bind (safe_readBits 1) fun high => ?_
  exact safe_ite (Faultless.bind (safe_readBits 1) fun _ => safe_ite safe_fail (safe_pure _)) (safe_pure _)

theorem safe_skipColorConfig (profile : Nat) :
    SafeRead (skipColorConfig profile) (Vp9.skipColorConfig profile) := by
  have color : SafeRead
      (readBits 3 >>= fun space => if space = 7 then giveUp >>= fun _ : Unit => readBits 1 >>= fun _ =>
        pure () else readBits 1 >>= fun _ => pure ())
      (Vp9.readBits 3 >>= fun space => if space = 7 then fail >>= fun _ : Unit =>
        Vp9.readBits 1 >>= fun _ => pure () else Vp9.readBits 1 >>= fun _ => pure ()) :=
    Faultless.bind (safe_readBits 3) fun _ => safe_unless
      (Faultless.bind (safe_readBits 1) fun _ => safe_pure ())
  exact safe_ite (Faultless.bind (safe_readBits 1) fun _ => safe_unless color) color

theorem safe_readSyncCode (profile : Nat) :
    SafeRead (readSyncCode profile) (Vp9.readSyncCode profile) :=
  Faultless.bind (safe_readBits 24) fun _ => safe_unless (safe_ite (safe_skipColorConfig profile) (safe_pure ()))

theorem safe_readFrame (profile : Nat) : SafeRead (readFrame profile) (Vp9.readFrame profile) := by
  have refresh (info : Nat → RKVP9FrameInfo) : SafeRead
      (readBits 8 >>= fun refresh => pure (info refresh))
      (Vp9.readBits 8 >>= fun refresh => pure (info refresh)) :=
    Faultless.bind (safe_readBits 8) fun _ => safe_pure _
  have behindReset (intraOnly : Nat) (info : Nat → RKVP9FrameInfo) := safe_ite (c := intraOnly ≠ 0)
    (Faultless.bind (safe_readSyncCode profile) fun _ => refresh info) (refresh info)
  refine Faultless.bind (safe_readBits 1) fun _ => Faultless.bind (safe_readBits 1) fun showFrame =>
    Faultless.bind (safe_readBits 1) fun _ => ?_
  have behindIntra (errorResilient intraOnly : Nat) := safe_ite (c := errorResilient = 0)
    (Faultless.bind (safe_readBits 2) fun _ => behindReset intraOnly
      fun refresh => ⟨false, showFrame != 0, 0, refresh⟩)
    (behindReset intraOnly fun refresh => ⟨false, showFrame != 0, 0, refresh⟩)
  refine safe_ite (Faultless.bind (safe_readSyncCode profile) fun _ => safe_pure _) ?_
  exact safe_ite (Faultless.bind (safe_readBits 1) fun intraOnly => behindIntra _ intraOnly)
    (behindIntra _ 0)

theorem safe_readUncompressedHeader (profile : Nat) :
    SafeRead (readUncompressedHeader profile) (Vp9.readUncompressedHeader profile) := by
  refine Faultless.bind (safe_readBits 2) fun _ => safe_unless ?_
  refine Faultless.bind safe_readProfile fun _ => safe_unless ?_
  refine Faultless.bind (safe_readBits 1) fun _ => safe_ite ?_ (safe_readFrame profile)
  exact Faultless.bind (safe_readBits 3) fun _ => safe_pure _

/-- The parser never reads behind the packet. -/
theorem rkVp9ParseFrame_ok (data : List UInt8) (profile : Nat) :
    rkVp9ParseFrame data profile = .ok (Vp9.rkVp9ParseFrame data profile) := by
  unfold rkVp9ParseFrame Vp9.rkVp9ParseFrame
  split
  · rfl
  · rw [(safe_readUncompressedHeader profile).run trivial]
    rfl

end

end RockchipVaapi.Vp9.Checked
