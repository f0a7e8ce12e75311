import Mathlib.Data.UInt
import RockchipVaapi.Decode.Packet

/-!
# The VP9 uncompressed header

The model of `vp9.c`: the reader and the part of the uncompressed header that decides whether a
packet shows a picture and which reference slots it refreshes.
-/

namespace RockchipVaapi.Vp9

/-- `BitReader` (`vp9.c:7-11`). `bit_size` is eight times the length of `data`. -/
structure BitReader where
  data : List UInt8
  bitPos : Nat
  deriving DecidableEq, Repr

/-- A read that may return `false`. -/
abbrev ReadM (α : Type) := StateT BitReader Option α

/-- `return false`. -/
def fail {α : Type} : ReadM α := fun _ => none

/-- The loop of `read_bits`, on a `uint32_t`. -/
def readInto (data : List UInt8) : Nat → Nat → Nat → Nat
  | 0, _, result => result
  | count + 1, pos, result =>
    let bit := ((data.getD (pos / 8) 0).toNat >>> (7 - pos % 8)) &&& 1
    readInto data count (pos + 1) ((result * 2 + bit) % 2 ^ 32)

/-- `read_bits` (`vp9.c:13-28`). -/
def readBits (count : Nat) : ReadM Nat := fun reader =>
  let bitSize := reader.data.length * 8
  if 32 < count ∨ bitSize < reader.bitPos ∨ bitSize - reader.bitPos < count then none
  else some (readInto reader.data count reader.bitPos 0,
    { reader with bitPos := reader.bitPos + count })

/-- `read_profile` (`vp9.c:30-46`). -/
def readProfile : ReadM Nat := do
  let lowBit ← readBits 1
  let highBit ← readBits 1
  let parsed := lowBit + 2 * highBit
  if parsed = 3 then
    let reservedZero ← readBits 1
    if reservedZero ≠ 0 then fail else return parsed
  else return parsed

/-- `skip_color_config` (`vp9.c:48-62`). -/
def skipColorConfig (profile : Nat) : ReadM Unit := do
  if 2 ≤ profile then
    let bitDepth ← readBits 1
    if bitDepth ≠ 0 then fail
  let colorSpace ← readBits 3
  if colorSpace = 7 then fail
  let _range ← readBits 1

/-- `RKVP9FrameInfo`. -/
structure RKVP9FrameInfo where
  showExistingFrame : Bool
  showFrame : Bool
  frameToShowMapIdx : Nat
  refreshFrameFlags : Nat
  deriving DecidableEq, Repr

/-- `memset(info, 0, sizeof(*info))`. -/
def RKVP9FrameInfo.zero : RKVP9FrameInfo := ⟨false, false, 0, 0⟩

/-- The sync code and the colour configuration that follows it (`vp9.c:105-109`,
`vp9.c:121-126`). -/
def readSyncCode (profile : Nat) : ReadM Unit := do
  let sync ← readBits 24
  if sync ≠ 0x498342 then fail
  if 0 < profile then skipColorConfig profile

/-- The frame header behind `show_existing_frame` (`vp9.c:96-133`). -/
def readFrame (profile : Nat) : ReadM RKVP9FrameInfo := do
  let frameType ← readBits 1
  let showFrame ← readBits 1
  let errorResilient ← readBits 1
  let info := { RKVP9FrameInfo.zero with showFrame := showFrame != 0 }
  if frameType = 0 then
    readSyncCode profile
    return { info with refreshFrameFlags := 0xff }
  else
    let intraOnly ← if showFrame = 0 then readBits 1 else pure 0
    if errorResilient = 0 then
      let _reset ← readBits 2
    if intraOnly ≠ 0 then readSyncCode profile
    let refresh ← readBits 8
    return { info with refreshFrameFlags := refresh }

/-- The statements of `rk_vp9_parse_frame` behind the checks of its arguments
(`vp9.c:80-133`). -/
def readUncompressedHeader (profile : Nat) : ReadM RKVP9FrameInfo := do
  let frameMarker ← readBits 2
  if frameMarker ≠ 2 then fail
  let parsedProfile ← readProfile
  if parsedProfile ≠ profile then fail
  let showExisting ← readBits 1
  if showExisting ≠ 0 then
    let slot ← readBits 3
    return { RKVP9FrameInfo.zero with
      showExistingFrame := true, showFrame := true, frameToShowMapIdx := slot }
  else readFrame profile

/-- `rk_vp9_parse_frame` (`vp9.c:64-130`). -/
def rkVp9ParseFrame (data : List UInt8) (profile : Nat) : Option RKVP9FrameInfo :=
  if data = [] ∨ (profile ≠ 0 ∧ profile ≠ 2) ∨ sizeMax / 8 < data.length then none
  else (readUncompressedHeader profile ⟨data, 0⟩).map Prod.fst

end RockchipVaapi.Vp9
