import RockchipVaapi.Decode.Buffers
import RockchipVaapi.Vp9.Header

/-!
# VP9 packets

The model of `build_generic_job`. The slice data of a picture is already the coded picture.
-/

namespace RockchipVaapi.Vp9

/-- `first_refresh_slot` (`mpp_dec.c:1097-1104`). -/
def firstRefreshSlot (refreshFrameFlags : Nat) : Nat :=
  ((List.range 8).find? fun slot => refreshFrameFlags.testBit slot).getD 8

/-- The loop over the pending buffers (`mpp_dec.c:1115-1129`). -/
def appendSlices (alloc : Nat → Bool) : List (Option VABuffer) → Packet → Except VAError Packet
  | [], packet => .ok packet
  | some (.sliceData data) :: pending, packet => do
    let packet ← packetAppend alloc packet data
    appendSlices alloc pending packet
  | _ :: pending, packet => appendSlices alloc pending packet

/-- The header of the packet, where there is one (`mpp_dec.c:1131-1139`). -/
def packetInfo (profile : Nat) (packet : List UInt8) : Except VAError RKVP9FrameInfo :=
  if packet = [] then .ok .zero
  else
    match rkVp9ParseFrame packet profile with
    | none => .error .decodingError
    | some info => .ok info

/-- `build_generic_job` (`mpp_dec.c:1108-1156`) on a VP9 context. -/
def buildGenericJob (profile : Nat) (memory : BuildMemory) (pending : List (Option VABuffer))
    (target : Nat × UInt64) : Except VAError DecodeJob := do
  let packet ← appendSlices memory.alloc pending .empty
  let info ← packetInfo profile packet.data
  let isHidden := packet.data != [] && !info.showExistingFrame && !info.showFrame
  let job ← decodeJobCreate memory target packet.data
  return { job with
    hidden := isHidden
    repeatSlot := if isHidden then firstRefreshSlot info.refreshFrameFlags else job.repeatSlot }

end RockchipVaapi.Vp9
