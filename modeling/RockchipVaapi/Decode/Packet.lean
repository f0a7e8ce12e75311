import Mathlib.Algebra.Group.Nat.Defs
import Mathlib.Data.List.Basic

/-!
# Packets and VA buffers

What the access unit builders of `mpp_dec.c` share: the pending VA buffers of a picture, the
growing packet and the job that takes it to the decode worker. Memory that the driver asks
for may be refused; the outcomes of these requests are inputs of the model.
-/

namespace RockchipVaapi

/-- The error codes a builder or `rk_EndPicture` returns. -/
inductive VAError
  | invalidParameter
  | allocationFailed
  | decodingError
  | operationFailed
  deriving DecidableEq, Repr

/-- A packet under construction: its bytes and the size of the block that holds them. -/
structure Packet where
  data : List UInt8
  capacity : Nat
  deriving DecidableEq, Repr

/-- `{ NULL, 0, 0 }`. -/
def Packet.empty : Packet := ⟨[], 0⟩

/-- `SIZE_MAX`. -/
def sizeMax : Nat := 2 ^ 64 - 1

/-- The block `packet_append` asks for when `needed` bytes do not fit (`mpp_dec.c:54-56`). -/
def grownCapacity (needed : Nat) : Nat :=
  if needed ≤ (sizeMax - 4096) / 2 then needed * 2 + 4096 else needed

/-- `packet_append` (`mpp_dec.c:43-68`). `alloc` says which block sizes `realloc` grants; within
one packet every request is larger than the one before. -/
def packetAppend (alloc : Nat → Bool) (packet : Packet) (data : List UInt8) :
    Except VAError Packet :=
  if data.length = 0 then .ok packet
  else if sizeMax - data.length < packet.data.length then .error .invalidParameter
  else
    let needed := packet.data.length + data.length
    if packet.capacity < needed then
      if alloc (grownCapacity needed) then .ok ⟨packet.data ++ data, grownCapacity needed⟩
      else .error .allocationFailed
    else .ok ⟨packet.data ++ data, packet.capacity⟩

/-- What `packet_append` can do: append, or leave with an error. -/
theorem packetAppend_ok {alloc : Nat → Bool} {packet packet' : Packet} {data : List UInt8}
    (h : packetAppend alloc packet data = .ok packet') : packet'.data = packet.data ++ data := by
  unfold packetAppend at h
  split at h
  · rename_i zero
    obtain rfl : packet = packet' := by simpa using h
    simp [List.length_eq_zero_iff.mp zero]
  · split at h
    · cases h
    · dsimp only at h
      split at h
      · split at h
        · obtain rfl := Except.ok.inj h
          rfl
        · cases h
      · obtain rfl := Except.ok.inj h
        rfl

end RockchipVaapi
