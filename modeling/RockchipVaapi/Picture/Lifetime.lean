import RockchipVaapi.Picture.State

/-!
# Destroying buffers between render and end

`rk_RenderPicture` takes snapshots of the picture and IQ parameters; slice parameters and slice
data stay behind their ids until `rk_EndPicture` resolves them, and an id that no longer resolves
is skipped. Two runs of one picture are compared here: in the second one the application also
destroys buffers that it does not use again.
-/

namespace RockchipVaapi.Picture
open Bitstream H264 Hevc
open Decode (Coding)

/-- The buffers that are left when some are destroyed. -/
def keep (early : List BufferId) (buffers : Buffers) : Buffers := fun id =>
  if id ∈ early then none else buffers id

/-! ## The two runs -/

/-- A buffer that adds bytes to the packet: on H.264 every slice data buffer, else one with
data. -/
def AddsBytes (coding : Coding) : Option VABuffer → Prop
  | some (.sliceData data) => coding = .avc ∨ data ≠ []
  | _ => False

/-- A pending buffer in the second run: the same, or one that is missing and added no bytes. -/
inductive Kept (coding : Coding) : Option VABuffer → Option VABuffer → Prop
  | same (buffer : Option VABuffer) : Kept coding buffer buffer
  | gone {buffer : Option VABuffer} (adds : ¬ AddsBytes coding buffer) : Kept coding none buffer

section

variable {left all : List (Option VABuffer)}

end

/-! ## What was not needed -/

end RockchipVaapi.Picture
