import RockchipVaapi.Surface.DerivedWindow

/-!
# The buffer behind a derived image

`derived_still_valid` tells buffers apart by the number of their descriptor. A number that is used
again for another buffer after the first one was freed goes unnoticed, and a mapping or a handle
that was made of the first one is handed out again.
-/

namespace RockchipVaapi.Surface
open Transition DerivedState

/-! ## What is handed out -/

/-- A size has room for the picture with the pitch of the image. -/
def Covers (image : DerivedBuffer) (surface : RKSurface) (size : Nat) : Prop :=
  image.derivedPitch * surface.exportedVstride.toNat * 3 / 2 ≤ size

section

variable {image : DerivedBuffer} {st st' : DerivedState}

/-- A surface with the layout of the image is bound to a buffer with room for it. -/
theorem DerivedInv.describes (h : DerivedInv image st) {layout : LinearLayout}
    (here : st.Describes layout) : ∃ b, st.surface.activeBuffer = some b ∧ layout.fd = b.fd ∧
      st.fds b.fd = some b.handle ∧ Covers image st.surface st.buffer.derivedSize ∧
      Covers image st.surface b.size := by
  obtain ⟨b, active, number, -, denotes, offset, room⟩ := surfaceLinearLayout_bound h.alive here.1
  have picture : image.derivedPitch * st.surface.exportedVstride.toNat =
      st.buffer.derivedChromaOffset := by
    rw [← here.2.2, offset, here.2.1, h.advertised]
  have fits := h.fits
  rw [here.2.2] at room
  refine ⟨b, active, number, denotes, ?_, ?_⟩
  · unfold Covers
    rw [picture]
    omega
  · unfold Covers
    rw [picture]
    omega

/-- Behind a look that succeeds, the recorded number is that of the buffer that is bound. -/
theorem DerivedInv.checked (h : DerivedInv image st) (check : Check st (st', true)) :
    ∃ b, st'.surface.activeBuffer = some b ∧ st'.buffer.derivedFd = b.fd ∧
      st'.fds b.fd = some b.handle ∧ Covers image st'.surface st'.buffer.derivedSize ∧
      Covers image st'.surface b.size ∧ st'.surface = st.surface ∧
      (∃ layout, st.Describes layout) := by
  have inv := h.check check
  cases check with
  | same here number =>
    obtain ⟨b, active, fd, rest⟩ := h.describes here
    exact ⟨b, active, number.symm.trans fd, rest.1, rest.2.1, rest.2.2, rfl, _, here⟩
  | switched here number =>
    rename_i layout
    have after : (st.switch layout).Describes layout := here
    obtain ⟨b, active, fd, rest⟩ := inv.describes after
    exact ⟨b, active, fd, rest.1, rest.2.1, rest.2.2, rfl, _, here⟩

theorem DerivedState.Check.describes {valid : Bool} (check : Check st (st', valid))
    {surface : RKSurface} {fds : FdTable} {layout : LinearLayout} {dup : Option Int} :
    ((st'.duplicate dup).rebind surface fds).Describes layout ↔
      (st.rebind surface fds).Describes layout := by
  cases check with
  | refused gone => exact Iff.rfl
  | same here number => exact Iff.rfl
  | switched here number => exact Iff.rfl

end

end RockchipVaapi.Surface
