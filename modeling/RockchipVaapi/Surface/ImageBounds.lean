import RockchipVaapi.Surface.ImageChecked

/-!
# Image transfers of every surface

Creation and import leave a surface that images can be transferred from and to, and every step
keeps it so, as long as the frames that are published have a row of memory for every line.
-/

namespace RockchipVaapi.Surface
open Memory Transition

/-! ## New surfaces -/

section

variable {env : CreateEnv} {width height : Int} {fourcc : Fourcc}
  {descriptor : Option VADRMPRIMESurfaceDescriptor} {encoderInput : Bool} {s : RKSurface}

end

structure TransferInv (st : SurfaceState) : Prop where
  transferable : Transferable st.surface
  idle : st.surface.imported.isSome = true → st.surface.fence = 0
  issued : ∀ fence call, st.calls fence = some call → call = .failing ∨ fence ≠ 0

section

variable {st st' : SurfaceState} {s s' : RKSurface}

theorem Transferable.keep (h : Transferable s) (layout : s'.layout = s.layout)
    (imported : s'.imported = s.imported) : Transferable s' := by
  obtain ⟨width, height, hstride, vstride, depth⟩ := layout_eq layout
  have stride : s'.exportedHstride = s.exportedHstride := by
    unfold RKSurface.exportedHstride
    rw [width, hstride]
  have rows : s'.exportedVstride = s.exportedVstride := by
    unfold RKSurface.exportedVstride
    rw [height, vstride]
  refine ⟨?_, ?_, ?_, ?_, ?_, ?_, ?_⟩
  · rw [width]
    exact h.narrow
  · rw [height, rows]
    exact h.tall
  · rw [rows]
    exact h.short
  · rw [stride]
    exact h.stride
  · rw [stride, depth]
    exact h.negative
  · rw [imported, hstride, vstride]
    exact h.own
  · rw [imported, height]
    exact h.objects

/-- A step that leaves the layout and the import alone. -/
theorem TransferInv.keep (h : TransferInv st) (layout : st'.surface.layout = st.surface.layout)
    (imported : st'.surface.imported = st.surface.imported)
    (fence : st.surface.imported.isSome = true → st'.surface.fence = st.surface.fence)
    (issued : ∀ fence call, st'.calls fence = some call → call = .failing ∨ fence ≠ 0) :
    TransferInv st' where
  transferable := h.transferable.keep layout imported
  idle := by
    intro present
    rw [imported] at present
    exact (fence present).trans (h.idle present)
  issued := issued

end

end RockchipVaapi.Surface
