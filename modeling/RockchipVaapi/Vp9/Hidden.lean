import RockchipVaapi.Vp9.Grammar
import RockchipVaapi.Vp9.Job

/-!
# Hidden pictures

A VP9 picture that is not shown goes into reference slots of the decoder. The driver shows it with a
packet of its own, which names one of these slots.
-/

namespace RockchipVaapi.Vp9
open Bitstream

/-- `rk_vp9_make_show_existing` (`vp9.c:132-140`). -/
def rkVp9MakeShowExisting (profile slot : Nat) : Option UInt8 :=
  if (profile ≠ 0 ∧ profile ≠ 2) ∨ 8 ≤ slot then none
  else some (0x88 ||| (if profile = 2 then 0x10 else 0) ||| UInt8.ofNat slot)

/-- The profile of a context (`mpp_dec.c:1132`, `mpp_dec.c:1262`). -/
def contextProfile (profile2 : Bool) : Nat := if profile2 then 2 else 0

theorem contextProfile_ok (profile2 : Bool) : ProfileOk (contextProfile profile2) := by
  cases profile2
  · exact .inl rfl
  · exact .inr rfl

/-! ## What a decoder does with a packet -/

section

variable {π : Type}

/-- The slots that the flags name hold the picture. -/
def refreshed (slots : Fin 8 → Option π) (flags : Nat) (picture : π) : Fin 8 → Option π :=
  fun slot => if flags.testBit slot then some picture else slots slot

/-- What is in the reference slots behind a packet, and what the packet shows. `picture` is what the
decoder makes of the data behind the header. -/
def UncompressedHeader.decode (slots : Fin 8 → Option π) (picture : π) :
    UncompressedHeader → (Fin 8 → Option π) × Option π
  | showExisting slot => (slots, slots slot)
  | keyFrame showFrame _ _ =>
    (refreshed slots 0xff picture, if showFrame then some picture else none)
  | intraOnly _ _ _ refresh => (refreshed slots refresh.toNat picture, none)
  | interFrame showFrame _ _ refresh =>
    (refreshed slots refresh.toNat picture, if showFrame then some picture else none)

theorem decode_hidden {header : UncompressedHeader} (existing : header.info.showExistingFrame = false)
    (hidden : header.info.showFrame = false) (slots : Fin 8 → Option π) (picture : π) :
    header.decode slots picture = (refreshed slots header.info.refreshFrameFlags picture, none) := by
  cases header with
  | showExisting slot => cases existing
  | intraOnly => rfl
  | keyFrame | interFrame =>
    obtain rfl := hidden
    rfl

end

/-! ## The slot -/

theorem firstRefreshSlot_lt {flags : Nat} (found : firstRefreshSlot flags < 8) :
    flags.testBit (firstRefreshSlot flags) = true := by
  unfold firstRefreshSlot at found ⊢
  cases first : (List.range 8).find? fun slot => flags.testBit slot with
  | none => simp [first] at found
  | some slot => exact List.find?_some first

theorem firstRefreshSlot_none {flags : Nat} (none : ¬firstRefreshSlot flags < 8) (slot : Fin 8) :
    flags.testBit slot = false := by
  unfold firstRefreshSlot at none
  cases first : (List.range 8).find? fun slot => flags.testBit slot with
  | none => exact Bool.eq_false_iff.mpr (List.find?_eq_none.mp first slot (List.mem_range.mpr slot.2))
  | some found =>
    refine absurd ?_ none
    rw [first]
    exact List.mem_range.mp (List.mem_of_find?_eq_some first)

/-! ## The packet that shows it -/

theorem showExisting_bits (profile2 : Bool) (slot : Fin 8) :
    ∃ byte, rkVp9MakeShowExisting (contextProfile profile2) slot = some byte ∧
      (UncompressedHeader.showExisting slot).bits (contextProfile profile2) = bytesBits [byte] := by
  revert slot profile2
  decide

/-- The packet shows its slot to every decoder, and nothing else. -/
theorem showExisting_shows (profile2 : Bool) (slot : Fin 8) {byte : UInt8}
    (made : rkVp9MakeShowExisting (contextProfile profile2) slot = some byte)
    (header : UncompressedHeader) :
    header.bits (contextProfile profile2) <+: bytesBits [byte] ↔ header = .showExisting slot := by
  obtain ⟨byte', made', same⟩ := showExisting_bits profile2 slot
  obtain rfl := Option.some.inj (made.symm.trans made')
  constructor
  · intro starts
    have accepted (header : UncompressedHeader)
        (starts : header.bits (contextProfile profile2) <+: bytesBits [byte]) :=
      (rkVp9ParseFrame_eq_some_iff (contextProfile_ok profile2) [byte] header.info).mpr
        ⟨by simp [sizeMax], header, starts, rfl⟩
    have info : header.info = (UncompressedHeader.showExisting slot).info :=
      Option.some.inj ((accepted header starts).symm.trans
        (accepted (.showExisting slot) (same ▸ List.prefix_refl _)))
    cases header with
    | showExisting slot' =>
      have shown : (slot' : Nat) = slot := congrArg RKVP9FrameInfo.frameToShowMapIdx info
      exact congrArg _ (Fin.ext shown)
    | _ => cases congrArg RKVP9FrameInfo.showExistingFrame info
  · rintro rfl
    exact same ▸ List.prefix_refl _

/-! ## The job -/

/-- The job of a hidden picture: its header was read, it is not shown, and a slot is chosen. -/
theorem buildGenericJob_hidden {profile : Nat} {memory : BuildMemory}
    {pending : List (Option VABuffer)} {target : Nat × UInt64} {job : DecodeJob}
    (built : buildGenericJob profile memory pending target = .ok job) (hidden : job.hidden = true) :
    ∃ info, rkVp9ParseFrame job.data profile = some info ∧ info.showExistingFrame = false ∧
      info.showFrame = false ∧ job.repeatSlot = firstRefreshSlot info.refreshFrameFlags := by
  unfold buildGenericJob at built
  cases appended : appendSlices memory.alloc pending .empty with
  | error e => simp [appended, bind, Except.bind] at built
  | ok packet =>
    cases read : packetInfo profile packet.data with
    | error e => simp [appended, read, bind, Except.bind] at built
    | ok info =>
      cases created : memory.jobCreated with
      | false => simp [appended, read, decodeJobCreate, created, bind, Except.bind] at built
      | true =>
        simp only [appended, read, decodeJobCreate, created, bind, Except.bind, if_true, pure,
          Except.pure, Except.ok.injEq] at built
        subst built
        simp only [Bool.and_eq_true, bne_iff_ne, Bool.not_eq_true'] at hidden
        obtain ⟨⟨some, existing⟩, shown⟩ := hidden
        refine ⟨info, ?_, existing, shown, by simp [some, existing, shown]⟩
        rw [packetInfo, if_neg some] at read
        split at read
        · cases read
        · rename_i parsed
          rw [parsed, Except.ok.inj read]

/-- A picture that its packet does not show is shown by the packet of its slot, which every decoder
reads as that and as nothing else, and which changes no slot; where there is no slot, the picture
cannot be shown by any later packet. -/
theorem hiddenPicture_shown (profile2 : Bool) {memory : BuildMemory}
    {pending : List (Option VABuffer)} {target : Nat × UInt64} {job : DecodeJob}
    (built : buildGenericJob (contextProfile profile2) memory pending target = .ok job)
    (hidden : job.hidden = true) {π : Type} (slots : Fin 8 → Option π) (picture next : π) :
    (∃ header : UncompressedHeader, header.bits (contextProfile profile2) <+: bytesBits job.data) ∧
    ∀ header : UncompressedHeader, header.bits (contextProfile profile2) <+: bytesBits job.data →
      (header.decode slots picture).2 = none ∧
      (job.repeatSlot < 8 →
        ∃ byte, rkVp9MakeShowExisting (contextProfile profile2) job.repeatSlot = some byte ∧
          ∃! shows : UncompressedHeader, shows.bits (contextProfile profile2) <+: bytesBits [byte] ∧
            shows.decode (header.decode slots picture).1 next =
              ((header.decode slots picture).1, some picture)) ∧
      (¬job.repeatSlot < 8 → (header.decode slots picture).1 = slots) := by
  obtain ⟨info, parsed, existing, shown, slot⟩ := buildGenericJob_hidden built hidden
  have known := contextProfile_ok profile2
  obtain ⟨small, header, starts, same⟩ := (rkVp9ParseFrame_eq_some_iff known _ _).mp parsed
  refine ⟨⟨header, starts⟩, fun other here => ?_⟩
  have info' : other.info = info := Option.some.inj
    (((rkVp9ParseFrame_eq_some_iff known _ _).mpr ⟨small, other, here, rfl⟩).symm.trans parsed)
  have decoded := decode_hidden (info' ▸ existing) (info' ▸ shown) slots picture
  rw [info'] at decoded
  simp only [decoded, slot]
  refine ⟨trivial, fun found => ?_, fun none => ?_⟩
  · obtain ⟨byte, made, bits⟩ := showExisting_bits profile2 ⟨_, found⟩
    refine ⟨byte, made, .showExisting ⟨_, found⟩, ⟨bits ▸ List.prefix_refl _, ?_⟩, ?_⟩
    · simp [UncompressedHeader.decode, refreshed, firstRefreshSlot_lt found]
    · rintro shows ⟨starts, -⟩
      exact (showExisting_shows profile2 ⟨_, found⟩ made shows).mp starts
  · funext i
    simp [refreshed, firstRefreshSlot_none none i]

/-- A hidden picture that goes into two slots. -/
def hiddenJob : DecodeJob where
  data := [0x84, 0x02, 0x80, 0xff]
  surface := 3
  fence := 1
  h264Field := false
  hidden := true
  repeatSlot := 2
  hevcSequenceHeaders := none

theorem hiddenPicture_shown_vector :
    (∃ header : UncompressedHeader, header.bits (contextProfile false) <+: bytesBits hiddenJob.data) ∧
    ∀ header : UncompressedHeader, header.bits (contextProfile false) <+: bytesBits hiddenJob.data →
      (header.decode (fun _ => none) 7).2 = none ∧
      (hiddenJob.repeatSlot < 8 →
        ∃ byte, rkVp9MakeShowExisting (contextProfile false) hiddenJob.repeatSlot = some byte ∧
          ∃! shows : UncompressedHeader, shows.bits (contextProfile false) <+: bytesBits [byte] ∧
            shows.decode (header.decode (fun _ => none) 7).1 8 =
              ((header.decode (fun _ => none) 7).1, some 7)) ∧
      (¬hiddenJob.repeatSlot < 8 → (header.decode (fun _ => none) 7).1 = fun _ => none) := by
  have built : buildGenericJob (contextProfile false) .ample
      [some (.sliceData [0x84, 0x02, 0x80, 0xff])] (3, 1) = .ok hiddenJob := by decide
  exact hiddenPicture_shown false built rfl (fun _ => none) 7 8

end RockchipVaapi.Vp9
