import RockchipVaapi.Hevc.SliceRewriteProofs

/-!
# The short-term set that is written

`write_short_term_rps` codes each distance as its difference to the one before it, less one, in
`uint32_t`. `sort_entries` orders the distances but `collect_rps` does not refuse two pictures of
one picture order count, whose difference is zero.
-/

namespace RockchipVaapi.Hevc
open Bitstream

/-- The arguments that a loop of `write_short_term_rps` passes to `bs_write_ue`. -/
def entryArguments : Nat → List HEVCRPSEntry → List Nat
  | _, [] => []
  | previous, entry :: entries =>
    sub32 (sub32 entry.delta previous) 1 :: entryArguments entry.delta entries

/-- All arguments that `write_short_term_rps` passes to `bs_write_ue`. -/
def ueArguments (rps : HEVCRPS) : List Nat :=
  rps.negative.length :: rps.positive.length ::
    (entryArguments 0 rps.negative ++ entryArguments 0 rps.positive)

/-- A loop of `write_short_term_rps` writes its arguments and the flags in turn. -/
theorem writeRpsEntries_eq : ∀ (entries : List HEVCRPSEntry) (previous : Nat),
    writeRpsEntries previous entries =
      bsEach (fun pic : Nat × Bool => do bsWriteUe pic.1; bsWriteFlag pic.2)
        ((entryArguments previous entries).zip (entries.map (·.used))) := by
  intro entries
  induction entries with
  | nil => intro _; rfl
  | cons entry entries ih =>
    intro previous
    rw [writeRpsEntries, entryArguments, List.map_cons, List.zip_cons_cons, bsEach, ih]
    simp only [bind_assoc]

/-- No difference of the loop wraps: every distance is larger than the one before it. -/
def Ascending : Nat → List HEVCRPSEntry → Prop
  | _, [] => True
  | previous, entry :: entries => previous < entry.delta ∧ Ascending entry.delta entries

theorem Ascending.above : ∀ {entries : List HEVCRPSEntry} {previous : Nat},
    Ascending previous entries → ∀ entry ∈ entries, previous < entry.delta := by
  intro entries
  induction entries with
  | nil => intro _ _ entry hentry; cases hentry
  | cons first entries ih =>
    intro previous h entry hentry
    obtain ⟨above, rest⟩ := h
    rcases List.mem_cons.mp hentry with rfl | hentry
    · exact above
    · exact Nat.lt_trans above (ih rest entry hentry)

theorem Ascending.pairwise : ∀ {entries : List HEVCRPSEntry} {previous : Nat},
    Ascending previous entries → entries.Pairwise fun a b => a.delta < b.delta := by
  intro entries
  induction entries with
  | nil => intro _ _; exact List.Pairwise.nil
  | cons first entries ih =>
    intro previous h
    exact List.pairwise_cons.mpr ⟨h.2.above, ih h.2⟩

theorem ascending_of_pairwise : ∀ {entries : List HEVCRPSEntry} {previous : Nat},
    (∀ entry ∈ entries, previous < entry.delta) →
      entries.Pairwise (fun a b => a.delta < b.delta) → Ascending previous entries := by
  intro entries
  induction entries with
  | nil => intro _ _ _; trivial
  | cons first entries ih =>
    intro previous above sorted
    obtain ⟨later, sorted⟩ := List.pairwise_cons.mp sorted
    exact ⟨above first List.mem_cons_self, ih later sorted⟩

/-- An argument is small exactly where its subtraction does not wrap. -/
theorem argument_le_iff {delta previous : Nat} (hdelta : delta ≤ 65535)
    (hprevious : previous ≤ 65535) :
    sub32 (sub32 delta previous) 1 ≤ 65534 ↔ previous < delta := by
  unfold sub32
  omega

theorem entryArguments_le_iff : ∀ {entries : List HEVCRPSEntry} {previous : Nat},
    previous ≤ 65535 → (∀ entry ∈ entries, entry.delta ≤ 65535) →
      ((∀ argument ∈ entryArguments previous entries, argument ≤ 65534) ↔
        Ascending previous entries) := by
  intro entries
  induction entries with
  | nil => intro _ _ _; simp [entryArguments, Ascending]
  | cons entry entries ih =>
    intro previous hprevious bounds
    have head := bounds entry List.mem_cons_self
    have tail := ih head fun e he => bounds e (List.mem_cons_of_mem _ he)
    rw [entryArguments, List.forall_mem_cons, Ascending, argument_le_iff head hprevious, tail]

/-- What `write_short_term_rps` should write for a collected reference picture set: no subtraction
wraps, no argument is above 65534, and the set that a decoder reads is the one of `pp`. -/
structure WritesShortTerm (pp : VAPictureParameterBufferHEVC) (rps : HEVCRPS) : Prop where
  noWrap : Ascending 0 rps.negative ∧ Ascending 0 rps.positive
  arguments : ∀ argument ∈ ueArguments rps, argument ≤ 65534
  decodes : ∃ code set, Emits (writeShortTermRps rps 0) code ∧ Reads readStRefPicSet code set ∧
    DescribesReferences pp set

/-- Distances that grow strictly on both sides belong to pictures of distinct order counts. -/
theorem distinctPocs_of_ascending {pp : VAPictureParameterBufferHEVC} {rps : HEVCRPS}
    (collect : collectRps pp = some rps) (negative : Ascending 0 rps.negative)
    (positive : Ascending 0 rps.positive) : DistinctPocs pp := by
  have perm := (collectRps_perm collect).map Prod.fst
  simp only [List.map_append, List.map_map] at perm
  have apart : (rps.negative.map (Prod.fst ∘ fun entry => (-(entry.delta : Int), entry.used)) ++
      rps.positive.map (Prod.fst ∘ fun entry => ((entry.delta : Int), entry.used))).Pairwise
        (· ≠ ·) := by
    rw [List.pairwise_append, List.pairwise_map, List.pairwise_map]
    refine ⟨negative.pairwise.imp fun less => ?_, positive.pairwise.imp fun less => ?_, ?_⟩
    · simp only [Function.comp]
      omega
    · simp only [Function.comp]
      omega
    · intro a ha b hb
      obtain ⟨before, hbefore, rfl⟩ := List.mem_map.mp ha
      obtain ⟨after, hafter, rfl⟩ := List.mem_map.mp hb
      have := negative.above before hbefore
      simp only [Function.comp]
      omega
  have pocs := (perm.pairwise_iff fun ne => ne.symm).mp apart
  rw [List.pairwise_map] at pocs
  refine pocs.imp fun {a b} ne same => ne ?_
  simp only [Function.comp, shortTermEntry, pocDelta, same]

/-- The set that is written is right exactly where no two valid short-term pictures have the same
picture order count; and where `collect_rps` returns `false` no slice is rewritten. -/
theorem shortTermRps_right_iff (pp : VAPictureParameterBufferHEVC) :
    (∀ rps, collectRps pp = some rps → (WritesShortTerm pp rps ↔ DistinctPocs pp)) ∧
    (collectRps pp = none → ∀ bufSize startCode nal0 nal1 nalSize sp br,
      rewriteIndependent bufSize startCode nal0 nal1 nalSize pp sp br = none) := by
  constructor
  · intro rps collect
    constructor
    · intro writes
      have bounds := collectRps_bounds collect
      have arguments := writes.arguments
      simp only [ueArguments, List.forall_mem_cons, List.forall_mem_append] at arguments
      obtain ⟨-, -, negative, positive⟩ := arguments
      exact distinctPocs_of_ascending collect
        ((entryArguments_le_iff (Nat.zero_le _)
          fun e he => (bounds e (List.mem_append_left _ he)).2).mp negative)
        ((entryArguments_le_iff (Nat.zero_le _)
          fun e he => (bounds e (List.mem_append_right _ he)).2).mp positive)
    · intro distinct
      have sorted := collectRps_sorted collect distinct
      have negative := ascending_of_pairwise
        (fun e he => (sorted.bounds e (List.mem_append_left _ he)).1) sorted.negative
      have positive := ascending_of_pairwise
        (fun e he => (sorted.bounds e (List.mem_append_right _ he)).1) sorted.positive
      have room := sorted.room
      have small := (entryArguments_le_iff (Nat.zero_le _)
        fun e he => (sorted.bounds e (List.mem_append_left _ he)).2).mpr negative
      have small' := (entryArguments_le_iff (Nat.zero_le _)
        fun e he => (sorted.bounds e (List.mem_append_right _ he)).2).mpr positive
      refine ⟨⟨negative, positive⟩, fun argument hargument => ?_, _, _, emits_shortTermRps sorted,
        reads_stRefPicSet _, describesReferences_stRefPicSetOf sorted⟩
      simp only [ueArguments, List.mem_cons, List.mem_append] at hargument
      rcases hargument with rfl | rfl | hargument | hargument
      · omega
      · omega
      · exact small argument hargument
      · exact small' argument hargument
  · intro failed bufSize startCode nal0 nal1 nalSize sp br
    unfold rewriteIndependent
    cases findRps pp br with
    | none => rfl
    | some found => rw [failed]; rfl

/-- The reference picture set of `interPicture`. -/
def interRps : HEVCRPS where
  negative := [⟨1, 9, true⟩, ⟨2, 8, false⟩, ⟨3, 7, true⟩]
  positive := [⟨2, 12, true⟩]
  longTerm := []

theorem shortTermRps_right_inter : WritesShortTerm interPicture interRps :=
  ((shortTermRps_right_iff interPicture).1 interRps (by decide +kernel)).mpr (by decide)

/-- Two pictures of picture order count 9 in front of a current one of 10. -/
def twinPicture : VAPictureParameterBufferHEVC :=
  { blockPicture with
    currPic := ⟨1, 10, 0⟩
    referenceFrames := fun i => match i with
      | 0 => ⟨2, 9, vaPictureRpsStCurrBefore⟩
      | 1 => ⟨3, 9, vaPictureRpsStCurrBefore⟩
      | _ => ⟨0xffffffff, 0, 1⟩ }

/-- `collect_rps` takes the twins, and `bs_write_ue` is called with `UINT32_MAX`. -/
theorem shortTermRps_twin : ∃ rps, collectRps twinPicture = some rps ∧
    2 ^ 32 - 1 ∈ ueArguments rps ∧ ¬ WritesShortTerm twinPicture rps := by
  refine ⟨⟨[⟨1, 9, true⟩, ⟨1, 9, true⟩], [], []⟩, by decide +kernel, by decide +kernel, ?_⟩
  intro writes
  exact absurd writes.noWrap.1 (by simp [Ascending])

end RockchipVaapi.Hevc
