import Mathlib.Data.List.Sort
import RockchipVaapi.Hevc.Va

/-!
# Reference picture sets from `ReferenceFrames`

`collect_rps` sorts the valid entries of `ReferenceFrames` into the three lists of `HEVCRPS`.
The second half says which entries end up where, in which order.
-/

namespace RockchipVaapi.Hevc

/-- `HEVCRPSEntry` (`hevc.c:36-40`). -/
structure HEVCRPSEntry where
  delta : Nat
  poc : Nat
  used : Bool
  deriving DecidableEq, Repr

/-- `HEVCRPS` (`hevc.c:42-49`). The counts are the lengths of the lists. -/
structure HEVCRPS where
  negative : List HEVCRPSEntry
  positive : List HEVCRPSEntry
  longTerm : List HEVCRPSEntry
  deriving DecidableEq, Repr

/-- The RPS flags of a picture. -/
def rpsFlags (picture : VAPictureHEVC) : UInt32 :=
  picture.flags &&&
    (vaPictureRpsStCurrBefore ||| vaPictureRpsStCurrAfter ||| vaPictureRpsLtCurr)

/-- `(uint32_t)ref->pic_order_cnt`. -/
def pocBits (picture : VAPictureHEVC) : Nat := (picture.picOrderCnt.toInt % 2 ^ 32).toNat

/-- Whether `collect_rps` files a picture as a long-term reference. -/
def isLongTerm (picture : VAPictureHEVC) : Bool :=
  picture.flags &&& vaPictureLongTermReference != 0 || rpsFlags picture == vaPictureRpsLtCurr

/-- The POC difference to the current picture. -/
def pocDelta (currentPoc : Int) (picture : VAPictureHEVC) : Int :=
  picture.picOrderCnt.toInt - currentPoc

/-- One turn of the loop of `collect_rps` (`hevc.c:301-344`). -/
def collectEntry (currentPoc : Int) (rps : HEVCRPS) (ref : VAPictureHEVC) : Option HEVCRPS :=
  if !validPicture ref then some rps
  else if rpsFlags ref &&& (rpsFlags ref - 1) ≠ 0 then none
  else if 15 ≤ rps.negative.length + rps.positive.length + rps.longTerm.length then none
  else
    let delta := pocDelta currentPoc ref
    if isLongTerm ref then
      some { rps with longTerm := rps.longTerm ++
        [{ delta := 0, poc := pocBits ref, used := rpsFlags ref == vaPictureRpsLtCurr }] }
    else if delta < 0 then
      if 65535 < -delta then none
      else some { rps with negative := rps.negative ++
        [{ delta := (-delta).toNat, poc := pocBits ref, used := rpsFlags ref != 0 }] }
    else if 0 < delta then
      if 65535 < delta then none
      else some { rps with positive := rps.positive ++
        [{ delta := delta.toNat, poc := pocBits ref, used := rpsFlags ref != 0 }] }
    else none

/-- `values[j - 1].delta > value.delta` fails: the insertion stops. -/
def notAfter (value entry : HEVCRPSEntry) : Prop := entry.delta ≤ value.delta

instance : DecidableRel notAfter := fun value entry =>
  inferInstanceAs (Decidable (entry.delta ≤ value.delta))

/-- `sort_entries` (`hevc.c:282-293`). The sorted front is kept backwards, since the inner loop
walks it from its end. -/
def sortEntries (values : List HEVCRPSEntry) : List HEVCRPSEntry :=
  (values.foldl (fun front value => front.orderedInsert notAfter value) []).reverse

/-- `collect_rps` (`hevc.c:295-350`). -/
def collectRps (pp : VAPictureParameterBufferHEVC) : Option HEVCRPS := do
  let rps ← (List.ofFn pp.referenceFrames).foldlM
    (collectEntry pp.currPic.picOrderCnt.toInt) ⟨[], [], []⟩
  return { rps with negative := sortEntries rps.negative, positive := sortEntries rps.positive }

/-! ## Which pictures end up where -/

/-- The valid short-term entries of `ReferenceFrames`. -/
def shortTermRefs (pp : VAPictureParameterBufferHEVC) : List VAPictureHEVC :=
  (List.ofFn pp.referenceFrames).filter fun ref => validPicture ref && !isLongTerm ref

/-- A short-term picture as a reference picture set sees it: its distance to the current picture,
and whether the current picture may refer to it. -/
def shortTermEntry (currentPoc : Int) (ref : VAPictureHEVC) : Int × Bool :=
  (pocDelta currentPoc ref, rpsFlags ref != 0)

/-- The entry `collect_rps` makes of a short-term picture. -/
def rpsEntry (currentPoc : Int) (ref : VAPictureHEVC) : HEVCRPSEntry :=
  { delta := (pocDelta currentPoc ref).natAbs, poc := pocBits ref, used := rpsFlags ref != 0 }

/-- The short-term pictures on one side of the current picture. -/
def shortTermSide (side : Int → Bool) (currentPoc : Int) (refs : List VAPictureHEVC) :
    List VAPictureHEVC :=
  refs.filter fun ref => validPicture ref && !isLongTerm ref && side (pocDelta currentPoc ref)

/-- What `collect_rps` makes of the pictures it has seen. -/
structure Collected (currentPoc : Int) (refs : List VAPictureHEVC) (rps : HEVCRPS) : Prop where
  negative : rps.negative =
    (shortTermSide (fun delta => decide (delta < 0)) currentPoc refs).map (rpsEntry currentPoc)
  positive : rps.positive =
    (shortTermSide (fun delta => decide (0 < delta)) currentPoc refs).map (rpsEntry currentPoc)
  nonzero : ∀ ref ∈ refs, validPicture ref = true → isLongTerm ref = false →
    pocDelta currentPoc ref ≠ 0 ∧ (pocDelta currentPoc ref).natAbs ≤ 65535
  room : rps.negative.length + rps.positive.length + rps.longTerm.length ≤ 15

theorem shortTermSide_snoc (side : Int → Bool) (currentPoc : Int) (refs : List VAPictureHEVC)
    (ref : VAPictureHEVC) : shortTermSide side currentPoc (refs ++ [ref]) =
      shortTermSide side currentPoc refs ++
        if validPicture ref && !isLongTerm ref && side (pocDelta currentPoc ref) then [ref] else [] := by
  unfold shortTermSide
  rw [List.filter_append]
  congr 1
  cases h : validPicture ref && !isLongTerm ref && side (pocDelta currentPoc ref) <;> simp [h]

/-- A picture that is not a valid short-term picture is on neither side. -/
theorem Collected.other {currentPoc : Int} {refs : List VAPictureHEVC} {rps rps' : HEVCRPS}
    {ref : VAPictureHEVC} (h : Collected currentPoc refs rps)
    (other : (validPicture ref && !isLongTerm ref) = false)
    (negative : rps'.negative = rps.negative) (positive : rps'.positive = rps.positive)
    (room : rps'.negative.length + rps'.positive.length + rps'.longTerm.length ≤ 15) :
    Collected currentPoc (refs ++ [ref]) rps' where
  negative := by
    rw [negative, h.negative, shortTermSide_snoc, other]
    simp
  positive := by
    rw [positive, h.positive, shortTermSide_snoc, other]
    simp
  nonzero := by
    intro r hr valid short
    rcases List.mem_append.mp hr with hr | hr
    · exact h.nonzero r hr valid short
    · rw [List.mem_singleton] at hr
      subst hr
      rw [valid, short] at other
      cases other
  room := room

theorem collectEntry_collected {currentPoc : Int} {refs : List VAPictureHEVC} {rps rps' : HEVCRPS}
    {ref : VAPictureHEVC} (h : Collected currentPoc refs rps)
    (step : collectEntry currentPoc rps ref = some rps') :
    Collected currentPoc (refs ++ [ref]) rps' := by
  unfold collectEntry at step
  split at step
  · rename_i invalid
    obtain rfl := Option.some.inj step
    exact h.other (by simp at invalid; simp [invalid]) rfl rfl h.room
  rename_i valid
  rw [Bool.not_eq_true, Bool.not_eq_false'] at valid
  split at step
  · cases step
  split at step
  · cases step
  rename_i room
  simp only at step
  split at step
  · rename_i longTerm
    obtain rfl := Option.some.inj step
    have other : (validPicture ref && !isLongTerm ref) = false := by simp [longTerm]
    refine h.other other rfl rfl ?_
    simp only [List.length_append, List.length_singleton]
    omega
  rename_i shortTerm
  rw [Bool.not_eq_true] at shortTerm
  have extend : ∀ delta : Int, pocDelta currentPoc ref = delta → delta ≠ 0 → delta.natAbs ≤ 65535 →
      ∀ r ∈ refs ++ [ref], validPicture r = true → isLongTerm r = false →
        pocDelta currentPoc r ≠ 0 ∧ (pocDelta currentPoc r).natAbs ≤ 65535 := by
    intro delta hdelta hne hle r hr hvalid hshort
    rcases List.mem_append.mp hr with hr | hr
    · exact h.nonzero r hr hvalid hshort
    · rw [List.mem_singleton] at hr
      subst hr
      rw [hdelta]
      exact ⟨hne, hle⟩
  split at step
  · rename_i before
    split at step
    · cases step
    obtain rfl := Option.some.inj step
    have notAfter : ¬ 0 < pocDelta currentPoc ref := by omega
    have abs : (-pocDelta currentPoc ref).toNat = (pocDelta currentPoc ref).natAbs := by omega
    refine ⟨?_, ?_, extend _ rfl (by omega) (by omega), ?_⟩
    · simp [h.negative, shortTermSide_snoc, valid, shortTerm, before, rpsEntry, abs]
    · simp [h.positive, shortTermSide_snoc, notAfter]
    · simp only [List.length_append, List.length_singleton]
      omega
  rename_i notBefore
  split at step
  · rename_i after
    split at step
    · cases step
    obtain rfl := Option.some.inj step
    have abs : (pocDelta currentPoc ref).toNat = (pocDelta currentPoc ref).natAbs := by omega
    refine ⟨?_, ?_, extend _ rfl (by omega) (by omega), ?_⟩
    · simp [h.negative, shortTermSide_snoc, notBefore]
    · simp [h.positive, shortTermSide_snoc, valid, shortTerm, after, rpsEntry, abs]
    · simp only [List.length_append, List.length_singleton]
      omega
  · cases step

theorem foldlM_collected {currentPoc : Int} : ∀ (refs seen : List VAPictureHEVC)
    (rps rps' : HEVCRPS), Collected currentPoc seen rps →
      refs.foldlM (collectEntry currentPoc) rps = some rps' →
        Collected currentPoc (seen ++ refs) rps' := by
  intro refs
  induction refs with
  | nil =>
    intro seen rps rps' h fold
    obtain rfl := Option.some.inj fold
    rwa [List.append_nil]
  | cons ref refs ih =>
    intro seen rps rps' h fold
    rw [List.foldlM_cons] at fold
    obtain ⟨middle, step, fold⟩ := Option.bind_eq_some_iff.mp fold
    have next := ih (seen ++ [ref]) middle rps' (collectEntry_collected h step) fold
    rwa [List.append_assoc, List.singleton_append] at next

/-! ## Sorting -/

theorem foldl_orderedInsert_perm : ∀ (values front : List HEVCRPSEntry),
    (values.foldl (fun front value => front.orderedInsert notAfter value) front).Perm
      (front ++ values) := by
  intro values
  induction values with
  | nil => intro front; rw [List.append_nil]; exact List.Perm.refl _
  | cons value values ih =>
    intro front
    refine (ih _).trans ?_
    refine ((List.perm_orderedInsert notAfter value front).append_right values).trans ?_
    exact List.perm_middle.symm

theorem sortEntries_perm (values : List HEVCRPSEntry) : (sortEntries values).Perm values :=
  (List.reverse_perm _).trans (foldl_orderedInsert_perm values [])

theorem foldl_orderedInsert_pairwise : ∀ (values front : List HEVCRPSEntry),
    front.Pairwise notAfter →
      (values.foldl (fun front value => front.orderedInsert notAfter value) front).Pairwise
        notAfter := by
  intro values
  induction values with
  | nil => intro front h; exact h
  | cons value values ih =>
    intro front h
    have total : Std.Total notAfter := ⟨fun a b => Nat.le_total b.delta a.delta⟩
    have trans : IsTrans HEVCRPSEntry notAfter := ⟨fun _ _ _ hab hbc => Nat.le_trans hbc hab⟩
    exact ih _ (List.Pairwise.orderedInsert value front h)

theorem sortEntries_sorted (values : List HEVCRPSEntry) :
    (sortEntries values).Pairwise fun a b => a.delta ≤ b.delta := by
  unfold sortEntries
  rw [List.pairwise_reverse]
  exact foldl_orderedInsert_pairwise values [] List.Pairwise.nil

/-- No two valid short-term entries of `ReferenceFrames` have the same picture order count. -/
def DistinctPocs (pp : VAPictureParameterBufferHEVC) : Prop :=
  (shortTermRefs pp).Pairwise fun a b => a.picOrderCnt ≠ b.picOrderCnt

instance (pp : VAPictureParameterBufferHEVC) : Decidable (DistinctPocs pp) :=
  inferInstanceAs (Decidable (List.Pairwise _ _))

/-- The lists of a collected reference picture set that hold the short-term pictures: by strictly
growing distance on each side, and together all of them. -/
structure ShortTermSorted (pp : VAPictureParameterBufferHEVC) (rps : HEVCRPS) : Prop where
  negative : rps.negative.Pairwise fun a b => a.delta < b.delta
  positive : rps.positive.Pairwise fun a b => a.delta < b.delta
  bounds : ∀ entry ∈ rps.negative ++ rps.positive, 0 < entry.delta ∧ entry.delta ≤ 65535
  room : rps.negative.length + rps.positive.length ≤ 15
  perm : (rps.negative.map (fun entry => (-(entry.delta : Int), entry.used)) ++
    rps.positive.map (fun entry => ((entry.delta : Int), entry.used))).Perm
      ((shortTermRefs pp).map (shortTermEntry pp.currPic.picOrderCnt.toInt))

theorem shortTermSide_eq (side : Int → Bool) (pp : VAPictureParameterBufferHEVC) :
    shortTermSide side pp.currPic.picOrderCnt.toInt (List.ofFn pp.referenceFrames) =
      (shortTermRefs pp).filter fun ref => side (pocDelta pp.currPic.picOrderCnt.toInt ref) := by
  rw [shortTermSide, shortTermRefs, List.filter_filter]
  congr 1
  funext ref
  exact Bool.and_comm _ _

/-- Sorting the entries of distinct pictures on one side sorts them strictly. -/
theorem sortEntries_side {pp : VAPictureParameterBufferHEVC} (distinct : DistinctPocs pp)
    (side : Int → Bool) (oneSide : ∀ a b : Int, side a = true → side b = true →
      a.natAbs = b.natAbs → a = b) :
    (sortEntries ((shortTermSide side pp.currPic.picOrderCnt.toInt
      (List.ofFn pp.referenceFrames)).map (rpsEntry pp.currPic.picOrderCnt.toInt))).Pairwise
        fun a b => a.delta < b.delta := by
  have apart : ((shortTermSide side pp.currPic.picOrderCnt.toInt
      (List.ofFn pp.referenceFrames)).map (rpsEntry pp.currPic.picOrderCnt.toInt)).Pairwise
        fun a b => a.delta ≠ b.delta := by
    rw [List.pairwise_map, shortTermSide_eq]
    refine (List.Pairwise.filter _ distinct).imp_of_mem fun {a b} ha hb poc same => poc ?_
    have equal := oneSide _ _ (List.mem_filter.mp ha).2 (List.mem_filter.mp hb).2 same
    apply Int32.toInt.inj
    unfold pocDelta at equal
    omega
  have sorted := sortEntries_sorted ((shortTermSide side pp.currPic.picOrderCnt.toInt
      (List.ofFn pp.referenceFrames)).map (rpsEntry pp.currPic.picOrderCnt.toInt))
  have apartSorted := ((sortEntries_perm _).pairwise_iff (fun h => h.symm)).mpr apart
  exact (sorted.and apartSorted).imp fun h => Nat.lt_of_le_of_ne h.1 h.2

section

variable {pp : VAPictureParameterBufferHEVC} {raw : HEVCRPS}
  (collected : Collected pp.currPic.picOrderCnt.toInt (List.ofFn pp.referenceFrames) raw)

include collected

theorem Collected.side_facts (side : Int → Bool) : ∀ ref ∈ shortTermSide side
    pp.currPic.picOrderCnt.toInt (List.ofFn pp.referenceFrames),
      side (pocDelta pp.currPic.picOrderCnt.toInt ref) = true ∧
        pocDelta pp.currPic.picOrderCnt.toInt ref ≠ 0 ∧
        (pocDelta pp.currPic.picOrderCnt.toInt ref).natAbs ≤ 65535 := by
  intro ref hmem
  obtain ⟨inList, flags⟩ := List.mem_filter.mp hmem
  simp only [Bool.and_eq_true, Bool.not_eq_true'] at flags
  exact ⟨flags.2, collected.nonzero ref inList flags.1.1 flags.1.2⟩

theorem Collected.bounds : ∀ entry ∈ raw.negative ++ raw.positive,
    0 < entry.delta ∧ entry.delta ≤ 65535 := by
  intro entry hentry
  rw [List.mem_append, collected.negative, collected.positive] at hentry
  have oneSide : ∃ side, entry ∈ (shortTermSide side pp.currPic.picOrderCnt.toInt
      (List.ofFn pp.referenceFrames)).map (rpsEntry pp.currPic.picOrderCnt.toInt) := by
    rcases hentry with hentry | hentry
    · exact ⟨_, hentry⟩
    · exact ⟨_, hentry⟩
  obtain ⟨side, hside⟩ := oneSide
  obtain ⟨ref, href, rfl⟩ := List.mem_map.mp hside
  have facts := collected.side_facts side ref href
  simp only [rpsEntry]
  omega

/-- The pictures in front of the current one. -/
theorem Collected.map_negative :
    (raw.negative.map fun entry => (-(entry.delta : Int), entry.used)) =
      ((shortTermRefs pp).filter fun ref =>
        decide (pocDelta pp.currPic.picOrderCnt.toInt ref < 0)).map
          (shortTermEntry pp.currPic.picOrderCnt.toInt) := by
  rw [collected.negative, List.map_map, ← shortTermSide_eq (fun delta => decide (delta < 0))]
  refine List.map_congr_left fun ref href => ?_
  have facts := collected.side_facts _ ref href
  simp only [decide_eq_true_eq] at facts
  simp only [Function.comp, rpsEntry, shortTermEntry, Prod.mk.injEq, and_true]
  omega

/-- The pictures behind the current one. No short-term picture has its picture order count. -/
theorem Collected.map_positive :
    (raw.positive.map fun entry => ((entry.delta : Int), entry.used)) =
      ((shortTermRefs pp).filter fun ref =>
        !decide (pocDelta pp.currPic.picOrderCnt.toInt ref < 0)).map
          (shortTermEntry pp.currPic.picOrderCnt.toInt) := by
  have sides : ((shortTermRefs pp).filter fun ref =>
      !decide (pocDelta pp.currPic.picOrderCnt.toInt ref < 0)) =
        (shortTermRefs pp).filter fun ref =>
          decide (0 < pocDelta pp.currPic.picOrderCnt.toInt ref) := by
    refine List.filter_congr fun ref href => ?_
    obtain ⟨inList, flags⟩ := List.mem_filter.mp href
    simp only [Bool.and_eq_true, Bool.not_eq_true'] at flags
    have facts := collected.nonzero ref inList flags.1 flags.2
    rw [← decide_not, decide_eq_decide]
    omega
  rw [sides, collected.positive, List.map_map,
    ← shortTermSide_eq (fun delta => decide (0 < delta))]
  refine List.map_congr_left fun ref href => ?_
  have facts := collected.side_facts _ ref href
  simp only [decide_eq_true_eq] at facts
  simp only [Function.comp, rpsEntry, shortTermEntry, Prod.mk.injEq, and_true]
  omega

end

/-- `collect_rps` sorts what its loop has collected. -/
theorem collectRps_collected {pp : VAPictureParameterBufferHEVC} {rps : HEVCRPS}
    (h : collectRps pp = some rps) : ∃ raw,
      Collected pp.currPic.picOrderCnt.toInt (List.ofFn pp.referenceFrames) raw ∧
        rps = { raw with
          negative := sortEntries raw.negative, positive := sortEntries raw.positive } := by
  obtain ⟨raw, fold, h⟩ := Option.bind_eq_some_iff.mp h
  have start : Collected pp.currPic.picOrderCnt.toInt [] ⟨[], [], []⟩ :=
    ⟨rfl, rfl, by simp, by simp⟩
  have collected := foldlM_collected _ _ _ _ start fold
  rw [List.nil_append] at collected
  exact ⟨raw, collected, (Option.some.inj h).symm⟩

theorem collectRps_bounds {pp : VAPictureParameterBufferHEVC} {rps : HEVCRPS}
    (h : collectRps pp = some rps) : ∀ entry ∈ rps.negative ++ rps.positive,
      0 < entry.delta ∧ entry.delta ≤ 65535 := by
  obtain ⟨raw, collected, rfl⟩ := collectRps_collected h
  have perm := (sortEntries_perm raw.negative).append (sortEntries_perm raw.positive)
  exact fun entry hentry => collected.bounds entry (perm.mem_iff.mp hentry)

theorem collectRps_room {pp : VAPictureParameterBufferHEVC} {rps : HEVCRPS}
    (h : collectRps pp = some rps) :
    rps.negative.length + rps.positive.length + rps.longTerm.length ≤ 15 := by
  obtain ⟨raw, collected, rfl⟩ := collectRps_collected h
  have room := collected.room
  have negative := (sortEntries_perm raw.negative).length_eq
  have positive := (sortEntries_perm raw.positive).length_eq
  simp only
  omega

/-- Both lists together hold the valid short-term pictures. -/
theorem collectRps_perm {pp : VAPictureParameterBufferHEVC} {rps : HEVCRPS}
    (h : collectRps pp = some rps) :
    (rps.negative.map (fun entry => (-(entry.delta : Int), entry.used)) ++
      rps.positive.map (fun entry => ((entry.delta : Int), entry.used))).Perm
        ((shortTermRefs pp).map (shortTermEntry pp.currPic.picOrderCnt.toInt)) := by
  obtain ⟨raw, collected, rfl⟩ := collectRps_collected h
  have sorted := ((sortEntries_perm raw.negative).map fun entry =>
      (-(entry.delta : Int), entry.used)).append
    ((sortEntries_perm raw.positive).map fun entry => ((entry.delta : Int), entry.used))
  refine sorted.trans ?_
  rw [collected.map_negative, collected.map_positive, ← List.map_append]
  exact (List.filter_append_perm _ _).map _

theorem collectRps_sorted {pp : VAPictureParameterBufferHEVC} {rps : HEVCRPS}
    (h : collectRps pp = some rps) (distinct : DistinctPocs pp) : ShortTermSorted pp rps := by
  have room := collectRps_room h
  refine ⟨?_, ?_, collectRps_bounds h, by omega, collectRps_perm h⟩
  · obtain ⟨raw, collected, rfl⟩ := collectRps_collected h
    rw [collected.negative]
    refine sortEntries_side distinct _ fun a b ha hb same => ?_
    simp only [decide_eq_true_eq] at ha hb
    omega
  · obtain ⟨raw, collected, rfl⟩ := collectRps_collected h
    rw [collected.positive]
    refine sortEntries_side distinct _ fun a b ha hb same => ?_
    simp only [decide_eq_true_eq] at ha hb
    omega

end RockchipVaapi.Hevc
