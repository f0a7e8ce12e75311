import RockchipVaapi.Hevc.ExpGolomb
import RockchipVaapi.Hevc.SliceRewriteProofs

/-!
# Long-term reference pictures

The first half is about `write_long_term_rps`, which writes the long-term entries of a collected
reference picture set so that a decoder finds their picture order counts again. The second half is
about `skip_original_rps`, which walks over the long-term entries of the stream and checks how many
there are.
-/

namespace RockchipVaapi.Hevc
open Bitstream HEVCBitReader

/-! ## The decoding process -/

/-- The long-term pictures of a header, in order: the accumulation of `DeltaPocMsbCycleLt` (7-52)
and the picture order count of 8.3.2, with the usage flag. Without an MSB cycle only the low bits
are known. -/
def longTermPocs (pocLsbBits : Nat) (currentPoc : Int) : Nat → List LongTermPic → List (Int × Bool)
  | _, [] => []
  | previousCycle, pic :: pics =>
    let deltaPocMsbCycleLt := previousCycle + pic.deltaPocMsbCycleLt.getD 0
    let pocLt : Int :=
      if pic.deltaPocMsbCycleLt.isSome then
        pic.pocLsbLt + currentPoc - deltaPocMsbCycleLt * 2 ^ pocLsbBits - currentPoc % 2 ^ pocLsbBits
      else pic.pocLsbLt
    (pocLt, pic.usedByCurrPicLtFlag) ::
      longTermPocs pocLsbBits currentPoc deltaPocMsbCycleLt pics

/-- The cycles of `slice_pic_order_cnt_lsb` from an entry to the current picture. -/
def cycleDifference (pocLsbBits : Nat) (currentPoc : Int) (entry : HEVCRPSEntry) : Int :=
  currentPoc / 2 ^ pocLsbBits - entry.signedPoc / 2 ^ pocLsbBits

/-- The differences are not negative and do not decrease in list order. -/
def CyclesRise (pocLsbBits : Nat) (currentPoc : Int) (entries : List HEVCRPSEntry) : Prop :=
  (∀ entry ∈ entries, 0 ≤ cycleDifference pocLsbBits currentPoc entry) ∧
    (entries.map (cycleDifference pocLsbBits currentPoc)).Pairwise (· ≤ ·)

instance (pocLsbBits : Nat) (currentPoc : Int) (entries : List HEVCRPSEntry) :
    Decidable (CyclesRise pocLsbBits currentPoc entries) :=
  inferInstanceAs (Decidable (_ ∧ _))

/-- `CyclesRise` behind an entry of difference `previous`. -/
def RisesFrom (pocLsbBits : Nat) (currentPoc previous : Int) (entries : List HEVCRPSEntry) : Prop :=
  (∀ entry ∈ entries, previous ≤ cycleDifference pocLsbBits currentPoc entry) ∧
    (entries.map (cycleDifference pocLsbBits currentPoc)).Pairwise (· ≤ ·)

theorem risesFrom_cons {pocLsbBits : Nat} {currentPoc previous : Int} {entry : HEVCRPSEntry}
    {entries : List HEVCRPSEntry} :
    RisesFrom pocLsbBits currentPoc previous (entry :: entries) ↔
      previous ≤ cycleDifference pocLsbBits currentPoc entry ∧
        RisesFrom pocLsbBits currentPoc (cycleDifference pocLsbBits currentPoc entry) entries := by
  unfold RisesFrom
  rw [List.forall_mem_cons, List.map_cons, List.pairwise_cons, List.forall_mem_map]
  constructor
  · rintro ⟨⟨first, -⟩, later, sorted⟩
    exact ⟨first, later, sorted⟩
  · rintro ⟨first, later, sorted⟩
    exact ⟨⟨first, fun e he => Int.le_trans first (later e he)⟩, later, sorted⟩

/-! ## What the driver computes -/

theorem signedPoc_bounds (entry : HEVCRPSEntry) :
    -2 ^ 31 ≤ entry.signedPoc ∧ entry.signedPoc < 2 ^ 31 := by
  have low := Int.le_bmod (x := (entry.poc : Int)) (m := 2 ^ 32) (by decide)
  have high := Int.bmod_lt (x := (entry.poc : Int)) (m := 2 ^ 32) (by decide)
  unfold HEVCRPSEntry.signedPoc
  omega

/-- The division of `write_long_term_rps` is exact, since `poc_lsb` is the low part of the current
picture order count. -/
theorem msb_eq (pocLsbBits : Nat) (currentPoc : Int) (entry : HEVCRPSEntry) :
    Int.tdiv ((entry.signedPoc % 2 ^ pocLsbBits).toNat + currentPoc -
      (currentPoc % 2 ^ pocLsbBits).toNat - entry.signedPoc) (2 ^ pocLsbBits) =
        cycleDifference pocLsbBits currentPoc entry := by
  have positive : (0 : Int) < 2 ^ pocLsbBits := Int.pow_pos (by decide)
  have refLsb := Int.toNat_of_nonneg (Int.emod_nonneg entry.signedPoc positive.ne')
  have pocLsb := Int.toNat_of_nonneg (Int.emod_nonneg currentPoc positive.ne')
  have ref := Int.mul_ediv_add_emod entry.signedPoc (2 ^ pocLsbBits)
  have current := Int.mul_ediv_add_emod currentPoc (2 ^ pocLsbBits)
  have whole : ((entry.signedPoc % 2 ^ pocLsbBits).toNat : Int) + currentPoc -
      (currentPoc % 2 ^ pocLsbBits).toNat - entry.signedPoc =
        2 ^ pocLsbBits * cycleDifference pocLsbBits currentPoc entry := by
    rw [cycleDifference, Int.mul_sub, refLsb, pocLsb]
    omega
  rw [whole, Int.mul_tdiv_cancel_left _ positive.ne']

/-- With at least four bits the cycles of 32-bit counts are fewer than `2^28`. -/
theorem cycleDifference_le {pocLsbBits : Nat} (enough : 4 ≤ pocLsbBits) {currentPoc : Int}
    (high : currentPoc < 2 ^ 31) (entry : HEVCRPSEntry) :
    cycleDifference pocLsbBits currentPoc entry ≤ 2 ^ 28 := by
  have sixteen : (16 : Int) ≤ 2 ^ pocLsbBits := by
    have := Nat.pow_le_pow_right (n := 2) (by decide) enough
    exact_mod_cast this
  obtain ⟨low, -⟩ := signedPoc_bounds entry
  have current : currentPoc / 2 ^ pocLsbBits < 2 ^ 27 :=
    Int.ediv_lt_of_lt_mul (by omega) (by omega)
  have ref : -2 ^ 27 ≤ entry.signedPoc / 2 ^ pocLsbBits :=
    Int.le_ediv_of_mul_le (by omega) (by omega)
  unfold cycleDifference
  omega

/-- The syntax elements of the entries. -/
def longTermPics (pocLsbBits : Nat) (currentPoc : Int) :
    Int → List HEVCRPSEntry → List LongTermPic
  | _, [] => []
  | previous, entry :: entries =>
    { pocLsbLt := (entry.signedPoc % 2 ^ pocLsbBits).toNat
      usedByCurrPicLtFlag := entry.used
      deltaPocMsbCycleLt := some (cycleDifference pocLsbBits currentPoc entry - previous).toNat } ::
      longTermPics pocLsbBits currentPoc (cycleDifference pocLsbBits currentPoc entry) entries

/-- The code of a long-term picture with an MSB cycle. -/
def longTermPicCode (pocLsbBits : Nat) (pic : LongTermPic) : List Bool :=
  uBits pocLsbBits pic.pocLsbLt ++ ([pic.usedByCurrPicLtFlag] ++
    ([true] ++ ueBits (pic.deltaPocMsbCycleLt.getD 0)))

theorem length_longTermPics (pocLsbBits : Nat) (currentPoc : Int) :
    ∀ (entries : List HEVCRPSEntry) (previous : Int),
      (longTermPics pocLsbBits currentPoc previous entries).length = entries.length := by
  intro entries
  induction entries with
  | nil => intro _; rfl
  | cons entry entries ih => intro _; rw [longTermPics, List.length_cons, ih, List.length_cons]

/-- The loop writes the entries where their cycle differences rise, and gives up elsewhere. -/
theorem writeLongTermEntries_spec {pocLsbBits : Nat} (enough : 4 ≤ pocLsbBits) {currentPoc : Int}
    (high : currentPoc < 2 ^ 31) : ∀ (entries : List HEVCRPSEntry) (previous : Int),
      0 ≤ previous →
      (RisesFrom pocLsbBits currentPoc previous entries →
        Emits (writeLongTermEntries pocLsbBits currentPoc (currentPoc % 2 ^ pocLsbBits).toNat
            previous entries)
          ((longTermPics pocLsbBits currentPoc previous entries).map
            (longTermPicCode pocLsbBits)).flatten) ∧
      (¬ RisesFrom pocLsbBits currentPoc previous entries →
        Fails (writeLongTermEntries pocLsbBits currentPoc (currentPoc % 2 ^ pocLsbBits).toNat
          previous entries)) := by
  intro entries
  induction entries with
  | nil =>
    intro previous _
    exact ⟨fun _ => emits_nil, fun falls => absurd ⟨by simp, List.Pairwise.nil⟩ falls⟩
  | cons entry entries ih =>
    intro previous nonneg
    have top := cycleDifference_le enough high entry
    unfold writeLongTermEntries
    simp only [msb_eq]
    rw [risesFrom_cons]
    by_cases rises : previous ≤ cycleDifference pocLsbBits currentPoc entry
    · obtain ⟨emits, fails⟩ := ih (cycleDifference pocLsbBits currentPoc entry) (by omega)
      rw [if_neg (by omega)]
      constructor
      · rintro ⟨-, rest⟩
        have delta : (cycleDifference pocLsbBits currentPoc entry - previous).toNat + 1 < 2 ^ 32 := by
          omega
        rw [longTermPics, List.map_cons, List.flatten_cons, longTermPicCode]
        simp only [List.append_assoc]
        exact (emits_write _ _).seq ((emits_flag _).seq ((emits_flag true).seq
          ((emits_ue delta).seq (emits rest))))
      · intro falls
        exact Fails.after (Fails.after (Fails.after (Fails.after
          (fails fun rest => falls ⟨rises, rest⟩))))
    · rw [if_pos (by omega)]
      refine ⟨fun h => absurd h.1 rises, fun _ => ?_⟩
      exact Fails.after (Fails.after fun _ => rfl)

theorem reads_longTermPic {facts : SliceFacts} {pic : LongTermPic} {cycle : Nat}
    (lsb : pic.pocLsbLt < 2 ^ facts.pocLsbBits) (present : pic.deltaPocMsbCycleLt = some cycle) :
    Reads (readLongTermPic facts) (longTermPicCode facts.pocLsbBits pic) pic := by
  obtain ⟨pocLsbLt, used, msbCycle⟩ := pic
  obtain rfl : msbCycle = some cycle := present
  have element : Reads readDeltaPocMsbCycleLt ([true] ++ ueBits cycle) (some cycle) :=
    (reads_flag true).bind (reads_ue cycle).map
  exact (reads_u lsb).bind ((reads_flag used).bind element.map)

theorem longTermPics_coded (pocLsbBits : Nat) (currentPoc : Int) :
    ∀ (entries : List HEVCRPSEntry) (previous : Int),
      ∀ pic ∈ longTermPics pocLsbBits currentPoc previous entries,
        pic.pocLsbLt < 2 ^ pocLsbBits ∧ ∃ cycle, pic.deltaPocMsbCycleLt = some cycle := by
  intro entries
  induction entries with
  | nil => intro _ pic hpic; cases hpic
  | cons entry entries ih =>
    intro previous pic hpic
    rcases List.mem_cons.mp hpic with rfl | hpic
    · refine ⟨?_, _, rfl⟩
      have positive : (0 : Int) < 2 ^ pocLsbBits := Int.pow_pos (by decide)
      have less := Int.emod_lt_of_pos entry.signedPoc positive
      rw [Int.toNat_lt (Int.emod_nonneg _ positive.ne')]
      exact_mod_cast less
    · exact ih _ pic hpic

/-- The decoding process finds the entries again: the cycles it accumulates are the absolute ones,
and they cancel against the low part. -/
theorem longTermPocs_longTermPics (pocLsbBits : Nat) (currentPoc : Int) :
    ∀ (entries : List HEVCRPSEntry) (previous : Int), 0 ≤ previous →
      RisesFrom pocLsbBits currentPoc previous entries →
        longTermPocs pocLsbBits currentPoc previous.toNat
            (longTermPics pocLsbBits currentPoc previous entries) =
          entries.map fun entry => (entry.signedPoc, entry.used) := by
  intro entries
  induction entries with
  | nil => intro _ _ _; rfl
  | cons entry entries ih =>
    intro previous nonneg rises
    obtain ⟨first, rest⟩ := risesFrom_cons.mp rises
    have positive : (0 : Int) < 2 ^ pocLsbBits := Int.pow_pos (by decide)
    have running : previous.toNat +
        (cycleDifference pocLsbBits currentPoc entry - previous).toNat =
          (cycleDifference pocLsbBits currentPoc entry).toNat := by omega
    have cycle := Int.toNat_of_nonneg (Int.le_trans nonneg first)
    have refLsb := Int.toNat_of_nonneg (Int.emod_nonneg entry.signedPoc positive.ne')
    have ref := Int.mul_ediv_add_emod entry.signedPoc (2 ^ pocLsbBits)
    have current := Int.mul_ediv_add_emod currentPoc (2 ^ pocLsbBits)
    have poc : ((entry.signedPoc % 2 ^ pocLsbBits).toNat : Int) + currentPoc -
        (cycleDifference pocLsbBits currentPoc entry).toNat * 2 ^ pocLsbBits -
          currentPoc % 2 ^ pocLsbBits = entry.signedPoc := by
      rw [refLsb, cycle, cycleDifference, Int.mul_comm, Int.mul_sub]
      omega
    rw [longTermPics, longTermPocs]
    simp only [Option.getD_some, Option.isSome_some, if_true, List.map_cons]
    rw [running, poc, ih _ (by omega) rest]

/-- `write_long_term_rps` succeeds exactly where the cycle differences are not negative and do not
decrease; what it then writes decodes to the picture order counts and flags of the entries, in
order. -/
theorem writeLongTermRps_reconstructs (pp : VAPictureParameterBufferHEVC) (rps : HEVCRPS)
    (pocLsb : Nat) (count : rps.longTerm.length ≤ 15)
    (present : pp.longTermRefPicsPresentFlag = true)
    (lsb : pocLsb = (pp.currPic.picOrderCnt.toInt %
      2 ^ (pp.log2MaxPicOrderCntLsbMinus4.toNat + 4)).toNat) :
    (∀ bs : BSWriter, bs.Ok → ((writeLongTermRps rps pp pocLsb bs).isSome ↔
      CyclesRise (pp.log2MaxPicOrderCntLsbMinus4.toNat + 4) pp.currPic.picOrderCnt.toInt
        rps.longTerm)) ∧
    (CyclesRise (pp.log2MaxPicOrderCntLsbMinus4.toNat + 4) pp.currPic.picOrderCnt.toInt
        rps.longTerm →
      ∃ code pics, Emits (writeLongTermRps rps pp pocLsb) code ∧
        Reads (readLongTermRps (SliceFacts.emitted pp)) code ⟨[], pics⟩ ∧
        longTermPocs (pp.log2MaxPicOrderCntLsbMinus4.toNat + 4) pp.currPic.picOrderCnt.toInt 0 pics =
          rps.longTerm.map fun entry => (entry.signedPoc, entry.used)) := by
  have high : pp.currPic.picOrderCnt.toInt < 2 ^ 31 := Int32.toInt_lt _
  obtain ⟨emits, fails⟩ := writeLongTermEntries_spec
    (Nat.le_add_left 4 pp.log2MaxPicOrderCntLsbMinus4.toNat) high rps.longTerm 0 (Int.le_refl 0)
  rw [← lsb] at emits fails
  have small : rps.longTerm.length + 1 < 2 ^ 32 := by omega
  have whole : CyclesRise (pp.log2MaxPicOrderCntLsbMinus4.toNat + 4) pp.currPic.picOrderCnt.toInt
      rps.longTerm → Emits (writeLongTermRps rps pp pocLsb) _ := fun rises => by
    unfold writeLongTermRps
    rw [present]
    exact (emits_ue small).seq (emits rises)
  refine ⟨fun bs ok => ⟨fun succeeds => ?_, fun rises => ?_⟩, fun rises => ?_⟩
  · by_contra falls
    have gaveUp : Fails (writeLongTermRps rps pp pocLsb) := by
      unfold writeLongTermRps
      rw [present]
      exact Fails.after (fails falls)
    rw [gaveUp bs] at succeeds
    cases succeeds
  · obtain ⟨bs', run, -⟩ := whole rises bs ok
    rw [run]
    rfl
  · refine ⟨_, _, whole rises, ?_, longTermPocs_longTermPics _ _ rps.longTerm 0 (Int.le_refl 0) rises⟩
    have each : ∀ pic ∈ longTermPics (pp.log2MaxPicOrderCntLsbMinus4.toNat + 4)
        pp.currPic.picOrderCnt.toInt 0 rps.longTerm,
        Reads (readLongTermPic (SliceFacts.emitted pp))
          (longTermPicCode (pp.log2MaxPicOrderCntLsbMinus4.toNat + 4) pic) (id pic) := by
      intro pic hpic
      obtain ⟨small, cycle, coded⟩ := longTermPics_coded _ _ rps.longTerm 0 pic hpic
      exact reads_longTermPic small coded
    have pics := reads_readMany _ each
    rw [List.map_id, length_longTermPics] at pics
    unfold readLongTermRps
    have flag : (SliceFacts.emitted pp).longTermRefPicsPresentFlag = true := present
    rw [flag]
    have none : Reads (readNumLongTermSps (SliceFacts.emitted pp)) [] 0 := reads_pure 0
    exact none.skip ((reads_ue _).bind (Reads.skip (reads_pure []) pics.map))

/-- Two long-term pictures, one of them more than a cycle in front of the current one. -/
def longTermRps : HEVCRPS where
  negative := []
  positive := []
  longTerm := [⟨0, 5, true⟩, ⟨0, 2 ^ 32 - 251, false⟩]

theorem writeLongTermRps_reconstructs_inter :
    ∃ code pics, Emits (writeLongTermRps longTermRps interPicture 10) code ∧
      Reads (readLongTermRps (SliceFacts.emitted interPicture)) code ⟨[], pics⟩ ∧
      longTermPocs 8 10 0 pics = [(5, true), (-251, false)] :=
  (writeLongTermRps_reconstructs interPicture longTermRps 10 (by decide) rfl (by decide)).2
    (by decide)

/-! ## Walking over the entries of the stream -/

section

variable {α β γ δ : Type}

/-- Where `m` succeeds, the standard's reader `p` takes the same bits, and `R` relates their
results. -/
def Follows (m : BrM α) (p : Reader β) (R : α → β → Prop) : Prop :=
  ∀ br x br', m br = some (x, br') → ∃ y, p br.rest = some (y, br'.rest) ∧ R x y

theorem follows_pure {R : α → β → Prop} {x : α} {y : β} (h : R x y) :
    Follows (pure x : BrM α) (pure y : Reader β) R := by
  intro br x' br' run
  obtain ⟨rfl, rfl⟩ := Prod.mk.inj (Option.some.inj run)
  exact ⟨y, rfl, h⟩

theorem Follows.bind {m : BrM α} {f : α → BrM β} {p : Reader γ} {g : γ → Reader δ}
    {R : α → γ → Prop} {S : β → δ → Prop} (hm : Follows m p R)
    (hf : ∀ x y, R x y → Follows (f x) (g y) S) : Follows (m >>= f) (p >>= g) S := by
  intro br x br' run
  obtain ⟨⟨a, middle⟩, first, second⟩ := Option.bind_eq_some_iff.mp run
  obtain ⟨c, read, related⟩ := hm br a middle first
  obtain ⟨y, read', related'⟩ := hf a c related middle x br' second
  exact ⟨y, by rw [bind_apply, read]; exact read', related'⟩

theorem Follows.readIf {c : Bool} {m : BrM α} {p : Reader β} {R : α → β → Prop} {x : α} {y : β}
    (h : Follows m p R) (absent : R x y) : Follows (brIf c m x) (Bitstream.readIf c p y) R := by
  cases c with
  | false => exact follows_pure absent
  | true => exact h

/-- A loop that drops what it reads takes as many elements as the standard's. -/
theorem Follows.readMany {m : BrM α} {p : Reader β} (h : Follows m p fun _ _ => True) :
    ∀ n, Follows (brEach m n) (Bitstream.readMany p n) (fun _ ys => ys.length = n)
  | 0 => follows_pure rfl
  | n + 1 => h.bind fun _ _ _ => by
    intro br x br' run
    obtain ⟨ys, read, length⟩ := Follows.readMany h n br x br' run
    exact ⟨_, by rw [bind_apply, read]; rfl, congrArg (· + 1) length⟩

theorem follows_bit : Follows brReadBit readFlag (fun x b => x = b.toNat) := by
  intro br x br' run
  obtain ⟨b, rfl, front, -, -⟩ := brReadBit_some run
  exact ⟨b, by rw [front]; rfl, rfl⟩

theorem follows_skip (n : Nat) : Follows (brSkipBits n) (readU n) (fun _ _ => True) := by
  intro br x br' run
  obtain ⟨rfl, room⟩ := brSkipBits_some run
  have enough : n ≤ br.rest.length := by
    rw [rest, List.length_drop, length_bytesBits]
    omega
  exact ⟨_, by rw [readU, if_pos enough, rest_skip], trivial⟩

theorem follows_ue : Follows brReadUe readUe (fun _ _ => True) := by
  intro br x br' run
  obtain ⟨zeros, suffix, -, code, -, -⟩ := brReadUe_some run
  exact ⟨_, code.readUe, trivial⟩

end

theorem follows_msbCycle : Follows skipMsbCycle readDeltaPocMsbCycleLt (fun _ _ => True) := by
  refine follows_bit.bind fun x present hx => ?_
  have flag : (x != 0) = present := by subst hx; cases present <;> rfl
  have cycle : Follows brReadUe (do let cycle ← readUe; return some cycle) (fun _ _ => True) := by
    intro br x br' run
    obtain ⟨y, read, -⟩ := follows_ue br x br' run
    exact ⟨some y, by rw [bind_apply, read]; rfl, trivial⟩
  rw [flag]
  intro br u br' run
  obtain ⟨⟨a, middle⟩, first, second⟩ := Option.bind_eq_some_iff.mp run
  obtain ⟨-, rfl⟩ := Prod.mk.inj (Option.some.inj second)
  exact (cycle.readIf (c := present) (y := none) trivial) br a middle first

theorem follows_longTermSpsPic (pp : VAPictureParameterBufferHEVC) :
    Follows (do brSkipBits (ceilLog2U32 pp.numLongTermRefPicSps.toNat); skipMsbCycle)
      (readLongTermSpsPic (SliceFacts.ofPicture pp)) (fun _ _ => True) := by
  rw [ceilLog2U32_eq]
  refine (follows_skip _).bind fun _ idx _ => ?_
  intro br u br' run
  obtain ⟨cycle, read, -⟩ := follows_msbCycle br u br' run
  exact ⟨⟨idx, cycle⟩, by rw [bind_apply, read]; rfl, trivial⟩

theorem follows_longTermPic (pp : VAPictureParameterBufferHEVC) :
    Follows (do brSkipBits (pp.log2MaxPicOrderCntLsbMinus4.toNat + 4 + 1); skipMsbCycle)
      (readLongTermPic (SliceFacts.ofPicture pp)) (fun _ _ => True) := by
  intro br u br' run
  obtain ⟨⟨_, middle⟩, skip, run⟩ := Option.bind_eq_some_iff.mp run
  obtain ⟨rfl, room⟩ := brSkipBits_some skip
  obtain ⟨cycle, read, -⟩ := follows_msbCycle _ _ _ run
  have enough : pp.log2MaxPicOrderCntLsbMinus4.toNat + 4 < br.rest.length := by
    rw [rest, List.length_drop, length_bytesBits]
    omega
  -- the driver skips `poc_lsb_lt` together with `used_by_curr_pic_lt_flag`
  have lsb : readU (SliceFacts.ofPicture pp).pocLsbBits br.rest =
      some (bitsVal (br.rest.take (pp.log2MaxPicOrderCntLsbMinus4.toNat + 4)),
        br.rest.drop (pp.log2MaxPicOrderCntLsbMinus4.toNat + 4)) := if_pos (Nat.le_of_lt enough)
  have used : readFlag (br.rest.drop (pp.log2MaxPicOrderCntLsbMinus4.toNat + 4)) =
      some (br.rest[pp.log2MaxPicOrderCntLsbMinus4.toNat + 4],
        br.rest.drop (pp.log2MaxPicOrderCntLsbMinus4.toNat + 4 + 1)) := by
    rw [List.drop_eq_getElem_cons enough]
    rfl
  rw [rest_skip] at read
  refine ⟨⟨bitsVal (br.rest.take (pp.log2MaxPicOrderCntLsbMinus4.toNat + 4)),
    br.rest[pp.log2MaxPicOrderCntLsbMinus4.toNat + 4], cycle⟩, ?_, trivial⟩
  rw [readLongTermPic, bind_apply, lsb, Option.bind_some, bind_apply, used, Option.bind_some,
    bind_apply, read]
  rfl

/-- A count read by the driver is the coded one unless it has 31 leading zeros. -/
theorem brReadUe_count {br br' : HEVCBitReader} {x : Nat} (h : brReadUe br = some (x, br')) :
    ∃ y, readUe br.rest = some (y, br'.rest) ∧ (LongestCode br → 2 ^ 31 - 1 ≤ y) ∧
      (¬ LongestCode br → x = y ∧ y < 2 ^ 31 - 1) := by
  obtain ⟨zeros, suffix, short, code, rfl, -⟩ := brReadUe_some h
  refine ⟨_, code.readUe, ?_, fun other => ?_⟩
  · rintro ⟨suffix', behind', longest⟩
    obtain ⟨rfl, -⟩ := code.unique longest
    exact Nat.le_add_right _ _
  · have fewer : zeros < 31 := by
      refine Nat.lt_of_le_of_ne short ?_
      rintro rfl
      exact other ⟨suffix, _, code⟩
    have bound := bitsVal_lt suffix
    have width : 2 ^ zeros ≤ 2 ^ 30 := Nat.pow_le_pow_right (by decide) (by omega)
    rw [code.length] at bound
    exact ⟨ueResult_eq code.length fewer, by omega⟩

/-- What `skip_original_rps` should find behind the short-term part, from `br` to `br'`: the
long-term part of the standard, with no more pictures of the SPS than there are and at most 15
pictures in all. The lengths are the coded counts. -/
def CountsBounded (pp : VAPictureParameterBufferHEVC) (br br' : HEVCBitReader) : Prop :=
  ∃ longTerm, readLongTermRps (SliceFacts.ofPicture pp) br.rest = some (longTerm, br'.rest) ∧
    longTerm.spsPics.length ≤ pp.numLongTermRefPicSps.toNat ∧
    longTerm.spsPics.length + longTerm.pics.length ≤ 15

/-- `num_long_term_sps` or `num_long_term_pics` is coded with 31 leading zeros. -/
def LongestCount (pp : VAPictureParameterBufferHEVC) (br : HEVCBitReader) : Prop :=
  0 < pp.numLongTermRefPicSps.toNat ∧ LongestCode br ∨
    ∃ numLtSps br', brIf (decide (0 < pp.numLongTermRefPicSps.toNat)) brReadUe 0 br =
      some (numLtSps, br') ∧ LongestCode br'

/-- The first count, which is absent where the SPS has no long-term pictures. -/
theorem numLtSps_count {pp : VAPictureParameterBufferHEVC} {br br' : HEVCBitReader} {x : Nat}
    (h : brIf (decide (0 < pp.numLongTermRefPicSps.toNat)) brReadUe 0 br = some (x, br')) :
    ∃ y, readNumLongTermSps (SliceFacts.ofPicture pp) br.rest = some (y, br'.rest) ∧
      (0 < pp.numLongTermRefPicSps.toNat ∧ LongestCode br → 2 ^ 31 - 1 ≤ y) ∧
      (¬ (0 < pp.numLongTermRefPicSps.toNat ∧ LongestCode br) → x = y ∧ y < 2 ^ 31 - 1) := by
  have facts : (SliceFacts.ofPicture pp).numLongTermRefPicsSps =
    pp.numLongTermRefPicSps.toNat := rfl
  unfold readNumLongTermSps
  rw [facts]
  by_cases some : 0 < pp.numLongTermRefPicSps.toNat
  · rw [decide_eq_true some] at h ⊢
    obtain ⟨y, read, longest, other⟩ := brReadUe_count h
    exact ⟨y, read, fun ⟨_, code⟩ => longest code, fun no => other fun code => no ⟨some, code⟩⟩
  · rw [decide_eq_false some] at h ⊢
    obtain ⟨rfl, rfl⟩ := Prod.mk.inj (Option.some.inj h)
    exact ⟨0, rfl, fun ⟨pos, _⟩ => absurd pos some, fun _ => ⟨rfl, by decide⟩⟩

/-- The parts of a successful `skip_original_rps`: the short-term part, the two counts and the
entries. -/
theorem skipOriginalRps_parts {pp : VAPictureParameterBufferHEVC} {br br' : HEVCBitReader}
    {result : Nat × Bool} (present : pp.longTermRefPicsPresentFlag = true)
    (skip : skipOriginalRps pp br = some (result, br')) :
    ∃ br₁ br₂ br₃ numLtSps numLtPics, skipShortTerm pp br = some ((), br₁) ∧
      brIf (decide (0 < pp.numLongTermRefPicSps.toNat)) brReadUe 0 br₁ = some (numLtSps, br₂) ∧
      brReadUe br₂ = some (numLtPics, br₃) ∧ numLtSps ≤ pp.numLongTermRefPicSps.toNat ∧
      (numLtSps + numLtPics) % 2 ^ 32 ≤ 15 ∧
      (do
        brEach (do brSkipBits (ceilLog2U32 pp.numLongTermRefPicSps.toNat); skipMsbCycle)
          (min numLtSps ((numLtSps + numLtPics) % 2 ^ 32))
        brEach (do brSkipBits (pp.log2MaxPicOrderCntLsbMinus4.toNat + 4 + 1); skipMsbCycle)
          ((numLtSps + numLtPics) % 2 ^ 32 - numLtSps)) br₃ = some ((), br') := by
  obtain ⟨⟨_, br₁⟩, short, skip⟩ := Option.bind_eq_some_iff.mp skip
  rw [present] at skip
  obtain ⟨⟨numLtSps, br₂⟩, first, skip⟩ := Option.bind_eq_some_iff.mp skip
  obtain ⟨⟨_, br₄⟩, pics, skip⟩ := Option.bind_eq_some_iff.mp skip
  obtain ⟨-, rfl⟩ := Prod.mk.inj (Option.some.inj skip)
  obtain ⟨⟨numLtPics, br₃⟩, second, pics⟩ := Option.bind_eq_some_iff.mp pics
  dsimp only at pics
  split at pics
  · cases pics
  · exact ⟨br₁, br₂, br₃, numLtSps, numLtPics, short, first, second, by omega, by omega, pics⟩

theorem readLongTermRps_counts {pp : VAPictureParameterBufferHEVC} {bits middle behind : List Bool}
    {numSps numPics : Nat} (present : pp.longTermRefPicsPresentFlag = true)
    (first : readNumLongTermSps (SliceFacts.ofPicture pp) bits = some (numSps, middle))
    (second : readUe middle = some (numPics, behind)) :
    readLongTermRps (SliceFacts.ofPicture pp) bits = (do
      let spsPics ← readMany (readLongTermSpsPic (SliceFacts.ofPicture pp)) numSps
      let pics ← readMany (readLongTermPic (SliceFacts.ofPicture pp)) numPics
      return LongTermRps.mk spsPics pics) behind := by
  have flag : (SliceFacts.ofPicture pp).longTermRefPicsPresentFlag = true := present
  unfold readLongTermRps
  rw [flag]
  show (readNumLongTermSps _ >>= _) bits = _
  rw [bind_apply, first, Option.bind_some, readLongTermPics, bind_apply, second, Option.bind_some]

/-- A count with 31 leading zeros is far above 15. -/
theorem CountsBounded.not_longest {pp : VAPictureParameterBufferHEVC}
    {br₁ br₂ br₃ br' : HEVCBitReader} {numLtSps numLtPics : Nat}
    (bounded : CountsBounded pp br₁ br') (bound : pp.numLongTermRefPicSps.toNat ≤ 32)
    (present : pp.longTermRefPicsPresentFlag = true)
    (first : brIf (decide (0 < pp.numLongTermRefPicSps.toNat)) brReadUe 0 br₁ =
      some (numLtSps, br₂)) (second : brReadUe br₂ = some (numLtPics, br₃)) :
    ¬ LongestCount pp br₁ := by
  obtain ⟨longTerm, read, few, sum⟩ := bounded
  obtain ⟨numSps, readSps, longestSps, -⟩ := numLtSps_count first
  obtain ⟨numPics, readPics, longestPics, -⟩ := brReadUe_count second
  rw [readLongTermRps_counts present readSps readPics] at read
  obtain ⟨⟨spsPics, rest₁⟩, readSpsPics, read⟩ := Option.bind_eq_some_iff.mp read
  obtain ⟨⟨pics, rest₂⟩, readPics, read⟩ := Option.bind_eq_some_iff.mp read
  obtain ⟨rfl, -⟩ := Prod.mk.inj (Option.some.inj read)
  have spsCount := length_readMany readSpsPics
  have picsCount := length_readMany readPics
  dsimp only at few sum
  rintro (longest | ⟨n, br, again, longest⟩)
  · have := longestSps longest
    omega
  · obtain ⟨-, rfl⟩ := Prod.mk.inj (Option.some.inj (again.symm.trans first))
    have := longestPics longest
    omega

/-- Where `skip_original_rps` succeeds behind a long-term part, it has found the counts within their
bounds, and taken as many entries, exactly where neither count is coded with 31 leading zeros. -/
theorem skipOriginalRps_counts_iff (pp : VAPictureParameterBufferHEVC) (br br' : HEVCBitReader)
    (result : Nat × Bool) (bound : pp.numLongTermRefPicSps.toNat ≤ 32)
    (present : pp.longTermRefPicsPresentFlag = true)
    (skip : skipOriginalRps pp br = some (result, br')) :
    ∃ br₁, skipShortTerm pp br = some ((), br₁) ∧
      (CountsBounded pp br₁ br' ↔ ¬ LongestCount pp br₁) := by
  obtain ⟨br₁, br₂, br₃, numLtSps, numLtPics, short, first, second, few, sum, entries⟩ :=
    skipOriginalRps_parts present skip
  refine ⟨br₁, short, fun bounded => bounded.not_longest bound present first second, fun other => ?_⟩
  obtain ⟨numSps, readSps, -, sameSps⟩ := numLtSps_count first
  obtain ⟨numPics, readPics, -, samePics⟩ := brReadUe_count second
  obtain ⟨rfl, smallSps⟩ := sameSps fun longest => other (.inl longest)
  obtain ⟨rfl, smallPics⟩ := samePics fun longest => other (.inr ⟨_, br₂, first, longest⟩)
  -- both counts are small, so their sum does not wrap and the loop takes all entries
  rw [Nat.mod_eq_of_lt (by omega)] at sum entries
  rw [Nat.min_eq_left (Nat.le_add_right _ _), Nat.add_sub_cancel_left] at entries
  obtain ⟨⟨_, br₄⟩, spsEntries, picEntries⟩ := Option.bind_eq_some_iff.mp entries
  obtain ⟨spsPics, readSpsPics, spsCount⟩ :=
    (follows_longTermSpsPic pp).readMany numLtSps br₃ () br₄ spsEntries
  obtain ⟨pics, readPics', picsCount⟩ :=
    (follows_longTermPic pp).readMany numLtPics br₄ () br' picEntries
  refine ⟨⟨spsPics, pics⟩, ?_, by simp only; omega, by simp only; omega⟩
  rw [readLongTermRps_counts present readSps readPics, bind_apply, readSpsPics, Option.bind_some,
    bind_apply, readPics']
  rfl

theorem skipOriginalRps_counts_iff_inter :
    ∃ br₁, skipShortTerm interPicture ⟨[0x90, 0x14], 0⟩ = some ((), br₁) ∧
      (CountsBounded interPicture br₁ ⟨[0x90, 0x14], 15⟩ ↔ ¬ LongestCount interPicture br₁) :=
  skipOriginalRps_counts_iff interPicture ⟨[0x90, 0x14], 0⟩ _ (2, true) (by decide) rfl
    (by decide +kernel)

/-- A header whose `num_long_term_pics` is `2^31`. -/
def wrappedCount : List UInt8 := [0x80, 0, 0, 0, 0x40, 0, 0, 0, 0x80]

/-- The driver reads the count as zero and walks on without a single entry. -/
theorem skipOriginalRps_wrappedCount :
    skipOriginalRps interPicture ⟨wrappedCount, 0⟩ = some ((2, true), ⟨wrappedCount, 65⟩) ∧
      skipShortTerm interPicture ⟨wrappedCount, 0⟩ = some ((), ⟨wrappedCount, 2⟩) ∧
      ¬ CountsBounded interPicture ⟨wrappedCount, 2⟩ ⟨wrappedCount, 65⟩ := by
  refine ⟨by decide +kernel, by decide +kernel, fun bounded => ?_⟩
  have count : brReadUe ⟨wrappedCount, 2⟩ = some (0, ⟨wrappedCount, 65⟩) := by decide +kernel
  have code : CodeAt ⟨wrappedCount, 2⟩ 31 (List.replicate 30 false ++ [true])
      (List.replicate 7 false) := ⟨rfl, by decide +kernel⟩
  exact bounded.not_longest (by decide) rfl rfl count (.inr ⟨0, _, rfl, _, _, code⟩)

end RockchipVaapi.Hevc
