import RockchipVaapi.Misc.Bits
import RockchipVaapi.Misc.Grammar
import RockchipVaapi.Vp9.Checked

/-!
# The grammar of the VP9 header

The front of `uncompressed_header()` up to `refresh_frame_flags`, as the syntax tables of VP9 have
it, and what it says about the frame. The parser accepts it and nothing else.
-/

namespace RockchipVaapi.Vp9
open Bitstream Grammar

/-! ## Headers -/

/-- `color_config()` of profile 2: ten bits, and not RGB, which needs 4:4:4. -/
structure ColorConfig where
  colorSpace : Nat
  notRgb : colorSpace < 7
  colorRange : Bool

/-- The front of an uncompressed header. -/
inductive UncompressedHeader
  | showExisting (frameToShowMapIdx : Fin 8)
  | keyFrame (showFrame errorResilient : Bool) (color : ColorConfig)
  | intraOnly (errorResilient : Bool) (resetFrameContext : Fin 4) (color : ColorConfig)
      (refreshFrameFlags : UInt8)
  | interFrame (showFrame errorResilient : Bool) (resetFrameContext : Fin 4)
      (refreshFrameFlags : UInt8)

def ColorConfig.bits (color : ColorConfig) : List Bool :=
  false :: (uBits 3 color.colorSpace ++ [color.colorRange])

/-- `frame_sync_code()` and, where the profile has one, `color_config()`. -/
def syncBits (profile : Nat) (color : ColorConfig) : List Bool :=
  uBits 24 0x498342 ++ if 0 < profile then color.bits else []

/-- `reset_frame_context`, which is not sent in error resilient mode. -/
def resetBits (errorResilient : Bool) (resetFrameContext : Fin 4) : List Bool :=
  if errorResilient then [] else uBits 2 resetFrameContext

namespace UncompressedHeader

/-- The bits behind the profile. -/
def tailBits (profile : Nat) : UncompressedHeader → List Bool
  | showExisting slot => true :: uBits 3 slot
  | keyFrame showFrame errorResilient color =>
    [false, false, showFrame, errorResilient] ++ syncBits profile color
  | intraOnly errorResilient reset color refresh =>
    [false, true, false, errorResilient, true] ++ resetBits errorResilient reset ++
      syncBits profile color ++ byteBits refresh
  | interFrame showFrame errorResilient reset refresh =>
    [false, true, showFrame, errorResilient] ++ (if showFrame then [] else [false]) ++
      resetBits errorResilient reset ++ byteBits refresh

/-- The bits of a header of a profile without a reserved bit. -/
def bits (profile : Nat) (header : UncompressedHeader) : List Bool :=
  uBits 2 2 ++ [profile.testBit 0, profile.testBit 1] ++ header.tailBits profile

/-- What the driver has to know of a header. -/
def info : UncompressedHeader → RKVP9FrameInfo
  | showExisting slot => ⟨true, true, slot, 0⟩
  | keyFrame showFrame _ _ => ⟨false, showFrame, 0, 0xff⟩
  | intraOnly _ _ _ refresh => ⟨false, false, 0, refresh.toNat⟩
  | interFrame showFrame _ _ refresh => ⟨false, showFrame, 0, refresh.toNat⟩

end UncompressedHeader

/-! ## The reader -/

/-- The bits behind the position of a reader. -/
def BitReader.rest (r : BitReader) : List Bool := (bytesBits r.data).drop r.bitPos

def cursor : Input BitReader Bool where
  rest := BitReader.rest
  skip n r := { r with bitPos := r.bitPos + n }
  skip_zero _ := rfl
  skip_skip m n r := by rw [Nat.add_assoc]
  rest_skip n r := by
    unfold BitReader.rest
    rw [List.drop_drop]

/-- `u(n)`. -/
def unsigned (n : Nat) : Words Bool Nat := fun word v => word = uBits n v ∧ v < 2 ^ n

/-- The bits that `read_bits` collects. -/
theorem readInto_eq {data : List UInt8} {count pos result : Nat}
    (room : pos + count ≤ 8 * data.length) (small : result * 2 ^ count + 2 ^ count ≤ 2 ^ 32) :
    readInto data count pos result =
      result * 2 ^ count + bitsVal (((bytesBits data).drop pos).take count) := by
  induction count generalizing pos result with
  | zero => simp [readInto, bitsVal]
  | succ count ih =>
    have inside : pos < (bytesBits data).length := by
      rw [length_bytesBits]
      omega
    have behind : pos / 8 < data.length := by omega
    have head := getElem?_bytesBits data pos
    rw [List.getElem?_eq_getElem inside, List.getElem?_eq_getElem behind, Option.map_some,
      Option.some.injEq] at head
    have bit : ((data.getD (pos / 8) 0).toNat >>> (7 - pos % 8)) &&& 1 =
        ((bytesBits data)[pos]).toNat := by
      rw [head, List.getD_eq_getElem _ _ behind, Nat.toNat_testBit, Nat.and_one_is_mod,
        Nat.shiftRight_eq_div_pow]
    have one := Bool.toNat_le (bytesBits data)[pos]
    have power : 2 ^ (count + 1) = 2 * 2 ^ count := by rw [Nat.pow_succ, Nat.mul_comm]
    have below : (result * 2 + ((bytesBits data)[pos]).toNat) * 2 ^ count + 2 ^ count ≤ 2 ^ 32 := by
      calc (result * 2 + ((bytesBits data)[pos]).toNat) * 2 ^ count + 2 ^ count
          ≤ (result * 2 + 1) * 2 ^ count + 2 ^ count :=
            Nat.add_le_add_right (Nat.mul_le_mul_right _ (Nat.add_le_add_left one _)) _
        _ = result * 2 ^ (count + 1) + 2 ^ (count + 1) := by rw [power]; ring
        _ ≤ 2 ^ 32 := small
    have noWrap : result * 2 + ((bytesBits data)[pos]).toNat < 2 ^ 32 := by
      have := Nat.le_mul_of_pos_right (result * 2 + ((bytesBits data)[pos]).toNat)
        (Nat.two_pow_pos count)
      have := Nat.two_pow_pos count
      omega
    rw [readInto, bit, Nat.mod_eq_of_lt noWrap, ih (by omega) below, List.drop_eq_getElem_cons inside,
      List.take_succ_cons, bitsVal_cons]
    have length : (((bytesBits data).drop (pos + 1)).take count).length = count := by
      rw [List.length_take_of_le]
      rw [List.length_drop, length_bytesBits]
      omega
    rw [length, power]
    ring

theorem recognises_readBits {n : Nat} (pos : 0 < n) (le : n ≤ 32) :
    Recognises cursor (readBits n) (unsigned n) := by
  intro r v r'
  have length : r.rest.length = 8 * r.data.length - r.bitPos := by
    unfold BitReader.rest
    rw [List.length_drop, length_bytesBits]
  unfold readBits
  dsimp only
  by_cases cut : r.rest.length < n
  · rw [if_pos (by omega)]
    constructor
    · intro run
      cases run
    · rintro ⟨word, ⟨rfl, -⟩, here, -⟩
      have := here.length_le
      rw [length_uBits] at this
      exact absurd cut (Nat.not_lt.mpr this)
  · rw [if_neg (by omega)]
    have inside : r.bitPos + n ≤ 8 * r.data.length := by omega
    have whole := Nat.pow_le_pow_right (n := 2) (by decide) le
    have fits : 0 * 2 ^ n + 2 ^ n ≤ 2 ^ 32 := by
      rw [Nat.zero_mul, Nat.zero_add]
      exact whole
    have value := readInto_eq inside fits
    rw [Nat.zero_mul, Nat.zero_add] at value
    rw [value]
    have width : (r.rest.take n).length = n := List.length_take_of_le (Nat.not_lt.mp cut)
    constructor
    · intro run
      obtain ⟨rfl, rfl⟩ := Prod.mk.inj (Option.some.inj run)
      have spelled : uBits n (bitsVal (r.rest.take n)) = r.rest.take n := by
        have spelled := uBits_bitsVal (r.rest.take n)
        rwa [width] at spelled
      refine ⟨uBits n (bitsVal (r.rest.take n)), ⟨rfl, ?_⟩, ?_, ?_⟩
      · have small := bitsVal_lt (r.rest.take n)
        rwa [width] at small
      · rw [spelled]
        exact List.take_prefix n r.rest
      · rw [length_uBits]
        rfl
    · rintro ⟨word, ⟨rfl, small⟩, here, rfl⟩
      have taken : r.rest.take n = uBits n v := by
        have := List.prefix_iff_eq_take.mp here
        rw [length_uBits] at this
        exact this.symm
      rw [show (List.drop r.bitPos (bytesBits r.data)).take n = uBits n v from taken,
        bitsVal_uBits_of_lt small, length_uBits]
      rfl

/-! ## Words piece by piece -/

section

variable {α : Type} {H : Nat → Words Bool α} {word : List Bool} {x : α}

theorem seq_unsigned {n : Nat} :
    seq (unsigned n) H word x ↔ ∃ v < 2 ^ n, ∃ rest, word = uBits n v ++ rest ∧ H v rest x := by
  constructor
  · rintro ⟨v, front, rest, ⟨rfl, small⟩, hx, rfl⟩
    exact ⟨v, small, rest, rfl, hx⟩
  · rintro ⟨v, small, rest, rfl, hx⟩
    exact ⟨v, _, rest, ⟨rfl, small⟩, hx, rfl⟩

theorem seq_flag :
    seq (unsigned 1) H word x ↔ ∃ flag : Bool, ∃ rest, word = flag :: rest ∧ H flag.toNat rest x := by
  rw [seq_unsigned]
  constructor
  · rintro ⟨v, small, rest, rfl, hx⟩
    rcases Nat.le_one_iff_eq_zero_or_eq_one.mp (Nat.le_of_lt_succ small) with rfl | rfl
    · exact ⟨false, rest, rfl, hx⟩
    · exact ⟨true, rest, rfl, hx⟩
  · rintro ⟨flag, rest, rfl, hx⟩
    refine ⟨flag.toNat, Bool.toNat_lt flag, rest, ?_, hx⟩
    cases flag <;> rfl

end

/-- A flag, and what its two values ask for. -/
theorem recognises_flag {α : Type} {next : Nat → ReadM α} {H : Bool → Words Bool α}
    (h : ∀ flag : Bool, Recognises cursor (next flag.toNat) (H flag)) :
    Recognises cursor (readBits 1 >>= next) fun word x =>
      ∃ flag rest, word = flag :: rest ∧ H flag rest x := by
  have flag := recognises_readBits (n := 1) (by decide) (by decide)
  refine (flag.bind_of_mem (H := fun v => H (v != 0)) ?_).congr fun word x => ?_
  · rintro word v ⟨-, small⟩
    rcases Nat.le_one_iff_eq_zero_or_eq_one.mp (Nat.le_of_lt_succ small) with rfl | rfl
    · exact h false
    · exact h true
  · rw [seq_flag]
    refine exists_congr fun flag => exists_congr fun rest => ?_
    rw [show (flag.toNat != 0) = flag by cases flag <;> rfl]

/-- `if (c) return false;`. -/
theorem recognises_unless {α β : Type} {c : Prop} [Decidable c] {next : α → ReadM β}
    {read : ReadM β} {G : Words Bool β} (h : ¬c → Recognises cursor read G) :
    Recognises cursor (if c then fail >>= next else read) fun word x => ¬c ∧ G word x := by
  by_cases refused : c
  · rw [if_pos refused]
    refine (recognises_never fun _ => rfl).congr fun word x => ⟨fun no => ?_, fun h => h.1 refused⟩
    cases no
  · rw [if_neg refused]
    exact (h refused).congr fun word x => ⟨fun hx => ⟨refused, hx⟩, And.right⟩

theorem recognises_color {profile : Nat} (two : 2 ≤ profile) :
    Recognises cursor (skipColorConfig profile) fun word _ =>
      ∃ color : ColorConfig, word = color.bits := by
  have flag := recognises_readBits (n := 1) (by decide) (by decide)
  have space := recognises_readBits (n := 3) (by decide) (by decide)
  unfold skipColorConfig
  rw [if_pos two]
  refine (flag.bind fun depth => recognises_unless fun _ => space.bind fun colorSpace =>
    recognises_unless fun _ => flag.bind fun _ => recognises_pure cursor ()).congr ?_
  intro word _
  rw [seq_flag]
  constructor
  · rintro ⟨depth, rest, rfl, tenBit, h⟩
    obtain ⟨colorSpace, small, rest, rfl, notRgb, h⟩ := seq_unsigned.mp h
    obtain ⟨range, rest, rfl, rfl, -⟩ := seq_flag.mp h
    cases depth with
    | true => exact absurd Nat.one_ne_zero tenBit
    | false => exact ⟨⟨colorSpace, by omega, range⟩, rfl⟩
  · rintro ⟨⟨colorSpace, notRgb, range⟩, rfl⟩
    refine ⟨false, _, rfl, not_not.mpr rfl, seq_unsigned.mpr ⟨colorSpace, by omega, [range], rfl,
      by omega, ?_⟩⟩
    exact seq_flag.mpr ⟨range, [], rfl, rfl, rfl⟩

/-- The profiles of the driver. -/
def ProfileOk (profile : Nat) : Prop := profile = 0 ∨ profile = 2

/-- Any colour, for a profile without one. -/
def ColorConfig.unknown : ColorConfig := ⟨0, Nat.zero_lt_succ 6, false⟩

theorem recognises_sync {profile : Nat} (known : ProfileOk profile) :
    Recognises cursor (readSyncCode profile) fun word _ =>
      ∃ color : ColorConfig, word = syncBits profile color := by
  have code := recognises_readBits (n := 24) (by decide) (by decide)
  unfold readSyncCode
  refine (code.bind fun sync => recognises_unless fun _ =>
    .ite (fun positive => recognises_color (known.resolve_left (by omega)).ge) fun _ =>
      recognises_pure cursor ()).congr ?_
  intro word _
  rw [seq_unsigned]
  unfold syncBits
  constructor
  · rintro ⟨sync, -, rest, rfl, right, h⟩
    rw [not_not.mp right]
    by_cases positive : 0 < profile
    · rw [if_pos positive] at h
      obtain ⟨color, rfl⟩ := h
      exact ⟨color, by rw [if_pos positive]⟩
    · rw [if_neg positive] at h
      obtain ⟨rfl, -⟩ := h
      exact ⟨.unknown, by rw [if_neg positive]⟩
  · rintro ⟨color, rfl⟩
    refine ⟨0x498342, by decide, _, rfl, not_not.mpr rfl, ?_⟩
    by_cases positive : 0 < profile
    · rw [if_pos positive, if_pos positive]
      exact ⟨color, rfl⟩
    · rw [if_neg positive, if_neg positive]
      exact ⟨rfl, rfl⟩

/-! ## The header -/

/-- The header of a frame that is no key frame behind `intra_only`. -/
def readBehindIntra (profile : Nat) (showFrame : Bool) (errorResilient intraOnly : Nat) :
    ReadM RKVP9FrameInfo := do
  if errorResilient = 0 then
    let _reset ← readBits 2
  if intraOnly ≠ 0 then readSyncCode profile
  let refresh ← readBits 8
  return { RKVP9FrameInfo.zero with showFrame := showFrame, refreshFrameFlags := refresh }

theorem readFrame_eq (profile : Nat) :
    readFrame profile = readBits 1 >>= fun frameType => readBits 1 >>= fun showFrame =>
      readBits 1 >>= fun errorResilient =>
        if frameType = 0 then
          readSyncCode profile >>= fun _ => pure ⟨false, showFrame != 0, 0, 0xff⟩
        else if showFrame = 0 then
          readBits 1 >>= readBehindIntra profile (showFrame != 0) errorResilient
        else readBehindIntra profile (showFrame != 0) errorResilient 0 := rfl

/-- `refresh_frame_flags`. -/
theorem recognises_refresh (showFrame : Bool) :
    Recognises cursor (readBits 8 >>= fun refresh =>
        pure (⟨false, showFrame, 0, refresh⟩ : RKVP9FrameInfo))
      fun word info => ∃ refresh : UInt8,
        word = byteBits refresh ∧ info = ⟨false, showFrame, 0, refresh.toNat⟩ := by
  have refresh := recognises_readBits (n := 8) (by decide) (by decide)
  refine (refresh.bind fun _ => recognises_pure cursor _).congr fun word info => ?_
  rw [seq_unsigned]
  constructor
  · rintro ⟨v, small, rest, rfl, rfl, rfl⟩
    have same : (UInt8.ofNat v).toNat = v := UInt8.toNat_ofNat_of_lt' small
    exact ⟨UInt8.ofNat v, by rw [byteBits, same, List.append_nil], by rw [same]⟩
  · rintro ⟨refresh, rfl, rfl⟩
    exact ⟨refresh.toNat, refresh.toNat_lt, [], (List.append_nil _).symm, rfl, rfl⟩

theorem recognises_reset {profile : Nat} (known : ProfileOk profile) (showFrame intraOnly : Bool) :
    Recognises cursor (readBehindIntra profile showFrame 1 intraOnly.toNat)
      fun word info => ∃ (color : ColorConfig) (refresh : UInt8),
        word = (if intraOnly then syncBits profile color else []) ++ byteBits refresh ∧
          info = ⟨false, showFrame, 0, refresh.toNat⟩ := by
  have refresh := recognises_refresh showFrame
  refine Recognises.congr (.ite (c := intraOnly.toNat ≠ 0)
    (fun _ => (recognises_sync known).bind fun _ => refresh) fun _ => refresh) fun word info => ?_
  cases intraOnly with
  | false =>
    simp only [Bool.toNat_false, ne_eq, not_true_eq_false, Bool.false_eq_true, if_false,
      List.nil_append]
    constructor
    · rintro ⟨refresh, h⟩
      exact ⟨.unknown, refresh, h⟩
    · rintro ⟨-, refresh, h⟩
      exact ⟨refresh, h⟩
  | true =>
    simp only [Bool.toNat_true, ne_eq, Nat.one_ne_zero, not_false_eq_true, if_true]
    constructor
    · rintro ⟨-, front, back, ⟨color, rfl⟩, ⟨refresh, rfl, rfl⟩, rfl⟩
      exact ⟨color, refresh, rfl, rfl⟩
    · rintro ⟨color, refresh, rfl, rfl⟩
      exact ⟨(), _, _, ⟨color, rfl⟩, ⟨refresh, rfl, rfl⟩, rfl⟩

theorem recognises_behindIntra {profile : Nat} (known : ProfileOk profile)
    (showFrame errorResilient intraOnly : Bool) :
    Recognises cursor (readBehindIntra profile showFrame errorResilient.toNat intraOnly.toNat)
      fun word info => ∃ (reset : Fin 4) (color : ColorConfig) (refresh : UInt8),
        word = resetBits errorResilient reset ++ (if intraOnly then syncBits profile color else []) ++
          byteBits refresh ∧ info = ⟨false, showFrame, 0, refresh.toNat⟩ := by
  have behind := recognises_reset known showFrame intraOnly
  cases errorResilient with
  | true =>
    refine behind.congr fun word info => ?_
    simp only [resetBits, if_true, List.nil_append]
    constructor
    · rintro ⟨color, refresh, h⟩
      exact ⟨0, color, refresh, h⟩
    · rintro ⟨-, color, refresh, h⟩
      exact ⟨color, refresh, h⟩
  | false =>
    have reset := recognises_readBits (n := 2) (by decide) (by decide)
    refine Recognises.congr (reset.bind fun _ => behind) fun word info => ?_
    rw [seq_unsigned]
    simp only [resetBits, Bool.false_eq_true, if_false]
    constructor
    · rintro ⟨v, small, rest, rfl, color, refresh, rfl, rfl⟩
      exact ⟨⟨v, small⟩, color, refresh, by rw [List.append_assoc], rfl⟩
    · rintro ⟨reset, color, refresh, rfl, rfl⟩
      exact ⟨reset, reset.isLt, _, List.append_assoc _ _ _, color, refresh, rfl, rfl⟩

/-- The headers that begin with these four flags. -/
def framesWith (profile : Nat) (frameType showFrame errorResilient : Bool) :
    Words Bool RKVP9FrameInfo := fun word info =>
  ∃ header : UncompressedHeader,
    header.tailBits profile = [false, frameType, showFrame, errorResilient] ++ word ∧
      info = header.info

theorem recognises_key {profile : Nat} (known : ProfileOk profile) (showFrame errorResilient : Bool) :
    Recognises cursor
      (readSyncCode profile >>= fun _ => pure (⟨false, showFrame, 0, 0xff⟩ : RKVP9FrameInfo))
      (framesWith profile false showFrame errorResilient) := by
  refine ((recognises_sync known).bind fun _ => recognises_pure cursor _).congr fun word info => ?_
  constructor
  · rintro ⟨-, front, back, ⟨color, rfl⟩, ⟨rfl, rfl⟩, rfl⟩
    exact ⟨.keyFrame showFrame errorResilient color, by rw [List.append_nil]; rfl, rfl⟩
  · rintro ⟨header, spelled, rfl⟩
    cases header with
    | keyFrame showFrame' errorResilient' color =>
      obtain ⟨rfl, rfl, rfl⟩ := by simpa [UncompressedHeader.tailBits] using spelled
      exact ⟨(), _, [], ⟨color, rfl⟩, ⟨rfl, rfl⟩, (List.append_nil _).symm⟩
    | _ => simp [UncompressedHeader.tailBits] at spelled

theorem recognises_shown {profile : Nat} (known : ProfileOk profile) (errorResilient : Bool) :
    Recognises cursor (readBehindIntra profile true errorResilient.toNat 0)
      (framesWith profile true true errorResilient) := by
  refine (recognises_behindIntra known true errorResilient false).congr fun word info => ?_
  constructor
  · rintro ⟨reset, -, refresh, rfl, rfl⟩
    exact ⟨.interFrame true errorResilient reset refresh, by simp [UncompressedHeader.tailBits], rfl⟩
  · rintro ⟨header, spelled, rfl⟩
    cases header with
    | interFrame showFrame errorResilient' reset refresh =>
      obtain ⟨rfl, rfl, rfl⟩ := by simpa [UncompressedHeader.tailBits] using spelled
      exact ⟨reset, .unknown, refresh, by simp, rfl⟩
    | _ => simp [UncompressedHeader.tailBits] at spelled

theorem recognises_hidden {profile : Nat} (known : ProfileOk profile) (errorResilient : Bool) :
    Recognises cursor (readBits 1 >>= readBehindIntra profile false errorResilient.toNat)
      (framesWith profile true false errorResilient) := by
  refine (recognises_flag fun intraOnly =>
    recognises_behindIntra known false errorResilient intraOnly).congr fun word info => ?_
  constructor
  · rintro ⟨intraOnly, -, rfl, reset, color, refresh, rfl, rfl⟩
    cases intraOnly with
    | false =>
      exact ⟨.interFrame false errorResilient reset refresh, by simp [UncompressedHeader.tailBits],
        rfl⟩
    | true =>
      exact ⟨.intraOnly errorResilient reset color refresh, by simp [UncompressedHeader.tailBits],
        rfl⟩
  · rintro ⟨header, spelled, rfl⟩
    cases header with
    | intraOnly errorResilient' reset color refresh =>
      obtain ⟨rfl, rfl⟩ := by simpa [UncompressedHeader.tailBits] using spelled
      exact ⟨true, _, rfl, reset, color, refresh, by simp, rfl⟩
    | interFrame showFrame errorResilient' reset refresh =>
      obtain ⟨rfl, rfl, rfl⟩ := by simpa [UncompressedHeader.tailBits] using spelled
      exact ⟨false, _, rfl, reset, .unknown, refresh, by simp, rfl⟩
    | _ => simp [UncompressedHeader.tailBits] at spelled

theorem recognises_frame {profile : Nat} (known : ProfileOk profile) :
    Recognises cursor (readFrame profile) fun word info =>
      ∃ header : UncompressedHeader, header.tailBits profile = false :: word ∧
        info = header.info := by
  rw [readFrame_eq]
  refine (recognises_flag (H := fun frameType word info => ∃ showFrame rest, word = showFrame :: rest ∧
    ∃ errorResilient rest', rest = errorResilient :: rest' ∧
      framesWith profile frameType showFrame errorResilient rest' info) fun frameType =>
    recognises_flag fun showFrame => recognises_flag fun errorResilient => ?_).congr ?_
  · cases frameType with
    | false =>
      have key := recognises_key known showFrame errorResilient
      cases showFrame <;> exact key
    | true =>
      cases showFrame with
      | false => exact recognises_hidden known errorResilient
      | true => exact recognises_shown known errorResilient
  · intro word info
    constructor
    · rintro ⟨frameType, _, rfl, showFrame, _, rfl, errorResilient, _, rfl, header, spelled, rfl⟩
      exact ⟨header, spelled, rfl⟩
    · rintro ⟨header, spelled, rfl⟩
      obtain ⟨frameType, showFrame, errorResilient, rest, rfl⟩ : ∃ frameType showFrame errorResilient
          rest, word = frameType :: showFrame :: errorResilient :: rest := by
        cases header with
        | showExisting slot => cases spelled
        | keyFrame _ _ _ => exact ⟨_, _, _, _, (List.cons.inj spelled).2.symm⟩
        | intraOnly _ _ _ _ => exact ⟨_, _, _, _, (List.cons.inj spelled).2.symm⟩
        | interFrame _ _ _ _ => exact ⟨_, _, _, _, (List.cons.inj spelled).2.symm⟩
      exact ⟨frameType, _, rfl, showFrame, _, rfl, errorResilient, _, rfl, header, spelled, rfl⟩

/-- The profile of a header, with the reserved bit of profile 3. -/
def profileBits (low high : Bool) : List Bool :=
  [low, high] ++ if low && high then [false] else []

theorem recognises_readProfile :
    Recognises cursor readProfile fun word parsed => ∃ low high,
      word = profileBits low high ∧ parsed = low.toNat + 2 * high.toNat := by
  refine (recognises_flag (H := fun low word parsed => ∃ high rest, word = high :: rest ∧
    rest = (if low && high then [false] else []) ∧ parsed = low.toNat + 2 * high.toNat) fun low =>
      recognises_flag fun high => ?_).congr fun word parsed => ?_
  · have simple (v : Nat) : Recognises cursor (pure v : ReadM Nat) fun rest parsed =>
        rest = [] ∧ parsed = v := recognises_pure cursor v
    have reserved (v : Nat) : Recognises cursor
        (readBits 1 >>= fun reservedZero => if reservedZero ≠ 0 then fail else pure v)
        fun rest parsed => rest = [false] ∧ parsed = v := by
      refine (recognises_flag (H := fun flag rest parsed => flag = false ∧ rest = [] ∧ parsed = v)
        fun flag => ?_).congr fun rest parsed => ?_
      · cases flag with
        | false => exact (simple v).congr fun rest parsed => ⟨fun h => ⟨rfl, h⟩, And.right⟩
        | true => exact (recognises_never fun _ => rfl).congr fun rest parsed => by simp [never]
      · constructor
        · rintro ⟨_, _, rfl, rfl, rfl, rfl⟩
          exact ⟨rfl, rfl⟩
        · rintro ⟨rfl, rfl⟩
          exact ⟨false, [], rfl, rfl, rfl, rfl⟩
    cases low <;> cases high
    case true.true => exact reserved 3
    all_goals exact simple _
  · constructor
    · rintro ⟨low, _, rfl, high, _, rfl, rfl, rfl⟩
      exact ⟨low, high, rfl, rfl⟩
    · rintro ⟨low, high, rfl, rfl⟩
      exact ⟨low, _, rfl, high, _, rfl, rfl, rfl⟩

/-- A profile that the caller does not ask for is refused behind its bits. -/
theorem recognises_profile {α : Type} {profile : Nat} (known : ProfileOk profile)
    {next : Unit → ReadM α} {G : Words Bool α} (h : Recognises cursor (next ()) G) :
    Recognises cursor
      (readProfile >>= fun parsed => if parsed ≠ profile then fail >>= next else next ())
      fun word x => ∃ rest, word = profile.testBit 0 :: profile.testBit 1 :: rest ∧ G rest x := by
  refine (recognises_readProfile.bind fun _ => recognises_unless fun _ => h).congr fun word x => ?_
  constructor
  · rintro ⟨-, -, rest, ⟨low, high, rfl, rfl⟩, ⟨same, hx⟩, rfl⟩
    rcases known with rfl | rfl <;> cases low <;> cases high <;>
      first | exact ⟨rest, rfl, hx⟩ | exact absurd (not_not.mp same) (by decide)
  · rintro ⟨rest, rfl, hx⟩
    refine ⟨profile, _, rest, ⟨profile.testBit 0, profile.testBit 1, rfl, ?_⟩,
      ⟨not_not.mpr rfl, hx⟩, ?_⟩
    · rcases known with rfl | rfl <;> rfl
    · rcases known with rfl | rfl <;> rfl

/-- A slot of the reference pool, or a frame. -/
theorem recognises_tail {profile : Nat} (known : ProfileOk profile) :
    Recognises cursor
      (readBits 1 >>= fun showExisting => if showExisting ≠ 0 then
          readBits 3 >>= fun slot => pure (⟨true, true, slot, 0⟩ : RKVP9FrameInfo)
        else readFrame profile)
      fun word info => ∃ header : UncompressedHeader,
        word = header.tailBits profile ∧ info = header.info := by
  have slot := recognises_readBits (n := 3) (by decide) (by decide)
  refine (recognises_flag (H := fun showExisting word info => ∃ header : UncompressedHeader,
    header.tailBits profile = showExisting :: word ∧ info = header.info) fun showExisting => ?_).congr
    fun word info => ?_
  · cases showExisting with
    | false => exact recognises_frame known
    | true =>
      refine (slot.bind fun _ => recognises_pure cursor _).congr fun word info => ?_
      rw [seq_unsigned]
      constructor
      · rintro ⟨v, small, rest, rfl, rfl, rfl⟩
        exact ⟨.showExisting ⟨v, small⟩, by rw [List.append_nil]; rfl, rfl⟩
      · rintro ⟨header, spelled, rfl⟩
        cases header with
        | showExisting slot =>
          obtain ⟨-, rfl⟩ := List.cons.inj spelled
          exact ⟨slot, slot.isLt, [], (List.append_nil _).symm, rfl, rfl⟩
        | _ => cases spelled
  · constructor
    · rintro ⟨showExisting, rest, rfl, header, spelled, rfl⟩
      exact ⟨header, spelled.symm, rfl⟩
    · rintro ⟨header, rfl, rfl⟩
      cases header with
      | showExisting slot => exact ⟨true, _, rfl, .showExisting slot, rfl, rfl⟩
      | keyFrame showFrame errorResilient color =>
        exact ⟨false, _, rfl, .keyFrame showFrame errorResilient color, rfl, rfl⟩
      | intraOnly errorResilient reset color refresh =>
        exact ⟨false, _, rfl, .intraOnly errorResilient reset color refresh, rfl, rfl⟩
      | interFrame showFrame errorResilient reset refresh =>
        exact ⟨false, _, rfl, .interFrame showFrame errorResilient reset refresh, rfl, rfl⟩

theorem recognises_header {profile : Nat} (known : ProfileOk profile) :
    Recognises cursor (readUncompressedHeader profile) fun word info =>
      ∃ header : UncompressedHeader, word = header.bits profile ∧ info = header.info := by
  have marker := recognises_readBits (n := 2) (by decide) (by decide)
  unfold readUncompressedHeader
  refine (marker.bind fun _ => recognises_unless fun _ =>
    recognises_profile known (recognises_tail known)).congr fun word info => ?_
  rw [seq_unsigned]
  constructor
  · rintro ⟨v, -, rest, rfl, right, tail, rfl, header, rfl, rfl⟩
    rw [not_not.mp right]
    exact ⟨header, rfl, rfl⟩
  · rintro ⟨header, rfl, rfl⟩
    exact ⟨2, by decide, _, rfl, not_not.mpr rfl, _, rfl, header, rfl, rfl⟩

/-! ## The parser -/

theorem profileOk_iff (profile : Nat) : ProfileOk profile ↔ ¬(profile ≠ 0 ∧ profile ≠ 2) := by
  unfold ProfileOk
  omega

theorem bits_ne_nil (profile : Nat) (header : UncompressedHeader) : header.bits profile ≠ [] :=
  List.cons_ne_nil _ _

/-- The accepted packets and what is read from them. -/
theorem rkVp9ParseFrame_eq_some_iff {profile : Nat} (known : ProfileOk profile)
    (data : List UInt8) (info : RKVP9FrameInfo) :
    rkVp9ParseFrame data profile = some info ↔ data.length ≤ sizeMax / 8 ∧
      ∃ header : UncompressedHeader, header.bits profile <+: bytesBits data ∧ header.info = info := by
  have accepts := (recognises_header known).accepts_iff ⟨data, 0⟩ info
  unfold rkVp9ParseFrame
  by_cases refused : data = [] ∨ (profile ≠ 0 ∧ profile ≠ 2) ∨ sizeMax / 8 < data.length
  · rw [if_pos refused]
    refine ⟨fun no => absurd no (Option.some_ne_none info).symm, ?_⟩
    rintro ⟨small, header, here, -⟩
    rcases refused with rfl | bad | long
    · exact absurd (List.prefix_nil.mp here) (bits_ne_nil profile header)
    · exact absurd bad ((profileOk_iff profile).mp known)
    · exact absurd small (Nat.not_le.mpr long)
  · rw [if_neg refused, accepts]
    constructor
    · rintro ⟨word, ⟨header, rfl, rfl⟩, here⟩
      exact ⟨Nat.not_lt.mp fun long => refused (.inr (.inr long)), header, here, rfl⟩
    · rintro ⟨-, header, here, rfl⟩
      exact ⟨_, ⟨header, rfl, rfl⟩, here⟩

/-- The parser accepts its grammar and nothing else, looks at no byte behind the header and at none
behind the packet. -/
theorem rkVp9ParseFrame_grammar {profile : Nat} (known : ProfileOk profile) (data : List UInt8)
    (admissible : data.length ≤ sizeMax / 8) :
    (∀ info, rkVp9ParseFrame data profile = some info ↔
      ∃ header : UncompressedHeader, header.bits profile <+: bytesBits data ∧ header.info = info) ∧
    (∀ header : UncompressedHeader, header.bits profile <+: bytesBits data →
      ∀ other : List UInt8, other.length ≤ sizeMax / 8 → header.bits profile <+: bytesBits other →
        rkVp9ParseFrame other profile = rkVp9ParseFrame data profile) ∧
    Checked.rkVp9ParseFrame data profile = .ok (rkVp9ParseFrame data profile) := by
  refine ⟨fun info => ?_, fun header here other small there => ?_, Checked.rkVp9ParseFrame_ok _ _⟩
  · rw [rkVp9ParseFrame_eq_some_iff known, and_iff_right admissible]
  · rw [(rkVp9ParseFrame_eq_some_iff known data header.info).mpr ⟨admissible, header, here, rfl⟩]
    exact (rkVp9ParseFrame_eq_some_iff known other header.info).mpr ⟨small, header, there, rfl⟩

/-- The hidden frame of a conformance vector and a byte behind it. -/
theorem rkVp9ParseFrame_grammar_hidden :
    let data : List UInt8 := [0x84, 0x02, 0x80, 0xff]
    (∀ info, rkVp9ParseFrame data 0 = some info ↔
      ∃ header : UncompressedHeader, header.bits 0 <+: bytesBits data ∧ header.info = info) ∧
    (∀ header : UncompressedHeader, header.bits 0 <+: bytesBits data →
      ∀ other : List UInt8, other.length ≤ sizeMax / 8 → header.bits 0 <+: bytesBits other →
        rkVp9ParseFrame other 0 = rkVp9ParseFrame data 0) ∧
    Checked.rkVp9ParseFrame data 0 = .ok (rkVp9ParseFrame data 0) :=
  rkVp9ParseFrame_grammar (.inl rfl) [0x84, 0x02, 0x80, 0xff] (by decide)

/-- A packet of 2^61 + 1 bytes is refused although it begins with `show_existing_frame`. -/
theorem rkVp9ParseFrame_refuses_huge : ¬∀ (profile : Nat) (data : List UInt8), ProfileOk profile →
    ((∃ info, rkVp9ParseFrame data profile = some info) ↔
      ∃ header : UncompressedHeader, header.bits profile <+: bytesBits data) := by
  intro always
  have huge (n : Nat) (long : sizeMax / 8 ≤ n) : False := by
    have here : (UncompressedHeader.showExisting 0).bits 0 <+:
        bytesBits (0x88 :: List.replicate n 0) := ⟨bytesBits (List.replicate n 0), rfl⟩
    obtain ⟨info, accepted⟩ := (always 0 _ (.inl rfl)).mpr ⟨_, here⟩
    have small := ((rkVp9ParseFrame_eq_some_iff (.inl rfl) _ info).mp accepted).1
    rw [List.length_cons, List.length_replicate] at small
    exact absurd long (Nat.not_le.mpr small)
  exact huge (sizeMax / 8) le_rfl

end RockchipVaapi.Vp9
