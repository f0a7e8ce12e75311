import Mathlib.Data.List.Basic

/-!
# NAL unit byte streams

The byte layer that H.264 and H.265 share: emulation prevention inside a NAL unit
(clause 7.3.1.1 of H.265, 7.3.1 of H.264) and the Annex B byte stream, in which every NAL unit
follows a start code prefix. `escape` inserts the emulation prevention bytes, `unescape` is
the standards' own reading loop, and `nalUnits` splits a stream at its start codes.
-/

namespace Bitstream

/-- Emulation prevention after `zeros` zero bytes: a byte of value at most three that follows
two zero bytes is preceded by `03`. -/
def escapeFrom (zeros : Nat) : List UInt8 → List UInt8
  | [] => []
  | b :: rest =>
    if 2 ≤ zeros ∧ b ≤ 3 then 3 :: b :: escapeFrom (if b = 0 then 1 else 0) rest
    else b :: escapeFrom (if b = 0 then zeros + 1 else 0) rest

/-- The emulation-prevented form of a raw byte sequence payload. -/
def escape (rbsp : List UInt8) : List UInt8 := escapeFrom 0 rbsp

/-- The payload loop of `nal_unit()`: where the next three bytes are `00 00 03`, the third is
an `emulation_prevention_three_byte` and is dropped. -/
def unescape : List UInt8 → List UInt8
  | a :: b :: c :: rest =>
    if a = 0 ∧ b = 0 ∧ c = 3 then a :: b :: unescape rest else a :: unescape (b :: c :: rest)
  | short => short

/-- No window `00 00 b` with `b` at most two. -/
def NoStartCode : List UInt8 → Prop
  | a :: b :: c :: rest => ¬ (a = 0 ∧ b = 0 ∧ c ≤ 2) ∧ NoStartCode (b :: c :: rest)
  | _ => True

/-- The bytes of a NAL unit, which ends before `00 00 00`, before `00 00 01` or with the
stream, and what follows it. -/
def takeNal : List UInt8 → List UInt8 × List UInt8
  | a :: b :: c :: rest =>
    if a = 0 ∧ b = 0 ∧ c ≤ 1 then ([], a :: b :: c :: rest)
    else (a :: (takeNal (b :: c :: rest)).1, (takeNal (b :: c :: rest)).2)
  | short => (short, [])

theorem length_takeNal_snd (bytes : List UInt8) : (takeNal bytes).2.length ≤ bytes.length := by
  fun_induction takeNal bytes with
  | case1 => simp
  | case2 a b c rest _ ih => simp only [List.length_cons] at ih ⊢; omega
  | case3 => simp

/-- The NAL units of an Annex B byte stream, in order. -/
def nalUnits : List UInt8 → List (List UInt8)
  | a :: b :: c :: rest =>
    if a = 0 ∧ b = 0 ∧ c = 1 then (takeNal rest).1 :: nalUnits (takeNal rest).2
    else nalUnits (b :: c :: rest)
  | _ => []
  termination_by bytes => bytes.length
  decreasing_by
    · have := length_takeNal_snd rest
      simp only [List.length_cons]
      omega
    · simp

/-! ## Emulation prevention is reversible -/

/-- `unescape` as a machine that counts the zero bytes it has copied. -/
private def unescapeFrom (zeros : Nat) : List UInt8 → List UInt8
  | [] => []
  | b :: rest =>
    if 2 ≤ zeros ∧ b = 3 then unescapeFrom 0 rest
    else b :: unescapeFrom (if b = 0 then zeros + 1 else 0) rest

private theorem unescapeFrom_saturated (bytes : List UInt8) :
    ∀ m n, 2 ≤ m → 2 ≤ n → unescapeFrom m bytes = unescapeFrom n bytes := by
  induction bytes with
  | nil => intros; rfl
  | cons b rest ih =>
    intro m n hm hn
    simp only [unescapeFrom, hm, hn, true_and]
    split
    · rfl
    · by_cases hb : b = 0
      · simp only [hb, if_true]
        rw [ih (m + 1) (n + 1) (by omega) (by omega)]
      · simp only [hb, if_false]

private theorem unescape_machine (bytes : List UInt8) :
    unescape bytes = unescapeFrom 0 bytes ∧
      unescape (0 :: bytes) = 0 :: unescapeFrom 1 bytes ∧
      unescape (0 :: 0 :: bytes) = 0 :: 0 :: unescapeFrom 2 bytes := by
  induction bytes with
  | nil => exact ⟨rfl, rfl, rfl⟩
  | cons b rest ih =>
    obtain ⟨ih0, ih1, ih2⟩ := ih
    have plain : b ≠ 0 → unescape (b :: rest) = b :: unescape rest := by
      intro hb
      match rest with
      | [] => rfl
      | [_] => rfl
      | _ :: _ :: _ => simp [unescape, hb]
    have single : b ≠ 0 → unescape (0 :: b :: rest) = 0 :: unescape (b :: rest) := by
      intro hb
      cases rest with
      | nil => rfl
      | cons c rest => simp [unescape, hb]
    by_cases hb : b = 0
    · subst hb
      refine ⟨?_, ?_, ?_⟩
      · rw [ih1]; simp [unescapeFrom]
      · rw [ih2]; simp [unescapeFrom]
      · have window : unescape (0 :: 0 :: 0 :: rest) = 0 :: unescape (0 :: 0 :: rest) := by
          simp [unescape]
        rw [window, ih2]
        simp [unescapeFrom, unescapeFrom_saturated rest 3 2]
    · refine ⟨?_, ?_, ?_⟩
      · rw [plain hb, ih0]; simp [unescapeFrom, hb]
      · rw [single hb, plain hb, ih0]; simp [unescapeFrom, hb]
      · by_cases h3 : b = 3
        · subst h3
          have window : unescape (0 :: 0 :: 3 :: rest) = 0 :: 0 :: unescape rest := by
            simp [unescape]
          rw [window, ih0]
          simp [unescapeFrom]
        · have window : unescape (0 :: 0 :: b :: rest) = 0 :: unescape (0 :: b :: rest) := by
            simp [unescape, h3]
          rw [window, single hb, plain hb, ih0]
          simp [unescapeFrom, hb, h3]

private theorem unescapeFrom_escapeFrom (bytes : List UInt8) :
    ∀ zeros, unescapeFrom zeros (escapeFrom zeros bytes) = bytes := by
  induction bytes with
  | nil => intro _; rfl
  | cons b rest ih =>
    intro zeros
    rw [escapeFrom]
    split
    · rename_i h
      have skip : unescapeFrom zeros (3 :: b :: escapeFrom (if b = 0 then 1 else 0) rest) =
          unescapeFrom 0 (b :: escapeFrom (if b = 0 then 1 else 0) rest) := by
        simp [unescapeFrom, h.1]
      rw [skip, unescapeFrom]
      simp [ih]
    · rename_i h
      have keep : ¬ (2 ≤ zeros ∧ b = 3) := by
        rintro ⟨hz, rfl⟩
        exact h ⟨hz, UInt8.le_refl _⟩
      rw [unescapeFrom, if_neg keep, ih]

/-- The standards' reading loop undoes emulation prevention. -/
theorem unescape_escape (rbsp : List UInt8) : unescape (escape rbsp) = rbsp := by
  rw [(unescape_machine _).1, escape, unescapeFrom_escapeFrom]

/-! ## An escaped payload holds no start code -/

private theorem noStartCode_escapeFrom (bytes : List UInt8) :
    NoStartCode (escapeFrom 0 bytes) ∧ NoStartCode (0 :: escapeFrom 1 bytes) ∧
      NoStartCode (0 :: 0 :: escapeFrom 2 bytes) := by
  induction bytes with
  | nil => exact ⟨trivial, trivial, trivial⟩
  | cons b rest ih =>
    obtain ⟨ih0, ih1, ih2⟩ := ih
    have cons_of_ne : ∀ (x : UInt8) (l : List UInt8), x ≠ 0 → NoStartCode l → NoStartCode (x :: l) := by
      intro x l hx hl
      match l with
      | [] => trivial
      | [_] => trivial
      | _ :: _ :: _ => exact ⟨fun h => hx h.1, hl⟩
    have zero_cons_of_ne : ∀ (x : UInt8) (l : List UInt8), x ≠ 0 →
        NoStartCode (x :: l) → NoStartCode (0 :: x :: l) := by
      intro x l hx hl
      match l with
      | [] => trivial
      | _ :: _ => exact ⟨fun h => hx h.2.1, hl⟩
    by_cases hb : b = 0
    · subst hb
      refine ⟨by simpa [escapeFrom] using ih1, by simpa [escapeFrom] using ih2, ?_⟩
      have esc : escapeFrom 2 (0 :: rest) = 3 :: 0 :: escapeFrom 1 rest := by simp [escapeFrom]
      rw [esc]
      exact ⟨by decide, zero_cons_of_ne 3 _ (by decide) (cons_of_ne 3 _ (by decide) ih1)⟩
    · have tail : NoStartCode (b :: escapeFrom 0 rest) := cons_of_ne b _ hb ih0
      refine ⟨by simpa [escapeFrom, hb] using tail,
        by simpa [escapeFrom, hb] using zero_cons_of_ne b _ hb tail, ?_⟩
      by_cases h3 : b ≤ 3
      · have esc : escapeFrom 2 (b :: rest) = 3 :: b :: escapeFrom 0 rest := by
          simp [escapeFrom, h3, hb]
        rw [esc]
        exact ⟨by decide, zero_cons_of_ne 3 _ (by decide) (cons_of_ne 3 _ (by decide) tail)⟩
      · have esc : escapeFrom 2 (b :: rest) = b :: escapeFrom 0 rest := by
          simp [escapeFrom, h3, hb]
        rw [esc]
        refine ⟨fun h => h3 (UInt8.le_trans h.2.2 (by decide)), zero_cons_of_ne b _ hb tail⟩

theorem noStartCode_escape (rbsp : List UInt8) : NoStartCode (escape rbsp) :=
  (noStartCode_escapeFrom rbsp).1

/-- A start code does not begin in front of a byte other than zero. -/
theorem noStartCode_cons_cons {a b : UInt8} {rest : List UInt8} (nonzero : b ≠ 0)
    (tail : NoStartCode rest) : NoStartCode (a :: b :: rest) := by
  have behind : NoStartCode (b :: rest) := by
    match rest with
    | [] => trivial
    | [_] => trivial
    | _ :: _ :: _ => exact ⟨fun window => nonzero window.1, tail⟩
  match rest with
  | [] => trivial
  | _ :: _ => exact ⟨fun window => nonzero window.2.1, behind⟩

theorem escapeFrom_ne_nil {zeros : Nat} {bytes : List UInt8} (h : bytes ≠ []) :
    escapeFrom zeros bytes ≠ [] := by
  cases bytes with
  | nil => exact absurd rfl h
  | cons b rest => rw [escapeFrom]; split <;> simp

theorem getLast?_escapeFrom (bytes : List UInt8) (zeros : Nat) :
    (escapeFrom zeros bytes).getLast? = bytes.getLast? := by
  induction bytes generalizing zeros with
  | nil => rfl
  | cons b rest ih =>
    rw [escapeFrom]
    cases rest with
    | nil => split <;> simp [escapeFrom]
    | cons c rest =>
      have ne : ∀ z, escapeFrom z (c :: rest) ≠ [] := fun z => escapeFrom_ne_nil (by simp)
      have drop : ∀ (x : UInt8) (l : List UInt8), l ≠ [] → (x :: l).getLast? = l.getLast? := by
        intro x l hl
        cases l with
        | nil => exact absurd rfl hl
        | cons y l => simp
      split
      · rw [drop _ _ (by simp), drop _ _ (ne _), ih, drop b _ (by simp)]
      · rw [drop _ _ (ne _), ih, drop b _ (by simp)]

/-- Behind a byte other than zero escaping starts afresh. -/
theorem escapeFrom_append (front back : List UInt8) (ne : front ≠ [])
    (last : front.getLast? ≠ some 0) (zeros : Nat) :
    escapeFrom zeros (front ++ back) = escapeFrom zeros front ++ escapeFrom 0 back := by
  induction front generalizing zeros with
  | nil => exact absurd rfl ne
  | cons b front ih =>
    rw [List.cons_append, escapeFrom, escapeFrom]
    rcases front with _ | ⟨c, front⟩
    · have nonzero : b ≠ 0 := by simpa using last
      rw [if_neg nonzero, if_neg nonzero]
      split <;> rfl
    · have tail := ih (by simp) (by simpa using last)
      rw [tail, tail]
      split <;> rfl

theorem escape_append {front back : List UInt8} (ne : front ≠ []) (last : front.getLast? ≠ some 0) :
    escape (front ++ back) = escape front ++ escape back :=
  escapeFrom_append front back ne last 0

/-! ## Splitting a stream -/

theorem takeNal_self {nal : List UInt8} (h : NoStartCode nal) : takeNal nal = (nal, []) := by
  fun_induction takeNal nal with
  | case1 a b c rest hw => exact absurd ⟨hw.1, hw.2.1, UInt8.le_trans hw.2.2 (by decide)⟩ h.1
  | case2 a b c rest _ ih => rw [ih h.2]
  | case3 => rfl

/-- A NAL unit that does not end in a zero byte ends where the next start code begins, which has
three or four bytes. -/
theorem takeNal_append {nal : List UInt8} (h : NoStartCode nal) (last : nal.getLast? ≠ some 0)
    {third : UInt8} (start : third ≤ 1) (next : List UInt8) :
    takeNal (nal ++ 0 :: 0 :: third :: next) = (nal, 0 :: 0 :: third :: next) := by
  induction nal with
  | nil => simp [takeNal, start]
  | cons a nal ih =>
    match nal with
    | [] =>
      have ha : a ≠ 0 := by simpa using last
      simp [takeNal, ha, start]
    | [b] =>
      have hb : b ≠ 0 := by simpa using last
      simp [takeNal, hb, start]
    | b :: c :: rest =>
      have tail := ih h.2 (by simpa using last)
      have window : ¬ (a = 0 ∧ b = 0 ∧ c ≤ 1) :=
        fun hw => h.1 ⟨hw.1, hw.2.1, UInt8.le_trans hw.2.2 (by decide)⟩
      simp only [List.cons_append] at tail ⊢
      rw [takeNal, if_neg window, tail]

/-- A NAL unit behind the four-byte start code. -/
def withStartCode (nal : List UInt8) : List UInt8 := 0 :: 0 :: 0 :: 1 :: nal

theorem nalUnits_startCode (bytes : List UInt8) :
    nalUnits (withStartCode bytes) = (takeNal bytes).1 :: nalUnits (takeNal bytes).2 := by
  rw [withStartCode, nalUnits, if_neg (by decide), nalUnits, if_pos (by decide)]

/-- A NAL unit that a byte stream can carry: it holds no start code and does not end in a
zero byte. -/
structure Clean (nal : List UInt8) : Prop where
  noStartCode : NoStartCode nal
  last : nal.getLast? ≠ some 0

/-- A clean NAL unit at the front of a stream comes off in one piece, whatever the NAL units
behind it hold. -/
theorem nalUnits_cons {nal : List UInt8} (clean : Clean nal) (nals : List (List UInt8)) :
    nalUnits (withStartCode nal ++ nals.flatMap withStartCode) =
      nal :: nalUnits (nals.flatMap withStartCode) := by
  cases nals with
  | nil =>
    rw [List.flatMap_nil, List.append_nil, nalUnits_startCode, takeNal_self clean.noStartCode]
  | cons next nals =>
    have shape : withStartCode nal ++ (next :: nals).flatMap withStartCode =
        withStartCode (nal ++ 0 :: 0 :: 0 :: 1 :: (next ++ nals.flatMap withStartCode)) := by
      simp [withStartCode]
    have rest : (next :: nals).flatMap withStartCode =
        0 :: 0 :: 0 :: 1 :: (next ++ nals.flatMap withStartCode) := by
      simp [withStartCode]
    rw [shape, nalUnits_startCode, takeNal_append clean.noStartCode clean.last (by decide), ← rest]

/-- Clean NAL units come back, in order, from the stream they were written to. -/
theorem nalUnits_flatMap : ∀ nals : List (List UInt8), (∀ nal ∈ nals, Clean nal) →
    nalUnits (nals.flatMap withStartCode) = nals := by
  intro nals
  induction nals with
  | nil => intro _; simp [nalUnits]
  | cons nal nals ih =>
    intro h
    have tail := ih (fun n hn => h n (List.mem_cons_of_mem _ hn))
    rw [List.flatMap_cons, nalUnits_cons (h nal (by simp)), tail]

/-- The start code in front of a NAL unit, with or without its `zero_byte`. -/
def startCodePrefix (long : Bool) : List UInt8 := if long then [0, 0, 0, 1] else [0, 0, 1]

/-- NAL units, each behind a start code of its own length. -/
def byteStream (pieces : List (Bool × List UInt8)) : List UInt8 :=
  pieces.flatMap fun piece => startCodePrefix piece.1 ++ piece.2

theorem byteStream_long (nals : List (List UInt8)) :
    byteStream (nals.map (true, ·)) = nals.flatMap withStartCode := by
  rw [byteStream, List.flatMap_map]
  rfl

theorem nalUnits_startCodePrefix (long : Bool) (bytes : List UInt8) :
    Bitstream.nalUnits (startCodePrefix long ++ bytes) =
      (takeNal bytes).1 :: Bitstream.nalUnits (takeNal bytes).2 := by
  cases long with
  | true => exact nalUnits_startCode bytes
  | false =>
    show Bitstream.nalUnits (0 :: 0 :: 1 :: bytes) = _
    rw [Bitstream.nalUnits, if_pos (by decide)]

/-- Clean NAL units come back from a byte stream whatever the lengths of their start codes. -/
theorem nalUnits_byteStream : ∀ pieces : List (Bool × List UInt8),
    (∀ piece ∈ pieces, Clean piece.2) → nalUnits (byteStream pieces) = pieces.map (·.2) := by
  intro pieces
  induction pieces with
  | nil => intro _; simp [byteStream, nalUnits]
  | cons piece pieces ih =>
    intro clean
    have tail := ih fun p hp => clean p (List.mem_cons_of_mem _ hp)
    obtain ⟨noStartCode, last⟩ := clean piece (by simp)
    have taken : takeNal (piece.2 ++ byteStream pieces) = (piece.2, byteStream pieces) := by
      rcases pieces with _ | ⟨⟨_ | _, next⟩, pieces⟩
      · rw [byteStream, List.flatMap_nil, List.append_nil, takeNal_self noStartCode]
      · exact takeNal_append noStartCode last (by decide) _
      · exact takeNal_append noStartCode last (by decide) _
    have split : byteStream (piece :: pieces) =
        startCodePrefix piece.1 ++ (piece.2 ++ byteStream pieces) := by
      simp [byteStream]
    rw [split, nalUnits_startCodePrefix, taken, tail, List.map_cons]

/-- A packet is nothing but these NAL units in this order, each behind its start code, and comes
apart at its start codes into them. -/
structure SplitsInto (packet : List UInt8) (nals : List (List UInt8)) : Prop where
  bytes : ∃ pieces, pieces.map (·.2) = nals ∧ packet = byteStream pieces
  units : nalUnits packet = nals

theorem splitsInto_byteStream (pieces : List (Bool × List UInt8))
    (clean : ∀ nal ∈ pieces.map (·.2), Clean nal) :
    SplitsInto (byteStream pieces) (pieces.map (·.2)) :=
  ⟨⟨pieces, rfl, rfl⟩,
    nalUnits_byteStream pieces fun piece mem => clean piece.2 (List.mem_map_of_mem mem)⟩

theorem Clean.nalUnits {nal : List UInt8} (clean : Clean nal) :
    nalUnits (withStartCode nal) = [nal] := by
  have split := nalUnits_flatMap [nal] (by simpa using clean)
  simpa using split

/-! ## Counting start codes -/

/-- The number of places where `00 00 01` stands. -/
def startCodeCount : List UInt8 → Nat
  | a :: b :: c :: rest =>
    (if a = 0 ∧ b = 0 ∧ c = 1 then 1 else 0) + startCodeCount (b :: c :: rest)
  | _ => 0

theorem startCodeCount_noStartCode {bytes : List UInt8} (h : NoStartCode bytes) :
    startCodeCount bytes = 0 := by
  fun_induction startCodeCount bytes with
  | case1 a b c rest ih =>
    obtain ⟨window, tail⟩ := h
    have other : ¬ (a = 0 ∧ b = 0 ∧ c = 1) := by
      rintro ⟨rfl, rfl, rfl⟩
      exact window ⟨rfl, rfl, by decide⟩
    rw [if_neg other, ih tail]
  | case2 => rfl

/-- A byte other than zero in front of the last byte of a window takes no part in a start code. -/
theorem startCodeCount_cons_cons {a b : UInt8} (h : b ≠ 0) (rest : List UInt8) :
    startCodeCount (a :: b :: rest) = startCodeCount rest := by
  cases rest with
  | nil => rfl
  | cons c rest =>
    rw [startCodeCount, if_neg (by simp [h]), Nat.zero_add]
    cases rest with
    | nil => rfl
    | cons d rest => rw [startCodeCount, if_neg (by simp [h]), Nat.zero_add]

theorem startCodeCount_withStartCode (nal : List UInt8) :
    startCodeCount (withStartCode nal) = startCodeCount nal + 1 := by
  cases nal with
  | nil => rfl
  | cons a nal =>
    rw [withStartCode, startCodeCount, startCodeCount,
      startCodeCount_cons_cons (by decide : (1 : UInt8) ≠ 0)]
    simp
    omega

theorem startCodeCount_three (nal : List UInt8) :
    startCodeCount (0 :: 0 :: 1 :: nal) = startCodeCount nal + 1 := by
  rw [startCodeCount, startCodeCount_cons_cons (by decide : (1 : UInt8) ≠ 0)]
  simp
  omega

/-- Two pieces of a stream begin with the same kind of start code. -/
inductive SameStart : List UInt8 → List UInt8 → Prop
  | three (rest rest' : List UInt8) : SameStart (0 :: 0 :: 1 :: rest) (0 :: 0 :: 1 :: rest')
  | four (rest rest' : List UInt8) : SameStart (withStartCode rest) (withStartCode rest')

theorem SameStart.symm {piece piece' : List UInt8} (h : SameStart piece piece') :
    SameStart piece' piece := by
  cases h with
  | three rest rest' => exact .three rest' rest
  | four rest rest' => exact .four rest' rest

end Bitstream
