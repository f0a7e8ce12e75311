import RockchipVaapi.Misc.Bits

/-!
# Syntax readers

A video coding standard describes a syntax structure as a program that reads descriptors
`u(n)`, `ue(v)` and `se(v)` one after another, some of them only when an earlier value says
so. `Reader` is such a program. `Reads p bits v` says that `p` takes exactly `bits` off the
front of any input and returns `v`; it composes along `>>=` and `++`, so a round trip is
proved field by field in the order of the syntax table. `Local p` says that what `p` returns
depends on nothing behind the bits it takes.
-/

namespace Bitstream

/-- A program that reads syntax elements from the front of a bit string, or finds it cut
off. -/
abbrev Reader (α : Type) := StateT (List Bool) Option α

/-- One bit: `u(1)` as a flag. -/
def readFlag : Reader Bool := fun bits =>
  match bits with
  | [] => none
  | bit :: rest => some (bit, rest)

/-- The unsigned descriptor `u(n)`. -/
def readU (n : Nat) : Reader Nat := fun bits =>
  if n ≤ bits.length then some (bitsVal (bits.take n), bits.drop n) else none

/-- The parsing process of `ue(v)` after `zeros` leading zero bits. -/
def readUeFrom (zeros : Nat) : List Bool → Option (Nat × List Bool)
  | [] => none
  | true :: rest => (readU zeros rest).map (fun p => (2 ^ zeros - 1 + p.1, p.2))
  | false :: rest => readUeFrom (zeros + 1) rest

/-- The unsigned Exp-Golomb descriptor `ue(v)`. -/
def readUe : Reader Nat := readUeFrom 0

/-- The value of a signed code number. -/
def seValue (codeNum : Nat) : Int :=
  if codeNum % 2 = 1 then ((codeNum : Int) + 1) / 2 else -((codeNum : Int) / 2)

/-- The signed Exp-Golomb descriptor `se(v)`. -/
def readSe : Reader Int := do
  let codeNum ← readUe
  return seValue codeNum

/-- A syntax element repeated `n` times. -/
def readMany {α : Type} (p : Reader α) : Nat → Reader (List α)
  | 0 => pure []
  | n + 1 => do
    let head ← p
    let tail ← readMany p n
    return head :: tail

/-- One element for each entry of a list that was read before. -/
def readEach {ι α : Type} (p : ι → Reader α) : List ι → Reader (List α)
  | [] => pure []
  | i :: is => do
    let head ← p i
    let tail ← readEach p is
    return head :: tail

/-- Bits that are kept as they are. -/
def readBits (n : Nat) : Reader (List Bool) := fun bits =>
  if n ≤ bits.length then some (bits.take n, bits.drop n) else none

/-- An element that is present only under a condition, and `absent` otherwise. -/
def readIf {α : Type} (condition : Bool) (p : Reader α) (absent : α) : Reader α :=
  if condition then p else pure absent

/-- `p` takes exactly `bits` off the front of its input and returns `v`. -/
def Reads {α : Type} (p : Reader α) (bits : List Bool) (v : α) : Prop :=
  ∀ rest, p (bits ++ rest) = some (v, rest)

/-- What `p` returns is decided by the bits it takes. -/
def Local {α : Type} (p : Reader α) : Prop :=
  ∀ bits v rest, p bits = some (v, rest) → ∃ taken, bits = taken ++ rest ∧ Reads p taken v

section

variable {α β : Type}

theorem bind_apply (p : Reader α) (f : α → Reader β) (bits : List Bool) :
    (p >>= f) bits = (p bits).bind (fun r => f r.1 r.2) := rfl

theorem pure_apply (v : α) (bits : List Bool) : (pure v : Reader α) bits = some (v, bits) := rfl

/-! ## Composition -/

theorem reads_pure (v : α) : Reads (pure v : Reader α) [] v := fun _ => rfl

theorem Reads.bind {p : Reader α} {f : α → Reader β} {as bs : List Bool} {x : α} {y : β}
    (hp : Reads p as x) (hf : Reads (f x) bs y) : Reads (p >>= f) (as ++ bs) y := by
  intro rest
  rw [bind_apply, List.append_assoc, hp, Option.bind_some, hf]

/-- `Reads.bind` on a list of codes, in the order of a syntax table. -/
theorem Reads.cons {p : Reader α} {f : α → Reader β} {code : List Bool} {codes : List (List Bool)}
    {x : α} {y : β} (hp : Reads p code x) (hf : Reads (f x) codes.flatten y) :
    Reads (p >>= f) (code :: codes).flatten y := by
  rw [List.flatten_cons]
  exact hp.bind hf

/-- An element that is absent takes no code. -/
theorem Reads.skip {p : Reader α} {f : α → Reader β} {bits : List Bool} {x : α} {y : β}
    (hp : Reads p [] x) (hf : Reads (f x) bits y) : Reads (p >>= f) bits y :=
  hp.bind hf

/-- A read that is followed by nothing but the assembly of the result. -/
theorem Reads.map {p : Reader α} {f : α → β} {bits : List Bool} {x : α} (hp : Reads p bits x) :
    Reads (p >>= fun v => pure (f v)) bits (f x) := by
  intro rest
  rw [bind_apply, hp, Option.bind_some, pure_apply]

/-- `Reads.cons` for a reader whose end looks at what follows the codes. -/
theorem Reads.consOn {p : Reader α} {f : α → Reader β} {code rest : List Bool}
    {codes : List (List Bool)} {x : α} {result : Option (β × List Bool)} (hp : Reads p code x)
    (hf : f x (codes.flatten ++ rest) = result) :
    (p >>= f) ((code :: codes).flatten ++ rest) = result := by
  rw [bind_apply, List.flatten_cons, List.append_assoc, hp, Option.bind_some, hf]

theorem Reads.skipOn {p : Reader α} {f : α → Reader β} {bits : List Bool} {x : α}
    {result : Option (β × List Bool)} (hp : Reads p [] x) (hf : f x bits = result) :
    (p >>= f) bits = result := by
  have skip : p bits = some (x, bits) := hp bits
  rw [bind_apply, skip, Option.bind_some, hf]

theorem Reads.readIf {c : Bool} {p : Reader α} {bits : List Bool} {v d : α}
    (h : c = true → Reads p bits v) :
    Reads (readIf c p d) (if c then bits else []) (if c then v else d) := by
  cases c with
  | false => exact reads_pure d
  | true => exact h rfl

/-- Elements of one kind, read one after the other. -/
theorem reads_readMany {ι : Type} {p : Reader α} {code : ι → List Bool} {value : ι → α} :
    ∀ is : List ι, (∀ i ∈ is, Reads p (code i) (value i)) →
      Reads (readMany p is.length) (is.map code).flatten (is.map value) := by
  intro is
  induction is with
  | nil => intro _; exact reads_pure []
  | cons i is ih =>
    intro h
    have head := h i List.mem_cons_self
    have tail := ih (fun j hj => h j (List.mem_cons_of_mem _ hj))
    exact head.cons tail.map

/-! ## Descriptors -/

theorem reads_flag (b : Bool) : Reads readFlag [b] b := fun _ => rfl

theorem reads_bits (bits : List Bool) : Reads (readU bits.length) bits (bitsVal bits) := by
  intro rest
  simp [readU]

theorem reads_u {n v : Nat} (h : v < 2 ^ n) : Reads (readU n) (uBits n v) v := by
  have := reads_bits (uBits n v)
  rwa [length_uBits, bitsVal_uBits_of_lt h] at this

theorem readUeFrom_replicate (zeros n : Nat) (rest : List Bool) :
    readUeFrom zeros (List.replicate n false ++ rest) = readUeFrom (zeros + n) rest := by
  induction n generalizing zeros with
  | zero => simp
  | succ n ih =>
    rw [List.replicate_succ, List.cons_append, readUeFrom, ih]
    congr 1
    omega

theorem reads_ue (v : Nat) : Reads readUe (ueBits v) v := by
  intro rest
  have suffix := reads_bits (uBits (Nat.log2 (v + 1)) (v + 1)) rest
  rw [length_uBits, bitsVal_uBits] at suffix
  rw [readUe, ueBits_eq, List.append_assoc, readUeFrom_replicate, List.cons_append, readUeFrom,
    Nat.zero_add, suffix, Option.map_some, ueBits_value]

theorem seValue_seCodeNum (v : Int) : seValue (seCodeNum v) = v := by
  unfold seValue seCodeNum
  split <;> split <;> omega

theorem reads_se (v : Int) : Reads readSe (seBits v) v := by
  have code := (reads_ue (seCodeNum v)).map (f := seValue)
  rwa [seValue_seCodeNum] at code

/-! ## Locality -/

theorem local_pure (v : α) : Local (pure v : Reader α) := by
  intro bits w rest h
  obtain ⟨rfl, rfl⟩ : v = w ∧ bits = rest := by simpa [pure_apply] using h
  exact ⟨[], rfl, reads_pure v⟩

theorem Local.bind {p : Reader α} {f : α → Reader β} (hp : Local p) (hf : ∀ x, Local (f x)) :
    Local (p >>= f) := by
  intro bits y rest h
  rw [bind_apply] at h
  obtain ⟨⟨x, middle⟩, hx, hy⟩ := Option.bind_eq_some_iff.mp h
  obtain ⟨as, rfl, has⟩ := hp _ _ _ hx
  obtain ⟨bs, rfl, hbs⟩ := hf x _ _ _ hy
  exact ⟨as ++ bs, by simp, has.bind hbs⟩

theorem Local.readIf {c : Bool} {p : Reader α} {d : α} (hp : Local p) : Local (readIf c p d) := by
  cases c with
  | false => exact local_pure d
  | true => exact hp

theorem Local.ite {c : Prop} [Decidable c] {p q : Reader α} (hp : Local p) (hq : Local q) :
    Local (if c then p else q) := by
  split
  · exact hp
  · exact hq

theorem Local.readMany {p : Reader α} (hp : Local p) : ∀ n, Local (readMany p n)
  | 0 => local_pure []
  | n + 1 => hp.bind (fun _ => (Local.readMany hp n).bind (fun _ => local_pure _))

theorem Local.readEach {ι : Type} {p : ι → Reader α} (hp : ∀ i, Local (p i)) :
    ∀ is, Local (readEach p is)
  | [] => local_pure []
  | i :: is => (hp i).bind (fun _ => (Local.readEach hp is).bind (fun _ => local_pure _))

theorem Local.map {p : Reader α} (hp : Local p) (f : α → β) : Local (p >>= fun v => pure (f v)) :=
  hp.bind fun _ => local_pure _

theorem length_readMany {p : Reader α} : ∀ {n : Nat} {bits rest : List Bool} {values : List α},
    readMany p n bits = some (values, rest) → values.length = n := by
  intro n
  induction n with
  | zero =>
    intro bits rest values h
    obtain ⟨rfl, -⟩ := Prod.mk.inj (Option.some.inj h)
    rfl
  | succ n ih =>
    intro bits rest values h
    obtain ⟨⟨head, middle⟩, -, h⟩ := Option.bind_eq_some_iff.mp h
    obtain ⟨⟨tail, last⟩, htail, h⟩ := Option.bind_eq_some_iff.mp h
    obtain ⟨rfl, -⟩ := Prod.mk.inj (Option.some.inj h)
    rw [List.length_cons, ih htail]

end

end Bitstream
