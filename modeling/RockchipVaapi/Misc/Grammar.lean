import Mathlib.Data.List.Basic
import Mathlib.Data.Option.Basic

/-!
# Grammars and the readers that recognise them

A grammar says which words mean which values. A reader takes symbols off the front of its input, or
gives up. `Recognises input read G` says that it accepts exactly the words of `G` and stops right
behind them; it composes along `>>=` with the sequence of two grammars.
-/

namespace Grammar

/-- Which words mean which values. -/
abbrev Words (τ α : Type) := List τ → α → Prop

/-- An input whose front can be skipped. -/
structure Input (σ τ : Type) where
  rest : σ → List τ
  skip : Nat → σ → σ
  skip_zero : ∀ s, skip 0 s = s
  skip_skip : ∀ m n s, skip n (skip m s) = skip (m + n) s
  rest_skip : ∀ n s, rest (skip n s) = (rest s).drop n

section

variable {σ τ α β : Type}

/-- Nothing is read. -/
def done (v : α) : Words τ α := fun word x => word = [] ∧ x = v

/-- There is no such word. -/
def never : Words τ α := fun _ _ => False

/-- A word of `G`, and behind it one of the grammar that its value asks for. -/
def seq (G : Words τ α) (H : α → Words τ β) : Words τ β := fun word y =>
  ∃ x front back, G front x ∧ H x back y ∧ word = front ++ back

/-- The reader accepts the words of the grammar, and stops behind them. -/
def Recognises (input : Input σ τ) (read : StateT σ Option α) (G : Words τ α) : Prop :=
  ∀ s x s', read s = some (x, s') ↔
    ∃ word, G word x ∧ word <+: input.rest s ∧ s' = input.skip word.length s

theorem append_prefix_iff (front back whole : List τ) :
    front ++ back <+: whole ↔ front <+: whole ∧ back <+: whole.drop front.length := by
  constructor
  · rintro ⟨rest, rfl⟩
    refine ⟨⟨back ++ rest, by rw [List.append_assoc]⟩, ⟨rest, ?_⟩⟩
    rw [List.append_assoc, List.drop_left]
  · rintro ⟨⟨rest, rfl⟩, behind⟩
    rw [List.drop_left] at behind
    obtain ⟨rest, rfl⟩ := behind
    exact ⟨rest, by rw [List.append_assoc]⟩

variable {input : Input σ τ} {read : StateT σ Option α} {G G' : Words τ α}

theorem recognises_pure (input : Input σ τ) (v : α) :
    Recognises input (pure v : StateT σ Option α) (done v) := by
  intro s x s'
  constructor
  · intro run
    obtain ⟨rfl, rfl⟩ := Prod.mk.inj (Option.some.inj run)
    exact ⟨[], ⟨rfl, rfl⟩, List.nil_prefix, (input.skip_zero s).symm⟩
  · rintro ⟨word, ⟨rfl, rfl⟩, -, rfl⟩
    rw [List.length_nil, input.skip_zero]
    rfl

theorem recognises_never (h : ∀ s, read s = none) : Recognises input read never := by
  intro s x s'
  rw [h s]
  constructor
  · intro run
    cases run
  · rintro ⟨word, no, -⟩
    cases no

/-- The second reader only ever sees a value of `G`. -/
theorem Recognises.bind_of_mem {next : α → StateT σ Option β} {H : α → Words τ β}
    (first : Recognises input read G)
    (then_ : ∀ word x, G word x → Recognises input (next x) (H x)) :
    Recognises input (read >>= next) (seq G H) := by
  intro s y s''
  have both : (read >>= next) s = (read s).bind fun r => next r.1 r.2 := rfl
  rw [both, Option.bind_eq_some_iff]
  constructor
  · rintro ⟨⟨x, s'⟩, one, two⟩
    obtain ⟨front, hx, atFront, rfl⟩ := (first s x s').mp one
    obtain ⟨back, hy, atBack, rfl⟩ := (then_ front x hx _ y s'').mp two
    rw [input.rest_skip] at atBack
    refine ⟨front ++ back, ⟨x, front, back, hx, hy, rfl⟩,
      (append_prefix_iff _ _ _).mpr ⟨atFront, atBack⟩, ?_⟩
    rw [input.skip_skip, List.length_append]
  · rintro ⟨word, ⟨x, front, back, hx, hy, rfl⟩, here, rfl⟩
    obtain ⟨atFront, atBack⟩ := (append_prefix_iff _ _ _).mp here
    refine ⟨(x, input.skip front.length s), (first s x _).mpr ⟨front, hx, atFront, rfl⟩, ?_⟩
    refine (then_ front x hx _ y _).mpr ⟨back, hy, ?_, ?_⟩
    · rw [input.rest_skip]
      exact atBack
    · rw [input.skip_skip, List.length_append]

theorem Recognises.bind {next : α → StateT σ Option β} {H : α → Words τ β}
    (first : Recognises input read G) (then_ : ∀ x, Recognises input (next x) (H x)) :
    Recognises input (read >>= next) (seq G H) :=
  first.bind_of_mem fun _ x _ => then_ x

theorem Recognises.congr (h : Recognises input read G) (same : ∀ word x, G word x ↔ G' word x) :
    Recognises input read G' := by
  intro s x s'
  rw [h s x s']
  simp only [same]

theorem Recognises.ite {c : Prop} [Decidable c] {other : StateT σ Option α} {H : Words τ α}
    (yes : c → Recognises input read G) (no : ¬c → Recognises input other H) :
    Recognises input (if c then read else other) fun word x => if c then G word x else H word x := by
  by_cases h : c
  · simp only [if_pos h]
    exact yes h
  · simp only [if_neg h]
    exact no h

/-- What is accepted, and with which value. -/
theorem Recognises.accepts_iff (h : Recognises input read G) (s : σ) (x : α) :
    (read s).map Prod.fst = some x ↔ ∃ word, G word x ∧ word <+: input.rest s := by
  rw [Option.map_eq_some_iff]
  constructor
  · rintro ⟨⟨x, s'⟩, run, rfl⟩
    obtain ⟨word, hx, here, -⟩ := (h s x s').mp run
    exact ⟨word, hx, here⟩
  · rintro ⟨word, hx, here⟩
    exact ⟨(x, input.skip word.length s), (h s x _).mpr ⟨word, hx, here, rfl⟩, rfl⟩

end

end Grammar
