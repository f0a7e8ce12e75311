import Mathlib.Data.List.Find
import Mathlib.Order.Bounds.Basic

/-!
# Tables of rising levels

A table lists what each level allows, from the lowest level to the highest. Looking up a demand
takes the first row that fits it, or the level above the table where none does.
-/

namespace Table

variable {α β : Type}

/-- The level of the first row that fits. -/
def lookup (level : α → β) (top : β) (table : List α) (fits : α → Bool) : β :=
  match table.find? fits with
  | some row => level row
  | none => top

/-- The levels that fit. -/
def levels (level : α → β) (table : List α) (fits : α → Bool) : Set β :=
  {l | ∃ row ∈ table, fits row = true ∧ level row = l}

variable {level : α → β} {top : β} {table : List α} {fits fits' : α → Bool}

theorem lookup_cons (row : α) :
    lookup level top (row :: table) fits =
      if fits row = true then level row else lookup level top table fits := by
  unfold lookup
  rw [List.find?_cons]
  cases fits row <;> rfl

theorem lookup_eq_top (h : ∀ row ∈ table, fits row = false) :
    lookup level top table fits = top := by
  have none : table.find? fits = none :=
    List.find?_eq_none.mpr fun row mem => by rw [h row mem]; exact Bool.false_ne_true
  rw [lookup, none]

theorem lookup_congr (same : ∀ row ∈ table, fits row = fits' row) :
    lookup level top table fits = lookup level top table fits' := by
  unfold lookup
  rw [List.find?_congr same]

variable [Preorder β]

/-- The levels do not fall from row to row, and none is above `top`. -/
structure Rising (level : α → β) (top : β) (table : List α) : Prop where
  sorted : table.Pairwise fun row later => level row ≤ level later
  le_top : ∀ row ∈ table, level row ≤ top

theorem Rising.tail {row : α} (h : Rising level top (row :: table)) : Rising level top table :=
  ⟨(List.pairwise_cons.mp h.sorted).2, fun later mem => h.le_top later (List.mem_cons_of_mem row mem)⟩

theorem lookup_le_top (h : Rising level top table) : lookup level top table fits ≤ top := by
  unfold lookup
  split
  · rename_i row found
    exact h.le_top row (List.mem_of_find?_eq_some found)
  · exact le_refl top

/-- The first row that fits has the least level of all that fit. -/
theorem lookup_isLeast (h : Rising level top table) (some_row : ∃ row ∈ table, fits row = true) :
    IsLeast (levels level table fits) (lookup level top table fits) := by
  induction table with
  | nil =>
    obtain ⟨row, mem, -⟩ := some_row
    cases mem
  | cons row table ih =>
    rw [lookup_cons]
    by_cases here : fits row = true
    · rw [if_pos here]
      refine ⟨⟨row, List.mem_cons_self, here, rfl⟩, ?_⟩
      rintro l ⟨later, mem, -, rfl⟩
      rcases List.mem_cons.mp mem with rfl | mem
      · exact le_refl _
      · exact (List.pairwise_cons.mp h.sorted).1 later mem
    · rw [if_neg here]
      have later : ∃ later ∈ table, fits later = true := by
        obtain ⟨later, mem, fit⟩ := some_row
        rcases List.mem_cons.mp mem with rfl | mem
        · exact absurd fit here
        · exact ⟨later, mem, fit⟩
      obtain ⟨⟨found, mem, fit, eq⟩, least⟩ := ih h.tail later
      refine ⟨⟨found, List.mem_cons_of_mem row mem, fit, eq⟩, ?_⟩
      rintro l ⟨other, mem, fit, rfl⟩
      rcases List.mem_cons.mp mem with rfl | mem
      · exact absurd fit here
      · exact least ⟨other, mem, fit, rfl⟩

/-- A demand that fewer rows meet has no lower level. -/
theorem lookup_mono (h : Rising level top table)
    (harder : ∀ row ∈ table, fits' row = true → fits row = true) :
    lookup level top table fits ≤ lookup level top table fits' := by
  by_cases met : ∃ row ∈ table, fits' row = true
  · obtain ⟨⟨row, mem, fit, eq⟩, -⟩ := lookup_isLeast h met
    have least := (lookup_isLeast h ⟨row, mem, harder row mem fit⟩).2
    exact least ⟨row, mem, harder row mem fit, eq⟩
  · have unmet : lookup level top table fits' = top := by
      apply lookup_eq_top
      intro row mem
      cases fit : fits' row with
      | false => rfl
      | true => exact absurd ⟨row, mem, fit⟩ met
    rw [unmet]
    exact lookup_le_top h

end Table
