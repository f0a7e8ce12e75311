import Mathlib.Data.List.Nodup
import Mathlib.Logic.Function.Basic

/-!
# Maps with keys that are never used again

A table that hands out its own keys is a map together with the list of keys it has handed out.
`issue` hands out a key for a value and `retire` takes a key out of the map; `WF` says that no
key was handed out twice and that only such keys are in the map.
-/

/-- A map, and the keys that were handed out so far. -/
structure FreshMap (κ α : Type) where
  issued : List κ
  live : κ → Option α

namespace FreshMap

variable {κ α : Type}

/-- No key handed out. -/
def empty : FreshMap κ α := ⟨[], fun _ => none⟩

section

variable [DecidableEq κ]

/-- Hand out `key` for `value`. -/
def issue (m : FreshMap κ α) (key : κ) (value : α) : FreshMap κ α :=
  ⟨key :: m.issued, Function.update m.live key (some value)⟩

/-- Take `key` out of the map. It stays handed out. -/
def retire (m : FreshMap κ α) (key : κ) : FreshMap κ α :=
  ⟨m.issued, Function.update m.live key none⟩

end

/-- The number of keys in the map. -/
def size (m : FreshMap κ α) : Nat := m.issued.countP fun key => (m.live key).isSome

/-- No key was handed out twice, and every key of the map was handed out. -/
structure WF (m : FreshMap κ α) : Prop where
  nodup : m.issued.Nodup
  mem_issued : ∀ key value, m.live key = some value → key ∈ m.issued

theorem wf_empty : (empty : FreshMap κ α).WF := ⟨List.nodup_nil, fun _ _ h => nomatch h⟩

theorem WF.live_eq_none {m : FreshMap κ α} (h : m.WF) {key : κ} (fresh : key ∉ m.issued) :
    m.live key = none :=
  Option.eq_none_iff_forall_ne_some.mpr fun value here => fresh (h.mem_issued key value here)

variable [DecidableEq κ] {m : FreshMap κ α} {key : κ} {value : α}

theorem WF.issue (h : m.WF) (fresh : key ∉ m.issued) : (m.issue key value).WF := by
  refine ⟨List.nodup_cons.mpr ⟨fresh, h.nodup⟩, ?_⟩
  intro k v hk
  by_cases same : k = key
  · rw [same]
    exact List.mem_cons_self
  · have old : m.live k = some v := by simpa [FreshMap.issue, same] using hk
    exact List.mem_cons_of_mem _ (h.mem_issued k v old)

theorem WF.retire (h : m.WF) : (m.retire key).WF := by
  refine ⟨h.nodup, ?_⟩
  intro k v hk
  by_cases same : k = key
  · simp [FreshMap.retire, same] at hk
  · have old : m.live k = some v := by simpa [FreshMap.retire, same] using hk
    exact h.mem_issued k v old

theorem size_issue (fresh : key ∉ m.issued) : (m.issue key value).size = m.size + 1 := by
  have same : ∀ k ∈ m.issued,
      ((Function.update m.live key (some value) k).isSome = true ↔ (m.live k).isSome = true) := by
    intro k hk
    have ne : k ≠ key := fun h => fresh (h ▸ hk)
    simp [ne]
  simp only [size, issue, List.countP_cons, Function.update_self]
  rw [List.countP_congr same]
  simp

theorem size_retire (h : m.WF) (present : m.live key = some value) :
    (m.retire key).size + 1 = m.size := by
  obtain ⟨front, back, split⟩ := List.append_of_mem (h.mem_issued key value present)
  have nodup := h.nodup
  rw [split] at nodup
  have apart : key ∉ front ++ back := by
    have := List.nodup_middle.mp nodup
    exact (List.nodup_cons.mp this).1
  have same : ∀ l : List κ, key ∉ l →
      l.countP (fun k => (Function.update m.live key none k).isSome) =
        l.countP (fun k => (m.live k).isSome) := by
    intro l hl
    apply List.countP_congr
    intro k hk
    have ne : k ≠ key := fun h => hl (h ▸ hk)
    simp [ne]
  have hfront := same front (fun h => apart (List.mem_append_left _ h))
  have hback := same back (fun h => apart (List.mem_append_right _ h))
  simp only [size, retire, split, List.countP_append, List.countP_cons, hfront, hback]
  simp [present]
  omega

/-! ## Many keys -/

/-- Hand out keys for values, one after the other. -/
def issueAll (m : FreshMap κ α) (entries : List (κ × α)) : FreshMap κ α :=
  entries.foldl (fun m entry => m.issue entry.1 entry.2) m

section

variable (m : FreshMap κ α) {entries : List (κ × α)}

theorem issueAll_snoc (entry : κ × α) :
    m.issueAll (entries ++ [entry]) = (m.issueAll entries).issue entry.1 entry.2 := by
  rw [issueAll, List.foldl_append]
  rfl

theorem mem_issued_issueAll :
    key ∈ (m.issueAll entries).issued ↔ key ∈ entries.map Prod.fst ∨ key ∈ m.issued := by
  induction entries generalizing m with
  | nil => simp [issueAll]
  | cons entry entries ih =>
    show key ∈ ((m.issue entry.1 entry.2).issueAll entries).issued ↔ _
    rw [ih, issue, List.map_cons, List.mem_cons, List.mem_cons]
    tauto

theorem live_issueAll_of_not_mem (other : key ∉ entries.map Prod.fst) :
    (m.issueAll entries).live key = m.live key := by
  induction entries generalizing m with
  | nil => rfl
  | cons entry entries ih =>
    rw [List.map_cons, List.mem_cons, not_or] at other
    show ((m.issue entry.1 entry.2).issueAll entries).live key = _
    rw [ih _ other.2]
    exact Function.update_of_ne other.1 _ _

theorem live_issueAll_of_mem (nodup : (entries.map Prod.fst).Nodup) (mem : (key, value) ∈ entries) :
    (m.issueAll entries).live key = some value := by
  induction entries generalizing m with
  | nil => cases mem
  | cons entry entries ih =>
    rw [List.map_cons, List.nodup_cons] at nodup
    show ((m.issue entry.1 entry.2).issueAll entries).live key = _
    rcases List.mem_cons.mp mem with rfl | mem
    · rw [live_issueAll_of_not_mem _ nodup.1]
      exact Function.update_self _ _ _
    · exact ih _ nodup.2 mem

end

end FreshMap
