import RockchipVaapi.ObjectHeap.Refinement
import RockchipVaapi.Surface.CreateSurfaces

/-!
# A call makes all surfaces or none

What a turn took is on the surface or has been given back, so that the rollback only has to take the
surfaces of the earlier turns out of the heap.
-/

namespace RockchipVaapi.Surface
open Custody
open ObjectHeap (RKObjectHeap Inv Call performAll inv_performAll acquire remove objectRef)

/-! ## What a turn takes -/

/-- The traces of an import that fails. -/
def importFailures : List (List (Event Holding)) :=
  [[], [.take .importFd, .release .importFd],
    [.take .importFd, .take .importBuf, .release .importBuf, .release .importFd],
    [.take .importFd, .take .importBuf, .take .importChromaFd, .release .importChromaFd,
      .release .importBuf, .release .importFd]]

/-- The trace of an import that succeeds, and what it leaves. -/
inductive ImportShape : List (Event Holding) → Option Imported → Prop
  | own : ImportShape [] none
  | one {imported : Imported} (fd : 0 ≤ imported.fd) (single : imported.multiplane = false)
    (chromaFd : imported.chromaFd < 0) :
    ImportShape [.take .importFd, .take .importBuf] (some imported)
  | two {imported : Imported} (fd : 0 ≤ imported.fd) (double : imported.multiplane = true)
    (chromaFd : 0 ≤ imported.chromaFd) :
    ImportShape [.take .importFd, .take .importBuf, .take .importChromaFd, .take .importChromaBuf]
      (some imported)

/-- What was taken for an import is on the surface. -/
theorem ImportShape.holdings {events : List (Event Holding)} {imported : Option Imported}
    (shape : ImportShape events imported) :
    (events = [] ∧ importedHoldings imported = []) ∨
      (events = [.take .importFd, .take .importBuf] ∧
        importedHoldings imported = [.importBuf, .importFd]) ∨
      (events = [.take .importFd, .take .importBuf, .take .importChromaFd, .take .importChromaBuf] ∧
        importedHoldings imported = [.importBuf, .importFd, .importChromaBuf, .importChromaFd]) := by
  cases shape with
  | own => exact .inl ⟨rfl, rfl⟩
  | one fd single chromaFd =>
    refine .inr (.inl ⟨rfl, ?_⟩)
    rw [importedHoldings, if_pos fd, single, if_neg (Int.not_le.mpr chromaFd)]
    rfl
  | two fd double chromaFd =>
    refine .inr (.inr ⟨rfl, ?_⟩)
    rw [importedHoldings, if_pos fd, double, if_pos chromaFd]
    rfl

/-- The traces of a placeholder that cannot be made. -/
def placeholderFailures : List (List (Event Holding)) :=
  [[], [.take .privGroup, .release .privGroup],
    [.take .privGroup, .take .privBuf, .release .privBuf, .release .privGroup]]

section

variable {env : TurnEnv} {request : SurfaceRequest} {turn : Nat}

theorem importObject_cases (env : ObjectEnv) (fd buffer : Holding) :
    (∃ e, importObject env fd buffer = ([], .error e)) ∨
      (∃ e, importObject env fd buffer = ([.take fd, .release fd], .error e)) ∨
      ∃ handle, 0 ≤ env.dup ∧
        importObject env fd buffer = ([.take fd, .take buffer], .ok (handle, env.dup)) := by
  unfold importObject
  split
  · exact .inl ⟨_, rfl⟩
  · rename_i opened
    split
    · exact .inr (.inl ⟨_, rfl⟩)
    · cases env.imports with
      | none => exact .inr (.inl ⟨_, rfl⟩)
      | some handle => exact .inr (.inr ⟨handle, Int.not_lt.mp opened, rfl⟩)

theorem importDescriptor_cases (env : TurnEnv) (width height : Nat) (fourcc : Fourcc)
    (descriptor : VADRMPRIMESurfaceDescriptor) :
    (∃ events ∈ importFailures, ∃ e,
      importDescriptor env width height fourcc descriptor = (events, .error e)) ∨
      ∃ events imported, ImportShape events (some imported) ∧
        importDescriptor env width height fourcc descriptor = (events, .ok imported) := by
  unfold importDescriptor
  cases importPlan env.rga width height fourcc descriptor with
  | error e => exact .inl ⟨[], by decide, e, rfl⟩
  | ok plan =>
    rcases importObject_cases env.luma .importFd .importBuf with
      ⟨e, same⟩ | ⟨e, same⟩ | ⟨handle, opened, same⟩
    · rw [same]
      exact .inl ⟨_, by decide, e, rfl⟩
    · rw [same]
      exact .inl ⟨_, by decide, e, rfl⟩
    · rw [same]
      dsimp only
      cases chroma : plan.chromaObject with
      | none =>
        have single : (plan.imported (handle, env.luma.dup) (-1)).multiplane = false := by
          rw [ImportPlan.imported, chroma]
          rfl
        exact .inr ⟨_, _, .one opened single neg_one_lt_zero, rfl⟩
      | some object =>
        have double (fd : Int) :
            (plan.imported (handle, env.luma.dup) fd).multiplane = true := by
          rw [ImportPlan.imported, chroma]
          rfl
        rcases importObject_cases env.chroma .importChromaFd .importChromaBuf with
          ⟨e, same⟩ | ⟨e, same⟩ | ⟨handle', opened', same⟩
        · rw [same]
          exact .inl ⟨_, by decide, e, rfl⟩
        · rw [same]
          exact .inl ⟨_, by decide, e, rfl⟩
        · rw [same]
          exact .inr ⟨_, _, .two opened (double _) opened', rfl⟩

theorem importTurn_cases (env : TurnEnv) (request : SurfaceRequest) (turn : Nat) :
    (∃ events ∈ importFailures, ∃ e, importTurn env request turn = (events, .error e)) ∨
      ∃ events imported, ImportShape events imported ∧
        importTurn env request turn = (events, .ok imported) := by
  unfold importTurn
  cases request.imports with
  | none => exact .inr ⟨[], none, .own, rfl⟩
  | some descriptors =>
    dsimp only
    rcases importDescriptor_cases env request.width.toNat request.height.toNat request.fourcc
      (descriptors turn) with ⟨events, mem, e, same⟩ | ⟨events, imported, shape, same⟩
    · rw [same]
      exact .inl ⟨events, mem, e, rfl⟩
    · rw [same]
      exact .inr ⟨events, some imported, shape, rfl⟩

theorem placeholderTurn_cases (env : TurnEnv) (request : SurfaceRequest) :
    (∃ events ∈ placeholderFailures, placeholderTurn env request = (events, none)) ∨
      ∃ privBuf, placeholderTurn env request =
        ([.take .privGroup, .take .privBuf], some privBuf) := by
  unfold placeholderTurn
  cases rkSurfacePlaceholderSize request.width.toNat request.height.toNat request.is10bit with
  | none => exact .inl ⟨[], by decide, rfl⟩
  | some size =>
    dsimp only
    split
    · cases env.alloc.get size with
      | none => exact .inl ⟨_, by decide, rfl⟩
      | some buffer =>
        dsimp only
        split
        · exact .inr ⟨buffer, rfl⟩
        · exact .inl ⟨_, by decide, rfl⟩
    · exact .inl ⟨[], by decide, rfl⟩

/-- A turn leaves a surface that holds everything that was taken, or nothing at all. -/
theorem createTurn_cases (env : TurnEnv) (request : SurfaceRequest) (turn : Nat) :
    (∃ events e, createTurn env request turn = (events, .error e) ∧ Settled events) ∨
      ∃ events imported privBuf,
        createTurn env request turn = (events, .ok (newSurface request imported privBuf)) ∧
        released events = [] ∧
        (taken events).Perm (surfaceHoldings false false false false true imported) := by
  unfold createTurn
  split
  · exact .inl ⟨_, _, rfl, settled_nil⟩
  · split
    · exact .inl ⟨_, _, rfl, by decide⟩
    · split
      · exact .inl ⟨_, _, rfl, by decide⟩
      · dsimp only
        rcases importTurn_cases env request turn with
          ⟨events, mem, e, same⟩ | ⟨events, imported, shape, same⟩
        · have settled : ∀ events ∈ importFailures,
              Settled ([.take .memory, .take .lock, .take .cond] ++ events ++ destroyUnready none) := by
            decide
          rw [same]
          exact .inl ⟨_, e, rfl, settled events mem⟩
        · rw [same]
          rcases placeholderTurn_cases env request with ⟨more, mem, same⟩ | ⟨privBuf, same⟩
          · rw [same]
            refine .inl ⟨_, _, rfl, ?_⟩
            clear same
            unfold destroyUnready surfaceHoldings
            rcases shape.holdings with ⟨rfl, holds⟩ | ⟨rfl, holds⟩ | ⟨rfl, holds⟩ <;> rw [holds] <;>
              revert more <;> decide
          · rw [same]
            refine .inr ⟨_, imported, privBuf, rfl, ?_, ?_⟩
            · cases shape <;> rfl
            · unfold surfaceHoldings
              rcases shape.holdings with ⟨rfl, holds⟩ | ⟨rfl, holds⟩ | ⟨rfl, holds⟩ <;>
                rw [holds] <;> decide

end

/-! ## The loop -/

section

variable {env : Nat → TurnEnv} {first n : Nat} {request : SurfaceRequest}
  {m : FreshMap UInt32 SurfaceObject} {st st' : CreateState}
  {made : List (UInt32 × SurfaceObject)}

/-- What the surfaces hold that are in the heap. -/
def resourcesOf (made : List (UInt32 × SurfaceObject)) : List (Nat × Holding) :=
  made.flatMap fun entry => entry.2.resources

/-- The loop after some turns, on a heap that held `m` before. -/
structure Progress (first : Nat) (request : SurfaceRequest) (m : FreshMap UInt32 SurfaceObject)
    (st : CreateState) (made : List (UInt32 × SurfaceObject)) : Prop where
  ids : st.ids = made.map Prod.fst
  heap : ∃ free, Inv st.heap free (m.issueAll made)
  nodup : st.ids.Nodup
  fresh : ∀ id ∈ st.ids, id ∉ m.issued
  serials : made.map (fun entry => entry.2.serial) = List.range' first made.length
  sized : ∀ entry ∈ made, entry.2.surface.width = request.width ∧
    entry.2.surface.height = request.height ∧ entry.2.surface.fourcc = request.fourcc
  kept : released st.events = []
  held : (taken st.events).Perm (resourcesOf made)

theorem Progress.length (h : Progress first request m st made) : st.ids.length = made.length := by
  rw [h.ids, List.length_map]

/-- The loop at `rollback`: the turn that failed has given back what it took. -/
def Stopped (first : Nat) (request : SurfaceRequest) (m : FreshMap UInt32 SurfaceObject)
    (st : CreateState) (made : List (UInt32 × SurfaceObject)) : Prop :=
  ∃ before failed, st.events = before ++ failed ∧
    Progress first request m { st with events := before } made ∧ Settled failed ∧
    ∀ r ∈ taken failed, r.1 = first + made.length

theorem newSurface_resources (serial : Nat) (request : SurfaceRequest) (imported : Option Imported)
    (privBuf : MppBuffer) :
    (⟨serial, newSurface request imported privBuf⟩ : SurfaceObject).resources =
      (surfaceHoldings false false false false true imported).map (Prod.mk serial) := rfl

theorem prodMk_injective (serial : Nat) :
    Function.Injective (Prod.mk serial : Holding → Nat × Holding) :=
  fun _ _ same => (Prod.mk.inj same).2

theorem ite_singleton_sublist (b : Bool) (h : Holding) : (if b then [h] else []).Sublist [h] := by
  split
  · exact .refl _
  · exact List.nil_sublist _

theorem importedHoldings_sublist (imported : Option Imported) :
    (importedHoldings imported).Sublist
      [.importBuf, .importFd, .importChromaBuf, .importChromaFd] := by
  cases imported with
  | none => exact List.nil_sublist _
  | some imported =>
    have fd := ite_singleton_sublist (decide (0 ≤ imported.fd)) .importFd
    have chromaFd := ite_singleton_sublist (decide (0 ≤ imported.chromaFd)) .importChromaFd
    simp only [decide_eq_true_eq] at fd chromaFd
    exact (((List.Sublist.refl [.importBuf]).append fd).append
      (ite_singleton_sublist imported.multiplane .importChromaBuf)).append chromaFd

/-- A surface gives nothing back twice. -/
theorem SurfaceObject.resources_nodup (o : SurfaceObject) : o.resources.Nodup := by
  refine List.Nodup.map (prodMk_injective o.serial) ?_
  refine List.Nodup.sublist (?_ : List.Sublist _ ([.frame] ++ [.backingBuf] ++
    [.importBuf, .importFd, .importChromaBuf, .importChromaFd] ++ [.decodePool] ++ [.privBuf] ++
    [.exportBuf] ++ [.privGroup] ++ [.cond, .lock, .memory])) (by decide)
  exact ((((((((ite_singleton_sublist _ _).append (ite_singleton_sublist _ _)).append
    (importedHoldings_sublist _)).append (ite_singleton_sublist _ _)).append
    (ite_singleton_sublist _ _)).append (ite_singleton_sublist _ _)).append
    (ite_singleton_sublist _ _)).append (.refl _))

/-- The surfaces of a call hold different things. -/
theorem Progress.resources_nodup (h : Progress first request m st made) :
    (resourcesOf made).Nodup := by
  refine List.nodup_flatMap.mpr ⟨fun entry _ => entry.2.resources_nodup, ?_⟩
  have apart : made.Pairwise fun a b => a.2.serial ≠ b.2.serial := by
    rw [← List.pairwise_map (f := fun entry : UInt32 × SurfaceObject => entry.2.serial), h.serials]
    exact List.nodup_range'
  refine apart.imp fun {a b} other r here there => other ?_
  obtain ⟨_, -, rfl⟩ := List.mem_map.mp here
  obtain ⟨_, -, same⟩ := List.mem_map.mp there
  exact (Prod.mk.inj same).1.symm

theorem Progress.serial_lt (h : Progress first request m st made) {r : Nat × Holding}
    (mem : r ∈ resourcesOf made) : r.1 < first + made.length := by
  obtain ⟨entry, here, mem⟩ := List.mem_flatMap.mp mem
  obtain ⟨_, -, rfl⟩ := List.mem_map.mp mem
  have listed := List.mem_map_of_mem (f := fun entry : UInt32 × SurfaceObject => entry.2.serial) here
  rw [h.serials, List.mem_range'_1] at listed
  exact listed.2

/-- A surface that is put into the heap. -/
theorem Progress.insert (h : Progress first request m st made) {o : SurfaceObject} {id : UInt32}
    {heap : RKObjectHeap SurfaceObject} {free : List Nat} {events : List (Event (Nat × Holding))}
    (inv : Inv heap free ((m.issueAll made).issue id o)) (new : id ∉ (m.issueAll made).issued)
    (serial : o.serial = first + made.length)
    (size : o.surface.width = request.width ∧ o.surface.height = request.height ∧
      o.surface.fourcc = request.fourcc)
    (kept : released events = []) (held : (taken events).Perm o.resources) :
    Progress first request m ⟨heap, st.ids ++ [id], st.events ++ events⟩ (made ++ [(id, o)]) := by
  rw [FreshMap.mem_issued_issueAll, ← h.ids, not_or] at new
  refine ⟨?_, ⟨free, ?_⟩, ?_, ?_, ?_, ?_, ?_, ?_⟩
  · rw [List.map_append, ← h.ids]
    rfl
  · rw [FreshMap.issueAll_snoc]
    exact inv
  · exact List.nodup_append'.mpr ⟨h.nodup, List.nodup_singleton _,
      List.disjoint_singleton.mpr new.1⟩
  · intro id' mem
    rcases List.mem_append.mp mem with mem | mem
    · exact h.fresh id' mem
    · obtain rfl := List.mem_singleton.mp mem
      exact new.2
  · rw [List.map_append, h.serials, List.length_append, List.length_singleton,
      List.range'_concat, Nat.one_mul]
    show _ ++ [o.serial] = _
    rw [serial]
  · intro entry mem
    rcases List.mem_append.mp mem with mem | mem
    · exact h.sized entry mem
    · obtain rfl := List.mem_singleton.mp mem
      exact size
  · rw [released_append, h.kept, kept]
    rfl
  · rw [taken_append, resourcesOf, List.flatMap_append, List.flatMap_singleton]
    exact h.held.append held

/-- The loop makes the surfaces that are asked for, or stops. -/
theorem createLoop_progress (env : Nat → TurnEnv) (n : Nat)
    (h : Progress first request m st made) :
    ((createLoop env first request n st).2 = none ∧ ∃ made',
      Progress first request m (createLoop env first request n st).1 made' ∧
        made'.length = made.length + n) ∨
      ∃ e made', (createLoop env first request n st).2 = some e ∧
        Stopped first request m (createLoop env first request n st).1 made' := by
  induction n generalizing st made with
  | zero => exact .inl ⟨rfl, made, h, rfl⟩
  | succ n ih =>
    have length := h.length
    obtain ⟨free, inv⟩ := h.heap
    rw [createLoop]
    dsimp only
    rcases createTurn_cases (env st.ids.length) request st.ids.length with
      ⟨events, e, turn, settled⟩ | ⟨events, imported, privBuf, turn, kept, held⟩
    · rw [turn]
      refine .inr ⟨e, made, rfl, st.events, _, rfl, h, settled.map (prodMk_injective _), ?_⟩
      intro r mem
      rw [taken_map] at mem
      obtain ⟨_, -, rfl⟩ := List.mem_map.mp mem
      rw [length]
    · rw [turn]
      dsimp only
      have keptAll : released (events.map (Event.map (Prod.mk (first + st.ids.length)))) = [] := by
        rw [released_map, kept]
        rfl
      have heldAll : (taken (events.map (Event.map (Prod.mk (first + st.ids.length))))).Perm
          (⟨first + st.ids.length, newSurface request imported privBuf⟩ :
            SurfaceObject).resources := by
        rw [taken_map, newSurface_resources]
        exact held.map _
      rcases inv.after_insert ⟨first + st.ids.length, newSurface request imported privBuf⟩
        (env st.ids.length).grows with full | ⟨_, _, id, free', -, -, -, -, new, answer, -, inv'⟩
      · rw [full]
        refine .inr ⟨_, made, rfl, st.events, _, List.append_assoc _ _ _, h, ⟨?_, ?_⟩, ?_⟩
        · rw [released_append, taken_append, keptAll, SurfaceObject.destroy, released_releases,
            taken_releases, List.append_nil, List.nil_append]
          exact heldAll.symm
        · rw [taken_append, SurfaceObject.destroy, taken_releases, List.append_nil]
          exact heldAll.nodup_iff.mpr (SurfaceObject.resources_nodup _)
        · intro r mem
          rw [taken_append, SurfaceObject.destroy, taken_releases, List.append_nil, taken_map] at mem
          obtain ⟨_, -, rfl⟩ := List.mem_map.mp mem
          rw [length]
      · cases result : ObjectHeap.insert st.heap
            ⟨first + st.ids.length, newSurface request imported privBuf⟩ (env st.ids.length).grows with
        | mk heap reply =>
          rw [result] at answer inv'
          obtain rfl : reply = some id := answer
          have next := h.insert inv' new (by rw [length]) ⟨rfl, rfl, rfl⟩ keptAll heldAll
          rcases ih next with ⟨done, made', progress, total⟩ | stopped
          · refine .inl ⟨done, made', progress, ?_⟩
            rw [List.length_append, List.length_singleton] at total
            omega
          · exact .inr stopped

/-- The rollback takes the surfaces out of the heap again and destroys each. -/
theorem rollback_spec {heap : RKObjectHeap SurfaceObject} {free : List Nat}
    {m : FreshMap UInt32 SurfaceObject} (inv : Inv heap free m)
    (here : ∀ entry ∈ made, m.live entry.1 = some entry.2) (nodup : (made.map Prod.fst).Nodup)
    (events : List (Event (Nat × Holding))) :
    (∃ free' m', Inv (rollback (made.map Prod.fst) heap events).1 free' m' ∧
      ∀ id, m'.live id = if id ∈ made.map Prod.fst then none else m.live id) ∧
      (rollback (made.map Prod.fst) heap events).2 =
        events ++ (resourcesOf made).map .release := by
  induction made generalizing heap free m events with
  | nil => exact ⟨⟨free, m, inv, fun id => (if_neg List.not_mem_nil).symm⟩, (List.append_nil _).symm⟩
  | cons entry made ih =>
    obtain ⟨id, o⟩ := entry
    rw [List.map_cons, List.nodup_cons] at nodup
    obtain ⟨answer, -, free', inv'⟩ := inv.after_remove id
    rw [here _ List.mem_cons_self] at answer
    rw [answer, Option.isSome_some, if_pos rfl] at inv'
    cases result : remove heap id with
    | mk heap' reply =>
      rw [result] at answer inv'
      obtain rfl : reply = some o := answer
      have later : ∀ entry ∈ made, (m.retire id).live entry.1 = some entry.2 := by
        intro entry mem
        have other : entry.1 ≠ id := by
          intro same
          have listed := List.mem_map_of_mem (f := Prod.fst) mem
          rw [same] at listed
          exact nodup.1 listed
        rw [← here entry (List.mem_cons_of_mem _ mem)]
        exact Function.update_of_ne other _ _
      obtain ⟨⟨free'', m'', inv'', live⟩, trace⟩ := ih inv' later nodup.2 (events ++ o.destroy)
      rw [List.map_cons, rollback, result]
      refine ⟨⟨free'', m'', inv'', fun id' => ?_⟩, ?_⟩
      · rw [live]
        by_cases listed : id' ∈ made.map Prod.fst
        · rw [if_pos listed, if_pos (List.mem_cons_of_mem _ listed)]
        · rw [if_neg listed]
          by_cases same : id' = id
          · rw [if_pos (same ▸ List.mem_cons_self), same]
            exact Function.update_self _ _ _
          · rw [if_neg (by rw [List.mem_cons, not_or]; exact ⟨same, listed⟩)]
            exact Function.update_of_ne same _ _
      · rw [trace, List.append_assoc, SurfaceObject.destroy, ← List.map_append]
        rfl

/-! ## All or nothing -/

/-- A call that failed. Every lookup answers as before the call, the ids that were written name
nothing, and what the call took has been given back. -/
structure Undone (heap : RKObjectHeap SurfaceObject) (result : CreateResult) : Prop where
  lookups : ∀ id refs, acquire result.heap id refs = acquire heap id refs
  unresolved : ∀ id ∈ result.ids, ∀ refs, acquire result.heap id refs = none
  settled : Settled result.events

/-- A call that made `n` surfaces, on a heap that had handed out the ids `issued`. -/
structure Delivered (first : Nat) (width height : Int) (fourcc : Fourcc) (n : Nat)
    (heap : RKObjectHeap SurfaceObject) (issued : List UInt32) (result : CreateResult) : Prop where
  count : result.ids.length = n
  distinct : result.ids.Nodup
  fresh : ∀ id ∈ result.ids, id ∉ issued
  others : ∀ id, id ∉ result.ids → ∀ refs, acquire result.heap id refs = acquire heap id refs
  kept : released result.events = []
  surfaces : ∃ made : List (UInt32 × SurfaceObject), made.map Prod.fst = result.ids ∧
    made.map (fun entry => entry.2.serial) = List.range' first n ∧
    (taken result.events).Perm (resourcesOf made) ∧
    ∀ entry ∈ made, entry.2.surface.width = width ∧ entry.2.surface.height = height ∧
      entry.2.surface.fourcc = fourcc ∧
      ∀ refs, objectRef (refs entry.2) = true → acquire result.heap entry.1 refs = some entry.2

variable {heap : RKObjectHeap SurfaceObject} {free : List Nat}

theorem progress_init (first : Nat) (request : SurfaceRequest) (inv : Inv heap free m) :
    Progress first request m ⟨heap, [], []⟩ [] where
  ids := rfl
  heap := ⟨free, inv⟩
  nodup := List.nodup_nil
  fresh := fun _ mem => nomatch mem
  serials := rfl
  sized := fun _ mem => nomatch mem
  kept := rfl
  held := .refl _

theorem Progress.delivered (h : Progress first request m st made) (inv : Inv heap free m)
    (length : made.length = n) :
    Delivered first request.width request.height request.fourcc n heap m.issued
      ⟨.ok (), st.heap, st.ids, st.events⟩ := by
  obtain ⟨free', inv'⟩ := h.heap
  refine ⟨h.length.trans length, h.nodup, h.fresh, ?_, h.kept, made, h.ids.symm, ?_, h.held, ?_⟩
  · intro id other refs
    rw [h.ids] at other
    rw [inv'.acquire_eq, inv.acquire_eq, FreshMap.live_issueAll_of_not_mem m other]
  · rw [h.serials, length]
  · intro entry mem
    obtain ⟨width, height, fourcc⟩ := h.sized entry mem
    refine ⟨width, height, fourcc, fun refs counted => ?_⟩
    have nodup := h.nodup
    rw [h.ids] at nodup
    rw [inv'.acquire_eq, FreshMap.live_issueAll_of_mem m nodup mem]
    exact Option.filter_some_pos counted

/-- The trace of a call that stopped, with the rollback behind it. -/
theorem Stopped.settled (h : Stopped first request m st made) :
    Settled (st.events ++ (resourcesOf made).map .release) := by
  obtain ⟨before, failed, split, progress, settled, serial⟩ := h
  have apart : (resourcesOf made).Disjoint (taken failed) := by
    intro r here there
    have early := progress.serial_lt here
    rw [serial r there] at early
    exact Nat.lt_irrefl _ early
  have all : (taken (st.events ++ (resourcesOf made).map .release)).Perm
      (resourcesOf made ++ taken failed) := by
    rw [split, taken_append, taken_append, taken_releases, List.append_nil]
    exact progress.held.append_right _
  refine ⟨?_, ?_⟩
  · refine List.Perm.trans ?_ all.symm
    rw [split, released_append, released_append, released_releases, progress.kept, List.nil_append]
    exact (settled.back.append_right _).trans List.perm_append_comm
  · exact all.nodup_iff.mpr
      (List.nodup_append'.mpr ⟨progress.resources_nodup, settled.once, apart⟩)

theorem Stopped.undone (h : Stopped first request m st made) (inv : Inv heap free m)
    (e : CreateError) :
    Undone heap ⟨.error e, (rollback st.ids st.heap st.events).1, st.ids,
      (rollback st.ids st.heap st.events).2⟩ := by
  have settled := h.settled
  obtain ⟨before, failed, -, progress, -, -⟩ := h
  obtain ⟨free', inv'⟩ := progress.heap
  have ids : st.ids = made.map Prod.fst := progress.ids
  have nodup : (made.map Prod.fst).Nodup := ids ▸ progress.nodup
  obtain ⟨⟨free'', m', inv'', live⟩, trace⟩ := rollback_spec inv'
    (fun entry mem => FreshMap.live_issueAll_of_mem m nodup mem) nodup st.events
  rw [← ids] at inv'' live trace
  have gone : ∀ id ∈ st.ids, m.live id = none := fun id mem =>
    inv.wf.live_eq_none (progress.fresh id mem)
  have same : m'.live = m.live := by
    funext id
    rw [live]
    split
    · rename_i mem
      exact (gone id mem).symm
    · rename_i other
      exact FreshMap.live_issueAll_of_not_mem m (ids ▸ other)
  refine ⟨?_, ?_, ?_⟩
  · intro id refs
    rw [inv''.acquire_eq, inv.acquire_eq, same]
  · intro id mem refs
    rw [inv''.acquire_eq, same, gone id mem]
    rfl
  · rw [trace]
    exact settled

theorem CreateResult.refused_undone (heap : RKObjectHeap SurfaceObject) (e : CreateError) :
    Undone heap (.refused heap e) where
  lookups := fun _ _ => rfl
  unresolved := fun _ mem => nomatch mem
  settled := settled_nil

/-- The loop and what follows it leave everything or nothing. -/
theorem createAll_spec (env : Nat → TurnEnv) (first : Nat) (request : SurfaceRequest) (n : Nat)
    (inv : Inv heap free m) :
    (∃ e, (createAll env first request n heap).status = .error e ∧
      Undone heap (createAll env first request n heap)) ∨
      (createAll env first request n heap).status = .ok () ∧
        Delivered first request.width request.height request.fourcc n heap m.issued
          (createAll env first request n heap) := by
  have run := createLoop_progress env n (progress_init first request inv)
  unfold createAll
  rcases result : createLoop env first request n ⟨heap, [], []⟩ with ⟨st, answer⟩
  rw [result] at run
  rcases run with ⟨done, made, progress, length⟩ | ⟨e, made, stop, stopped⟩
  · obtain rfl : answer = none := done
    exact .inr ⟨rfl, progress.delivered inv (length.trans (Nat.zero_add n))⟩
  · obtain rfl : answer = some e := stop
    exact .inl ⟨e, rfl, stopped.undone inv e⟩

/-- `create_surfaces` with the checks before the loop. -/
theorem createSurfaces_spec (env : Nat → TurnEnv) (first : Nat) (width height n : Int)
    (idsNull : Bool) (fourcc : Fourcc) (imports : Option (Nat → VADRMPRIMESurfaceDescriptor))
    (encoderInput : Bool) (inv : Inv heap free m) :
    let result := createSurfaces env first width height n idsNull fourcc imports encoderInput heap
    (∃ e, result.status = .error e ∧ Undone heap result) ∨
      result.status = .ok () ∧ Delivered first width height fourcc n.toNat heap m.issued result := by
  have refused (e : CreateError) := CreateResult.refused_undone heap e
  dsimp only
  unfold createSurfaces
  split
  · split
    · exact .inl ⟨_, rfl, refused _⟩
    · split
      · exact .inl ⟨_, rfl, refused _⟩
      · split
        · exact .inl ⟨_, rfl, refused _⟩
        · exact createAll_spec env first _ n.toNat inv
  · exact .inl ⟨_, rfl, refused _⟩

theorem createSurfaces2Args_size {format width height n : UInt32} {attribs : List VASurfaceAttrib}
    {args : CreateArgs} (accepted : createSurfaces2Args format width height n attribs = .ok args) :
    args.width = width.toNat ∧ args.height = height.toNat ∧ args.n = n.toNat := by
  unfold createSurfaces2Args at accepted
  split at accepted
  · cases accepted
  · split at accepted
    · cases accepted
    · split at accepted
      · cases accepted
      · unfold AttribState.finish at accepted
        dsimp only at accepted
        split at accepted
        · cases accepted
        · split at accepted
          · cases accepted
          · split at accepted
            · cases accepted
            · obtain rfl := Except.ok.inj accepted
              exact ⟨rfl, rfl, rfl⟩

/-- On every heap that calls can reach, whatever fails and wherever: a call that fails leaves every
lookup as it was, the ids it wrote name nothing, and everything it took is back. A call that
succeeds made as many surfaces as were asked for, of that size, under ids that are new. -/
theorem createSurfaces2_allOrNothing (calls : List (Call SurfaceObject)) (env : Nat → TurnEnv)
    (first : Nat) (format width height n : UInt32) (idsNull : Bool) (attribs : List VASurfaceAttrib)
    (memory : Nat → Nat → VADRMPRIMESurfaceDescriptor) :
    let (heap, m) := performAll .surface calls
    let result := rkCreateSurfaces2 env first format width height n idsNull attribs memory heap
    (∀ e, result.status = .error e → Undone heap result) ∧
      (result.status = .ok () → ∃ args,
        createSurfaces2Args format width height n attribs = .ok args ∧
          Delivered first width.toNat height.toNat args.fourcc n.toNat heap m.issued result) := by
  obtain ⟨-, free, inv⟩ := inv_performAll .surface calls
  rcases after : performAll .surface calls with ⟨heap, m⟩
  rw [after] at inv
  dsimp only at inv ⊢
  unfold rkCreateSurfaces2
  cases accepted : createSurfaces2Args format width height n attribs with
  | error e => exact ⟨fun _ _ => CreateResult.refused_undone heap e, fun ok => nomatch ok⟩
  | ok args =>
    dsimp only
    obtain ⟨asWidth, asHeight, asCount⟩ := createSurfaces2Args_size accepted
    rcases createSurfaces_spec env first args.width args.height args.n idsNull args.fourcc
      (args.imports.map memory) args.encoderInput inv with ⟨e, failed, undone⟩ | ⟨ok, delivered⟩
    · refine ⟨fun _ _ => undone, fun ok => ?_⟩
      rw [failed] at ok
      cases ok
    · refine ⟨fun e failed => ?_, fun _ => ⟨args, rfl, ?_⟩⟩
      · rw [ok] at failed
        cases failed
      · rw [asWidth, asHeight, asCount] at delivered ⊢
        exact delivered

end

end RockchipVaapi.Surface
