import Mathlib.Data.List.Perm.Basic
import RockchipVaapi.Misc.Custody
import RockchipVaapi.Misc.Transition
import RockchipVaapi.Surface.Assign

/-!
# The pool of decode buffers

A context gives MPP the buffers that it decodes into. The pool begins with the first information
about the stream, grows while the application holds all its pictures, and goes with the last surface
that shows one of them.
-/

namespace RockchipVaapi.Pool

open Custody Surface

/-- `EXTERNAL_POOL_COUNT`. -/
def externalPoolCount : Nat := 24

/-- `EXTERNAL_POOL_MAX`. -/
def externalPoolMax : Nat := 64

/-- `EXTERNAL_POOL_GROW`. -/
def externalPoolGrow : Nat := 8

/-- What a pool takes from MPP and puts back. -/
inductive PoolResource
  | frameGroup
  | backingGroup
  | buffer (handle : Nat)
  deriving DecidableEq, Repr

/-- The fields of a `MppBufferInfo` that a commit fills. -/
structure MppBufferInfo where
  size : Nat
  fd : Int
  index : Int
  deriving DecidableEq, Repr

/-- What MPP knows of the pool: the buffers in the frame group, and what was taken and put. -/
structure Mpp where
  group : List MppBufferInfo
  events : List (Event PoolResource)

def Mpp.take (w : Mpp) (r : PoolResource) : Mpp := { w with events := w.events ++ [.take r] }

def Mpp.release (w : Mpp) (r : PoolResource) : Mpp := { w with events := w.events ++ [.release r] }

/-- `RKDecodePool`. The groups are there or null. -/
structure RKDecodePool where
  frameGroup : Bool
  backingGroup : Bool
  buffers : List (Option MppBuffer)
  capacity : Nat
  count : Nat
  bufferSize : Nat

/-- The outcomes of `mpp_buffer_get` and of `mpp_buffer_commit`. -/
structure CommitAnswer where
  buffer : Option MppBuffer
  committed : Bool

/-- `commit_pool_buffer` (`mpp_dec.c:167-190`). -/
def commitPoolBuffer (a : CommitAnswer) (pool : RKDecodePool) (w : Mpp) (index : Nat) :
    Bool × RKDecodePool × Mpp :=
  match a.buffer with
  | none => (false, pool, w)
  | some b =>
    let pool := { pool with buffers := pool.buffers.set index (some b) }
    let w := w.take (.buffer b.handle)
    if b.fd < 0 || !a.committed then
      (false, { pool with buffers := pool.buffers.set index none }, w.release (.buffer b.handle))
    else (true, pool, { w with group := w.group ++ [⟨b.size, b.fd, index⟩] })

/-- The loops over `commit_pool_buffer`: how many of `n` buffers were committed from an index on. -/
def commitLoop (answers : Nat → CommitAnswer) :
    Nat → Nat → RKDecodePool → Mpp → Nat × RKDecodePool × Mpp
  | 0, _, pool, w => (0, pool, w)
  | n + 1, index, pool, w =>
    match commitPoolBuffer (answers index) pool w index with
    | (false, pool, w) => (0, pool, w)
    | (true, pool, w) =>
      let rest := commitLoop answers n (index + 1) pool w
      (rest.1 + 1, rest.2)

/-- `decode_pool_destroy` (`mpp_dec.c:27-41`). -/
def decodePoolDestroy (pool : RKDecodePool) (w : Mpp) : Mpp :=
  { group := []
    events := w.events ++ (if pool.frameGroup then [.release .frameGroup] else []) ++
      ((pool.buffers.take pool.count).filterMap id).map (fun b => .release (.buffer b.handle)) ++
      if pool.backingGroup then [.release .backingGroup] else [] }

/-- The fields of a decode context that the pool depends on. `required` is what the last
information about the stream that was accepted asks of a buffer. -/
structure PoolContext where
  width : Nat
  height : Nat
  pool : Option RKDecodePool
  mpp : Mpp
  required : Nat

/-- `grow_external_group` (`mpp_dec.c:195-219`). -/
def growExternalGroup (answers : Nat → CommitAnswer) (c : PoolContext) : Bool × PoolContext :=
  match c.pool with
  | none => (false, c)
  | some pool =>
    if pool.capacity ≤ pool.count then (false, c)
    else
      let target := min (pool.count + externalPoolGrow) pool.capacity
      let (added, grown, w) := commitLoop answers (target - pool.count) pool.count pool c.mpp
      if added = 0 then (false, { c with pool := some grown, mpp := w })
      else (true, { c with pool := some { grown with count := pool.count + added }, mpp := w })

/-- The outcomes of the calls of `configure_external_group`. -/
structure ConfigureEnv where
  memory : Bool
  frameGroup : Bool
  backingGroup : Bool
  array : Bool
  answers : Nat → CommitAnswer
  attached : Bool

/-- The size of new buffers (`mpp_dec.c:224-236`). -/
def allocationSize (c : PoolContext) (required : Nat) : Nat :=
  match rkSurfaceBufferSize c.width c.height with
  | some conservative => if required < conservative then conservative else required
  | none => required

/-- The first buffer of an existing pool is large enough (`mpp_dec.c:238-245`). -/
def RKDecodePool.fits (pool : RKDecodePool) (required : Nat) : Bool :=
  match pool.buffers.head? with
  | some (some b) => decide (0 < pool.count) && decide (required ≤ b.size)
  | _ => false

/-- The end of a pool that could not be made (`mpp_dec.c:288-290`). -/
def PoolContext.fail (c : PoolContext) (pool : RKDecodePool) (w : Mpp) : Bool × PoolContext :=
  (false, { c with mpp := decodePoolDestroy pool w })

/-- A new pool (`mpp_dec.c:247-290`). -/
def createPool (env : ConfigureEnv) (c : PoolContext) (required : Nat) : Bool × PoolContext :=
  let pool : RKDecodePool :=
    { frameGroup := false, backingGroup := false, buffers := [], capacity := externalPoolMax
      count := 0, bufferSize := allocationSize c required }
  if env.frameGroup = false then c.fail pool c.mpp
  else
    let pool := { pool with frameGroup := true }
    let w : Mpp := { c.mpp.take .frameGroup with group := [] }
    if env.backingGroup = false then c.fail pool w
    else
      let pool := { pool with backingGroup := true }
      let w := w.take .backingGroup
      if env.array = false then c.fail pool w
      else
        let pool := { pool with buffers := List.replicate pool.capacity none }
        let (added, pool, w) := commitLoop env.answers externalPoolCount 0 pool w
        let pool := { pool with count := added }
        if added < externalPoolCount then c.fail pool w
        else if env.attached = false then c.fail pool w
        else (true, { c with pool := some pool, mpp := w, required := required })

/-- `configure_external_group` (`mpp_dec.c:221-291`). -/
def configureExternalGroup (env : ConfigureEnv) (c : PoolContext) (required : Nat) :
    Bool × PoolContext :=
  if required = 0 then (false, c)
  else
    match c.pool with
    | some pool => if pool.fits required then (true, { c with required := required }) else (false, c)
    | none => if env.memory = false then (false, c) else createPool env c required

/-- The buffers of a pool as `assign_mpp_frame` reads them. -/
def RKDecodePool.view (pool : RKDecodePool) (id : Nat) : Surface.RKDecodePool :=
  ⟨id, (pool.buffers.take pool.count).filterMap fun b => b⟩

/-! ## What is in the array -/

/-- The array holds these buffers and null pointers behind them. -/
def Slots (buffers : List (Option MppBuffer)) (held : List MppBuffer) : Prop :=
  buffers = held.map some ++ List.replicate (externalPoolMax - held.length) none

/-- The frame group has these buffers, each under its place. -/
def Committed (w : Mpp) (held : List MppBuffer) : Prop :=
  w.group = held.mapIdx fun (i : Nat) b => ⟨b.size, b.fd, i⟩

def ofBuffer (b : MppBuffer) : PoolResource := .buffer b.handle

section

variable {held : List MppBuffer} {buffers : List (Option MppBuffer)}

theorem Slots.length (slots : Slots buffers held) (small : held.length ≤ externalPoolMax) :
    buffers.length = externalPoolMax := by
  rw [slots, List.length_append, List.length_map, List.length_replicate]
  omega

theorem Slots.take (slots : Slots buffers held) :
    (buffers.take held.length).filterMap id = held := by
  rw [slots, List.take_left' (List.length_map some), List.filterMap_map]
  exact List.filterMap_some

/-- The next null pointer is set. -/
theorem Slots.set (slots : Slots buffers held) (room : held.length < externalPoolMax)
    (b : MppBuffer) : Slots (buffers.set held.length (some b)) (held ++ [b]) := by
  obtain ⟨n, more⟩ : ∃ n, externalPoolMax - held.length = n + 1 :=
    ⟨externalPoolMax - held.length - 1, by omega⟩
  unfold Slots at slots ⊢
  rw [slots, more, List.set_append_right _ _ (by simp)]
  have rest : externalPoolMax - (held ++ [b]).length = n := by
    rw [List.length_append]
    simp only [List.length_cons, List.length_nil]
    omega
  rw [rest, List.map_append, List.length_map, Nat.sub_self, List.replicate_succ]
  simp

/-- A slot that was set and cleared again. -/
theorem Slots.clear (slots : Slots buffers held) (b : MppBuffer) :
    Slots ((buffers.set held.length (some b)).set held.length none) held := by
  have none : buffers.set held.length none = buffers := by
    rw [slots, List.set_append_right _ _ (by simp), List.length_map, Nat.sub_self]
    congr 1
    cases externalPoolMax - held.length with
    | zero => rfl
    | succ n => rfl
  rw [List.set_set, none]
  exact slots

end

/-- The state of a pool that holds these buffers. -/
structure Filled (pool : RKDecodePool) (w : Mpp) (base : List PoolResource)
    (held : List MppBuffer) : Prop where
  slots : Slots pool.buffers held
  small : held.length ≤ externalPoolMax
  committed : Committed w held
  owns : Owns w.events (base ++ held.map ofBuffer)
  fds : ∀ b ∈ held, 0 ≤ b.fd

section

variable {pool : RKDecodePool} {w : Mpp} {base : List PoolResource} {held : List MppBuffer}

/-- What one commit does. -/
theorem commitPoolBuffer_spec (filled : Filled pool w base held)
    (room : held.length < externalPoolMax) (a : CommitAnswer) :
    (∃ buffers w', commitPoolBuffer a pool w held.length =
        (false, { pool with buffers := buffers }, w') ∧
      Filled { pool with buffers := buffers } w' base held ∧
      ¬∃ b, a.buffer = some b ∧ 0 ≤ b.fd ∧ a.committed = true) ∨
    ∃ b buffers w', a.buffer = some b ∧ commitPoolBuffer a pool w held.length =
        (true, { pool with buffers := buffers }, w') ∧
      Filled { pool with buffers := buffers } w' base (held ++ [b]) := by
  unfold commitPoolBuffer
  cases got : a.buffer with
  | none => exact .inl ⟨pool.buffers, w, rfl, filled, fun ⟨_, missing, _⟩ => nomatch missing⟩
  | some b =>
    dsimp only
    have owns : Owns (w.take (.buffer b.handle)).events (base ++ held.map ofBuffer ++ [ofBuffer b]) :=
      filled.owns.take _
    by_cases bad : (b.fd < 0 || !a.committed) = true
    · rw [if_pos bad]
      refine .inl ⟨_, _, rfl, ⟨filled.slots.clear b, filled.small, filled.committed,
        (owns.perm List.perm_append_comm).release, filled.fds⟩, ?_⟩
      rintro ⟨b', same, open_, committed⟩
      cases same
      simp [committed] at bad
      omega
    · rw [if_neg bad]
      simp only [Bool.or_eq_true, decide_eq_true_eq, Bool.not_eq_true', not_or, not_lt] at bad
      refine .inr ⟨b, _, _, rfl, rfl, filled.slots.set room b, ?_, ?_, ?_, ?_⟩
      · rw [List.length_append]
        exact room
      · have grown := congrArg (· ++ [(⟨b.size, b.fd, held.length⟩ : MppBufferInfo)]) filled.committed
        unfold Committed
        rw [List.mapIdx_concat]
        exact grown
      · rw [List.map_append, ← List.append_assoc]
        exact owns
      · intro b' mem
        rcases List.mem_append.mp mem with mem | mem
        · exact filled.fds b' mem
        · rw [List.mem_singleton.mp mem]
          exact bad.1

/-- What the loop does: it commits some more buffers, and all of them where nothing fails. -/
theorem commitLoop_spec (answers : Nat → CommitAnswer) (n : Nat) (filled : Filled pool w base held)
    (room : held.length + n ≤ externalPoolMax) :
    ∃ more buffers w', commitLoop answers n held.length pool w =
        (more.length, { pool with buffers := buffers }, w') ∧
      more.length ≤ n ∧ Filled { pool with buffers := buffers } w' base (held ++ more) ∧
      (∀ b ∈ more, ∃ i, (answers i).buffer = some b) ∧
      ((∀ i, ∃ b, (answers i).buffer = some b ∧ 0 ≤ b.fd ∧ (answers i).committed = true) →
        more.length = n) := by
  induction n generalizing pool w held with
  | zero =>
    exact ⟨[], pool.buffers, w, rfl, le_rfl, by simpa using filled, by simp, fun _ => rfl⟩
  | succ n ih =>
    unfold commitLoop
    rcases commitPoolBuffer_spec filled (by omega) (answers held.length) with
      ⟨buffers, w', failed, same, refused⟩ | ⟨b, buffers, w', got, committed, grown⟩
    · rw [failed]
      refine ⟨[], buffers, w', rfl, Nat.zero_le _, by simpa using same, by simp, fun all => ?_⟩
      exact absurd (all held.length) refused
    · rw [committed]
      have next : (held ++ [b]).length = held.length + 1 := by simp
      obtain ⟨more, buffers', w'', loop, few, filled', origin, all⟩ := ih grown (by omega)
      rw [next] at loop
      dsimp only
      rw [loop]
      refine ⟨b :: more, buffers', w'', rfl, ?_, ?_, ?_, fun good => ?_⟩
      · simpa using few
      · simpa using filled'
      · intro b' mem
        rcases List.mem_cons.mp mem with rfl | mem
        · exact ⟨_, got⟩
        · exact origin b' mem
      · rw [List.length_cons, all good]

/-- A pool that goes puts back all that it has. -/
theorem decodePoolDestroy_owns (kept : (pool.buffers.take pool.count).filterMap id = held)
    (owns : Owns w.events ((if pool.frameGroup then [.frameGroup] else []) ++
      (if pool.backingGroup then [.backingGroup] else []) ++ held.map ofBuffer)) :
    Owns (decodePoolDestroy pool w).events [] := by
  have releases : decodePoolDestroy pool w = ⟨[], w.events ++
      ((if pool.frameGroup then [PoolResource.frameGroup] else []) ++ held.map ofBuffer ++
        if pool.backingGroup then [PoolResource.backingGroup] else []).map Event.release⟩ := by
    unfold decodePoolDestroy
    rw [kept]
    cases pool.frameGroup <;> cases pool.backingGroup <;> simp [ofBuffer]
  rw [releases]
  apply Owns.releaseAll
  rw [List.append_nil]
  apply owns.perm
  rw [List.append_assoc, List.append_assoc]
  exact List.perm_append_comm.append_left _

end

/-! ## Runs -/

/-- What the worker does with the pool: the information about the stream that MPP delivers, and the
lack of output buffers. -/
inductive PoolCall
  | infoChange (required : Nat) (env : ConfigureEnv)
  | starved (answers : Nat → CommitAnswer)

def poolStep (c : PoolContext) : PoolCall → Option PoolContext
  | .infoChange required env => some (configureExternalGroup env c required).2
  | .starved answers => some (growExternalGroup answers c).2

/-- A context of a size before the first information about its stream. -/
def noPool (width height : Nat) : PoolContext := ⟨width, height, none, ⟨[], []⟩, 0⟩

/-- MPP grants buffers of the size that the driver asks for, rounded up in its way. -/
def Grants (granted : Nat → Nat) (c : PoolContext) : PoolCall → Prop
  | .infoChange required env => ∀ i b, (env.answers i).buffer = some b →
      b.size = granted (allocationSize c required)
  | .starved answers => ∀ i b pool, c.pool = some pool → (answers i).buffer = some b →
      b.size = granted pool.bufferSize

/-- The groups of a pool that was made. -/
def groups : List PoolResource := [.frameGroup, .backingGroup]

/-- What holds of the pool of a context at all times, and of its sizes where `sized` says that MPP
grants them. -/
structure PoolKept (sized : Prop) (granted : Nat → Nat) (pool : RKDecodePool) (w : Mpp) (required : Nat)
    (held : List MppBuffer) : Prop where
  filled : Filled pool w groups held
  made : pool.frameGroup = true ∧ pool.backingGroup = true
  capacity : pool.capacity = externalPoolMax
  count : pool.count = held.length
  enough : externalPoolCount ≤ held.length
  sizes : sized → ∀ b ∈ held, b.size = granted pool.bufferSize
  fits : sized → required ≤ granted pool.bufferSize

def Kept (sized : Prop) (granted : Nat → Nat) (c : PoolContext) : Prop :=
  match c.pool with
  | none => Owns c.mpp.events []
  | some pool => ∃ held, PoolKept sized granted pool c.mpp c.required held

section

variable {sized : Prop} {granted : Nat → Nat} {c c' : PoolContext} {pool : RKDecodePool} {held : List MppBuffer}
  {w : Mpp} {required : Nat}

/-- What a growth does: it commits up to eight more buffers, and as many where nothing fails. -/
theorem PoolKept.grow (kept : PoolKept sized granted pool c.mpp required held) (same : c.pool = some pool)
    (answers : Nat → CommitAnswer)
    (sizes : sized → ∀ i b, (answers i).buffer = some b → b.size = granted pool.bufferSize) :
    ∃ more pool' w', growExternalGroup answers c =
        (decide (0 < more.length), { c with pool := some pool', mpp := w' }) ∧
      PoolKept sized granted pool' w' required (held ++ more) ∧
      ((∀ i, ∃ b, (answers i).buffer = some b ∧ 0 ≤ b.fd ∧ (answers i).committed = true) →
        more.length = min externalPoolGrow (externalPoolMax - held.length)) := by
  unfold growExternalGroup
  rw [same]
  dsimp only
  rw [kept.capacity, kept.count]
  by_cases full : externalPoolMax ≤ held.length
  · rw [if_pos full]
    refine ⟨[], pool, c.mpp, ?_, by simpa using kept, fun _ => ?_⟩
    · rw [← same]
      rfl
    · rw [Nat.sub_eq_zero_of_le full]
      rfl
  · rw [if_neg full]
    obtain ⟨more, buffers, w', loop, few, filled, origin, all⟩ := commitLoop_spec answers
      (min (held.length + externalPoolGrow) externalPoolMax - held.length) kept.filled (by omega)
    rw [loop]
    dsimp only
    have grown : PoolKept sized granted { pool with buffers := buffers, count := held.length + more.length }
        w' required (held ++ more) := by
      refine ⟨⟨filled.slots, filled.small, filled.committed, filled.owns, filled.fds⟩, kept.made,
        kept.capacity, by simp, ?_, ?_, kept.fits⟩
      · rw [List.length_append]
        exact kept.enough.trans (Nat.le_add_right _ _)
      · intro grants b mem
        rcases List.mem_append.mp mem with mem | mem
        · exact kept.sizes grants b mem
        · obtain ⟨i, got⟩ := origin b mem
          exact sizes grants i b got
    have asked : min (held.length + externalPoolGrow) externalPoolMax - held.length =
        min externalPoolGrow (externalPoolMax - held.length) := by
      unfold externalPoolGrow
      omega
    by_cases none : more.length = 0
    · rw [if_pos none]
      rw [none, Nat.add_zero, ← kept.count] at grown
      exact ⟨more, _, w', by rw [none]; rfl, grown, fun good => (all good).trans asked⟩
    · rw [if_neg none]
      refine ⟨more, _, w', ?_, grown, fun good => (all good).trans asked⟩
      rw [decide_eq_true (Nat.pos_of_ne_zero none)]

/-- A pool that cannot be made leaves nothing behind. -/
theorem fail_kept (none : c.pool = none) (found : (pool.buffers.take pool.count).filterMap id = held)
    (owns : Owns w.events ((if pool.frameGroup then [PoolResource.frameGroup] else []) ++
      (if pool.backingGroup then [PoolResource.backingGroup] else []) ++ held.map ofBuffer)) :
    Kept sized granted (c.fail pool w).2 := by
  unfold Kept PoolContext.fail
  dsimp only
  rw [none]
  exact decodePoolDestroy_owns found owns

theorem allocationSize_le (c : PoolContext) (required : Nat) : required ≤ allocationSize c required := by
  unfold allocationSize
  cases rkSurfaceBufferSize c.width c.height with
  | none => exact le_rfl
  | some conservative =>
    dsimp only
    split
    · omega
    · exact le_rfl

/-- A pool is made with all its first buffers, or nothing is left of it. -/
theorem createPool_kept (le : ∀ n, n ≤ granted n) (none : c.pool = none)
    (owns : Owns c.mpp.events []) (env : ConfigureEnv) (required : Nat)
    (sizes : sized → ∀ i b, (env.answers i).buffer = some b →
      b.size = granted (allocationSize c required)) :
    Kept sized granted (createPool env c required).2 := by
  unfold createPool
  dsimp only
  split
  · exact fail_kept none (show _ = [] from rfl) owns
  · split
    · exact fail_kept none (show _ = [] from rfl) (owns.take .frameGroup)
    · have both : Owns ((({ c.mpp.take .frameGroup with group := [] } : Mpp).take .backingGroup)).events
          groups := (owns.take .frameGroup).take .backingGroup
      split
      · exact fail_kept none (show _ = [] from rfl) both
      · have empty : Filled ⟨true, true, List.replicate externalPoolMax .none, externalPoolMax, 0,
            allocationSize c required⟩ (({ c.mpp.take .frameGroup with group := [] } : Mpp).take
              .backingGroup) groups [] :=
          ⟨rfl, Nat.zero_le _, rfl, by simpa using both, by simp⟩
        obtain ⟨more, buffers, w', loop, few, filled, origin, -⟩ :=
          commitLoop_spec env.answers externalPoolCount empty (by decide)
        rw [List.length_nil] at loop
        rw [loop]
        rw [List.nil_append] at filled
        dsimp only
        have found : (buffers.take more.length).filterMap id = more := filled.slots.take
        split
        · exact fail_kept none found filled.owns
        · rename_i enough
          split
          · exact fail_kept none found filled.owns
          · unfold Kept
            dsimp only
            refine ⟨more, ⟨filled.slots, filled.small, filled.committed, filled.owns, filled.fds⟩,
              ⟨rfl, rfl⟩, rfl, rfl, by omega, ?_, ?_⟩
            · intro grants b mem
              obtain ⟨i, got⟩ := origin b mem
              exact sizes grants i b got
            · exact fun _ => (allocationSize_le c required).trans (le _)

/-- The first buffer speaks for all. -/
theorem PoolKept.fits_iff (kept : PoolKept sized granted pool w required held) (grants : sized)
    (asked : Nat) :
    pool.fits asked = true ↔ asked ≤ granted pool.bufferSize := by
  cases held with
  | nil => exact absurd kept.enough (by decide)
  | cons b held =>
    have first : pool.buffers.head? = some (some b) := by
      rw [kept.filled.slots]
      rfl
    have count := kept.count
    unfold RKDecodePool.fits
    rw [first, ← kept.sizes grants b List.mem_cons_self, count]
    simp

theorem Kept.step (le : ∀ n, n ≤ granted n) (kept : Kept sized granted c) {call : PoolCall}
    (grants : sized → Grants granted c call) (next : poolStep c call = some c') : Kept sized granted c' := by
  cases call with
  | infoChange asked env =>
    cases next
    unfold configureExternalGroup
    split
    · exact kept
    · cases same : c.pool with
      | none =>
        unfold Kept at kept
        rw [same] at kept
        dsimp only
        split
        · unfold Kept
          rw [same]
          exact kept
        · exact createPool_kept le same kept env asked grants
      | some pool =>
        unfold Kept at kept
        rw [same] at kept
        obtain ⟨held, kept⟩ := kept
        dsimp only
        split
        · rename_i fits
          unfold Kept
          dsimp only
          exact ⟨held, { kept with
            fits := fun sized => (kept.fits_iff sized asked).mp fits }⟩
        · unfold Kept
          rw [same]
          exact ⟨held, kept⟩
  | starved answers =>
    cases next
    cases same : c.pool with
    | none =>
      unfold growExternalGroup
      rw [same]
      exact kept
    | some pool =>
      unfold Kept at kept
      rw [same] at kept
      obtain ⟨held, kept⟩ := kept
      obtain ⟨more, pool', w', grown, kept', -⟩ :=
        kept.grow same answers fun sized i b got => grants sized i b pool same got
      rw [grown]
      exact ⟨held ++ more, kept'⟩

theorem PoolKept.view (kept : PoolKept sized granted pool w required held) (id : Nat) :
    (pool.view id).buffers = held := by
  have found := kept.filled.slots.take
  unfold RKDecodePool.view
  rw [kept.count]
  exact found

theorem PoolKept.mem_group (kept : PoolKept sized granted pool w required held) (info : MppBufferInfo) :
    info ∈ w.group ↔ ∃ i, ∃ here : i < held.length,
      (⟨held[i].size, held[i].fd, i⟩ : MppBufferInfo) = info := by
  rw [kept.filled.committed, List.mem_mapIdx]

/-- A buffer of the frame group is found in the pool under its place, with the size that MPP knows
it by. -/
theorem PoolKept.matches (kept : PoolKept sized granted pool w required held) {b : MppBuffer}
    (mem : ⟨b.size, b.fd, b.index⟩ ∈ w.group) (id : Nat) :
    ∃ backing ∈ held, externalBufferMatchesPool (pool.view id) (some b) = some backing ∧
      backing.fd = b.fd ∧ backing.size = b.size := by
  obtain ⟨i, here, same⟩ := (kept.mem_group _).mp mem
  obtain ⟨size, fd, index⟩ := MppBufferInfo.mk.inj same
  have open_ := kept.filled.fds held[i] (List.getElem_mem here)
  refine ⟨held[i], List.getElem_mem here, ?_, fd, size⟩
  unfold externalBufferMatchesPool
  dsimp only
  rw [kept.view, ← index, if_neg (by omega), Int.toNat_natCast, List.getElem?_eq_getElem here]
  dsimp only
  rw [if_pos ⟨open_, fd.symm⟩]

/-- Only buffers of the frame group match, by place and file. -/
theorem PoolKept.of_matches (kept : PoolKept sized granted pool w required held) {b backing : MppBuffer}
    {id : Nat} (found : externalBufferMatchesPool (pool.view id) (some b) = some backing) :
    ∃ info ∈ w.group, info.fd = b.fd ∧ info.index = b.index := by
  unfold externalBufferMatchesPool at found
  dsimp only at found
  rw [kept.view] at found
  split at found
  · cases found
  · rename_i place
    split at found
    · cases found
    · rename_i other here
      split at found
      · rename_i files
        obtain ⟨inside, same⟩ := List.getElem?_eq_some_iff.mp here
        refine ⟨_, (kept.mem_group _).mpr ⟨b.index.toNat, inside, rfl⟩, ?_, ?_⟩
        · rw [same]
          exact files.2.symm
        · exact Int.toNat_of_nonneg (by omega)
      · cases found

end

/-- In every run of a context, its pool has between 24 and 64 buffers, and the frame group exactly
these. A frame in a buffer of the frame group passes the check of `assign_mpp_frame`, as a
delivery that reports of the buffer what was committed, and the buffer has the size that the last
information about the stream asks for. A frame elsewhere does not pass. -/
theorem pool_delivers {granted : Nat → Nat} (le : ∀ n, n ≤ granted n) (width height : Nat)
    (calls : List PoolCall) {c : PoolContext} {pool : RKDecodePool}
    (run : Transition.run poolStep (noPool width height) calls = some c)
    (grants : Transition.Throughout poolStep (Grants granted) (noPool width height) calls)
    (there : c.pool = some pool) (id : Nat) :
    (24 ≤ pool.count ∧ pool.count ≤ 64 ∧ c.mpp.group.length = pool.count) ∧
      ∀ (frame : MppFrame) (b : MppBuffer), frame.buffer = some b →
        (⟨b.size, b.fd, b.index⟩ ∈ c.mpp.group → c.required ≤ b.size ∧
          ∃ d : Delivery, d.frame = frame ∧ d.pool = some (pool.view id) ∧ d.matches = true) ∧
        ((∀ info ∈ c.mpp.group, ¬(info.fd = b.fd ∧ info.index = b.index)) →
          externalBufferMatchesPool (pool.view id) frame.buffer = none) := by
  have kept : Kept True granted c := Transition.run_invariant
    (fun _ _ _ kept grants next => kept.step le (fun _ => grants) next) calls (noPool width height) c
    owns_nil grants run
  unfold Kept at kept
  rw [there] at kept
  obtain ⟨held, kept⟩ := kept
  refine ⟨⟨?_, ?_, ?_⟩, fun frame b decoded => ⟨fun mem => ?_, fun elsewhere => ?_⟩⟩
  · rw [kept.count]
    exact kept.enough
  · rw [kept.count]
    exact kept.filled.small
  · rw [kept.filled.committed, List.length_mapIdx, kept.count]
  · obtain ⟨backing, held_, found, -, size⟩ := kept.matches mem id
    refine ⟨?_, ⟨frame, some (pool.view id), ?_⟩, rfl, rfl, ?_⟩
    · rw [← size, kept.sizes trivial backing held_]
      exact kept.fits trivial
    · intro p other buffer same inPool inFrame _
      cases same
      rw [kept.view] at inPool
      obtain rfl : b = buffer := Option.some.inj (decoded.symm.trans inFrame)
      rw [← size, kept.sizes trivial backing held_, kept.sizes trivial other inPool]
    · simp [Delivery.matches, decoded, found]
  · rw [Option.eq_none_iff_forall_ne_some, decoded]
    intro backing found
    obtain ⟨info, mem, same⟩ := kept.of_matches found
    exact elsewhere info mem same

/-- Buffers of one size, of which 27 can be committed. -/
def fewAnswers (i : Nat) : CommitAnswer := ⟨some ⟨i, 10 + i, i, 32768⟩, decide (i < 27)⟩

def fewPoolCalls : List PoolCall :=
  [.infoChange 6144 ⟨true, true, true, true, fewAnswers, true⟩, .starved fewAnswers,
    .infoChange 30000 ⟨true, true, true, true, fewAnswers, true⟩]

theorem fewAnswers_size (i : Nat) (b : MppBuffer) (got : (fewAnswers i).buffer = some b) :
    b.size = 32768 := by
  cases got
  rfl

set_option maxRecDepth 4000 in
theorem pool_delivers_few : ∃ c pool,
    Transition.run poolStep (noPool 64 64) fewPoolCalls = some c ∧ c.pool = some pool ∧
      pool.count = 27 ∧ c.mpp.group.length = pool.count ∧
      ∀ frame : MppFrame, frame.buffer = some ⟨90, 36, 26, 32768⟩ →
        c.required ≤ 32768 ∧
          ∃ d : Delivery, d.frame = frame ∧ d.pool = some (pool.view 5) ∧ d.matches = true := by
  obtain ⟨c, run⟩ := Option.isSome_iff_exists.mp
    (show (Transition.run poolStep (noPool 64 64) fewPoolCalls).isSome = true by rfl)
  obtain ⟨pool, there⟩ := Option.isSome_iff_exists.mp
    (show c.pool.isSome = true by cases run; rfl)
  have count : c.pool.map RKDecodePool.count = some 27 := by cases run; rfl
  have size : c.pool.map RKDecodePool.bufferSize = some 32768 := by cases run; rfl
  have mem : (⟨32768, 36, 26⟩ : MppBufferInfo) ∈ c.mpp.group := by
    cases run
    decide
  have grants : Transition.Throughout poolStep (Grants id) (noPool 64 64) fewPoolCalls := by
    refine Transition.throughout_cons (fun i b got => fewAnswers_size i b got) rfl ?_
    refine Transition.throughout_cons (fun i b pool same got => ?_) rfl ?_
    · cases same
      exact fewAnswers_size i b got
    · exact Transition.throughout_cons (fun i b got => fewAnswers_size i b got) rfl trivial
  have delivers := pool_delivers (fun n => le_rfl) 64 64 fewPoolCalls run grants there 5
  rw [there] at count
  exact ⟨c, pool, run, there, Option.some.inj count, delivers.1.2.2,
    fun frame decoded => (delivers.2 frame _ decoded).1 mem⟩

/-- In every run, the end of the pool puts back everything that was ever taken, and nothing twice.
Without a pool, nothing is out. -/
theorem pool_settled (width height : Nat) (calls : List PoolCall) {c : PoolContext}
    (run : Transition.run poolStep (noPool width height) calls = some c) :
    (released (c.pool.elim c.mpp fun pool => decodePoolDestroy pool c.mpp).events).Perm
      (taken (c.pool.elim c.mpp fun pool => decodePoolDestroy pool c.mpp).events) := by
  have start : Kept False id (noPool width height) := owns_nil
  have kept : Kept False id c := Transition.run_invariant'
    (fun _ _ _ kept next => kept.step (fun _ => le_rfl) False.elim next) start run
  have settled : Owns (c.pool.elim c.mpp fun pool => decodePoolDestroy pool c.mpp).events [] := by
    unfold Kept at kept
    cases there : c.pool with
    | none =>
      rw [there] at kept
      exact kept
    | some pool =>
      rw [there] at kept
      obtain ⟨held, kept⟩ := kept
      have found := kept.filled.slots.take
      rw [← kept.count] at found
      refine decodePoolDestroy_owns found ?_
      rw [kept.made.1, kept.made.2]
      exact kept.filled.owns
  simpa [Owns] using List.Perm.symm settled

theorem pool_settled_few : ∃ c, Transition.run poolStep (noPool 64 64) fewPoolCalls = some c ∧
    (released (c.pool.elim c.mpp fun pool => decodePoolDestroy pool c.mpp).events).Perm
      (taken (c.pool.elim c.mpp fun pool => decodePoolDestroy pool c.mpp).events) := by
  obtain ⟨c, run⟩ := Option.isSome_iff_exists.mp
    (show (Transition.run poolStep (noPool 64 64) fewPoolCalls).isSome = true by rfl)
  exact ⟨c, run, pool_settled 64 64 fewPoolCalls run⟩

end RockchipVaapi.Pool
