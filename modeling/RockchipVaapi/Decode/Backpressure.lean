import RockchipVaapi.Decode.Pool

/-!
# Putting a packet while MPP is full

MPP refuses a packet while its queue is full. The worker then takes a frame out of MPP and tries
again. When there is no frame to take for a while, every output buffer is with the application, and
only a larger pool lets MPP go on.
-/

namespace RockchipVaapi.Pool

/-- `MPP_RET`. -/
inductive MppRet
  | ok
  | error (code : Int)
  deriving DecidableEq, Repr

/-- `MPP_NOK`. -/
def mppNok : MppRet := .error (-1)

/-- What `drain_output_frame` (`mpp_dec.c:729-746`) takes out of MPP. -/
inductive Drained
  | nothing
  | frame
  | infoChange (required : Nat) (env : ConfigureEnv)

/-- The answers that one turn of the loop gets. -/
structure Turn where
  stopping : Bool
  put : MppRet
  drained : Drained
  answers : Nat → CommitAnswer

/-- A packet that was put, and whether something was taken out after it. -/
structure Attempt where
  ret : MppRet
  drained : Bool
  deriving DecidableEq, Repr

structure PutResult where
  ret : MppRet
  context : PoolContext
  attempts : List Attempt

def PutResult.after (r : PutResult) (a : Attempt) : PutResult :=
  { r with attempts := a :: r.attempts }

/-- `STARVED_TRIES`. -/
def starvedTries : Nat := 25

/-- The loop of `put_packet_draining` (`mpp_dec.c:757-777`), for so many more turns. -/
def putLoop (turns : Nat → PoolContext → Turn) :
    Nat → Nat → Nat → PoolContext → MppRet → PutResult
  | 0, _, _, c, ret => ⟨ret, c, []⟩
  | n + 1, tries, starved, c, _ =>
    let turn := turns tries c
    if turn.stopping then ⟨mppNok, c, []⟩
    else
      match turn.put with
      | .ok => ⟨.ok, c, [⟨.ok, false⟩]⟩
      | .error code =>
        match turn.drained with
        | .frame => (putLoop turns n (tries + 1) 0 c (.error code)).after ⟨.error code, true⟩
        | .infoChange required env =>
          (putLoop turns n (tries + 1) 0 (configureExternalGroup env c required).2
            (.error code)).after ⟨.error code, true⟩
        | .nothing =>
          if starved + 1 < starvedTries then
            (putLoop turns n (tries + 1) (starved + 1) c (.error code)).after ⟨.error code, false⟩
          else
            match growExternalGroup turn.answers c with
            | (false, c) => ⟨.error code, c, [⟨.error code, false⟩]⟩
            | (true, c) =>
              (putLoop turns n (tries + 1) 0 c (.error code)).after ⟨.error code, false⟩

/-- `put_packet_draining` (`mpp_dec.c:748-779`). -/
def putPacketDraining (turns : Nat → PoolContext → Turn) (c : PoolContext) : PutResult :=
  putLoop turns 500 0 0 c .ok

/-! ## What the loop promises -/

/-- Why the worker gives a packet up: it has to stop, it has tried 500 times, or MPP gave nothing
out for 25 tries and the pool does not grow. -/
def GaveUp (turns : Nat → PoolContext → Turn) (past : List Attempt) (c : PoolContext) : Prop :=
  (turns past.length c).stopping = true ∨ past.length = 500 ∨
    ∃ front tail c', past = front ++ tail ∧ tail.length = starvedTries ∧
      (∀ a ∈ tail, a.drained = false) ∧
      growExternalGroup (turns (past.length - 1) c').answers c' = (false, c)

/-- The packet was accepted by the last attempt and no other, or by none for a reason. -/
def Sound (turns : Nat → PoolContext → Turn) (attempts : List Attempt) (r : PutResult) : Prop :=
  ∃ rejected, (∀ a ∈ rejected, a.ret ≠ .ok) ∧
    (r.ret = .ok ∧ attempts = rejected ++ [⟨.ok, false⟩] ∨
      r.ret ≠ .ok ∧ attempts = rejected ∧ GaveUp turns rejected r.context)

section

variable {turns : Nat → PoolContext → Turn} {past front tail : List Attempt} {n starved : Nat}
  {c : PoolContext} {ret : MppRet}

theorem Sound.after {a : Attempt} {r : PutResult} (h : Sound turns (past ++ [a] ++ r.attempts) r) :
    Sound turns (past ++ (r.after a).attempts) (r.after a) := by
  rw [List.append_assoc] at h
  exact h

/-- Attempts in front of the loop are those of the whole run. -/
theorem putLoop_sound (bounded : past.length + n = 500)
    (rejected : ∀ a ∈ past, a.ret ≠ .ok) (waiting : past = front ++ tail)
    (length : tail.length = starved) (few : starved < starvedTries)
    (nothing : ∀ a ∈ tail, a.drained = false) (last : n = 0 → ret ≠ .ok) :
    Sound turns (past ++ (putLoop turns n past.length starved c ret).attempts)
      (putLoop turns n past.length starved c ret) := by
  induction n generalizing past front tail starved c ret with
  | zero =>
    refine ⟨past, rejected, .inr ⟨last rfl, List.append_nil past, .inr (.inl ?_)⟩⟩
    omega
  | succ n ih =>
    unfold putLoop
    dsimp only
    by_cases stopping : (turns past.length c).stopping = true
    · rw [if_pos stopping]
      exact ⟨past, rejected, .inr ⟨nofun, List.append_nil past, .inl stopping⟩⟩
    · rw [if_neg stopping]
      cases (turns past.length c).put with
      | ok => exact ⟨past, rejected, .inl ⟨rfl, rfl⟩⟩
      | error code =>
        have refused : MppRet.error code ≠ .ok := nofun
        have next (drained : Bool) : (past ++ [(⟨.error code, drained⟩ : Attempt)]).length = past.length + 1 :=
          List.length_append
        have more (drained : Bool) : ∀ a ∈ past ++ [⟨.error code, drained⟩], a.ret ≠ .ok := by
          intro a mem
          rcases List.mem_append.mp mem with mem | mem
          · exact rejected a mem
          · rw [List.mem_singleton.mp mem]
            nofun
        -- A frame, or a larger pool, ends the wait.
        have anew (drained : Bool) (c' : PoolContext) : Sound turns
            (past ++ ((putLoop turns n (past.length + 1) 0 c' (.error code)).after
              ⟨.error code, drained⟩).attempts)
            ((putLoop turns n (past.length + 1) 0 c' (.error code)).after ⟨.error code, drained⟩) := by
          have rest := ih (c := c') (by rw [next]; omega) (more drained) (List.append_nil _).symm rfl
            (by decide) (fun _ none => nomatch none) fun _ => refused
          rw [next] at rest
          exact rest.after
        cases (turns past.length c).drained with
        | frame => exact anew true c
        | infoChange required env => exact anew true _
        | nothing =>
          have longer : past ++ [(⟨.error code, false⟩ : Attempt)] =
              front ++ (tail ++ [(⟨.error code, false⟩ : Attempt)]) := by
            rw [waiting, List.append_assoc]
          have count : (tail ++ [(⟨.error code, false⟩ : Attempt)]).length = starved + 1 := by
            rw [List.length_append, length]
            rfl
          have all : ∀ a ∈ tail ++ [(⟨.error code, false⟩ : Attempt)], a.drained = false := by
            intro a mem
            rcases List.mem_append.mp mem with mem | mem
            · exact nothing a mem
            · rw [List.mem_singleton.mp mem]
          dsimp only
          by_cases waits : starved + 1 < starvedTries
          · rw [if_pos waits]
            have rest := ih (c := c) (by rw [next]; omega) (more false) longer count waits all
              fun _ => refused
            rw [next] at rest
            exact rest.after
          · rw [if_neg waits]
            rcases grown : growExternalGroup (turns past.length c).answers c with ⟨_ | _, c'⟩
            · refine ⟨_, more false, .inr ⟨nofun, rfl, .inr (.inr ⟨front, _, c, longer, ?_, all, ?_⟩)⟩⟩
              · rw [count]
                omega
              · rw [next]
                exact grown
            · exact anew false c'

/-! ## How far the pool grows -/

def PoolContext.count (c : PoolContext) : Nat := c.pool.elim 0 RKDecodePool.count

theorem commitLoop_le (answers : Nat → CommitAnswer) (n index : Nat) (pool : RKDecodePool) (w : Mpp) :
    (commitLoop answers n index pool w).1 ≤ n ∧
      (commitLoop answers n index pool w).2.1.count = pool.count := by
  induction n generalizing index pool w with
  | zero => exact ⟨le_rfl, rfl⟩
  | succ n ih =>
    have same : (commitPoolBuffer (answers index) pool w index).2.1.count = pool.count := by
      unfold commitPoolBuffer
      split
      · rfl
      · dsimp only
        split <;> rfl
    unfold commitLoop
    rcases committed : commitPoolBuffer (answers index) pool w index with ⟨_ | _, pool', w'⟩
    · rw [committed] at same
      exact ⟨Nat.zero_le _, same⟩
    · rw [committed] at same
      obtain ⟨few, count⟩ := ih (index + 1) pool' w'
      exact ⟨Nat.succ_le_succ few, count.trans same⟩

theorem growExternalGroup_count (answers : Nat → CommitAnswer) (c : PoolContext) :
    c.count ≤ (growExternalGroup answers c).2.count ∧
      (growExternalGroup answers c).2.count ≤ c.count + externalPoolGrow := by
  unfold growExternalGroup
  cases there : c.pool with
  | none =>
    have none : c.count = 0 := by rw [PoolContext.count, there]; rfl
    rw [none]
    simp
  | some pool =>
    have count : c.count = pool.count := by rw [PoolContext.count, there]; rfl
    dsimp only
    split
    · exact ⟨le_rfl, Nat.le_add_right _ _⟩
    · obtain ⟨few, same⟩ := commitLoop_le answers
        (min (pool.count + externalPoolGrow) pool.capacity - pool.count) pool.count pool c.mpp
      rcases loop : commitLoop answers
        (min (pool.count + externalPoolGrow) pool.capacity - pool.count) pool.count pool c.mpp with
        ⟨added, grown, w⟩
      rw [loop] at few same
      dsimp only at few same ⊢
      rw [count]
      split
      · simp [PoolContext.count, same]
      · simp only [PoolContext.count, Option.elim_some]
        omega

/-- Information about the stream changes the number of buffers only where there is no pool. -/
theorem configureExternalGroup_count (env : ConfigureEnv) (required : Nat) (there : c.pool.isSome) :
    (configureExternalGroup env c required).2.count = c.count ∧
      (configureExternalGroup env c required).2.pool.isSome := by
  unfold configureExternalGroup
  obtain ⟨pool, here⟩ := Option.isSome_iff_exists.mp there
  split
  · exact ⟨rfl, there⟩
  · rw [here]
    dsimp only
    split
    · exact ⟨by rw [PoolContext.count, PoolContext.count, here], rfl⟩
    · exact ⟨rfl, there⟩

theorem growExternalGroup_there (answers : Nat → CommitAnswer) (there : c.pool.isSome) :
    (growExternalGroup answers c).2.pool.isSome := by
  unfold growExternalGroup
  obtain ⟨pool, here⟩ := Option.isSome_iff_exists.mp there
  rw [here]
  dsimp only
  split
  · exact there
  · split <;> rfl

/-- The pool grows by at most eight buffers for 25 attempts without a frame. -/
theorem putLoop_count (turns : Nat → PoolContext → Turn) (n tries starved : Nat) (c : PoolContext)
    (ret : MppRet) (few : starved < starvedTries) (there : c.pool.isSome) :
    c.count ≤ (putLoop turns n tries starved c ret).context.count ∧
      (putLoop turns n tries starved c ret).context.count ≤ c.count + externalPoolGrow *
        ((starved + (putLoop turns n tries starved c ret).attempts.length) / starvedTries) := by
  induction n generalizing tries starved c ret with
  | zero => exact ⟨le_rfl, Nat.le_add_right _ _⟩
  | succ n ih =>
    unfold putLoop
    dsimp only
    split
    · exact ⟨le_rfl, Nat.le_add_right _ _⟩
    · split
      · exact ⟨le_rfl, Nat.le_add_right _ _⟩
      · rename_i code _
        have anew (c' : PoolContext) (there' : c'.pool.isSome) :
            let r := (putLoop turns n (tries + 1) 0 c' (.error code))
            c'.count ≤ r.context.count ∧ r.context.count ≤
              c'.count + externalPoolGrow * ((0 + r.attempts.length) / starvedTries) :=
          ih (tries + 1) 0 c' (.error code) (by decide) there'
        split
        · obtain ⟨lower, upper⟩ := anew c there
          refine ⟨lower, ?_⟩
          simp only [PutResult.after, List.length_cons, externalPoolGrow, starvedTries] at upper ⊢
          omega
        · rename_i required env _
          obtain ⟨count, there'⟩ := configureExternalGroup_count env required there
          obtain ⟨lower, upper⟩ := anew _ there'
          rw [count] at lower upper
          refine ⟨lower, ?_⟩
          simp only [PutResult.after, List.length_cons, externalPoolGrow, starvedTries] at upper ⊢
          omega
        · by_cases waits : starved + 1 < starvedTries
          · simp only [if_pos waits]
            obtain ⟨lower, upper⟩ := ih (tries + 1) (starved + 1) c (.error code) waits there
            refine ⟨lower, ?_⟩
            simp only [PutResult.after, List.length_cons, externalPoolGrow, starvedTries] at upper ⊢
            omega
          · simp only [if_neg waits]
            have count := growExternalGroup_count (turns tries c).answers c
            have there' := growExternalGroup_there (turns tries c).answers there
            rcases grown : growExternalGroup (turns tries c).answers c with ⟨_ | _, c'⟩
            · rw [grown] at count
              dsimp only at count ⊢
              refine ⟨count.1, ?_⟩
              simp only [List.length_cons, List.length_nil, externalPoolGrow, starvedTries] at *
              omega
            · rw [grown] at count there'
              dsimp only at count there' ⊢
              obtain ⟨lower, upper⟩ := anew c' there'
              refine ⟨count.1.trans lower, ?_⟩
              simp only [PutResult.after, List.length_cons, externalPoolGrow, starvedTries] at *
              omega

end

/-- Whatever MPP answers, a packet is accepted once, by the last attempt, or it is given up for a
reason: the worker stops, 500 attempts failed, or MPP gave nothing out for 25 attempts and the pool
does not grow. The pool grows by at most eight buffers for 25 attempts. -/
theorem putPacketDraining_sound (turns : Nat → PoolContext → Turn) (c : PoolContext) :
    let r := putPacketDraining turns c
    Sound turns r.attempts r ∧
      (c.pool.isSome → c.count ≤ r.context.count ∧
        r.context.count ≤ c.count + externalPoolGrow * (r.attempts.length / starvedTries)) := by
  refine ⟨?_, fun there => ?_⟩
  · exact @putLoop_sound turns [] [] [] 500 0 c .ok rfl nofun rfl rfl (by decide) nofun nofun
  · have count := putLoop_count turns 500 0 0 c .ok (by decide) there
    rw [Nat.zero_add] at count
    exact count

/-! ## Why the pool grows -/

/-- The application keeps so many pictures, and MPP takes a packet as soon as there is another
buffer. Memory is granted, and the worker is not stopped. -/
structure Keeps (shown : Nat) (turns : Nat → PoolContext → Turn) : Prop where
  running : ∀ i c, (turns i c).stopping = false
  accepts : ∀ i (c : PoolContext), shown < c.count → (turns i c).put = .ok
  nothing : ∀ i c, (turns i c).drained = .nothing
  grants : ∀ i c j, ∃ b, ((turns i c).answers j).buffer = some b ∧ 0 ≤ b.fd ∧
    ((turns i c).answers j).committed = true

/-- The growths that a context needs. -/
def growths (shown : Nat) (c : PoolContext) : Nat := (shown + externalPoolGrow - c.count) / externalPoolGrow

theorem putLoop_unblocks {shown : Nat} {turns : Nat → PoolContext → Turn} (keeps : Keeps shown turns)
    (small : shown < externalPoolMax) (n tries starved : Nat) {c : PoolContext} (ret : MppRet)
    (kept : Kept False id c) (there : c.pool.isSome) (few : starved < starvedTries)
    (waits : 0 < starved → c.count ≤ shown)
    (enough : starvedTries * growths shown c + 1 ≤ n + starved) :
    (putLoop turns n tries starved c ret).ret = .ok ∧
      (putLoop turns n tries starved c ret).attempts.length + starved ≤
        starvedTries * growths shown c + 1 := by
  induction n generalizing tries starved c ret with
  | zero =>
    simp only [growths, starvedTries, externalPoolGrow] at few enough
    omega
  | succ n ih =>
    unfold putLoop
    dsimp only
    rw [if_neg (by simp [keeps.running])]
    cases put : (turns tries c).put with
    | ok =>
      refine ⟨rfl, ?_⟩
      simp only [List.length_cons, List.length_nil, growths, starvedTries, externalPoolGrow] at *
      omega
    | error code =>
      have full : c.count ≤ shown := by
        by_contra room
        have accepted := keeps.accepts tries c (by omega)
        rw [put] at accepted
        cases accepted
      rw [keeps.nothing]
      dsimp only
      by_cases more : starved + 1 < starvedTries
      · rw [if_pos more]
        obtain ⟨ok, length⟩ := ih (tries + 1) (starved + 1) (.error code) kept there more
          (fun _ => full) (by omega)
        refine ⟨ok, ?_⟩
        simp only [PutResult.after, List.length_cons]
        omega
      · rw [if_neg more]
        obtain ⟨pool, here⟩ := Option.isSome_iff_exists.mp there
        have count : c.count = pool.count := by rw [PoolContext.count, here]; rfl
        unfold Kept at kept
        rw [here] at kept
        obtain ⟨held, kept⟩ := kept
        obtain ⟨added, pool', w', grown, kept', all⟩ :=
          kept.grow here (turns tries c).answers False.elim
        have length := all (keeps.grants tries c)
        have before := kept.count
        have after := kept'.count
        rw [List.length_append] at after
        rw [grown, decide_eq_true (by simp only [externalPoolGrow, externalPoolMax] at *; omega)]
        dsimp only
        have larger : ({ c with pool := some pool', mpp := w' } : PoolContext).count = pool'.count := rfl
        obtain ⟨ok, rest⟩ := ih (tries + 1) 0 (.error code) (c := { c with pool := some pool', mpp := w' })
          ⟨held ++ added, kept'⟩ rfl (by decide) (fun none => absurd none (Nat.lt_irrefl 0)) (by
            simp only [growths, starvedTries, externalPoolGrow, externalPoolMax] at *
            omega)
        refine ⟨ok, ?_⟩
        simp only [PutResult.after, List.length_cons, growths, starvedTries, externalPoolGrow,
          externalPoolMax] at *
        omega

/-- In every run, while the application keeps fewer than 64 pictures and MPP only waits for an output
buffer, the packet is taken after at most 126 attempts: a pool of 24 buffers never stays too small. -/
theorem putPacketDraining_unblocks (width height : Nat) (calls : List PoolCall) {c : PoolContext}
    (run : Transition.run poolStep (noPool width height) calls = some c) (there : c.pool.isSome)
    {shown : Nat} (small : shown < 64) {turns : Nat → PoolContext → Turn} (keeps : Keeps shown turns) :
    (putPacketDraining turns c).ret = .ok ∧
      (putPacketDraining turns c).attempts.length ≤ 126 := by
  have start : Kept False id (noPool width height) := Custody.owns_nil
  have kept : Kept False id c := Transition.run_invariant'
    (fun _ _ _ kept next => kept.step (fun _ => le_rfl) False.elim next) start run
  have count : 24 ≤ c.count := by
    obtain ⟨pool, here⟩ := Option.isSome_iff_exists.mp there
    unfold Kept at kept
    rw [here] at kept
    obtain ⟨held, kept⟩ := kept
    rw [PoolContext.count, here]
    exact kept.enough.trans kept.count.ge
  have bound : growths shown c ≤ 5 := by
    simp only [growths, externalPoolGrow]
    omega
  obtain ⟨ok, length⟩ := putLoop_unblocks keeps small 500 0 0 .ok kept there (by decide)
    (fun none => absurd none (Nat.lt_irrefl 0)) (by simp only [starvedTries]; omega)
  refine ⟨ok, ?_⟩
  simp only [starvedTries] at length
  exact Nat.le_trans (Nat.le_of_add_right_le length) (by omega)

/-- An application that keeps 40 pictures. -/
def fewTurns (_ : Nat) (c : PoolContext) : Turn :=
  ⟨false, if 40 < c.count then .ok else mppNok, .nothing, fun j => ⟨some ⟨j, 10 + j, j, 32768⟩, true⟩⟩

theorem fewTurns_keeps : Keeps 40 fewTurns where
  running _ _ := rfl
  accepts _ _ more := if_pos more
  nothing _ _ := rfl
  grants _ _ j := ⟨_, rfl, by dsimp only; omega, rfl⟩

theorem putPacketDraining_unblocks_few : ∃ c,
    Transition.run poolStep (noPool 64 64) fewPoolCalls = some c ∧ c.pool.isSome ∧
      (putPacketDraining fewTurns c).ret = .ok ∧
        (putPacketDraining fewTurns c).attempts.length ≤ 126 := by
  obtain ⟨c, run⟩ := Option.isSome_iff_exists.mp
    (show (Transition.run poolStep (noPool 64 64) fewPoolCalls).isSome = true by rfl)
  have there : c.pool.isSome = true := by
    cases run
    rfl
  exact ⟨c, run, there,
    putPacketDraining_unblocks 64 64 fewPoolCalls run there (by decide) fewTurns_keeps⟩

end RockchipVaapi.Pool
