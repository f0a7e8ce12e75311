import RockchipVaapi.Driver.Worker
import RockchipVaapi.Misc.References.Soundness

/-!
# No object is lost

The entry points, the workers and `rk_Terminate` as one system, whose operations come in any order.
While every route that a worker takes back is still in its list, no operation uses an object that is
gone, every counter is the number of references there are, and no object is freed twice; and when
`rk_Terminate` is done, every object is gone.
-/

namespace RockchipVaapi.Driver
open References Transition

/-- The calls of `driver_vtable` that touch objects. -/
inductive Call
  | createConfig
  | destroyConfig (id : UInt32)
  | queryConfigAttributes (id : UInt32)
  | querySurfaceAttrs (id : UInt32)
  | createContext (config : UInt32) (isEncoder : Bool) (targets : List UInt32)
  | destroyContext (id : UInt32)
  | createSurfaces (n : Nat)
  | destroySurfaces (ids : List UInt32)
  | syncSurface (id : UInt32)
  | querySurfaceStatus (id : UInt32)
  | exportSurfaceHandle (id : UInt32)
  | createBuffer
  | bufferSetNumElements (id : UInt32)
  | mapBuffer (id : UInt32)
  | unmapBuffer (id : UInt32)
  | acquireBufferHandle (id : UInt32)
  | releaseBufferHandle (id : UInt32)
  | bufferInfo (id : UInt32)
  | syncBuffer (id : UInt32)
  | destroyBuffer (id : UInt32)
  | createImage
  | deriveImage (surface : UInt32)
  | destroyImage (id buffer : UInt32)
  | getImage (surface image : UInt32)
  | putImage (surface image : UInt32)
  | beginPicture (context target : UInt32)
  | renderPicture (context : UInt32) (buffers : List UInt32)
  | endPicture (coding : Coding) (context coded : UInt32) (pending : List UInt32)
  deriving DecidableEq, Repr

def entry : Call → Program Unit
  | .createConfig => rkCreateConfig
  | .destroyConfig id => rkDestroyConfig id
  | .queryConfigAttributes id => rkQueryConfigAttributes id
  | .querySurfaceAttrs id => rkQuerySurfaceAttrs id
  | .createContext config isEncoder targets => rkCreateContext config isEncoder targets
  | .destroyContext id => rkDestroyContext id
  | .createSurfaces n => createSurfaces n []
  | .destroySurfaces ids => rkDestroySurfaces ids
  | .syncSurface id => rkSyncSurface id
  | .querySurfaceStatus id => rkQuerySurfaceStatus id
  | .exportSurfaceHandle id => rkExportSurfaceHandle id
  | .createBuffer => do let _ ← rkCreateBuffer
  | .bufferSetNumElements id => rkBufferSetNumElements id
  | .mapBuffer id => rkMapBuffer id
  | .unmapBuffer id => rkUnmapBuffer id
  | .acquireBufferHandle id => rkBufferAcquireHandle id
  | .releaseBufferHandle id => rkBufferReleaseHandle id
  | .bufferInfo id => rkBufferInfo id
  | .syncBuffer id => rkSyncBuffer id
  | .destroyBuffer id => rkDestroyBuffer id
  | .createImage => rkCreateImage
  | .deriveImage surface => rkDeriveImage surface
  | .destroyImage id buffer => rkDestroyImage id buffer
  | .getImage surface image => rkGetImage surface image
  | .putImage surface image => rkPutImage surface image
  | .beginPicture context target => rkBeginPicture context target
  | .renderPicture context buffers => rkRenderPicture context buffers
  | .endPicture coding context coded pending => rkEndPicture coding context coded pending

/-- `rk_object_heap_finish` (`object_heap.c:182-220`) -/
def rkObjectHeapFinish (heap : Heap) : Program Unit := do
  unrefAll (← perform (.finish heap))

/-- `rk_Terminate` (`rockchip_drv_video.c:40-59`) -/
def rkTerminate : Program Unit := do
  rkObjectHeapFinish .context
  rkObjectHeapFinish .surface
  rkObjectHeapFinish .image
  rkObjectHeapFinish .buffer
  rkObjectHeapFinish .config

/-- The driver. `rk_Terminate` is called when no other call is in progress. -/
def driver : System Obj Place Heap Call where
  toLayout := layout
  destroy := destroy
  work := workerTurn
  entry := entry
  close := rkTerminate
  tables := [.config, .buffer, .image, .surface, .context]

theorem serves_entry (call : Call) : Serves (entry call) := by
  cases call with
  | createConfig => exact serves_rkCreateConfig
  | createContext config isEncoder targets => exact serves_rkCreateContext config isEncoder targets
  | createSurfaces n => exact serves_createSurfaces n []
  | destroySurfaces ids => exact serves_rkDestroySurfaces ids
  | exportSurfaceHandle id => exact serves_rkExportSurfaceHandle id
  | createBuffer =>
    refine wp_rkCreateBuffer (by simp) (Layout.wp_pure () rfl) fun b id _ => ?_
    exact wp_spent (by trivial) (wp_spent (by trivial) (Layout.wp_pure () rfl))
  | createImage => exact serves_rkCreateImage
  | deriveImage surface => exact serves_rkDeriveImage surface
  | destroyImage id buffer => exact serves_rkDestroyImage id buffer
  | getImage surface image | putImage surface image => exact serves_transferImage surface image
  | beginPicture context target => exact serves_rkBeginPicture context target
  | renderPicture context buffers => exact serves_rkRenderPicture context buffers
  | endPicture coding context coded pending =>
    exact serves_rkEndPicture coding context coded pending
  | destroyConfig id | destroyContext id | destroyBuffer id => exact serves_destroyId _ id
  | _ => exact serves_use _ _

/-- A heap is emptied, and stays so. -/
theorem wp_rkObjectHeapFinish {heap : Heap} {Q : Unit → Multiset Held → Prop} {h : Multiset Held}
    (closing : .right .closing ∈ h) (post : Q () (.right (.finished heap) ::ₘ h)) :
    layout.wp 4 (rkObjectHeapFinish heap) Q h := by
  unfold rkObjectHeapFinish
  have small (x : Obj) : x.kind.rank < 4 := by cases x.kind <;> decide
  rw [wp_take _ rfl]
  refine ⟨fun _ _ x _ => small x, closing, fun os _ => ?_⟩
  have same : layout.gives (.finish heap) os + h.erase (.right .closing) =
      refs os + .right (.finished heap) ::ₘ h := by
    conv_rhs => rw [← Multiset.cons_erase closing]
    simp [Layout.gives, Multiset.cons_swap]
  rw [same]
  exact Layout.wp_unrefAll (fun x _ => (small x).le) post

theorem wp_rkTerminate :
    layout.wp 4 rkTerminate (fun _ => driver.post .closer true) {.right .closing} := by
  unfold rkTerminate
  refine Layout.wp_bind (wp_rkObjectHeapFinish (by simp) ?_)
  refine Layout.wp_bind (wp_rkObjectHeapFinish (by simp) ?_)
  refine Layout.wp_bind (wp_rkObjectHeapFinish (by simp) ?_)
  refine Layout.wp_bind (wp_rkObjectHeapFinish (by simp) ?_)
  refine wp_rkObjectHeapFinish (by simp) ?_
  exact Multiset.coe_eq_coe.mpr (List.perm_append_singleton (Token.right Right.closing)
    (driver.tables.map fun heap => Token.right (Right.finished heap)))

/-- Every program of the driver meets its weakest precondition. -/
theorem driver_balanced : driver.Balanced where
  wf := layout_wf
  destroy := wp_destroy
  work c lends := by
    have kind : c.kind = .decoder := by simpa [driver, layout] using lends
    show layout.wp c.kind.rank _ _ _
    rw [kind]
    exact wp_workerTurn kind
  entry := serves_entry
  close := wp_rkTerminate
  tables _ heap _ := by cases heap <;> decide

/-! ## What holds of every run -/

/-- A decoder is made, and its worker has a turn; `rk_Terminate` joins the worker, and frees what
there is. -/
def makeDecoder : List (Action Obj Place Call) :=
  [.call 0 .createConfig, .act 0 .no, .act 0 (.object ⟨.config, 0⟩),
    .act 0 (.place (.slot .config 1)), .act 0 .no,
    .call 0 (.createContext 1 false []), .act 0 .no, .act 0 .no, .act 0 .no, .act 0 .no,
    .act 0 (.object ⟨.decoder, 1⟩), .act 0 .no, .act 0 .no, .act 0 (.thread 5),
    .act 0 (.place (.slot .context 2)), .act 0 .no,
    .act 5 .no, .act 5 .yes, .act 5 .no, .act 5 .no, .act 5 .yes, .act 5 .no]

def closeDecoder : List (Action Obj Place Call) :=
  [.act 5 .no, .close 0, .act 0 .no, .act 0 .no]

def endDecoder : List (Action Obj Place Call) :=
  [.act 5 .yes, .act 5 .no] ++ List.replicate 16 (.act 0 .no)

section

variable {as : List (Action Obj Place Call)} {w : World Obj Place Heap}

/-- Whether a thread that takes back its own reference finds it. -/
def foundCheck (w : World Obj Place Heap) : Action Obj Place Call → Bool
  | .act t _ =>
    match w.threads t with
    | some ⟨.op (.reclaim p o) _, _⟩ => decide ((p, o) ∈ w.stored)
    | _ => true
  | _ => true

theorem found_of_check (h : check (step driver) foundCheck World.init as = true) :
    Throughout (step driver) Found World.init as := by
  refine (throughout_of_check h).imp fun w a found => ?_
  cases a with
  | act t choice =>
    simp only [Found, foundCheck] at found ⊢
    split
    · rename_i running
      rw [running] at found
      exact of_decide_eq_true found
    · trivial
  | _ => trivial

/-- The state behind a run. -/
def reached (as : List (Action Obj Place Call)) : World Obj Place Heap :=
  (run (step driver) World.init as).getD World.init

theorem run_reached (h : (run (step driver) World.init as).isSome = true) :
    run (step driver) World.init as = some (reached as) := by
  obtain ⟨w, hrun⟩ := Option.isSome_iff_exists.mp h
  simp [reached, hrun]

/-- In every state that the driver reaches, whatever the order of the operations, no object was used
after its end; the counter of an object is the number of references to it, it is up for as long as
the object lives, and the object is freed once; and what a place refers to lives and is of the kind
that belongs there. -/
theorem driver_conserved (found : Throughout (step driver) Found World.init as)
    (hrun : run (step driver) World.init as = some w) :
    w.fault = false ∧
      (∀ o, w.count o = w.owned o + w.kept o ∧ (w.stage o = .alive ↔ 0 < w.count o) ∧
        w.freed.count o = if w.stage o = .freed then 1 else 0) ∧
      ∀ e ∈ w.stored, layout.fits e.1 e.2 = true ∧ w.stage e.2 = .alive := by
  have sane := (Sound.run driver_balanced found hrun).sane
  refine ⟨sane.fault, fun o => ⟨sane.ledger o, sane.alive o, sane.freed o⟩, fun e mem => ?_⟩
  have kept : 0 < w.kept e.2 := List.countP_pos_iff.mpr ⟨e, mem, by simp⟩
  refine ⟨(sane.stored e mem).1, (sane.alive e.2).mpr ?_⟩
  rw [sane.ledger]
  omega

theorem makeDecoder_conserved : ∃ w : World Obj Place Heap,
    run (step driver) World.init makeDecoder = some w ∧ w.fault = false ∧
      (∀ o, w.count o = w.owned o + w.kept o ∧ (w.stage o = .alive ↔ 0 < w.count o) ∧
        w.freed.count o = if w.stage o = .freed then 1 else 0) ∧
      ∀ e ∈ w.stored, layout.fits e.1 e.2 = true ∧ w.stage e.2 = .alive :=
  ⟨_, run_reached (by decide), driver_conserved (found_of_check (by decide)) (run_reached (by decide))⟩

/-- No call is in progress, and every worker has come to the end of a turn. -/
def between (w : World Obj Place Heap) : Bool :=
  w.calls.isEmpty && w.closer.isNone &&
    w.workers.all fun e => (w.threads e.1).any fun th => th.prog matches .pure _

/-- Between the calls and the turns of the workers, the counters are the numbers of references in
the heaps and in the fields of objects: no call keeps a reference, and none gives one away. -/
theorem driver_settled (found : Throughout (step driver) Found World.init as)
    (hrun : run (step driver) World.init as = some w) (settled : between w = true) (o : Obj) :
    w.count o = w.kept o ∧ w.stage o ≠ .dying := by
  have sound := Sound.run driver_balanced found hrun
  simp only [between, Bool.and_eq_true, List.isEmpty_iff, Option.isNone_iff_eq_none,
    List.all_eq_true] at settled
  obtain ⟨⟨calls, opened⟩, workers⟩ := settled
  refine sound.settled (fun t th running => ?_) o
  obtain ⟨prog, role⟩ := th
  cases role with
  | call => simpa [calls] using (sound.calls t).mpr ⟨prog, running⟩
  | worker c =>
    have ended := workers _ ((sound.workers t c).mpr ⟨prog, running⟩)
    rw [running] at ended
    cases prog with
    | pure again => exact ⟨again, rfl⟩
    | op op k => cases ended
  | closer => simpa [opened] using sound.closer t prog running

theorem makeDecoder_settled : ∃ w : World Obj Place Heap,
    run (step driver) World.init makeDecoder = some w ∧ between w = true ∧
      w.count ⟨.decoder, 1⟩ = w.kept ⟨.decoder, 1⟩ ∧ w.stage ⟨.decoder, 1⟩ ≠ .dying :=
  ⟨reached makeDecoder, run_reached (by decide), by decide,
    driver_settled (found_of_check (by decide)) (run_reached (by decide)) (by decide) _⟩

/-- A thread can always go on, but for a `pthread_join` of the worker of a context that it destroys;
and that worker can go on. -/
theorem driver_goes_on (found : Throughout (step driver) Found World.init as)
    (hrun : run (step driver) World.init as = some w) {t : Nat} {th : Thread Obj Place Heap}
    (running : w.threads t = some th) :
    (∃ choice, (step driver w (.act t choice)).isSome = true) ∨
      ∃ c k, th.prog = .op (.join c) k ∧ ∃ t' ≠ t, (t', c) ∈ w.workers ∧
        ∃ choice, (step driver w (.act t' choice)).isSome = true := by
  have sound := Sound.run driver_balanced found hrun
  refine (Sound.waits running).imp_right ?_
  rintro ⟨c, k, waiting, t', worker⟩
  obtain ⟨prog, working⟩ := (sound.workers t' c).mp worker
  -- a worker does not destroy a context, its own or another
  have joins (x : Obj) (k : Unit → Prog Obj Place Heap Bool) : prog ≠ .op (.join x) k := by
    rintro rfl
    obtain ⟨lends, below⟩ := sound.joins_below working
    obtain ⟨lent, -⟩ := sound.sane.workers _ worker
    simp only [driver, layout, beq_iff_eq] at lends lent below
    rw [lends, lent] at below
    exact Nat.lt_irrefl _ below
  refine ⟨c, k, waiting, t', ?_, worker, (Sound.waits working).resolve_right ?_⟩
  · rintro rfl
    obtain rfl := Option.some.inj (running.symm.trans working)
    exact joins c k waiting
  · rintro ⟨x, k', other, -⟩
    exact joins x k' other

theorem closeDecoder_goes_on : ∃ w : World Obj Place Heap,
    run (step driver) World.init (makeDecoder ++ closeDecoder) = some w ∧
      ∃ th, w.threads 0 = some th ∧
        ((∃ choice, (step driver w (.act 0 choice)).isSome = true) ∨
          ∃ c k, th.prog = .op (.join c) k ∧ ∃ t' ≠ 0, (t', c) ∈ w.workers ∧
            ∃ choice, (step driver w (.act t' choice)).isSome = true) := by
  have runs : ((reached (makeDecoder ++ closeDecoder)).threads 0).isSome = true := by decide
  obtain ⟨th, running⟩ := Option.isSome_iff_exists.mp runs
  exact ⟨_, run_reached (by decide), th, running,
    driver_goes_on (found_of_check (by decide)) (run_reached (by decide)) running⟩

/-- When `rk_Terminate` has come to its end, no thread is left, and every object that was ever made
is freed, once. -/
theorem driver_terminated (found : Throughout (step driver) Found World.init as)
    (hrun : run (step driver) World.init as = some w) {t : Nat} (closed : w.closer = some t)
    (ended : w.threads t = none) :
    (∀ t', w.threads t' = none) ∧
      ∀ o, (w.stage o = .unborn ∧ o ∉ w.freed) ∨ (w.stage o = .freed ∧ w.freed.count o = 1) := by
  have sound := Sound.run driver_balanced found hrun
  refine sound.all_freed driver_balanced (by simp [closed]) ?_
  rintro ⟨t', prog, closing⟩
  obtain rfl := Option.some.inj (closed.symm.trans (sound.closer t' prog closing))
  cases ended.symm.trans closing

theorem endDecoder_terminated : ∃ w : World Obj Place Heap,
    run (step driver) World.init (makeDecoder ++ (closeDecoder ++ endDecoder)) = some w ∧
      w.freed = [⟨.decoder, 1⟩, ⟨.config, 0⟩] ∧ (∀ t', w.threads t' = none) ∧
        ∀ o, (w.stage o = .unborn ∧ o ∉ w.freed) ∨ (w.stage o = .freed ∧ w.freed.count o = 1) :=
  ⟨reached (makeDecoder ++ (closeDecoder ++ endDecoder)), run_reached (by decide), by decide,
    driver_terminated (t := 0) (found_of_check (by decide)) (run_reached (by decide)) (by decide)
      (by decide)⟩

end

end RockchipVaapi.Driver
