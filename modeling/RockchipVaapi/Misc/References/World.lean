import RockchipVaapi.Misc.References.Program
import Mathlib.Logic.Function.Basic

/-!
# Threads that run programs over shared objects

A world has the objects, the places and the threads: calls, threads that work on an object which a
call has lent them, and a last call that closes everything. One action is one atomic operation of
one thread, with what the environment chooses in it. A fault is a use of an object whose last
reference is gone, or the loss of a reference. `held` says who has what in its hands; no operation reads it.
-/

namespace References

inductive Stage
  | unborn
  | alive
  /-- The counter is down, and the destroy callback runs. -/
  | dying
  | freed
  deriving DecidableEq, Repr

inductive Role (ο : Type)
  | call
  | worker (o : ο)
  | closer
  deriving DecidableEq, Repr

structure Thread (ο π ι : Type) where
  prog : Prog ο π ι Bool
  role : Role ο

/-- What the programs of a system are. A thread that works on an object repeats `work` for as long
as it returns true. -/
structure System (ο π ι κ : Type) extends Layout ο π ι where
  destroy : ο → Prog ο π ι Unit
  work : ο → Prog ο π ι Bool
  entry : κ → Prog ο π ι Unit
  close : Prog ο π ι Unit
  tables : List ι

structure World (ο π ι : Type) where
  count : ο → Nat
  stage : ο → Stage
  /-- The references in places, the oldest first. -/
  stored : List (π × ο)
  /-- The entries whose keys were handed out. -/
  used : List π
  threads : Nat → Option (Thread ο π ι)
  calls : List Nat
  workers : List (Nat × ο)
  closer : Option Nat
  /-- The objects that were freed so far. -/
  freed : List ο
  fault : Bool
  held : Multiset (Nat × Token ο π ι)

/-- What the environment chooses in an action. -/
inductive Choice (ο π : Type)
  | no
  | yes
  | object (o : ο)
  | place (p : π)
  | index (i : Nat)
  | thread (t : Nat)
  deriving DecidableEq, Repr

namespace World

variable {ο π ι : Type}

/-- Before any call. -/
def init : World ο π ι where
  count _ := 0
  stage _ := .unborn
  stored := []
  used := []
  threads _ := none
  calls := []
  workers := []
  closer := none
  freed := []
  fault := false
  held := 0

variable [DecidableEq ο] [DecidableEq π] [DecidableEq ι] (L : Layout ο π ι) (w : World ο π ι)
  (t : Nat)

/-- What a place refers to. -/
def at_ (p : π) : List ο := (w.stored.filter fun e => e.1 == p).map Prod.snd

/-- The object is used, which takes a counter that is up. -/
def touch (o : ο) : World ο π ι := { w with fault := w.fault || w.stage o != .alive }

/-- The fields of the owner of a place are used, which have to be there. -/
def visit (p : π) : World ο π ι :=
  { w with
    fault := w.fault || (L.owner p).any fun o => w.stage o == .unborn || w.stage o == .freed }

def grant (x : Token ο π ι) : World ο π ι := { w with held := (t, x) ::ₘ w.held }

def revoke (x : Token ο π ι) : World ο π ι := { w with held := w.held.erase (t, x) }

/-- One reference more. -/
def copy (o : ο) : World ο π ι :=
  { w.grant t (.ref o) with count := Function.update w.count o (w.count o + 1) }

/-- A reference from a place into the hands of a thread. -/
def lift (p : π) (o : ο) : World ο π ι :=
  { w.grant t (.ref o) with stored := w.stored.erase (p, o) }

/-- A reference from the hands of a thread into a place. -/
def put (p : π) (o : ο) : World ο π ι :=
  { w.revoke t (.ref o) with stored := w.stored ++ [(p, o)] }

def liftAll (es : List (π × ο)) : World ο π ι := es.foldl (fun w e => w.lift t e.1 e.2) w

/-- The key of an entry is handed out. -/
def use (p : π) : World ο π ι := { w with used := p :: w.used }

def birth (o : ο) : World ο π ι :=
  { w with
    count := Function.update w.count o 1
    stage := Function.update w.stage o .alive
    held := (t, .ref o) ::ₘ (L.blanks o).map (Prod.mk t) + w.held }

/-- The counter goes down. -/
def release (o : ο) : World ο π ι :=
  { w.revoke t (.ref o) with count := Function.update w.count o (w.count o - 1) }

/-- The counter goes down to 0. -/
def die (o : ο) : World ο π ι :=
  { (w.revoke t (.ref o)).grant t (.right (.dying o)) with
    count := Function.update w.count o 0
    stage := Function.update w.stage o .dying }

def drop (o : ο) : World ο π ι := if w.count o = 1 then w.die t o else w.release t o

/-- Whether threads work on an object. -/
def working (o : ο) : Bool := w.workers.any fun e => e.2 == o

def bury (o : ο) : World ο π ι :=
  { w.revoke t (.right (L.last o)) with
    stage := Function.update w.stage o .freed
    freed := w.freed ++ [o]
    fault := w.fault || w.stage o != .dying || w.working o ||
      w.stored.any fun e => L.owner e.1 == some o }

end World

section

variable {ο π ι κ : Type} [DecidableEq ο] [DecidableEq π] [DecidableEq ι] (S : System ο π ι κ)

/-- Start a program. -/
def World.run (w : World ο π ι) (t : Nat) (prog : Prog ο π ι Bool) (role : Role ο) : World ο π ι :=
  { w with threads := Function.update w.threads t (some ⟨prog, role⟩) }

/-- A thread that works on an object. -/
def World.spawn (w : World ο π ι) (o : ο) (t : Nat) : World ο π ι :=
  { (w.run t (S.work o) (.worker o)).grant t (.right (.loan o)) with workers := (t, o) :: w.workers }

/-- What an operation does, and its answer; `none` where it has to wait, or where the environment
cannot choose so. -/
def effect (w : World ο π ι) (t : Nat) :
    (o : Op ο π ι) → Choice ο π → Option (o.Answer × World ο π ι)
  | .new sort, .object o =>
    if w.stage o = .unborn ∧ sort o = true then some (some o, w.birth S.toLayout t o) else none
  | .new _, _ => some (none, w)
  | .ref o, _ =>
    if 0 < w.count o ∧ w.count o < S.limit then some (true, (w.touch o).copy t o)
    else some (false, w.touch o)
  | .unref o, _ => some ((), (w.touch o).drop t o)
  | .load p, _ =>
    match (w.at_ p).head? with
    | some o =>
      if w.count o < S.limit then some (some o, (w.visit S.toLayout p).copy t o)
      else some (none, w.visit S.toLayout p)
    | none => some (none, w.visit S.toLayout p)
  | .swap p new, _ =>
    let w := w.visit S.toLayout p
    let old := (w.at_ p).head?
    let w := match old with
      | some o => w.lift t p o
      | none => w
    some (old, match new with
      | some o => w.put t p o
      | none => w)
  | .offer p o, _ =>
    let w := w.visit S.toLayout p
    if w.at_ p = [] then some (true, w.put t p o) else some (false, w)
  | .set p o, _ =>
    let w := w.visit S.toLayout p
    some ((), (({ w with fault := w.fault || !(w.at_ p).isEmpty }.revoke t
      (.right (.blank p))).put t p o).grant t (.right (.points p o)))
  | .peek p, _ =>
    let w := w.visit S.toLayout p
    match (w.at_ p).head? with
    | some o => some (some o, w.grant t (.right (.points p o)))
    | none => some (none, w)
  | .push p o, _ => some ((), (w.visit S.toLayout p).put t p o)
  | .pull p, .index i =>
    match (w.at_ p)[i]? with
    | some o => some (some o, (w.visit S.toLayout p).lift t p o)
    | none => some (none, w.visit S.toLayout p)
  | .pull p, _ => some (none, w.visit S.toLayout p)
  | .reclaim p o, _ =>
    let w := w.visit S.toLayout p
    if (p, o) ∈ w.stored then some (true, w.lift t p o) else some (false, w)
  | .grab p, _ =>
    let w := w.visit S.toLayout p
    some (w.at_ p, w.liftAll t (w.stored.filter fun e => e.1 == p))
  | .drain p, _ =>
    let w := w.visit S.toLayout p
    some (w.at_ p, (w.liftAll t (w.stored.filter fun e => e.1 == p)).grant t (.right (.clear p)))
  | .publish i o, .place p =>
    if S.table p = some i ∧ p ∉ w.used then
      some (some p, ((w.use p).put t p o).grant t (.right (.bound p o)))
    else none
  | .publish _ _, _ => some (none, w)
  | .finish i, _ =>
    let entries := w.stored.filter fun e => S.table e.1 == some i
    some (entries.map Prod.snd, (w.liftAll t entries).grant t (.right (.finished i)))
  | .lend o, .thread t' =>
    if (w.threads t').isNone then some (true, (w.touch o).spawn S o t') else none
  | .lend o, _ => some (false, w.touch o)
  | .join o, _ =>
    if w.working o then none else some ((), (w.revoke t (.right (.dying o))).grant t (.right (.sole o)))
  | .free o, _ => some ((), w.bury S.toLayout t o)
  | .flip, choice => some (choice matches .yes, w)

/-- What is left to do behind an operation: the last `unref` destroys the object first. -/
def rest (w : World ο π ι) : (o : Op ο π ι) → (o.Answer → Prog ο π ι Bool) → o.Answer →
    Prog ο π ι Bool
  | .unref o, k, r => if w.count o = 1 then (S.destroy o).bind fun _ => k r else k r
  | _, k, r => k r

/-- What the thread of a role may do. -/
def Role.right : Role ο → Right ο π ι
  | .call => .license
  | .worker o => .loan o
  | .closer => .closing

/-- The end of a thread. -/
def World.leave (w : World ο π ι) (t : Nat) (role : Role ο) : World ο π ι :=
  { w.revoke t (.right role.right) with
    threads := Function.update w.threads t none
    calls := w.calls.filter fun t' => t' ≠ t
    workers := w.workers.filter fun e => e.1 ≠ t }

variable (ο π κ) in
inductive Action
  | call (t : Nat) (c : κ)
  /-- The last call, when no other is in progress. -/
  | close (t : Nat)
  | act (t : Nat) (choice : Choice ο π)
  deriving DecidableEq, Repr

def step (w : World ο π ι) : Action ο π κ → Option (World ο π ι)
  | .call t c =>
    if (w.threads t).isNone ∧ w.closer = none then
      some { (w.run t (S.entry c >>= fun _ => pure false) .call).grant t (.right .license) with
        calls := t :: w.calls }
    else none
  | .close t =>
    if (w.threads t).isNone ∧ w.closer = none ∧ w.calls = [] then
      some { (w.run t (S.close >>= fun _ => pure false) .closer).grant t (.right .closing) with
        closer := some t }
    else none
  | .act t choice =>
    match w.threads t with
    | none => none
    | some ⟨.pure again, role⟩ =>
      match role, again with
      | .worker o, true => some (w.run t (S.work o) (.worker o))
      | role, _ => some (w.leave t role)
    | some ⟨.op o k, role⟩ =>
      (effect S w t o choice).map fun next => next.2.run t (rest S w o k next.1) role

/-- A thread that takes back its own reference finds it. -/
def Found (w : World ο π ι) : Action ο π κ → Prop
  | .act t _ =>
    match w.threads t with
    | some ⟨.op (.reclaim p o) _, _⟩ => (p, o) ∈ w.stored
    | _ => True
  | _ => True

end

end References
