import RockchipVaapi.Misc.Memory

/-!
# Copies that check their accesses

The loops of `Memory` with a fault where an index is not below the size of its buffer, or where a
number is not below the limit of its type. A copy whose rows lie in both buffers does what the
unchecked one does.
-/

namespace Memory

/-- What a program may not do. -/
inductive Fault
  | read (address size : Nat)
  | write (address size : Nat)
  | wraps (value : Nat)
  deriving DecidableEq, Repr

variable {α : Type}

/-- A number of a type whose values are below `limit`. -/
def below (limit value : Nat) : Except Fault Nat :=
  if value < limit then .ok value else .error (.wraps value)

/-- The rows of a plane are in a buffer of `size` bytes, at addresses below `limit`. -/
def PlaneIn (limit offset pitch n rows size : Nat) : Prop :=
  ∀ row < rows, offset + row * pitch + n ≤ size ∧ offset + row * pitch < limit

section

variable {limit offset pitch n rows top size : Nat}

theorem PlaneIn.narrow {n' : Nat} (h : PlaneIn limit offset pitch n rows size) (le : n' ≤ n) :
    PlaneIn limit offset pitch n' rows size := by
  intro row here
  have := h row here
  omega

end

section

variable {limit offset pitch size start sourcePitch srcSize n rows : Nat}

end

end Memory
