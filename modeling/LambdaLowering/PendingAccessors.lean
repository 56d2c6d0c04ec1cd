import LambdaLowering.Accessor
import LambdaLowering.Reachability

/-! The accessors that a host still has to declare. -/

set_option autoImplicit false

namespace LambdaLowering

/-- Oldest first. Every call site that needs an accessor gets its own, so the numbers follow the
order of the call sites. -/
structure PendingAccessors where
  entries : List Accessor
  deriving DecidableEq, Repr

namespace PendingAccessors

def empty : PendingAccessors := ⟨[]⟩

def size (pending : PendingAccessors) : Nat := pending.entries.length

def isEmpty (pending : PendingAccessors) : Bool := pending.entries.isEmpty

def push (pending : PendingAccessors) (accessor : Accessor) : PendingAccessors :=
  ⟨pending.entries ++ [accessor]⟩

def next? (pending : PendingAccessors) (declared : Declarations) (host : HostClass)
    (target : MethodRef) : Except Error (Option Accessor) := do
  if ← host.reaches declared target then
    return none
  else
    return some (.numbered pending.size host target)

def take (pending : PendingAccessors) : List Accessor × PendingAccessors :=
  (pending.entries, empty)

end PendingAccessors

end LambdaLowering
