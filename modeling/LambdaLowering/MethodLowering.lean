import LambdaLowering.DeserializationHook
import LambdaLowering.Services

/-! Lowering the instructions of one method.

A lambda call site becomes a call of its factory. Every other instruction is passed on as it is.
-/

set_option autoImplicit false

namespace LambdaLowering

variable {S : Type}

structure MethodLowering where
  replaced : Nat
  pending : PendingAccessors
  deriving DecidableEq, Repr

namespace MethodLowering

def countSite : Action (MethodLowering × S) Unit :=
  modify fun (lowering, state) => ({ lowering with replaced := lowering.replaced + 1 }, state)

def onPending {α : Type} (action : Action (PendingAccessors × S) α) :
    Action (MethodLowering × S) α := fun (lowering, state) =>
  match action (lowering.pending, state) with
  | .ok value (pending, state) => .ok value ({ lowering with pending }, state)
  | .error error (pending, state) => .error error ({ lowering with pending }, state)

/-- Lower one instruction and pass the outcome on. A site counts as replaced once it has a factory,
whatever the consumer then says. -/
def lower (services : Services S) (metafactory : String) (host : HostClass) (consumer : Sink S)
    (instruction : Instruction) : Action (MethodLowering × S) Unit := do
  match instruction.lambdaSite? metafactory with
  | none => (consumer.send (.instruction instruction)).onSnd
  | some site =>
    let factory ← onPending (services.factoryFor host site)
    countSite
    (consumer.send (.instruction factory.call)).onSnd

end MethodLowering

def Services.keeps (services : Services S) (header : MethodHeader) : Action S Bool := do
  if header.isDeserializationHook then
    services.report (.hookDropped header.signature)
    return false
  else
    return true

end LambdaLowering
