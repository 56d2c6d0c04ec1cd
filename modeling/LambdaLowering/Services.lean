import LambdaLowering.LogRecord
import LambdaLowering.PendingAccessors
import LambdaLowering.Sink

/-! What the lowering asks of its surroundings, and what it tells them. -/

set_option autoImplicit false

namespace LambdaLowering

/-- The collaborators of the lowering. They act on a state of their own choice. Who writes the
accessors is not among what can be chosen: the lowering does, with bodies that forward. -/
structure Services (S : Type) where
  declared : Declarations
  load : String → Action S LoadedClass
  reify : LambdaRequest → Action S Factory
  restartNumbering : Action S Unit
  log : LogRecord → S → S := fun _ state => state

namespace Services

variable {S T : Type}

def onSnd (services : Services S) : Services (T × S) where
  declared := services.declared
  load name := (services.load name).onSnd
  reify request := (services.reify request).onSnd
  restartNumbering := services.restartNumbering.onSnd
  log entry := fun (outer, inner) => (outer, services.log entry inner)

def report (services : Services S) (entry : LogRecord) : Action S Unit :=
  modify (services.log entry)

/-- Numbers only make names, so a failure to start over is reported and no more. -/
def tryRestartNumbering (services : Services S) : Action S Unit := fun state =>
  match services.restartNumbering state with
  | .ok _ state => .ok () state
  | .error error state => .ok () (services.log (.restartFailed error) state)

def resolve (services : Services S) (host : HostClass) (target : MethodRef) :
    Action (PendingAccessors × S) MethodRef := fun (pending, state) =>
  match pending.next? services.declared host target with
  | .error error => .error error (pending, state)
  | .ok none => .ok target (pending, state)
  | .ok (some accessor) =>
    .ok accessor.method (pending.push accessor, services.log (.accessorPlanned accessor) state)

/-- The factory for one call site. The accessor that its request names stays pending even if the
request is refused. -/
def factoryFor (services : Services S) (host : HostClass) (site : CallSite) :
    Action (PendingAccessors × S) Factory := do
  let invoker ← (services.load host.name).onSnd
  match site.implementation? with
  | none => throw (.malformed (.missingImplementation site host.name))
  | some implementation =>
    let callee ← services.resolve host implementation
    let factory ← (services.reify (site.request invoker implementation callee)).onSnd
    (services.report (.callSiteLowered host implementation factory)).onSnd
    return factory

end Services

end LambdaLowering
